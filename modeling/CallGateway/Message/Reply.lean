import CallGateway.Message.Envelope

/-! The reply message: how one call ended. On the wire it carries either a result or an error
message, and a result of `null` is a result. -/

namespace CallGateway

inductive Outcome
  | success (result : Json.Value)
  | failure (message : String)
  deriving BEq

structure Reply where
  requestId : Uuid
  outcome : Outcome
  deriving BEq

namespace Reply

open Json Fields

def isSuccess (r : Reply) : Bool :=
  match r.outcome with
  | .success _ => true
  | .failure _ => false

def result? (r : Reply) : Option Value :=
  match r.outcome with
  | .success v => some v
  | .failure _ => none

def errorMessage? (r : Reply) : Option String :=
  match r.outcome with
  | .success _ => none
  | .failure m => some m

/-- The fields of a reply, before they are held against each other. -/
structure Parts where
  requestId : Uuid
  success : Bool
  result : Option Value
  errorMessage : Option String

/-- A result that is present, `null` or not, and an error message that is not `null`. -/
def partsDecoder : Decoder Parts :=
  Fields.decoder "RawResponse" <|
    Parts.mk <$> required "requestId" Uuid.decoder
      <*> required "success" .bool
      <*> optional "result" (fun t => (Decoder.value t).map some) none
      <*> optional "errorMessage" (.option .string) none

/-- A successful reply has a result and no error message, a failed one the reverse. -/
def ofParts (p : Parts) : Except Problem Reply :=
  let refuse (what : String) : Except Problem Reply :=
    .error ⟨[], .unreadable s!"response {p.requestId} is {what}"⟩
  match p.success, p.result, p.errorMessage with
  | true, some v, none => .ok ⟨p.requestId, .success v⟩
  | false, none, some m => .ok ⟨p.requestId, .failure m⟩
  | true, _, some _ => refuse "successful but carries an errorMessage"
  | false, some _, _ => refuse "a failure but carries a result"
  | true, none, none => refuse "successful but has no result"
  | false, none, none => refuse "a failure without an errorMessage"

def decoder : Decoder Reply := fun t => (partsDecoder t).bind ofParts

def toJson (r : Reply) : Value :=
  match r.outcome with
  | .success v =>
    .object [("requestId", r.requestId.toJson), ("success", .bool true), ("result", v)]
  | .failure m =>
    .object [("requestId", r.requestId.toJson), ("success", .bool false),
      ("errorMessage", .string m)]

def toBytes (r : Reply) : Bytes := r.toJson.print

def ofBytes (bs : Bytes) : Except MessageError Reply :=
  (decode decoder bs).mapError .malformed

end Reply

end CallGateway
