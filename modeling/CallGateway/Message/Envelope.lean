import CallGateway.Instant.Text
import CallGateway.Json.Print
import CallGateway.Message.Call
import CallGateway.Uuid

/-! The request message: one call on its way to a pool of workers. -/

namespace CallGateway

/-- Why a message cannot be taken for what it should be. -/
inductive MessageError
  | malformed (problem : Json.Problem)
  /-- The envelope names no topic for its reply. -/
  | noReplyTopic (requestId : Uuid)

/-- The name of the kind of error. -/
def MessageError.name : MessageError → String
  | .malformed _ => "Malformed"
  | .noReplyTopic _ => "Invalid"

def MessageError.message : MessageError → String
  | .malformed p => s!"malformed message: {p.message}"
  | .noReplyTopic id => s!"invalid message: envelope {id} has no replyTo topic"

structure Envelope where
  requestId : Uuid
  clientType : String
  procedureName : String
  parameters : Json.Value
  replyTo : String
  metadata : Metadata
  issuedAt : Instant
  deriving BEq

/-- What it takes to answer an envelope. -/
structure Header where
  requestId : Uuid
  replyTo : String
  deriving DecidableEq

namespace Envelope

open Json Fields

/-- The envelope of a call, issued `now`. -/
def ofCall (requestId : Uuid) (call : Call) (replyTo : String) (metadata : Metadata)
    (now : Instant) : Envelope :=
  { call with requestId, replyTo, metadata, issuedAt := now }

def call (e : Envelope) : Call := ⟨e.clientType, e.procedureName, e.parameters⟩

def header (e : Envelope) : Header := ⟨e.requestId, e.replyTo⟩

/-- Envelopes without a time of issue count as issued `now`. -/
def decoder (now : Instant) : Decoder Envelope :=
  Fields.decoder "Envelope" <|
    Envelope.mk <$> required "requestId" Uuid.decoder
      <*> required "clientType" .string
      <*> required "procedureName" .string
      <*> optional "parameters" .value .null
      <*> required "replyTo" .string
      <*> optional "metadata" Metadata.decoder {}
      <*> optional "issuedAt" Instant.decoder now

def toJson (e : Envelope) : Value :=
  .object [("requestId", e.requestId.toJson), ("clientType", .string e.clientType),
    ("procedureName", .string e.procedureName), ("parameters", e.parameters),
    ("replyTo", .string e.replyTo), ("metadata", e.metadata.toJson),
    ("issuedAt", e.issuedAt.toJson)]

def toBytes (e : Envelope) : Bytes := e.toJson.print

/-- Read an envelope that a worker can answer. -/
def ofBytes (now : Instant) (bs : Bytes) : Except MessageError Envelope :=
  match decode (decoder now) bs with
  | .error p => .error (.malformed p)
  | .ok e => if Text.isBlank e.replyTo then .error (.noReplyTopic e.requestId) else .ok e

end Envelope

namespace Header

open Json Fields

def decoder : Decoder Header :=
  Fields.decoder "EnvelopeHeader" <|
    Header.mk <$> required "requestId" Uuid.decoder <*> required "replyTo" .string

/-- Read the header of a message that may not be an envelope otherwise. -/
def ofBytes? (bs : Bytes) : Option Header :=
  match decode decoder bs with
  | .error _ => none
  | .ok h => if Text.isBlank h.replyTo then none else some h

end Header

end CallGateway
