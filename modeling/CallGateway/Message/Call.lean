import CallGateway.Json.Record

/-! Calls as their callers submit them, and what is known of a caller. -/

namespace CallGateway

structure Call where
  /-- The pool of workers that is to answer, in any spelling of its name. -/
  clientType : String
  procedureName : String
  parameters : Json.Value
  deriving BEq

namespace Call

open Json Fields

def decoder : Decoder Call :=
  Fields.decoder "ProcedureCall" <|
    Call.mk <$> required "clientType" .string <*> required "procedureName" .string
      <*> optional "parameters" .value .null

def toJson (c : Call) : Value :=
  .object [("clientType", .string c.clientType), ("procedureName", .string c.procedureName),
    ("parameters", c.parameters)]

end Call

/-- The identity of a caller, verified elsewhere and passed on as it is. -/
structure Metadata where
  userId : Option String := none
  tenantId : Option String := none
  /-- In ascending order of the names. -/
  headers : List (String × String) := []
  deriving DecidableEq

namespace Metadata

open Json Fields

def withHeader (m : Metadata) (name value : String) : Metadata :=
  { m with headers := insertField name value m.headers }

def decoder : Decoder Metadata :=
  Fields.decoder "ExecutionMetadata" <|
    Metadata.mk <$> optional "userId" (.option .string) none
      <*> optional "tenantId" (.option .string) none
      <*> optional "headers" (.map .string) []

/-- What is absent is not written. -/
def toJson (m : Metadata) : Value :=
  .object <|
    (m.userId.toList.map fun s => ("userId", .string s))
      ++ (m.tenantId.toList.map fun s => ("tenantId", .string s))
      ++ if m.headers.isEmpty then []
        else [("headers", .object (m.headers.map fun (k, v) => (k, .string v)))]

end Metadata

end CallGateway
