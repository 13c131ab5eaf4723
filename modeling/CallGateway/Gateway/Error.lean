import CallGateway.Uuid

/-! Why a call ended without a reply. A procedure that ran and failed is not among these: it
replies. -/

namespace CallGateway

inductive GatewayError
  | serviceNotFound (service : String) (known : List String)
  | brokerPublish (requestId : Uuid) (topic reason : String)
  | timeout (requestId : Uuid) (milliseconds : UInt64)
  | interrupted (requestId : Uuid)
  | blankProcedureName
  | unnamedService (clientType : String)
  | invalidRequest (what : String)
  | duplicateRequest (requestId : Uuid)
  | encoding (what : String)
  deriving DecidableEq

namespace GatewayError

def message : GatewayError → String
  | .serviceNotFound service _ => s!"Service '{service}' not found"
  | .brokerPublish id topic reason => s!"Failed to send request {id} to topic {topic}: {reason}"
  | .timeout id ms => s!"Request {id} timed out after {ms} ms"
  | .interrupted id => s!"Request {id} was interrupted before completion"
  | .blankProcedureName => "Invalid request: procedure name must not be empty"
  | .unnamedService clientType =>
    s!"Invalid request: client type '{clientType}' does not name a service"
  | .invalidRequest what => s!"Invalid request: {what}"
  | .duplicateRequest id => s!"Request {id} is already in flight"
  | .encoding what => s!"Encoding error: {what}"

/-- A stable name of the kind of error. -/
def code : GatewayError → String
  | .serviceNotFound .. => "SERVICE_NOT_FOUND"
  | .brokerPublish .. => "BROKER_PUBLISH_FAILED"
  | .timeout .. => "TIMEOUT"
  | .interrupted _ => "INTERRUPTED"
  | .blankProcedureName | .unnamedService _ | .invalidRequest _ => "INVALID_REQUEST"
  | .duplicateRequest _ => "DUPLICATE_REQUEST"
  | .encoding _ => "ENCODING_ERROR"

/-- The request that the error belongs to, where there is one. -/
def requestId? : GatewayError → Option Uuid
  | .brokerPublish id .. | .timeout id _ | .interrupted id | .duplicateRequest id => some id
  | .serviceNotFound .. | .blankProcedureName | .unnamedService _ | .invalidRequest _
  | .encoding _ => none

end GatewayError

end CallGateway
