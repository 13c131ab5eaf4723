import CallGateway.Http.Message
import CallGateway.Message.Call

/-! The identity of a caller, from the headers that an authenticating proxy has set. -/

namespace CallGateway.Server

/-- What a header says; blank ones say nothing. -/
def statement? (headers : Http.Headers) (name : String) : Option String :=
  (Http.text? headers name).bind fun s =>
    match Text.trim s.toList with
    | [] => none
    | cs => some (String.ofList cs)

def correlationHeader : String := "x-correlation-id"

/-- An organization counts as the tenant where no tenant is named. -/
def identity (headers : Http.Headers) : Metadata :=
  let caller : Metadata :=
    { userId := statement? headers "x-user-id"
      tenantId := (statement? headers "x-tenant-id").or (statement? headers "x-organization-id") }
  match statement? headers correlationHeader with
  | some id => caller.withHeader correlationHeader id
  | none => caller

end CallGateway.Server
