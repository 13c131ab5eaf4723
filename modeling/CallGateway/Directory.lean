import CallGateway.Keyed
import CallGateway.ServiceName
import CallGateway.Uuid

/-! The directory of services: which instances serve under a name. Names are brought to their normal
form on the way in, so every spelling of a client type finds the same instances. A service is listed
as long as it has an instance. -/

namespace CallGateway

inductive DirectoryError
  | instanceAlreadyExists (instanceId : Uuid)
  | instanceNotFound (instanceId : Uuid)
  | invalidServiceName (service : String)
  | unavailable (reason : String)
  deriving DecidableEq

/-- The identifier of an instance as it is shown. -/
def instanceText (id : Uuid) : String := s!"instance:{id}"

namespace DirectoryError

/-- The name of the kind of error. -/
def name : DirectoryError → String
  | .instanceAlreadyExists _ => "InstanceAlreadyExists"
  | .instanceNotFound _ => "InstanceNotFound"
  | .invalidServiceName _ => "InvalidServiceName"
  | .unavailable _ => "Unavailable"

def message : DirectoryError → String
  | .instanceAlreadyExists id => s!"Instance already registered: {instanceText id}"
  | .instanceNotFound id => s!"Instance not found: {instanceText id}"
  | .invalidServiceName service => s!"Invalid service name: '{service}'"
  | .unavailable reason => s!"Registry unavailable: {reason}"

/-- The error of a directory that has been marked. -/
def marked : DirectoryError := .unavailable "in-memory registry marked unavailable"

end DirectoryError

structure Directory where
  /-- Normal names with their instances, of which there is at least one. -/
  services : Keyed String (List Uuid) := .empty
  available : Bool := true

namespace Directory

/-- The normal form of a name that is to be registered. -/
def normalName (service : String) : Except DirectoryError String :=
  let name := serviceName service
  if name.isEmpty then .error (.invalidServiceName service) else .ok name

/-- The instances under a normal name. -/
def under (d : Directory) (name : String) : List Uuid := (d.services.get? name).getD []

def instances (d : Directory) (service : String) : List Uuid := d.under (serviceName service)

def register (d : Directory) (service : String) (id : Uuid) : Except DirectoryError Directory := do
  let name ← normalName service
  if (d.under name).contains id then .error (.instanceAlreadyExists id)
  else return { d with services := d.services.set name (d.under name ++ [id]) }

/-- A service goes with its last instance. -/
def deregister (d : Directory) (service : String) (id : Uuid) :
    Except DirectoryError Directory := do
  let name ← normalName service
  if (d.under name).contains id then
    let left := (d.under name).erase id
    return { d with
      services := if left.isEmpty then d.services.erase name else d.services.set name left }
  else .error (.instanceNotFound id)

/-- While a directory is unavailable it answers no queries, but keeps its records. -/
def setAvailable (d : Directory) (available : Bool) : Directory := { d with available }

def hasInstances (d : Directory) (service : String) : Except DirectoryError Bool :=
  if d.available then .ok (!(d.instances service).isEmpty) else .error .marked

/-- The normal names of all services in ascending order. -/
def list (d : Directory) : Except DirectoryError (List String) :=
  if d.available then .ok (d.services.keys.mergeSort fun a b => decide (a ≤ b))
  else .error .marked

/-- The services as far as they can be told. -/
def known (d : Directory) : List String :=
  match d.list with
  | .ok names => names
  | .error _ => []

end Directory

end CallGateway
