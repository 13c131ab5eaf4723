import CallGateway.Directory
import CallGateway.Text.Printable
import CallGateway.Worker

/-! Why a server does not start or does not go on. -/

namespace CallGateway

inductive ServerError
  | config (what : String)
  | server (what : String)
  | catalog (e : CatalogError)
  | worker (e : WorkerError)
  | broker (e : BrokerError)
  | directory (e : DirectoryError)
  | io (what : String)
  deriving DecidableEq

namespace ServerError

/-- The name of the kind of error. -/
def name : ServerError → String
  | .config _ => "Config"
  | .server _ => "Server"
  | .catalog _ => "Registry"
  | .worker _ => "Worker"
  | .broker _ => "Broker"
  | .directory _ => "Discovery"
  | .io _ => "Io"

def message : ServerError → String
  | .config what => s!"Configuration error: {what}"
  | .server what => s!"Server error: {what}"
  | .catalog e => s!"Registry error: {e.message}"
  | .worker e => s!"Worker error: {e.message}"
  | .broker e => s!"Broker error: {e.message}"
  | .directory e => s!"Discovery error: {e.message}"
  | .io what => s!"IO error: {what}"

/-! ## Diagnostics

The structure of an error, as it is shown to whoever started the server. -/

def applied (name argument : String) : String := name ++ "(" ++ argument ++ ")"

def describeBroker (e : BrokerError) : String :=
  match e with
  | .publishFailed topic reason =>
    e.name ++ " \x7b topic: " ++ Text.quoted topic ++ ", reason: " ++ Text.quoted reason ++ " \x7d"
  | .invalidName what => applied e.name (Text.quoted what)

def describeWorker (e : WorkerError) : String :=
  applied e.name <|
    match e with
    | .subscribe e => describeBroker e
    | .emptyService _ | .zeroConcurrency | .invalidConfig _ => Text.quoted e.detail

def describeCatalog (e : CatalogError) : String :=
  match e with
  | .duplicateProcedure name | .unknownBuiltin name => applied e.name (Text.quoted name)
  | .emptyName => e.name

def describeDirectory (e : DirectoryError) : String :=
  applied e.name <|
    match e with
    | .instanceAlreadyExists id | .instanceNotFound id => applied "InstanceId" id.display
    | .invalidServiceName service => Text.quoted service
    | .unavailable reason => Text.quoted reason

def describe (e : ServerError) : String :=
  applied e.name <|
    match e with
    | .config what | .server what => Text.quoted what
    | .catalog e => describeCatalog e
    | .worker e => describeWorker e
    | .broker e => describeBroker e
    | .directory e => describeDirectory e
    | .io what => what

end ServerError

end CallGateway
