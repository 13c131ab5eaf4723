import CallGateway.CommandLine
import CallGateway.LogFilter
import CallGateway.Server
import CallGateway.Settings.Load

/-! A run of the program up to the point where it would listen: options, settings, log, server. -/

namespace CallGateway.CommandLine

/-- What is logged on the way. -/
inductive LogLine
  | starting (version : String) (address : SocketAddress) (pools : Nat)
  | listening (topic group : String)

/-- The part of the program that logs a line. -/
def LogLine.part : LogLine → String
  | .starting .. => "relayd"
  | .listening .. => "relay_gateway::listener"

def LogLine.message : LogLine → String
  | .starting .. => "Starting relay daemon"
  | .listening .. => "Reply listener started"

/-- What a line tells besides its message. -/
def LogLine.fields : LogLine → List (String × Json.Value)
  | .starting version address pools => [("version", .string version),
      ("listen", .string address.display), ("pools", .ofUInt64 (UInt64.ofNat pools))]
  | .listening topic group => [("topic", .string topic), ("group", .string group)]

def LogLine.fieldNames (l : LogLine) : List String := "message" :: l.fields.map (·.1)

/-- A line as JSON or as plain text. -/
def LogLine.write (json : Bool) (l : LogLine) : String :=
  if json then
    Json.Value.text <| .object [("level", .string "INFO"),
      ("fields", .object (("message", .string l.message) :: l.fields)), ("target", .string l.part)]
  else
    " ".intercalate <| "INFO" :: (l.part ++ ":") :: l.message
      :: l.fields.map fun (name, v) => name ++ "=" ++ v.text

/-- How a run goes. -/
structure Report where
  exit : Nat
  error : Option ServerError := none
  /-- Log lines are written as JSON. -/
  json : Bool := false
  /-- The lines that the filter shows. -/
  log : List LogLine := []
  /-- What is printed besides the log. -/
  printed : Option String := none

def helpText : String := "Relay Daemon - broker-backed procedure gateway"

def versionText : String := s!"relayd {Server.version}"

/-- Settings under the options of the command line. -/
def override (s : Settings) (o : Options) : Except ServerError Settings := do
  let address ← match o.listen with
    | none => .ok s.listen.address
    | some text =>
      match SocketAddress.parse? text with
      | some a => .ok a
      | none => .error (.config s!"Invalid listen address: {SocketAddress.complaint}")
  return { s with
    listen := { s.listen with address }
    gateway := { s.gateway with
      instanceId := o.instanceId.or s.gateway.instanceId
      requestTimeout := o.requestTimeout.getD s.gateway.requestTimeout }
    log := { level := o.logLevel.getD s.log.level, json := s.log.json || o.json.getD false } }

/-- The settings that count. -/
def settings (o : Options) (environment : List (String × String))
    (readFile : String → Option Bytes) : Except (Obstacle ServerError) Settings :=
  match Settings.load (o.config.bind readFile) environment with
  | .error o => .error (o.map fun e => .config e.message)
  | .ok s => (override s o).mapError .error

/-- The filter of the log: that of the environment, if it is well-formed, or that of the settings;
none if reading it breaks down. -/
def logFilter (s : Settings) (environment : List (String × String)) : Option LogFilter :=
  match (environment.lookup "RUST_LOG").map LogFilter.parse with
  | some (.ok f) => some f
  | some (.error .breakdown) => none
  | some (.error (.error _)) | none => LogFilter.lenient s.log.level

/-- Start a server under these settings. There is no socket that it could listen on. -/
def serve (s : Settings) (filter : LogFilter) (fresh : Nat → Uuid) (calendar : Nat → Instant) :
    Report :=
  let shown (lines : List LogLine) := lines.filter fun l =>
    filter.shows l.part l.fieldNames .info
  let starting := LogLine.starting Server.version s.listen.address s.pools.length
  let gateway := s.gateway.config (fresh 0)
  let listening := LogLine.listening gateway.replyTopic gateway.replyGroup
  let report : Report := { exit := 1, json := s.log.json, log := shown [starting, listening] }
  match Server.start s fresh calendar with
  | .ok _ => { report with error := some (.io "no address is available") }
  | .error .breakdown => { report with exit := 101 }
  | .error (.error (.broker e)) =>
    { report with error := some (.broker e), log := shown [starting] }
  | .error (.error e) => { report with error := some e }

def run (arguments : List String) (environment : List (String × String))
    (readFile : String → Option Bytes) (fresh : Nat → Uuid) (calendar : Nat → Instant) : Report :=
  match parse arguments environment with
  | .error .help => { exit := 0, printed := some helpText }
  | .error .version => { exit := 0, printed := some versionText }
  | .error .usageError => { exit := 2 }
  | .ok o =>
    match settings o environment readFile with
    | .error (.error e) => { exit := 1, error := some e }
    | .error .breakdown => { exit := 101 }
    | .ok s =>
      match logFilter s environment with
      | none => { exit := 101 }
      | some filter => serve s filter fresh calendar

end CallGateway.CommandLine
