import CallGateway.Basic
import CallGateway.Settings
import CallGateway.Settings.Environment
import CallGateway.Settings.Path

/-! Loading of settings: the defaults, over them a file, over that the environment. The tree that
comes of it is read leniently: a number is also taken where a text is wanted, and the like. -/

namespace CallGateway.Settings

/-! ## Reading a tree -/

abbrev Reader (α : Type) := Node → Option α

namespace Reader

def bool : Reader Bool
  | .bool b => some b
  | .int n => some (n != 0)
  | .float x => some !x.isZero
  | .string s =>
    let word := Node.canonical s
    if ["1", "true", "on", "yes"].contains word then some true
    else if ["0", "false", "off", "no"].contains word then some false
    else none
  | .nil | .array _ | .table _ => none

def uint64 : Reader UInt64
  | .bool b => some (if b then 1 else 0)
  | .int n => if n < 0 then none else some n.toUInt64
  | .float x => some x.toUInt64
  | .string s =>
    let word := Node.canonical s
    if ["true", "on", "yes"].contains word then some 1
    else if ["false", "off", "no"].contains word then some 0
    else Scalar.readUInt64? word
  | .nil | .array _ | .table _ => none

def string : Reader String
  | .string s => some s
  | .bool b => some (if b then "true" else "false")
  | .int n => some (toString n.toInt)
  | .float x => some x.display
  | .nil | .array _ | .table _ => none

def option (r : Reader α) : Reader (Option α)
  | .nil => some none
  | n => (r n).map some

def list (r : Reader α) : Reader (List α)
  | .array items => items.mapM r
  | _ => none

/-- The fields of a record, by name from a table and by position from an array. -/
def fields : Reader (String → Nat → Option Node)
  | .table fs => some fun name _ => fs.lookup name
  | .array items => some fun _ i => items[i]?
  | _ => none

/-- A field, or what stands for it where it is absent. -/
def field (r : Reader α) (absent : Option α) : Option Node → Option α
  | some n => r n
  | none => absent

def address : Reader SocketAddress := fun n => (string n).bind SocketAddress.parse?

def listen : Reader ListenSettings := fun n => do
  let f ← fields n
  return {
    address := ← field address (some (.localhost 8080)) (f "listen_addr" 0)
    enableCors := ← field bool (some true) (f "enable_cors" 1) }

def gateway : Reader GatewaySettings := fun n => do
  let f ← fields n
  return {
    instanceId := ← field (option string) (some none) (f "instance_id" 0)
    requestTimeout := ← field uint64 (some 30000) (f "request_timeout_ms" 1)
    topicSuffix := ← field string (some defaultTopicSuffix) (f "topic_suffix" 2)
    readinessWait := ← field uint64 (some 2000) (f "readiness_wait_ms" 3) }

def pool : Reader PoolSettings := fun n => do
  let f ← fields n
  return {
    service := ← field string none (f "service" 0)
    procedures := ← field (list string) (some Procedure.builtinNames) (f "procedures" 1)
    replicas := ← field uint64 (some 1) (f "replicas" 2)
    concurrency := ← field uint64 (some 3) (f "concurrency" 3)
    executionTimeout := ← field (option uint64) (some none) (f "execution_timeout_ms" 4)
    strict := ← field bool (some false) (f "strict_parameters" 5) }

def log : Reader LogSettings := fun n => do
  let f ← fields n
  return {
    level := ← field string (some "info") (f "level" 0)
    json := ← field bool (some false) (f "json" 1) }

def settings : Reader Settings := fun n => do
  let f ← fields n
  return {
    listen := ← field listen (some {}) (f "server" 0)
    gateway := ← field gateway (some {}) (f "gateway" 1)
    pools := ← field (list pool) (some [{ service := "client-1" }]) (f "workers" 2)
    log := ← field log (some {}) (f "logging" 3) }

end Reader

/-! ## Layers -/

/-- Lay settings with their keys over a tree, one after the other; none where a position is out of
reach. -/
def layOver? (below : Node) (layer : List (String × Node)) : Option Node :=
  layer.foldlM (fun tree (key, n) =>
    let path := Path.ofKey key
    tree.putAt? n path.first path.rest) below

/-- The settings in a file, which holds one JSON object. -/
def ofFile? (bs : Bytes) : Option (List (String × Node)) :=
  match Json.decode Json.Decoder.value bs with
  | .ok (.object fs) => some (Node.ofFields fs)
  | _ => none

/-- The layers from the bottom up. -/
def layers (file environment : List (String × Node)) : List (String × Node) :=
  (Node.ofJson (toJson {})).fields ++ file ++ environment

inductive LoadError
  /-- A file or a setting is of no use. -/
  | unusable
  deriving DecidableEq

def LoadError.message : LoadError → String
  | .unusable => "configuration could not be loaded"

/-- The settings, unless one of them is of no use. A file that does not exist is none. -/
def load (file : Option Bytes) (environment : List (String × String)) :
    Except (Obstacle LoadError) Settings := do
  let file ← match file.map ofFile? with
    | none => .ok []
    | some none => .error (.error .unusable)
    | some (some layer) => .ok layer
  match layOver? (.table []) (layers file (ofEnvironment environment)) with
  | none => .error .breakdown
  | some tree =>
    match Reader.settings tree with
    | some s => .ok s
    | none => .error (.error .unusable)

end CallGateway.Settings
