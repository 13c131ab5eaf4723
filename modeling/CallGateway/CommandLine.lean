import CallGateway.Settings.Environment

/-! The options of the program, from its arguments and, for those that are not among them, from the
environment. Arguments are taken in order, and the first that decides the outcome does so. -/

namespace CallGateway.CommandLine

/-- Options that take a value. -/
inductive Key
  | config
  | listen
  | instanceId
  | requestTimeout
  | logLevel
  deriving DecidableEq

def Key.ofName? (name : String) : Option Key :=
  match name with
  | "config" => some .config
  | "listen" => some .listen
  | "instance-id" => some .instanceId
  | "request-timeout-ms" => some .requestTimeout
  | "log-level" => some .logLevel
  | _ => none

def Key.ofLetter? (c : Char) : Option Key :=
  if c = 'c' then some .config else if c = 'l' then some .listen else none

def Key.variable : Key → String
  | .config => "RELAY_CONFIG"
  | .listen => "RELAY_LISTEN_ADDR"
  | .instanceId => "RELAY_INSTANCE_ID"
  | .requestTimeout => "RELAY_REQUEST_TIMEOUT_MS"
  | .logLevel => "RELAY_LOG_LEVEL"

structure Options where
  config : Option String := none
  listen : Option String := none
  instanceId : Option String := none
  requestTimeout : Option UInt64 := none
  logLevel : Option String := none
  json : Option Bool := none
  deriving DecidableEq

/-- Why a program ends before it has started. -/
inductive Stop
  | help
  | version
  | usageError
  deriving DecidableEq

namespace Options

def has (o : Options) : Key → Bool
  | .config => o.config.isSome
  | .listen => o.listen.isSome
  | .instanceId => o.instanceId.isSome
  | .requestTimeout => o.requestTimeout.isSome
  | .logLevel => o.logLevel.isSome

/-- Set an option that has not been set before, to a value that it can have. -/
def set (o : Options) (k : Key) (value : String) : Except Stop Options :=
  if o.has k then .error .usageError
  else match k with
    | .config => .ok { o with config := some value }
    | .listen => .ok { o with listen := some value }
    | .instanceId => .ok { o with instanceId := some value }
    | .requestTimeout =>
      match Settings.Scalar.readUInt64? value with
      | some n => .ok { o with requestTimeout := some n }
      | none => .error .usageError
    | .logLevel => .ok { o with logLevel := some value }

def setJson (o : Options) : Except Stop Options :=
  if o.json.isSome then .error .usageError else .ok { o with json := some true }

end Options

/-- Looks like an option rather than a value. -/
def isDashed (argument : String) : Bool :=
  match argument.toList with
  | ['-'] => false
  | '-' :: _ => true
  | _ => false

/-- An argument, taken apart. -/
inductive Argument
  | long (name : String) (value : Option String)
  | short (letter : Char) (value : Option String)
  /-- Only values can follow, and the program takes none. -/
  | separator
  | plain

def Argument.ofString (s : String) : Argument :=
  match s.toList with
  | ['-', '-'] => .separator
  | '-' :: '-' :: cs =>
    let name := String.ofList (cs.takeWhile (· != '='))
    match cs.dropWhile (· != '=') with
    | [] => .long name none
    | _ :: value => .long name (some (String.ofList value))
  | ['-'] => .plain
  | '-' :: c :: cs =>
    match cs with
    | [] => .short c none
    | '=' :: value => .short c (some (String.ofList value))
    | value => .short c (some (String.ofList value))
  | _ => .plain

/-- The outcome of an option with a value, which stands in the argument or is the next one. -/
def takeValue (o : Options) (k : Key) (attached : Option String) (rest : List String) :
    Except Stop (Options × List String) :=
  match attached, rest with
  | some value, _ => (o.set k value).map (·, rest)
  | none, value :: rest =>
    if isDashed value then .error .usageError else (o.set k value).map (·, rest)
  | none, [] => .error .usageError

/-- Take the first argument. -/
def step (o : Options) (argument : String) (rest : List String) :
    Except Stop (Options × List String) :=
  match Argument.ofString argument with
  | .plain => .error .usageError
  | .separator => if rest.isEmpty then .ok (o, []) else .error .usageError
  | .long name attached =>
    match Key.ofName? name with
    | some k => takeValue o k attached rest
    | none =>
      if attached.isSome then .error .usageError
      else if name = "json" then o.setJson.map (·, rest)
      else if name = "help" then .error .help
      else if name = "version" then .error .version
      else .error .usageError
  | .short c attached =>
    match Key.ofLetter? c with
    | some k => takeValue o k attached rest
    | none =>
      if c = 'h' then .error .help
      else if c = 'V' then .error .version
      else .error .usageError

/-- Take up to `fuel` arguments. -/
def takeAll : (fuel : Nat) → Options → List String → Except Stop Options
  | _, o, [] => .ok o
  | 0, o, _ :: _ => .ok o
  | fuel + 1, o, argument :: rest =>
    match step o argument rest with
    | .error stop => .error stop
    | .ok (o, rest) => takeAll fuel o rest

/-- Take an option from the environment that has not been set. -/
def fromVariable (environment : List (String × String)) (o : Options) (k : Key) :
    Except Stop Options :=
  match environment.lookup k.variable with
  | some value => if o.has k then .ok o else o.set k value
  | none => .ok o

/-- JSON logging is switched on or off by one word each. -/
def jsonFromVariable (environment : List (String × String)) (o : Options) : Except Stop Options :=
  match o.json, environment.lookup "RELAY_LOG_JSON" with
  | none, some "true" => .ok { o with json := some true }
  | none, some "false" => .ok { o with json := some false }
  | none, some _ => .error .usageError
  | _, _ => .ok o

def parse (arguments : List String) (environment : List (String × String)) :
    Except Stop Options := do
  let o ← takeAll arguments.length {} arguments
  let keys : List Key := [.config, .listen, .instanceId, .requestTimeout, .logLevel]
  let o ← keys.foldlM (fromVariable environment) o
  jsonFromVariable environment o

end CallGateway.CommandLine
