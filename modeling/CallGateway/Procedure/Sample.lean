import CallGateway.Procedure.Builtin

/-! Sample procedures, one for each way in which a call can go: results of every kind, errors,
breakdowns, delays, results that JSON cannot hold. -/

namespace CallGateway.Procedure.Sample

open Json Fields

structure Pair where
  a : Int64
  b : Int64

def Pair.decoder : Decoder Pair :=
  Fields.decoder "Pair" <| Pair.mk <$> required "a" .int64 <*> required "b" .int64

def Pair.toJson (p : Pair) : Value := .object [("a", .ofInt64 p.a), ("b", .ofInt64 p.b)]

/-- Integer division toward zero. The one quotient beyond the range is a breakdown. -/
def divide : Procedure := .typed "Pair" Pair.decoder fun p _ => ⟨0,
  if p.b = 0 then .invalidInput "division by zero"
  else if p.a = Int64.minValue ∧ p.b = -1 then .panicked
  else .value (.ofInt64 (p.a / p.b))⟩

def ratio : Procedure := .typed "SumParams" Operands.decoder fun p _ =>
  ⟨0, .value (.ofFloat (p.a.toFloat / p.b.toFloat))⟩

def panics : Procedure := .typed "Value" Decoder.value fun _ _ => ⟨0, .panicked⟩

structure Delay where
  delayMs : UInt64
  tag : Value

def Delay.decoder : Decoder Delay :=
  Fields.decoder "Delay" <|
    Delay.mk <$> required "delay_ms" (.uint64 "u64") <*> required "tag" .value

def Delay.toJson (p : Delay) : Value :=
  .object [("delay_ms", .ofUInt64 p.delayMs), ("tag", p.tag)]

def sleep : Procedure := .typed "Delay" Delay.decoder fun p _ => ⟨p.delayMs.toNat, .value p.tag⟩

structure Greeting where
  name : String

def Greeting.decoder : Decoder Greeting :=
  Fields.decoder "Greeting" <| Greeting.mk <$> required "name" .string

def Greeting.toJson (p : Greeting) : Value := .object [("name", .string p.name)]

def greet : Procedure := .typed "Greeting" Greeting.decoder fun p _ =>
  ⟨0, .value (.string s!"hello {p.name}")⟩

def fail : Procedure :=
  .typed "FailParams" (Fields.decoder "FailParams" (required "message" .string)) fun m _ =>
    ⟨0, .failed m⟩

structure Options where
  verbose : Bool
  level : Option UInt8

def Options.decoder : Decoder Options :=
  Fields.decoder "Options" <|
    Options.mk <$> optional "verbose" .bool false <*> optional "level" (.option .uint8) none

def Options.toJson (o : Options) : Value :=
  .object [("level", .ofOption .ofUInt8 o.level), ("verbose", .bool o.verbose)]

def options : Procedure := .typed "Options" Options.decoder fun p _ => ⟨0, .value p.toJson⟩

def unit : Procedure := .typed "()" .unit fun _ _ => ⟨0, .value .null⟩

def maybeSum : Procedure :=
  .typed "Option<relay_worker::builtin::SumParams>" (.option Operands.decoder) fun p _ => ⟨0,
    .value <| .ofOption (fun p : Operands => .ofFloat (p.a.toFloat + p.b.toFloat)) p⟩

/-- The sum, none when it leaves the range on the way. -/
def checkedTotal (total : Int) : List Int64 → Option Int64
  | [] => some (Int64.ofInt total)
  | n :: ns =>
    let t := total + n.toInt
    if -2 ^ 63 ≤ t ∧ t < 2 ^ 63 then checkedTotal t ns else none

def total : Procedure := .typed "Vec<i64>" (.list .int64) fun ns _ => ⟨0,
  match checkedTotal 0 ns with
  | some t => .value (.ofInt64 t)
  | none => .panicked⟩

def badKeys : Procedure := .typed "Value" Decoder.value fun _ _ =>
  ⟨0, .unserializable "key must be a string"⟩

def whoami : Procedure := .typed "Value" Decoder.value fun v context => ⟨0, .value <| .object [
  ("headers", .object (context.metadata.headers.map fun (k, h) => (k, .string h))),
  ("params", v), ("procedure", .string context.procedure),
  ("requestId", context.requestId.toJson), ("tenant", .ofOption .string context.metadata.tenantId),
  ("user", .ofOption .string context.metadata.userId)]⟩

/-- The samples by the names of their kinds. -/
def kinds : List (String × Procedure) :=
  [("divide", divide), ("ratio", ratio), ("panics", panics), ("sleep", sleep), ("greet", greet),
    ("fail", fail), ("options", options), ("unit", unit), ("maybeSum", maybeSum),
    ("total", total), ("badKeys", badKeys), ("whoami", whoami)]

/-- A built-in procedure or a sample. -/
def find? (service : String) (started : Nat) (kind : String) : Option Procedure :=
  (builtin? service started kind).or (kinds.lookup kind)

/-- All names of kinds. -/
def kindNames : List String := builtinNames ++ kinds.map (·.1)

/-- The catalog of a pool that hosts kinds of procedures under names. -/
def catalog (service : String) (started : Nat) (hosted : List (String × String)) :
    Except CatalogError Catalog :=
  let register (b : Catalog.Builder) (name kind : String) : Catalog.Builder :=
    match find? service started kind with
    | some p => b.register name p
    | none => b
  (hosted.foldl (fun b (name, kind) => register b name kind) {}).build

end CallGateway.Procedure.Sample
