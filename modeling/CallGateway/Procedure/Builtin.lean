import CallGateway.Procedure.Catalog

/-! The procedures that every pool can host: an echo, the sum of two numbers and a report of
health. -/

namespace CallGateway.Procedure

open Json Fields

/-- Returns its parameters. -/
def echo : Procedure := .typed "Value" Decoder.value fun v _ => ⟨0, .value v⟩

structure Operands where
  a : Binary64
  b : Binary64

def Operands.decoder : Decoder Operands :=
  Fields.decoder "SumParams" <|
    Operands.mk <$> required "a" .binary64 <*> required "b" .binary64

def Operands.toJson (p : Operands) : Value :=
  .object [("a", .ofBinary64 p.a), ("b", .ofBinary64 p.b)]

def plainText (x : Binary64) : String := String.ofList (Decimal.plainStyle.writeBinary x)

/-- The sum, unless it leaves the finite numbers. -/
def sum (p : Operands) : Ending :=
  match Binary64.ofFloat? (p.a.toFloat + p.b.toFloat) with
  | some s => .value (.object [("operation", .string "addition"), ("sum", .ofBinary64 s)])
  | none => .invalidInput s!"sum of {plainText p.a} and {plainText p.b} is not finite"

def calculateSum : Procedure := .typed "SumParams" Operands.decoder fun p _ => ⟨0, sum p⟩

def noParams : Decoder Unit := Fields.decoder "NoParams" (pure ())

/-- Reports the pool `service` as up since `started` on the running clock. -/
def healthCheck (service : String) (started : Nat) : Procedure :=
  .typed "NoParams" noParams fun _ context => ⟨0, .value <| .object [
    ("service", .string service), ("status", .string "OK"),
    ("timestamp", .ofInt64 (Int64.ofInt context.now.epochMillis)),
    ("uptimeMs", .ofUInt64 (UInt64.ofNat (context.clock - started)))]⟩

def builtinNames : List String := ["echo", "calculateSum", "healthCheck"]

def builtin? (service : String) (started : Nat) (name : String) : Option Procedure :=
  if name = "echo" then some echo
  else if name = "calculateSum" then some calculateSum
  else if name = "healthCheck" then some (healthCheck service started)
  else none

end CallGateway.Procedure

namespace CallGateway.Catalog.Builder

/-- Register a built-in procedure under its own name. A name that is none of theirs is refused at
once. -/
def registerBuiltin (b : Builder) (service : String) (started : Nat) (name : String) :
    Except CatalogError Builder :=
  match Procedure.builtin? service started name with
  | some p => .ok (b.register name p)
  | none => .error (.unknownBuiltin name)

end CallGateway.Catalog.Builder
