import CallGateway.Settings.Node
import CallGateway.Text.Reader

/-! Settings from the environment: `RELAY_GATEWAY__TOPIC_SUFFIX` is `gateway.topic_suffix`. A text
counts as what it can be read as: a boolean, an integer, a number, or else a text. -/

namespace CallGateway.Settings

namespace Scalar

open Text (spanDigits decimalValue? ofDigits)

/-- A sign, and whether it is that of the numbers below zero; none is none. -/
def readSign : List Char → Bool × List Char
  | '-' :: cs => (true, cs)
  | '+' :: cs => (false, cs)
  | cs => (false, cs)

/-- An unsigned integer: digits and nothing else. -/
def readNat? (cs : List Char) : Option Nat :=
  match spanDigits decimalValue? cs with
  | ([], _) => none
  | (ds, []) => some (ofDigits 10 ds)
  | _ => none

/-- An integer, with a sign or without, that has 64 bits. -/
def readInt64? (s : String) : Option Int64 := do
  let (negative, cs) := readSign s.toList
  let n ← readNat? cs
  let n : Int := if negative then -n else n
  if -2 ^ 63 ≤ n ∧ n < 2 ^ 63 then some (Int64.ofInt n) else none

/-- An integer without sign of 64 bits; a plus is allowed. -/
def readUInt64? (s : String) : Option UInt64 := do
  let cs := match s.toList with
    | '+' :: cs => cs
    | cs => cs
  let n ← readNat? cs
  if n < 2 ^ 64 then some (UInt64.ofNat n) else none

/-- The exponent behind a number, zero at the end of the text. -/
def readExponent? : List Char → Option Int
  | [] => some 0
  | c :: cs =>
    if c = 'e' ∨ c = 'E' then
      let (negative, cs) := readSign cs
      (readNat? cs).map fun n => if negative then -n else n
    else none

/-- Digits with a point anywhere among them and an exponent: the digits and the scale. -/
def readDecimal? (cs : List Char) : Option (Nat × Int) :=
  let (whole, cs) := spanDigits decimalValue? cs
  let (fraction, cs) := match cs with
    | '.' :: rest => spanDigits decimalValue? rest
    | rest => ([], rest)
  if whole.isEmpty ∧ fraction.isEmpty then none
  else (readExponent? cs).map fun e => (ofDigits 10 (whole ++ fraction), e - fraction.length)

def readFloat64? (s : String) : Option Float64 :=
  let (negative, cs) := readSign s.toList
  match readDecimal? cs with
  | some (digits, scale) =>
    some <| match Binary64.ofDecimal? negative digits scale with
      | some x => .finite x
      | none => .infinite negative
  | none =>
    let word := cs.map Char.toLower
    if word = "nan".toList then some .nan
    else if word = "inf".toList ∨ word = "infinity".toList then some (.infinite negative)
    else none

end Scalar

/-- What a text is taken for. -/
def Node.ofText (s : String) : Node :=
  let small := Node.canonical s
  if small = "true" then .bool true
  else if small = "false" then .bool false
  else match Scalar.readInt64? s with
    | some n => .int n
    | none =>
      match Scalar.readFloat64? s with
      | some x => .float x
      | none => .string s

/-- What the names of all variables that are settings start with, in any case. -/
def variableMark : List Char := "relay_".toList

/-- Two underscores stand for a point. -/
def withPoints : List Char → List Char
  | [] => []
  | [c] => [c]
  | c :: d :: cs =>
    if c = '_' ∧ d = '_' then '.' :: withPoints cs else c :: withPoints (d :: cs)

/-- The key of the setting that a variable is, if it is one. -/
def keyOfVariable? (name : String) : Option String :=
  let cs := Text.lowerCase name.toList
  if variableMark.isPrefixOf cs then
    some (String.ofList (withPoints (cs.drop variableMark.length)))
  else none

/-- The settings in an environment. -/
def ofEnvironment (environment : List (String × String)) : List (String × Node) :=
  environment.filterMap fun (name, text) => (keyOfVariable? name).map fun key => (key, .ofText text)

end CallGateway.Settings
