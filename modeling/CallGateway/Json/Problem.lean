import CallGateway.Decimal.Text
import CallGateway.Json.Tree
import CallGateway.Text.Printable

/-! What can be wrong with a JSON document that is to be decoded. -/

namespace CallGateway.Json

/-- What a decoder meets instead of what it expects. -/
inductive Found
  | null
  | bool (b : Bool)
  | int (n : Int)
  | float (x : Binary64)
  | string (s : String)
  | sequence
  | map

def Found.describe : Found → String
  | .null => "null"
  | .bool true => "boolean `true`"
  | .bool false => "boolean `false`"
  | .int n => s!"integer `{n}`"
  | .float x => "floating point `" ++ String.ofList (Decimal.jsonStyle.writeBinary x) ++ "`"
  | .string s => "string " ++ Text.quoted s
  | .sequence => "sequence"
  | .map => "map"

inductive Fault
  /-- The text is not JSON, or no value can be made of it. -/
  | malformed
  | wrongType (found : Found) (expected : String)
  | wrongValue (found : Found) (expected : String)
  | tooShort (length : Nat) (expected : String)
  | tooLong (length : Nat)
  | missingField (name : String)
  | duplicateField (name : String)
  /-- A text that is none of the texts of its type. -/
  | unreadable (what : String)

def Fault.message : Fault → String
  | .malformed => "<syntax>"
  | .wrongType found expected => s!"invalid type: {found.describe}, expected {expected}"
  | .wrongValue found expected => s!"invalid value: {found.describe}, expected {expected}"
  | .tooShort n expected => s!"invalid length {n}, expected {expected}"
  | .tooLong n => s!"invalid length {n}, expected fewer elements in array"
  | .missingField name => s!"missing field `{name}`"
  | .duplicateField name => s!"duplicate field `{name}`"
  | .unreadable what => what

/-- A step from a container to one of its parts. -/
inductive Step
  | field (name : String)
  | item (index : Nat)

/-- A fault, and the way to the part of the document that has it. -/
structure Problem where
  path : List Step
  fault : Fault

namespace Problem

def malformed : Problem := ⟨[], .malformed⟩

def within (step : Step) (p : Problem) : Problem := { p with path := step :: p.path }

def message (p : Problem) : String := p.fault.message

def pathText : List Step → String
  | [] => ""
  | .field name :: rest => name ++ tail rest
  | .item i :: rest => s!"[{i}]" ++ tail rest
where
  tail : List Step → String
    | [] => ""
    | .field name :: rest => "." ++ name ++ tail rest
    | .item i :: rest => s!"[{i}]" ++ tail rest

/-- The message behind the path, where there is one. -/
def locatedMessage (p : Problem) : String :=
  match p.path with
  | [] => p.message
  | path => pathText path ++ ": " ++ p.message

/-- In a text, an array that goes on where it should end is no JSON. -/
def inText (p : Problem) : Problem :=
  match p.fault with
  | .tooLong _ => .malformed
  | _ => p

end Problem

end CallGateway.Json
