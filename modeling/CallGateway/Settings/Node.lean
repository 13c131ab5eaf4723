import CallGateway.Decimal.Text
import CallGateway.Json.Decode
import CallGateway.Text.Lowercase

/-! Trees of settings, as files and the environment give them, before they are read as settings of
certain types. Trees are laid over each other: tables merge name by name, anything else replaces
what was there before. -/

namespace CallGateway

/-- Floating-point numbers of 64 bits, with the infinities and what is no number. -/
inductive Float64
  | finite (x : Binary64)
  | infinite (negative : Bool)
  | nan
  deriving DecidableEq

namespace Float64

def isZero : Float64 → Bool
  | .finite x => x.rank == 0
  | _ => false

/-- The text of a number, without exponent. -/
def display : Float64 → String
  | .finite x => String.ofList (Decimal.plainStyle.writeBinary x)
  | .infinite false => "inf"
  | .infinite true => "-inf"
  | .nan => "NaN"

/-- The nearest integer of 64 bits without sign, a half going up; below the range zero, and beyond
it the greatest. -/
def toUInt64 : Float64 → UInt64
  | .finite x =>
    if x.negative then 0
    else
      let (num, den) := x.fraction
      UInt64.ofNat (min ((2 * num + den) / (2 * den)) (2 ^ 64 - 1))
  | .infinite negative => if negative then 0 else UInt64.ofNat (2 ^ 64 - 1)
  | .nan => 0

end Float64

namespace Settings

inductive Node
  | nil
  | bool (b : Bool)
  | int (n : Int64)
  | float (x : Float64)
  | string (s : String)
  | array (items : List Node)
  /-- With names in ascending order. -/
  | table (fields : List (String × Node))
  deriving Inhabited

namespace Node

/-- Integers beyond the signed range become floating-point numbers. -/
def ofNumber : Json.Number → Node
  | .int n _ =>
    if n < 2 ^ 63 then .int (Int64.ofInt n)
    else .float (.finite ((Binary64.ofInt n).getD .zero))
  | .float x => .float (.finite x)

mutual

def ofJson : Json.Value → Node
  | .null => .nil
  | .bool b => .bool b
  | .number n => ofNumber n
  | .string s => .string s
  | .array vs => .array (ofItems vs)
  | .object fs => .table (ofFields fs)

def ofItems : List Json.Value → List Node
  | [] => []
  | v :: vs => ofJson v :: ofItems vs

def ofFields : List (String × Json.Value) → List (String × Node)
  | [] => []
  | (k, v) :: fs => (k, ofJson v) :: ofFields fs

end

/-- The fields of a table; anything else has none. -/
def fields : Node → List (String × Node)
  | .table fs => fs
  | _ => []

/-- The items of an array; anything else has none. -/
def items : Node → List Node
  | .array xs => xs
  | _ => []

/-- Names of settings do not depend on case. -/
def canonical (name : String) : String := String.ofList (Text.lowerCase name.toList)

mutual

/-- Lay a tree over what is there, if anything is. A table adds its fields, so that one without
fields leaves everything as it is. -/
def onto (below : Option Node) : Node → Node
  | .table fs =>
    match below with
    | none => .table (fieldsOnto [] fs)
    | some below => if fs.isEmpty then below else .table (fieldsOnto below.fields fs)
  | n => n

def fieldsOnto (below : List (String × Node)) : List (String × Node) → List (String × Node)
  | [] => below
  | (k, n) :: fs =>
    let name := canonical k
    fieldsOnto (Json.insertField name (onto (below.lookup name) n) below) fs

end

/-- Lay a tree over the field of that name. -/
def put (below : Node) (name : String) (n : Node) : Node :=
  .table (fieldsOnto below.fields [(name, n)])

end Node

end Settings

end CallGateway
