import CallGateway.Binary64

/-! JSON values. -/

namespace CallGateway.Json

/-- An integer of the 64-bit ranges, with or without sign, or a finite floating-point number. -/
inductive Number
  | int (n : Int) (wide : -2 ^ 63 ≤ n ∧ n < 2 ^ 64)
  | float (x : Binary64)
  deriving DecidableEq

inductive Value
  | null
  | bool (b : Bool)
  | number (n : Number)
  | string (s : String)
  | array (items : List Value)
  | object (fields : List (String × Value))
  deriving Inhabited

namespace Value

def ofUInt64 (n : UInt64) : Value :=
  .number (.int n.toNat ⟨by omega, by have := n.toNat_lt; omega⟩)

def ofUInt8 (n : UInt8) : Value := .ofUInt64 n.toUInt64

def ofInt64 (n : Int64) : Value :=
  .number (.int n.toInt ⟨n.le_toInt, by have := n.toInt_lt; omega⟩)

def ofBinary64 (x : Binary64) : Value := .number (.float x)

/-- Numbers that JSON cannot write become `null`. -/
def ofFloat (f : Float) : Value :=
  match Binary64.ofFloat? f with
  | some x => .ofBinary64 x
  | none => .null

def ofOption (f : α → Value) : Option α → Value
  | none => .null
  | some a => f a

def strings (xs : List String) : Value := .array (xs.map .string)

def isNull : Value → Bool
  | .null => true
  | _ => false

mutual

def beq : Value → Value → Bool
  | .null, .null => true
  | .bool a, .bool b => a == b
  | .number a, .number b => a == b
  | .string a, .string b => a == b
  | .array as, .array bs => beqItems as bs
  | .object as, .object bs => beqFields as bs
  | _, _ => false

def beqItems : List Value → List Value → Bool
  | [], [] => true
  | a :: as, b :: bs => beq a b && beqItems as bs
  | _, _ => false

def beqFields : List (String × Value) → List (String × Value) → Bool
  | [], [] => true
  | (k, a) :: as, (l, b) :: bs => k == l && beq a b && beqFields as bs
  | _, _ => false

end

instance : BEq Value := ⟨beq⟩

end Value

/-- Put a field into its place among fields with ascending names, over one of the same name. -/
def insertField (key : String) (a : α) : List (String × α) → List (String × α)
  | [] => [(key, a)]
  | (k, b) :: rest =>
    if key < k then (key, a) :: (k, b) :: rest
    else if key = k then (key, a) :: rest
    else (k, b) :: insertField key a rest

/-- Fields in ascending order of their names, the last of each name. -/
def sortFields (fields : List (String × α)) : List (String × α) :=
  fields.foldl (fun sorted f => insertField f.1 f.2 sorted) []

end CallGateway.Json
