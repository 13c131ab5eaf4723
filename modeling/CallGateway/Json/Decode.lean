import CallGateway.Json.Problem
import CallGateway.Json.Scan

/-! Decoders: from a document to a value of some type, or the first problem in the order of the
text. -/

namespace CallGateway.Json

abbrev Decoder (α : Type) := Tree → Except Problem α

/-- The problem of a document that is not of the expected kind. Leaves are read before they are
described, so one that spells no value is malformed; containers are described unread. -/
def mismatch (expected : String) : Tree → Problem
  | .broken | .number none | .string none => .malformed
  | .null => ⟨[], .wrongType .null expected⟩
  | .bool b => ⟨[], .wrongType (.bool b) expected⟩
  | .number (some (.int n _)) => ⟨[], .wrongType (.int n) expected⟩
  | .number (some (.float x)) => ⟨[], .wrongType (.float x) expected⟩
  | .string (some s) => ⟨[], .wrongType (.string s) expected⟩
  | .array .. => ⟨[], .wrongType .sequence expected⟩
  | .object .. => ⟨[], .wrongType .map expected⟩

namespace Decoder

def string : Decoder String
  | .string (some s) => .ok s
  | t => .error (mismatch "a string" t)

def bool : Decoder Bool
  | .bool b => .ok b
  | t => .error (mismatch "a boolean" t)

def unit : Decoder Unit
  | .null => .ok ()
  | t => .error (mismatch "unit" t)

/-- An integer from `low` up to `high`. -/
def int (expected : String) (low high : Int) : Decoder Int
  | .number (some (.int n _)) =>
    if low ≤ n ∧ n ≤ high then .ok n else .error ⟨[], .wrongValue (.int n) expected⟩
  | t => .error (mismatch expected t)

/-- An unsigned integer of 64 bits. -/
def uint64 (expected : String) : Decoder UInt64 := fun t =>
  (int expected 0 (2 ^ 64 - 1) t).map fun n => UInt64.ofNat n.toNat

def uint8 : Decoder UInt8 := fun t =>
  (int "u8" 0 (2 ^ 8 - 1) t).map fun n => UInt8.ofNat n.toNat

def int64 : Decoder Int64 := fun t =>
  (int "i64" (-2 ^ 63) (2 ^ 63 - 1) t).map Int64.ofInt

def int32 : Decoder Int32 := fun t =>
  (int "i32" (-2 ^ 31) (2 ^ 31 - 1) t).map Int32.ofInt

/-- A number of either kind, integers rounded. -/
def binary64 : Decoder Binary64
  | .number (some (.int n _)) => .ok ((Binary64.ofInt n).getD .zero)
  | .number (some (.float x)) => .ok x
  | t => .error (mismatch "f64" t)

/-- A string that `read` can make something of. -/
def parsed (expected complaint : String) (read : String → Option α) : Decoder α
  | .string (some s) =>
    match read s with
    | some a => .ok a
    | none => .error ⟨[], .unreadable complaint⟩
  | t => .error (mismatch expected t)

def option (d : Decoder α) : Decoder (Option α)
  | .null => .ok none
  | t => (d t).map some

def list (d : Decoder α) : Decoder (List α)
  | .array deep items =>
    if deep then .error .malformed else go 0 items
  | t => .error (mismatch "a sequence" t)
where
  go (i : Nat) : List Tree → Except Problem (List α)
    | [] => .ok []
    | t :: ts => do
      let a ← (d t).mapError (·.within (.item i))
      let as ← go (i + 1) ts
      return a :: as

/-- An object with any names, in ascending order and the last of each name. -/
def map (d : Decoder α) : Decoder (List (String × α))
  | .object deep members =>
    if deep then .error .malformed else (go members).map sortFields
  | t => .error (mismatch "a map" t)
where
  go : List (Option String × Tree) → Except Problem (List (String × α))
    | [] => .ok []
    | (none, _) :: _ => .error .malformed
    | (some k, t) :: ms => do
      let a ← (d t).mapError (·.within (.field k))
      let as ← go ms
      return (k, a) :: as

mutual

/-- Any value. Objects come with their names in ascending order and the last of each name. -/
def value : Decoder Value
  | .broken | .number none | .string none => .error .malformed
  | .null => .ok .null
  | .bool b => .ok (.bool b)
  | .number (some n) => .ok (.number n)
  | .string (some s) => .ok (.string s)
  | .array deep items => if deep then .error .malformed else (values items).map .array
  | .object deep members =>
    if deep then .error .malformed
    else (fieldValues members).map fun fields => .object (sortFields fields)

def values : List Tree → Except Problem (List Value)
  | [] => .ok []
  | t :: ts => do
    let v ← value t
    let vs ← values ts
    return v :: vs

def fieldValues : List (Option String × Tree) → Except Problem (List (String × Value))
  | [] => .ok []
  | (none, _) :: _ => .error .malformed
  | (some k, t) :: ms => do
    let v ← value t
    let fields ← fieldValues ms
    return (k, v) :: fields

end

end Decoder

/-- Decode the value at the front of a text and leave the rest of the text alone. -/
def decodeFront (d : Decoder α) (bs : Bytes) : Except Problem α :=
  (d (scan bs).1).mapError Problem.inText

/-- Decode a text that holds one value and nothing after it but white space. -/
def decode (d : Decoder α) (bs : Bytes) : Except Problem α :=
  match decodeFront d bs, (scan bs).2 with
  | .error p, _ => .error p
  | .ok a, some rest => if (skipBlank rest).isEmpty then .ok a else .error .malformed
  | .ok _, none => .error .malformed

end CallGateway.Json
