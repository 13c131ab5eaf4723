import CallGateway.Json.Decode

/-! Decoders of records: from objects by the names of the fields, or from arrays by their order. The
fields are described one by one and combined applicatively; of several problems the one that stands
first in the text is reported. -/

namespace CallGateway.Json

/-- A result, or a problem and the position of the member or item where it is met. -/
abbrev Met (α : Type) := Except (Nat × Problem) α

/-- Both results, or the problem that is met first. -/
def Met.both : Met α → Met β → Met (α × β)
  | .ok a, .ok b => .ok (a, b)
  | .error e, .ok _ => .error e
  | .ok _, .error e => .error e
  | .error (i, p), .error (j, q) => .error (if j < i then (j, q) else (i, p))

/-- Some fields of a record, in the order of their declaration. -/
structure Fields (α : Type) where
  names : List String
  ofMembers : List (Option String × Tree) → Met α
  /-- The items are those from position `i` on; `expected` describes the whole record. -/
  ofItems : (expected : String) → (i : Nat) → List Tree → Met α

namespace Fields

instance : Applicative Fields where
  pure a := ⟨[], fun _ => .ok a, fun _ _ _ => .ok a⟩
  seq f x := ⟨f.names ++ (x ()).names,
    fun ms => ((f.ofMembers ms).both ((x ()).ofMembers ms)).map fun (g, a) => g a,
    fun expected i items =>
      ((f.ofItems expected i items).both
        ((x ()).ofItems expected (i + f.names.length) (items.drop f.names.length))).map
          fun (g, a) => g a⟩

/-- The members with a name, each with its position. -/
def occurrences (name : String) (ms : List (Option String × Tree)) : List (Nat × Tree) :=
  ms.zipIdx.filterMap fun ((n, t), i) => if n = some name then some (i, t) else none

/-- A field with what stands for it where it is absent. Absence shows at the end of the record. -/
def field (name : String) (d : Decoder α) (absent : Option α) : Fields α where
  names := [name]
  ofMembers ms :=
    match occurrences name ms with
    | [] => match absent with
      | some a => .ok a
      | none => .error (ms.length, ⟨[], .missingField name⟩)
    | (i, t) :: more => match d t, more with
      | .error p, _ => .error (i, p.within (.field name))
      | .ok a, [] => .ok a
      | .ok _, (j, _) :: _ => .error (j, ⟨[], .duplicateField name⟩)
  ofItems expected i items :=
    match items with
    | [] => match absent with
      | some a => .ok a
      | none => .error (i, ⟨[], .tooShort i expected⟩)
    | t :: _ => (d t).mapError fun p => (i, p.within (.item i))

def required (name : String) (d : Decoder α) : Fields α := field name d none

def optional (name : String) (d : Decoder α) (default : α) : Fields α := field name d (some default)

/-- The first member that no field claims and that cannot be passed over: one whose name spells no
text, or whose value breaks off. -/
def stray (names : List String) (ms : List (Option String × Tree)) : Met Unit :=
  match ms.zipIdx.find? (fun ((n, t), _) => match n with
      | none => true
      | some n => !names.contains n && !t.intact) with
  | some (_, i) => .error (i, .malformed)
  | none => .ok ()

/-- How a record of some arity is described to those who give too few items for it. -/
def expectation (name : String) (arity : Nat) : String :=
  s!"struct {name} with {arity} " ++ if arity = 1 then "element" else "elements"

def decoder (name : String) (fields : Fields α) : Decoder α
  | .object deep ms =>
    if deep then .error .malformed
    else match (fields.ofMembers ms).both (stray fields.names ms) with
      | .ok (a, _) => .ok a
      | .error (_, p) => .error p
  | .array deep items =>
    if deep then .error .malformed
    else match fields.ofItems (expectation name fields.names.length) 0 items with
      | .ok a =>
        if fields.names.length < items.length then .error ⟨[], .tooLong items.length⟩ else .ok a
      | .error (_, p) => .error p
  | t => .error (mismatch s!"struct {name}" t)

end Fields

end CallGateway.Json
