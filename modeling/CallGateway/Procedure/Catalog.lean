import CallGateway.Procedure.Basic
import CallGateway.Text.CodePoints
import CallGateway.Text.Printable

/-! The procedures that a pool hosts, by their exact names. -/

namespace CallGateway

inductive CatalogError
  | duplicateProcedure (name : String)
  | emptyName
  | unknownBuiltin (name : String)
  deriving DecidableEq

/-- The name of the kind of error. -/
def CatalogError.name : CatalogError → String
  | .duplicateProcedure _ => "DuplicateProcedure"
  | .emptyName => "EmptyName"
  | .unknownBuiltin _ => "UnknownBuiltin"

def CatalogError.message : CatalogError → String
  | .duplicateProcedure name => s!"procedure '{name}' registered more than once"
  | .emptyName => "procedure name must not be empty"
  | .unknownBuiltin name => s!"unknown built-in procedure '{name}'"

structure Entry where
  name : String
  procedure : Procedure

/-- An entry as it is shown in diagnostics. -/
def Entry.describe (e : Entry) : String :=
  "ProcedureEntry \x7b name: " ++ Text.quoted e.name ++ ", input_shape: InputShape("
    ++ Text.quoted e.procedure.shape ++ ") \x7d"

/-- Entries with pairwise different names, in the order of their registration. -/
structure Catalog where
  entries : List Entry := []

namespace Catalog

def find? (c : Catalog) (name : String) : Option Entry := c.entries.find? (·.name == name)

def contains (c : Catalog) (name : String) : Bool := (c.find? name).isSome

def size (c : Catalog) : Nat := c.entries.length

def sorted (c : Catalog) : List Entry :=
  c.entries.mergeSort fun a b => decide (a.name ≤ b.name)

/-- The names in ascending order. -/
def names (c : Catalog) : List String := c.sorted.map (·.name)

/-- The entries as they are listed for callers: name and shape, in ascending order of the names. -/
def descriptors (c : Catalog) : List (String × String) :=
  c.sorted.map fun e => (e.name, e.procedure.shape)

def descriptorsJson (c : Catalog) : Json.Value :=
  .array <| c.descriptors.map fun (name, shape) =>
    .object [("name", .string name), ("inputShape", .string shape)]

/-- A catalog under construction. Registrations that are refused leave an error behind. -/
structure Builder where
  entries : List Entry := []
  errors : List CatalogError := []

namespace Builder

def fails (b : Builder) (e : CatalogError) : Builder := { b with errors := b.errors ++ [e] }

def register (b : Builder) (name : String) (p : Procedure) : Builder :=
  if Text.isBlank name then b.fails .emptyName
  else if b.entries.any (·.name == name) then b.fails (.duplicateProcedure name)
  else { b with entries := b.entries ++ [⟨name, p⟩] }

/-- The catalog, or the error of the first registration that was refused. -/
def build (b : Builder) : Except CatalogError Catalog :=
  match b.errors with
  | [] => .ok ⟨b.entries⟩
  | e :: _ => .error e

end Builder

end Catalog

end CallGateway
