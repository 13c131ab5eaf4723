import CallGateway.Procedure.Basic

/-! Conversion of untyped parameters into what a procedure takes. Nothing is made up: what is
missing or of the wrong kind is refused. Only `null` may be offered again as an object without
fields, so that callers can leave out parameters of which none is required. -/

namespace CallGateway

structure CoercionError where
  procedure : String
  expected : String
  reason : String

def CoercionError.message (e : CoercionError) : String :=
  s!"Invalid parameters for procedure '{e.procedure}' (expected {e.expected}): {e.reason}"

structure Coercer where
  nullAsEmptyObject : Bool
  deriving DecidableEq

namespace Coercer

def lenient : Coercer := ⟨true⟩

def strict : Coercer := ⟨false⟩

def describe (c : Coercer) : String :=
  "ParameterCoercer \x7b null_as_empty_object: "
    ++ (if c.nullAsEmptyObject then "true" else "false") ++ " \x7d"

/-- Decode `v`. A refused `null` is offered as an empty object, but the refusal of `null` is the one
that is reported. -/
def decode (c : Coercer) (d : Json.Decoder α) (v : Json.Value) : Except Json.Problem α :=
  match d v.tree with
  | .ok a => .ok a
  | .error p =>
    if v.isNull && c.nullAsEmptyObject then
      match d (Json.Value.object []).tree with
      | .ok a => .ok a
      | .error _ => .error p
    else .error p

def coerce (c : Coercer) (d : Json.Decoder α) (procedure expected : String) (v : Json.Value) :
    Except CoercionError α :=
  (c.decode d v).mapError fun p => ⟨procedure, expected, p.message⟩

end Coercer

end CallGateway
