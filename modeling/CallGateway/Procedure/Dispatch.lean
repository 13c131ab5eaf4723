import CallGateway.Procedure.Catalog
import CallGateway.Procedure.Coercion

/-! From an envelope to its reply: look the procedure up, convert the parameters, run it within its
budget of time. Every way ends in a reply. -/

namespace CallGateway

inductive DispatchError
  | procedureNotFound (name : String)
  | coercion (e : CoercionError)
  | execution (procedure reason : String)

def DispatchError.message : DispatchError → String
  | .procedureNotFound name => s!"Procedure '{name}' not found"
  | .coercion e => e.message
  | .execution procedure reason => s!"Error executing procedure '{procedure}': {reason}"

structure Dispatcher where
  catalog : Catalog
  coercer : Coercer := .lenient
  /-- The milliseconds that an execution must stay below. -/
  budget : Option UInt64 := none

/-- Something that takes `elapsed` milliseconds. -/
structure Timed (α : Type) where
  elapsed : Nat
  result : α

namespace Dispatcher

def conclude (procedure : String) : Ending → Except DispatchError Json.Value
  | .value v => .ok v
  | .failed reason => .error (.execution procedure reason)
  | .panicked => .error (.execution procedure "executor panicked")

/-- Let something run to its end, or up to the budget. -/
def bounded (budget : Option UInt64) (procedure : String)
    (t : Timed (Except DispatchError Json.Value)) : Timed (Except DispatchError Json.Value) :=
  match budget with
  | none => t
  | some b =>
    if b.toNat ≤ t.elapsed then
      ⟨b.toNat, .error (.execution procedure s!"execution exceeded {b} ms")⟩
    else t

/-- Convert the parameters and execute. The budget covers both. -/
def start (d : Dispatcher) (e : Entry) (parameters : Json.Value) (context : Context) :
    Timed (Except DispatchError Json.Value) :=
  bounded d.budget context.procedure <|
    match d.coercer.coerce e.procedure.prepare context.procedure e.procedure.shape parameters with
    | .ok execute =>
      let run := execute context
      ⟨run.duration, conclude context.procedure run.ending⟩
    | .error e => ⟨0, .error (.coercion e)⟩

def run (d : Dispatcher) (e : Envelope) (now : Instant) (clock : Nat) :
    Timed (Except DispatchError Json.Value) :=
  match d.catalog.find? e.procedureName with
  | none => ⟨0, .error (.procedureNotFound e.procedureName)⟩
  | some entry => d.start entry e.parameters (.ofEnvelope e now clock)

def outcome : Except DispatchError Json.Value → Outcome
  | .ok v => .success v
  | .error e => .failure e.message

/-- The reply to an envelope, and the time it takes. -/
def dispatch (d : Dispatcher) (e : Envelope) (now : Instant) (clock : Nat) : Timed Reply :=
  let r := d.run e now clock
  ⟨r.elapsed, e.requestId, outcome r.result⟩

end Dispatcher

end CallGateway
