import CallGateway.Message.Reply

/-! Procedures: named units of work that a pool of workers hosts. A procedure decodes its parameters
and then runs, for some time, to a result, to an error of its own, or to a breakdown. -/

namespace CallGateway

/-- What a procedure knows of the call that it serves. -/
structure Context where
  requestId : Uuid
  procedure : String
  metadata : Metadata
  /-- The calendar time. -/
  now : Instant
  /-- Milliseconds on the running clock. -/
  clock : Nat

def Context.ofEnvelope (e : Envelope) (now : Instant) (clock : Nat) : Context :=
  ⟨e.requestId, e.procedureName, e.metadata, now, clock⟩

inductive Ending
  | value (v : Json.Value)
  | failed (reason : String)
  | panicked

namespace Ending

def invalidInput (what : String) : Ending := .failed s!"invalid input: {what}"

def unserializable (what : String) : Ending := .failed s!"result could not be serialized: {what}"

end Ending

/-- An execution: how many milliseconds it takes, left to itself, and how it ends. -/
structure Run where
  duration : Nat := 0
  ending : Ending

structure Procedure where
  /-- The name of the kind of parameters. -/
  shape : String
  /-- Decode the parameters; what remains is to be run for a call. -/
  prepare : Json.Decoder (Context → Run)

/-- A procedure over typed parameters. -/
def Procedure.typed (shape : String) (d : Json.Decoder α) (execute : α → Context → Run) :
    Procedure :=
  ⟨shape, fun t => (d t).map execute⟩

end CallGateway
