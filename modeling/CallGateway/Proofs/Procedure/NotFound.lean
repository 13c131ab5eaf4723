import CallGateway.Gateway.Error
import CallGateway.Procedure.Dispatch

/-!
# Procedures that are not found

A failure tells by its first letter whether it can be that of a missing procedure, and a dispatcher
says so only of what its catalog lacks.
-/

namespace CallGateway

/-- The message is that of a procedure that has not been found. -/
def IsNotFound (message : String) : Prop :=
  ∃ name : String, message = s!"Procedure '{name}' not found"

/-- The first letter of a message. -/
def Begins (c : Char) (message : String) : Prop := ∃ cs, message.toList = c :: cs

theorem Begins.append (H : Begins c s) (t : String) : Begins c (s ++ t) := by
  obtain ⟨cs, h⟩ := H
  exact ⟨cs ++ t.toList, by rw [String.toList_append, h]; rfl⟩

theorem Begins.unique (H : Begins c s) (H' : Begins d s) : c = d := by
  obtain ⟨cs, h⟩ := H
  obtain ⟨ds, h'⟩ := H'
  rw [h] at h'
  exact (List.cons.inj h').1

theorem IsNotFound.begins (H : IsNotFound m) : Begins 'P' m := by
  obtain ⟨name, rfl⟩ := H
  have h : Begins 'P' "Procedure '" := ⟨_, rfl⟩
  exact (h.append name).append _

theorem Begins.ne_notFound (H : Begins c m) (hc : c ≠ 'P') : ¬ IsNotFound m := fun h =>
  hc (H.unique h.begins)

theorem GatewayError.message_ne_notFound (e : GatewayError) : ¬ IsNotFound e.message := by
  have begins {c : Char} {s : String} (h : Begins c s) : ∀ t, Begins c (s ++ t) := h.append
  cases e with
  | serviceNotFound service known =>
    have h : Begins 'S' "Service '" := ⟨_, rfl⟩
    exact ((h.append service).append _).ne_notFound (by decide)
  | brokerPublish id topic reason =>
    have h : Begins 'F' "Failed to send request " := ⟨_, rfl⟩
    exact (((((h.append _).append _).append _).append _).append _).ne_notFound (by decide)
  | timeout id ms =>
    have h : Begins 'R' "Request " := ⟨_, rfl⟩
    exact ((((h.append _).append _).append _).append _).ne_notFound (by decide)
  | interrupted id =>
    have h : Begins 'R' "Request " := ⟨_, rfl⟩
    exact ((h.append _).append _).ne_notFound (by decide)
  | blankProcedureName =>
    have h : Begins 'I' "Invalid request: procedure name must not be empty" := ⟨_, rfl⟩
    exact h.ne_notFound (by decide)
  | unnamedService clientType =>
    have h : Begins 'I' "Invalid request: client type '" := ⟨_, rfl⟩
    exact ((h.append _).append _).ne_notFound (by decide)
  | invalidRequest what =>
    have h : Begins 'I' "Invalid request: " := ⟨_, rfl⟩
    exact (h.append _).ne_notFound (by decide)
  | duplicateRequest id =>
    have h : Begins 'R' "Request " := ⟨_, rfl⟩
    exact ((h.append _).append _).ne_notFound (by decide)
  | encoding what =>
    have h : Begins 'E' "Encoding error: " := ⟨_, rfl⟩
    exact (h.append _).ne_notFound (by decide)

theorem DispatchError.eq_of_notFound {e : DispatchError} (H : IsNotFound e.message) :
    ∃ name, e = .procedureNotFound name := by
  cases e with
  | procedureNotFound name => exact ⟨name, rfl⟩
  | coercion e =>
    have h : Begins 'I' "Invalid parameters for procedure '" := ⟨_, rfl⟩
    exact absurd H
      ((((((h.append _).append _).append _).append _).append _).ne_notFound (by decide))
  | execution procedure reason =>
    have h : Begins 'E' "Error executing procedure '" := ⟨_, rfl⟩
    exact absurd H ((((h.append _).append _).append _).ne_notFound (by decide))

namespace Dispatcher

theorem conclude_ne_notFound (procedure name : String) (e : Ending) :
    conclude procedure e ≠ .error (.procedureNotFound name) := by
  cases e <;> exact nofun

theorem bounded_ne_notFound {t : Timed (Except DispatchError Json.Value)} {name : String}
    (H : t.result ≠ .error (.procedureNotFound name)) (budget : Option UInt64)
    (procedure : String) :
    (bounded budget procedure t).result ≠ .error (.procedureNotFound name) := by
  cases budget with
  | none => exact H
  | some b =>
    rw [bounded]
    split
    · exact nofun
    · exact H

/-- A procedure that has been found is not said to be missing. -/
theorem start_ne_notFound (d : Dispatcher) (e : Entry) (parameters : Json.Value)
    (context : Context) (name : String) :
    (d.start e parameters context).result ≠ .error (.procedureNotFound name) := by
  refine bounded_ne_notFound ?_ d.budget context.procedure
  split
  · exact conclude_ne_notFound _ _ _
  · exact nofun

/-- A dispatcher fails with the message of a missing procedure if its catalog has none. -/
theorem find?_of_notFound {d : Dispatcher} {e : Envelope} {now : Instant} {clock : Nat}
    (h : (d.dispatch e now clock).result.outcome = .failure m) (H : IsNotFound m) :
    d.catalog.find? e.procedureName = none := by
  change outcome (d.run e now clock).result = .failure m at h
  cases hr : (d.run e now clock).result with
  | ok v => rw [hr] at h; cases h
  | error err =>
    rw [hr] at h
    cases h
    obtain ⟨name, rfl⟩ := DispatchError.eq_of_notFound H
    rw [run] at hr
    split at hr
    · assumption
    · exact absurd hr (start_ne_notFound _ _ _ _ _)

end Dispatcher

end CallGateway
