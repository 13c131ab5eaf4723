import CallGateway.Procedure.Builtin
import CallGateway.Procedure.Dispatch
import CallGateway.Proofs.Json.Depth

/-!
# Results that fit into a reply

Parameters come out of a message, and results go into one. A built-in procedure does not nest its
result deeper than its parameters, or hardly at all, so every result of a dispatcher that hosts such
procedures fits where the parameters did.
-/

namespace CallGateway

open Json

namespace Procedure

/-- Parameters that fit into a message give results that do. -/
def Shallow (p : Procedure) : Prop :=
  ∀ (v : Value) (execute : Context → Run) (context : Context) (w : Value),
    1 + v.nesting ≤ nestingLimit → p.prepare v.tree = .ok execute →
      (execute context).ending = .value w → 1 + w.nesting ≤ nestingLimit

theorem echo_shallow : echo.Shallow := by
  intro v execute context w hv H h
  obtain ⟨u, hu, rfl⟩ := Except.map_eq_ok.1 H
  rw [Value.value_tree] at hu
  cases hu
  cases h
  have hle := v.nesting_normal_le
  omega

/-- Results that are nested once. -/
theorem typed_shallow {shape : String} {d : Decoder α} {execute : α → Context → Run}
    (H : ∀ a context w, (execute a context).ending = .value w → w.nesting ≤ 1) :
    (typed shape d execute).Shallow := by
  intro v _ context w _ hp h
  obtain ⟨a, -, rfl⟩ := Except.map_eq_ok.1 hp
  have hle := H a context w h
  rw [show nestingLimit = 127 from rfl]
  omega

theorem calculateSum_shallow : calculateSum.Shallow := by
  apply typed_shallow
  intro p context w h
  change sum p = .value w at h
  rw [sum] at h
  split at h
  · cases h
    exact Nat.le_refl 1
  · cases h

theorem healthCheck_shallow (service : String) (started : Nat) :
    (healthCheck service started).Shallow := by
  apply typed_shallow
  intro _ context w h
  cases h
  exact Nat.le_refl 1

theorem builtin?_shallow {service : String} {started : Nat} {name : String} {p : Procedure}
    (H : builtin? service started name = some p) : p.Shallow := by
  rw [builtin?] at H
  split at H
  · cases H
    exact echo_shallow
  split at H
  · cases H
    exact calculateSum_shallow
  split at H
  · cases H
    exact healthCheck_shallow service started
  · cases H

end Procedure

theorem Coercer.decode_eq_ok {c : Coercer} {d : Decoder α} {v : Value} {a : α}
    (H : c.decode d v = .ok a) : d v.tree = .ok a ∨ d (Value.object []).tree = .ok a := by
  rw [decode] at H
  split at H
  · next h =>
    cases H
    exact .inl h
  · split at H
    · split at H
      · next h =>
        cases H
        exact .inr h
      · cases H
    · cases H

namespace Dispatcher

theorem bounded_eq_ok {budget : Option UInt64} {procedure : String}
    {t : Timed (Except DispatchError Value)} {w : Value}
    (H : (bounded budget procedure t).result = .ok w) : t.result = .ok w := by
  cases budget with
  | none => exact H
  | some b =>
    rw [bounded] at H
    split at H
    · cases H
    · exact H

theorem start_fits {d : Dispatcher} {e : Entry} {v w : Value} {context : Context}
    (he : e.procedure.Shallow) (hv : 1 + v.nesting ≤ nestingLimit)
    (H : (d.start e v context).result = .ok w) : 1 + w.nesting ≤ nestingLimit := by
  have H := bounded_eq_ok H
  split at H
  · next execute h =>
    rw [Coercer.coerce, Except.mapError_eq_ok] at h
    have hending : (execute context).ending = .value w := by
      change conclude _ (execute context).ending = .ok w at H
      generalize (execute context).ending = ending at H
      cases ending <;> cases H
      rfl
    obtain h | h := Coercer.decode_eq_ok h
    · exact he v execute context w hv h hending
    · exact he (.object []) execute context w (by decide) h hending
  · cases H

theorem dispatch_fits {d : Dispatcher} {e : Envelope} {now : Instant} {clock : Nat} {w : Value}
    (hd : ∀ entry ∈ d.catalog.entries, entry.procedure.Shallow)
    (hp : 1 + e.parameters.nesting ≤ nestingLimit)
    (H : (d.dispatch e now clock).result.result? = some w) : 1 + w.nesting ≤ nestingLimit := by
  have hr : (d.run e now clock).result = .ok w := by
    change (Reply.mk e.requestId (outcome (d.run e now clock).result)).result? = some w at H
    generalize (d.run e now clock).result = r at H
    cases r <;> cases H
    rfl
  rw [run] at hr
  split at hr
  · cases hr
  · next entry h =>
    exact start_fits (hd entry (List.mem_of_find?_eq_some h)) hp hr

end Dispatcher

end CallGateway
