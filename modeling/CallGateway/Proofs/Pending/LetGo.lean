import CallGateway.Proofs.Pending.Exact

/-!
# Letting go of a handle

A handle is let go by the identifier of its request. As long as each request has an identifier of
its own, this takes nothing but the handle's own entry. A request entered again under the identifier
of an earlier one goes with the handle of that one.
-/

namespace CallGateway.PendingTable

/-- Letting go of a handle takes nobody's entry but its own, and nothing at all once its request is
settled. -/
structure History.Spares (H : History) (h : Handle) : Prop where
  own : ∀ k, H.table.Pends k → ¬ (H.table.drop h).Pends k → k = h
  settled : ¬ H.table.Pends h →
    (H.table.drop h).entries = H.table.entries ∧ (H.table.drop h).stats = H.table.stats ∧
      ∀ k ∈ H.held, k ≠ h → (H.table.drop h).state? k = H.table.state? k

/-- What waits under the identifier of the handle goes, and nothing else. -/
theorem pends_drop {t : PendingTable} {h k : Handle} :
    (t.drop h).Pends k ↔ t.Pends k ∧ k.requestId ≠ h.requestId := by
  rw [Pends, entries_drop, Keyed.get?_erase]
  by_cases hid : k.requestId = h.requestId
  · simp [hid]
  · simp [hid, Pends]

namespace History

variable {H : History} {h : Handle}

theorem Inv.spares (I : Inv H) (hh : h ∈ H.held)
    (alone : ∀ k ∈ H.held, H.table.Pends k → k.requestId = h.requestId → k = h) : H.Spares h where
  own k hk hk' := alone k (I.entry hk) hk (Decidable.not_not.1 fun hne => hk' (pends_drop.2 ⟨hk, hne⟩))
  settled hp := by
    have absent : H.table.entries.get? h.requestId = none := by
      refine Option.eq_none_iff_forall_ne_some.2 fun n hn => hp ?_
      have hk : (⟨n, h.requestId⟩ : Handle) = h := alone _ (I.entry hn) hn rfl
      rwa [Pends, ← hk]
    rw [drop_eq, absent]
    refine ⟨rfl, rfl, fun k hk hne => ?_⟩
    have hserial : k.serial ≠ h.serial := fun he =>
      hne (I.serial_inj k (I.held_issued k hk) h (I.held_issued h hh) he)
    rw [state?, Keyed.get?_erase, if_neg hserial]
    rfl

/-- Letting go of a handle spares all others exactly if none of them waits under its identifier. -/
theorem run_spares_iff (actions : List Action) (hh : h ∈ (run actions).held) :
    (run actions).Spares h ↔ ∀ k ∈ (run actions).held,
      (run actions).table.Pends k → k.requestId = h.requestId → k = h := by
  refine ⟨fun S k _ hp hid => S.own k hp fun hp' => ?_, (Inv.run actions).spares hh⟩
  exact (pends_drop.1 hp').2 hid

/-- A handle is let go after its reply, while two other requests are pending. -/
theorem late_drop_spares :
    let H := run [.create ⟨7⟩, .create ⟨8⟩, .complete ⟨⟨7⟩, .success .null⟩, .create ⟨9⟩]
    (⟨0, ⟨7⟩⟩ : Handle) ∈ H.held ∧ H.Spares ⟨0, ⟨7⟩⟩ ∧ H.table.size = 2 :=
  ⟨by decide, (run_spares_iff [.create ⟨7⟩, .create ⟨8⟩, .complete ⟨⟨7⟩, .success .null⟩,
    .create ⟨9⟩] (by decide)).2 (by decide), by decide⟩

/-- The identifier of a settled request is used again, and then the first handle is let go. The
second one is interrupted, and its entry is gone. -/
theorem not_spares_of_reuse :
    let H := run [.create ⟨7⟩, .complete ⟨⟨7⟩, .success .null⟩, .create ⟨7⟩]
    let first : Handle := ⟨0, ⟨7⟩⟩
    let second : Handle := ⟨1, ⟨7⟩⟩
    first ∈ H.held ∧ ¬ H.table.Pends first ∧ H.table.Pends second ∧
      H.table.state? second = some .waiting ∧
      (H.table.drop first).state? second = some (.settled (.error (.interrupted ⟨7⟩))) ∧
      (H.table.drop first).stats = { H.table.stats with inFlight := 0, interrupted := 1 } ∧
      ¬ H.Spares first := by
  refine ⟨by decide, by decide, by decide, rfl, rfl, rfl, fun S => ?_⟩
  have h := S.own ⟨1, ⟨7⟩⟩ (by decide) (by decide)
  cases h

end History

end CallGateway.PendingTable
