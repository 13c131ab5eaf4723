import CallGateway.Proofs.Pending.Settlement

/-!
# The counters of the table of pending requests

As long as no counter has gone past its end, every request that was entered is in the table or
counted as settled in one way, and every reply that was offered is counted as used or as dropped.
-/

namespace CallGateway.PendingTable.History

variable {H : History} {held : List Handle}

/-- The counters agree with what has happened. -/
structure Balanced (H : History) : Prop where
  issued : H.issued.length = H.table.size + H.table.completed.toNat + H.table.timedOut.toNat +
    H.table.failed.toNat + H.table.interrupted.toNat
  offered : H.offered = H.table.completed.toNat + H.table.droppedReplies.toNat

/-- A counter that has not gone past its end is one more than before. -/
theorem toNat_succ {n : UInt64} (h : n ≤ n + 1) : (n + 1).toNat = n.toNat + 1 := by
  have h1 := UInt64.le_iff_toNat_le.1 h
  have h2 := n.toNat_lt
  rw [UInt64.toNat_add] at h1 ⊢
  simp only [UInt64.reduceToNat] at h1 ⊢
  omega

theorem offered_push (r : Record) :
    (H.push r held).offered = H.offered + if r.isComplete then 1 else 0 := by
  simp only [offered, records_push, List.countP_append, List.countP_singleton]

theorem length_issued_push (r : Record) :
    (H.push r held).issued.length = H.issued.length + r.created?.toList.length := by
  rw [issued_push, List.length_append]

theorem size_settled {t : PendingTable} {id : Uuid} {n : Nat} {o : CallResult}
    (h : t.entries.get? id = some n) : (t.settled id n o).entries.size + 1 = t.size :=
  Keyed.size_erase h

theorem Balanced.push (B : Balanced H) {a : Action}
    (h : H.perform? a = some (answer, after, held))
    (hu : Record.Unwrapped ⟨a, H.table, answer, after⟩) :
    Balanced (H.push ⟨a, H.table, answer, after⟩ held) := by
  obtain ⟨b1, b2⟩ := B
  suffices hs : _ ∧ _ from ⟨hs.1, hs.2⟩
  rw [length_issued_push, offered_push, table_push, b1, b2]
  cases a with
  | create id =>
    rw [perform?, create_eq] at h
    cases hid : H.table.entries.get? id with
    | some n => rw [hid] at h; cases h; exact ⟨rfl, rfl⟩
    | none =>
      rw [hid] at h; cases h
      have := Keyed.size_set H.table.nextSerial hid
      simp only [size, entered, Record.created?, Option.toList_some, List.length_singleton,
        Record.isComplete]
      exact ⟨by omega, rfl⟩
  | complete reply =>
    rw [perform?, complete_eq] at h
    cases hid : H.table.entries.get? reply.requestId with
    | some n =>
      rw [hid] at h; cases h
      have := size_settled (o := .ok reply) hid
      have hc := toNat_succ hu.completed
      simp only [size, Record.created?, Option.toList_none, List.length_nil,
        Record.isComplete, if_true, hc, settled] at this ⊢
      exact ⟨by omega, by omega⟩
    | none =>
      rw [hid] at h; cases h
      have hc := toNat_succ hu.droppedReplies
      simp only [size, Record.created?, Option.toList_none, List.length_nil,
        Record.isComplete, if_true, hc]
      exact ⟨by omega, by omega⟩
  | expire id ms =>
    rw [perform?, expire_eq] at h
    cases hid : H.table.entries.get? id with
    | some n =>
      rw [hid] at h; cases h
      have := size_settled (o := .error (.timeout id ms)) hid
      have hc := toNat_succ hu.timedOut
      simp only [size, Record.created?, Option.toList_none, List.length_nil,
        Record.isComplete, hc, settled] at this ⊢
      exact ⟨by omega, rfl⟩
    | none => rw [hid] at h; cases h; exact ⟨rfl, rfl⟩
  | fail id e =>
    rw [perform?, fail_eq] at h
    cases hid : H.table.entries.get? id with
    | some n =>
      rw [hid] at h; cases h
      have := size_settled (o := .error e) hid
      have hc := toNat_succ hu.failed
      simp only [size, Record.created?, Option.toList_none, List.length_nil,
        Record.isComplete, hc, settled] at this ⊢
      exact ⟨by omega, rfl⟩
    | none => rw [hid] at h; cases h; exact ⟨rfl, rfl⟩
  | poll serial =>
    obtain ⟨k, hk, h⟩ := Option.map_eq_some_iff.1 h
    rw [poll_eq] at h
    cases hs : H.table.state? k with
    | none => rw [hs] at h; cases h; exact ⟨rfl, rfl⟩
    | some s => cases s <;> rw [hs] at h <;> cases h <;> exact ⟨rfl, rfl⟩
  | drop serial =>
    obtain ⟨k, hk, h⟩ := Option.map_eq_some_iff.1 h
    rw [drop_eq] at h
    cases hid : H.table.entries.get? k.requestId with
    | some n =>
      rw [hid] at h; cases h
      have := size_settled (o := .error (.interrupted k.requestId)) hid
      have hc := toNat_succ hu.interrupted
      simp only [size, Record.created?, Option.toList_none, List.length_nil,
        Record.isComplete, hc, settled] at this ⊢
      exact ⟨by omega, rfl⟩
    | none => rw [hid] at h; cases h; exact ⟨rfl, rfl⟩

theorem Balanced.new : Balanced {} := ⟨rfl, rfl⟩

theorem Balanced.act (B : (∀ r ∈ H.records, r.Unwrapped) → Balanced H) (a : Action)
    (hu : ∀ r ∈ (H.act a).records, r.Unwrapped) : Balanced (H.act a) := by
  rw [History.act] at hu ⊢
  cases h : H.perform? a with
  | none => rw [h] at hu; exact B hu
  | some p =>
    rw [h, records_push] at hu
    exact (B fun r hr => hu r (List.mem_append_left _ hr)).push h
      (hu _ (List.mem_append_right _ (List.mem_singleton.2 rfl)))

/-- The counters agree after any actions, if none of them has gone past its end. -/
theorem Balanced.run (actions : List Action) :
    (∀ r ∈ (run actions).records, r.Unwrapped) → Balanced (run actions) :=
  run_induction (P := fun H => (∀ r ∈ H.records, r.Unwrapped) → Balanced H)
    (fun _ => .new) (fun _ a B => Balanced.act B a) actions

end CallGateway.PendingTable.History
