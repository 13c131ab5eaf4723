import CallGateway.Proofs.Pending.Accounting

/-!
# The contract of the table of pending requests

Whatever is done with a new table in whatever order, every handle gets one outcome at most, namely
that of the one action which removed its entry and which bears its identifier, and the counters
account for every request and every reply.
-/

namespace CallGateway.PendingTable.History

variable {H : History} {held : List Handle}

/-- What a history promises to whoever holds handles and to whoever reads the counters. -/
structure Exact (H : History) : Prop where
  waiting : ∀ h ∈ H.issued, H.table.state? h = some .waiting ↔ H.table.Pends h
  removed : ∀ h ∈ H.issued,
    H.table.Pends h ∧ H.removals h = [] ∨ ¬ H.table.Pends h ∧ ∃ r, H.removals h = [r]
  unresolved : ∀ h ∈ H.issued, H.removals h = [] →
    H.received h = [] ∧ H.table.result? h = none ∧ h ∈ H.held
  /-- A holder has seen the outcome, or will at the next look; who has let go sees nothing more. -/
  outcome : ∀ h ∈ H.issued, ∀ r, H.removals h = [r] → ∃ o, r.outcome? = some o ∧
    (H.received h = [] ∨ H.received h = [o]) ∧
    (h ∈ H.held → H.received h ++ (H.table.result? h).toList = [o])
  /-- An action removes the entry of its own identifier, and no other. -/
  own : ∀ r ∈ H.records, ∀ h, r.Removes h ↔ r.before.Pends h ∧ r.target? = some h.requestId
  answer : ∀ r ∈ H.records, ∀ was, r.answer = .removed was → (was = true ↔ ∃ h, r.Removes h)
  accounts : (∀ r ∈ H.records, r.Unwrapped) →
    H.issued.length = H.table.stats.inFlight.toNat + H.table.stats.completed.toNat +
      H.table.stats.timedOut.toNat + H.table.stats.failed.toNat + H.table.stats.interrupted.toNat ∧
    H.offered = H.table.stats.completed.toNat + H.table.stats.droppedReplies.toNat

theorem Track.waiting_iff (T : Track H h) :
    H.table.state? h = some .waiting ↔ H.table.Pends h := by
  cases T with
  | pending _ hp hs => exact ⟨fun _ => hp, fun _ => hs⟩
  | settled _ _ _ hp hs | read _ _ _ hp hs | gone _ _ _ hp hs =>
    exact ⟨fun h => (nomatch hs.symm.trans h), fun h => absurd h hp⟩

theorem Track.removed (T : Track H h) :
    H.table.Pends h ∧ H.removals h = [] ∨ ¬ H.table.Pends h ∧ ∃ r, H.removals h = [r] := by
  cases T with
  | pending _ hp _ hr => exact .inl ⟨hp, hr⟩
  | settled r _ _ hp _ hr | read r _ _ hp _ hr | gone r _ _ hp _ hr => exact .inr ⟨hp, r, hr⟩

theorem Track.unresolved (T : Track H h) (hr : H.removals h = []) :
    H.received h = [] ∧ H.table.result? h = none ∧ h ∈ H.held := by
  cases T with
  | pending hh _ hs _ hrec => exact ⟨hrec, by rw [result?, hs], hh⟩
  | settled _ _ _ _ _ hr' | read _ _ _ _ _ hr' | gone _ _ _ _ _ hr' => cases hr.symm.trans hr'

theorem Track.outcome (T : Track H h) (hr : H.removals h = [r]) : ∃ o, r.outcome? = some o ∧
    (H.received h = [] ∨ H.received h = [o]) ∧
    (h ∈ H.held → H.received h ++ (H.table.result? h).toList = [o]) := by
  cases T with
  | pending _ _ _ hr' => cases hr.symm.trans hr'
  | settled r' o _ _ hs hr' ho hrec =>
    cases hr.symm.trans hr'
    exact ⟨o, ho, .inl hrec, fun _ => by rw [hrec, result?, hs]; rfl⟩
  | read r' o _ _ hs hr' ho hrec =>
    cases hr.symm.trans hr'
    exact ⟨o, ho, .inr hrec, fun _ => by rw [hrec, result?, hs]; rfl⟩
  | gone r' o hh _ _ hr' ho hrec =>
    cases hr.symm.trans hr'
    exact ⟨o, ho, hrec, fun h => absurd h hh⟩

/-- Whoever removes an entry is told so, and nobody else is. -/
theorem Effect.removed_iff (E : Effect H r held) (hb : r.before = H.table)
    (ha : r.answer = .removed was) : was = true ↔ ∃ h, r.Removes h := by
  cases E with
  | settled id n _ present entries _ _ _ answer =>
    cases answer.symm.trans ha
    refine ⟨fun _ => ⟨⟨n, id⟩, hb ▸ present, ?_⟩, fun _ => rfl⟩
    rw [Pends, entries, Keyed.get?_erase, if_pos rfl]
    intro h
    cases h
  | quiet entries _ _ _ answer =>
    have hno : ¬ ∃ h, r.Removes h := by
      rintro ⟨h, hp, hp'⟩
      rw [hb] at hp
      exact hp' (by rwa [Pends, entries])
    rcases answer with ⟨e, h⟩ | h | ⟨k, s, h, -⟩ <;> cases h.symm.trans ha
    exact ⟨fun h => (by cases h), fun h => absurd h hno⟩
  | created _ _ _ _ _ _ answer | read _ _ _ _ _ _ _ _ answer | dropped _ _ _ _ _ _ answer =>
    cases answer.symm.trans ha

/-- An action erases the entry of its identifier. If it has none, all entries stay. -/
theorem perform?_entries {a : Action} (h : H.perform? a = some (answer, after, held)) :
    match Record.target? ⟨a, H.table, answer, after⟩ with
    | some id => after.entries = H.table.entries.erase id
    | none => ∀ k, H.table.Pends k → after.Pends k := by
  cases a with
  | create id =>
    rw [perform?, create_eq] at h
    cases hid : H.table.entries.get? id with
    | some n => rw [hid] at h; cases h; exact fun _ hp => hp
    | none =>
      rw [hid] at h; cases h
      intro k hp
      rw [Pends, entered, Keyed.get?_set, if_neg]
      · exact hp
      · rintro rfl
        cases hid.symm.trans hp
  | complete reply => cases h; exact entries_complete ..
  | expire id ms => cases h; exact entries_expire ..
  | fail id e => cases h; exact entries_fail ..
  | poll serial =>
    obtain ⟨k, -, h⟩ := Option.map_eq_some_iff.1 h
    cases h
    intro j hp
    show (H.table.poll k).2.Pends j
    rwa [Pends, entries_poll]
  | drop serial =>
    obtain ⟨k, -, h⟩ := Option.map_eq_some_iff.1 h
    cases h
    exact entries_drop ..

theorem removes_iff {a : Action} (h : H.perform? a = some (answer, after, held)) (k : Handle) :
    Record.Removes ⟨a, H.table, answer, after⟩ k ↔
      H.table.Pends k ∧ Record.target? ⟨a, H.table, answer, after⟩ = some k.requestId := by
  have he := perform?_entries h
  refine and_congr_right fun hp => ?_
  cases ht : Record.target? ⟨a, H.table, answer, after⟩ with
  | none =>
    rw [ht] at he
    exact iff_of_false (fun h => h (he k hp)) (Option.some_ne_none _).symm
  | some id =>
    rw [ht] at he
    rw [Pends, he, Keyed.get?_erase, Option.some.injEq]
    split
    · next hid => exact iff_of_true (Option.some_ne_none _).symm hid.symm
    · next hid => exact iff_of_false (fun h => h hp) (Ne.symm hid)

/-- What holds of every step holds of all that is on record. -/
theorem forall_records_run {P : Record → Prop}
    (step : ∀ {H : History} {a answer after held}, H.perform? a = some (answer, after, held) →
      P ⟨a, H.table, answer, after⟩) (actions : List Action) :
    ∀ r ∈ (run actions).records, P r := by
  refine run_induction (P := fun H => ∀ r ∈ H.records, P r)
    (fun _ hr => absurd hr List.not_mem_nil) (fun H a ih r hr => ?_) actions
  rw [act] at hr
  cases h : H.perform? a with
  | none => rw [h] at hr; exact ih r hr
  | some p =>
    rw [h, records_push, List.mem_append, List.mem_singleton] at hr
    obtain hr | rfl := hr
    · exact ih r hr
    · exact step h

/-- The table is never larger than a counter can say. -/
theorem toNat_inFlight_run (actions : List Action) :
    (∀ r ∈ (run actions).records, r.Unwrapped) →
    (run actions).table.stats.inFlight.toNat = (run actions).table.size := by
  refine run_induction (P := fun H => (∀ r ∈ H.records, r.Unwrapped) →
    H.table.stats.inFlight.toNat = H.table.size) (fun _ => rfl) (fun H a ih hu => ?_) actions
  rw [act] at hu ⊢
  cases h : H.perform? a with
  | none => rw [h] at hu; exact ih hu
  | some p =>
    rw [h, records_push] at hu
    have hlt := (hu _ (List.mem_append_right _ (List.mem_singleton.2 rfl))).inFlight
    simp only [table_push, stats, UInt64.toNat_ofNat']
    exact Nat.mod_eq_of_lt hlt

/-- Every history of a new table keeps the contract. -/
theorem run_exact (actions : List Action) : (run actions).Exact where
  waiting h hi := ((Inv.run actions).track h hi).waiting_iff
  removed h hi := ((Inv.run actions).track h hi).removed
  unresolved h hi := ((Inv.run actions).track h hi).unresolved
  outcome h hi _ hr := ((Inv.run actions).track h hi).outcome hr
  own := forall_records_run (fun h => removes_iff h) actions
  answer := forall_records_run (fun h _ => (perform?_effect h).removed_iff rfl) actions
  accounts hu := by
    have B := Balanced.run actions hu
    rw [toNat_inFlight_run actions hu]
    exact ⟨B.issued, B.offered⟩

/-- An old handle of an identifier that is pending again takes the new request with it. -/
example :
    let H := run [.create ⟨7⟩, .expire ⟨7⟩ 5, .create ⟨7⟩, .drop 0, .poll 1]
    H.received ⟨1, ⟨7⟩⟩ = [.error (.interrupted ⟨7⟩)] ∧ H.received ⟨0, ⟨7⟩⟩ = [] ∧
      H.table.stats = ⟨0, 0, 1, 0, 1, 0⟩ := by
  exact ⟨rfl, rfl, rfl⟩

end CallGateway.PendingTable.History
