import CallGateway.Proofs.Gateway.Steps
import CallGateway.Proofs.Pending.Accounting

/-!
# The counters of a gateway

The table has one entry for every call without a fate, one counter for every kind of fate, and one
for the replies that nobody has waited for.
-/

namespace CallGateway.Session

variable {s s' : Session} {n : Note} {h k : Handle}

structure Counted (s : Session) : Prop where
  size : s.table.size = s.log.undecided
  counter : ∀ k, s.table.counter k = .ofNat (s.log.ofKind k)
  dropped : s.table.droppedReplies = .ofNat s.log.strays

theorem Counted.start (config : GatewayConfig) (b : Broker) : Counted (start config b) where
  size := rfl
  counter k := by cases k <;> rfl
  dropped := rfl

theorem ofNat_succ (n : Nat) : UInt64.ofNat (n + 1) = UInt64.ofNat n + 1 := by
  rw [UInt64.ofNat_add]; rfl

/-- A step at which no call meets its fate. -/
theorem Counted.of_quiet (C : Counted s) (log : s'.log = s.log ++ [n]) (hn : n.accepted? = none)
    (hf : ∀ h ∈ s.accepted, s.fate? h = none → n.fate? h = none)
    (size : s'.table.size = s.table.size) (counter : ∀ k, s'.table.counter k = s.table.counter k)
    (dropped : s'.table.droppedReplies =
      s.table.droppedReplies + if s.log.isStray n then 1 else 0) :
    Counted s' where
  size := by rw [size, C.size, log, Log.undecided, Log.undecided, Log.tally_quiet hn hf]
  counter k := by rw [counter, C.counter, log, Log.ofKind, Log.ofKind, Log.tally_quiet hn hf]
  dropped := by
    rw [dropped, C.dropped, log, Log.strays_append]
    split
    · rw [ofNat_succ]
    · rw [Nat.add_zero, UInt64.add_zero]

/-- A step at which one call meets its fate. -/
theorem Counted.of_decided (C : Counted s) (I : Inv s) (log : s'.log = s.log ++ [n])
    (hn : n.accepted? = none) (hk : k ∈ s.accepted) (h0 : s.fate? k = none)
    (h1 : n.fate? k = some f) (hf : ∀ h ∈ s.accepted, h ≠ k → s.fate? h = none → n.fate? h = none)
    (size : s'.table.size + 1 = s.table.size)
    (counter : ∀ j, s'.table.counter j = s.table.counter j + if j = f.kind then 1 else 0)
    (stray : s.log.isStray n = false) (dropped : s'.table.droppedReplies = s.table.droppedReplies) :
    Counted s' where
  size := by
    have := Log.tally_settled Option.isNone I.nodup hk hn h0 h1 hf
    simp only [Option.isNone_none, Option.isNone_some, if_true, Bool.false_eq_true,
      if_false] at this
    have hs := C.size
    rw [Log.undecided] at hs
    rw [log, Log.undecided]
    omega
  counter j := by
    have := Log.tally_settled (fun f => f.any (·.kind = j)) I.nodup hk hn h0 h1 hf
    simp only [Option.any_none, Bool.false_eq_true, if_false, Nat.add_zero, Option.any_some,
      decide_eq_true_eq] at this
    rw [counter, C.counter, log, Log.ofKind, Log.ofKind, this]
    by_cases hj : j = f.kind
    · rw [if_pos hj, if_pos hj.symm, ofNat_succ]
    · rw [if_neg hj, if_neg (Ne.symm hj), Nat.add_zero, UInt64.add_zero]
  dropped := by
    rw [dropped, C.dropped, log, Log.strays_append, stray]; rfl

theorem Counted.push (C : Counted s) (I : Inv s) (E : Effect s s') : Counted s' := by
  cases E with
  | quiet m log mute table opened =>
    cases m with
    | none =>
      have log : s'.log = s.log := log.trans (List.append_nil _)
      exact ⟨by rw [table, log]; exact C.size, by rw [table, log]; exact C.counter,
        by rw [table, log]; exact C.dropped⟩
    | some n =>
      obtain ⟨h1, h2, h3⟩ := mute n rfl
      refine C.of_quiet log h1 (fun h _ _ => (h2 h).1) (by rw [table])
        (by rw [table]; exact fun _ => rfl) ?_
      rw [table, h3]
      exact (UInt64.add_zero _).symm
  | accepted id absent log table opened =>
    have new : (⟨s.table.nextSerial, id⟩ : Handle) ∉ s.log.accepted := fun hh =>
      Nat.lt_irrefl _ (I.serial_lt _ hh)
    refine ⟨?_, fun k => ?_, ?_⟩
    · have := C.size
      rw [table, log, Log.undecided, Log.tally_accepted new]
      exact (Keyed.size_set _ absent).trans (congrArg (· + 1) this)
    · have := C.counter k
      rw [table, log, Log.ofKind, Log.tally_accepted new]
      cases k <;> exact this
    · rw [table, log, Log.strays_append]
      exact C.dropped
  | decided n id f o result log fate ends accepted T opened dropped =>
    cases hid : s.table.entries.get? id with
    | some m =>
      have hk := I.entry hid
      have waits : s.fate? ⟨m, id⟩ = none := (I.stage _ hk).fate_eq_none_iff.2 hid
      have stray : s.log.isStray n = false := by
        cases n with
        | received r =>
          have hr : r.requestId = id := by
            have := fate _ hk
            rw [if_pos rfl, Note.fate?] at this
            split at this
            · next h => exact h
            · cases this
          rw [Log.isStray, I.awaits_eq, hr, hid]; rfl
        | _ => rfl
      refine C.of_decided I log accepted hk waits (f := f) ?_ (fun h hh hne _ => ?_) ?_
        (fun j => ?_) stray ?_
      · rw [fate _ hk, if_pos rfl]
      · rw [fate h hh, if_neg fun he => hne (I.id_inj h hh _ hk he)]
      · rw [PendingTable.size, T.entries]
        exact Keyed.size_erase hid
      · rw [T.counter, hid]
        by_cases hj : j = f.kind <;> simp [hj]
      · rw [dropped, stray]; exact UInt64.add_zero _
    | none =>
      refine C.of_quiet log accepted (fun h hh h0 => ?_) ?_ (fun k => ?_) dropped
      · rw [fate h hh, if_neg]
        rintro rfl
        rw [(I.stage h hh).fate_eq_none_iff, hid] at h0
        cases h0
      · rw [PendingTable.size, T.entries, Keyed.erase_of_get?_eq_none hid]; rfl
      · rw [T.counter, hid]
        simp
  | closed k n mem log note table opened =>
    have hk := I.opened k mem
    have hn : n.accepted? = none := by rcases note with rfl | ⟨o, rfl, -⟩ <;> rfl
    have stray : s.log.isStray n = false := by rcases note with rfl | ⟨o, rfl, -⟩ <;> rfl
    have hf : ∀ h, h ≠ k → n.fate? h = none := fun h hne => by
      rcases note with rfl | ⟨o, rfl, -⟩
      · exact if_neg (Ne.symm hne)
      · rfl
    have dropped : s'.table.droppedReplies = s.table.droppedReplies := by
      rw [table, PendingTable.droppedReplies_drop]
    cases h0 : s.fate? k with
    | none =>
      have present := (I.stage k hk).fate_eq_none_iff.1 h0
      have left : n = .left k := note.resolve_right fun h => by
        obtain ⟨o, -, hs⟩ := h
        cases I.stage k hk with
        | waiting _ _ h3 => rw [h3] at hs; cases hs
        | settled _ _ h1 | concluded _ _ h1 | left _ h1 => rw [h0] at h1; cases h1
      refine C.of_decided I log hn hk h0 (f := .abandoned) ?_ (fun h _ hne _ => hf h hne) ?_
        (fun j => ?_) stray dropped
      · rw [left]; exact if_pos rfl
      · rw [PendingTable.size, table, PendingTable.entries_drop]
        exact Keyed.size_erase present
      · rw [table, PendingTable.counter_drop, present]
        by_cases hj : j = .abandoned <;> simp [hj, Fate.kind]
    | some f =>
      have gone := (I.stage k hk).gone h0
      refine C.of_quiet log hn (fun h _ hh => hf h ?_) ?_ (fun j => ?_) ?_
      · rintro rfl; rw [h0] at hh; cases hh
      · rw [PendingTable.size, table, PendingTable.entries_drop, Keyed.erase_of_get?_eq_none gone]
        rfl
      · rw [table, PendingTable.counter_drop, gone]
        simp
      · rw [dropped, stray]; exact (UInt64.add_zero _).symm

end CallGateway.Session
