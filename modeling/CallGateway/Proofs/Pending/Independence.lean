import CallGateway.Proofs.Pending.Lines

/-!
# The independence of requests

In whatever order the moves for several requests are mixed, as long as those for each request keep
their own order, every move is told the same, every handle ends the same way, and the same requests
and counters are left. A run is cut into one run for each line, and these do not know of each other.
-/

namespace CallGateway

theorem Keyed.mem_keys [DecidableEq κ] {m : Keyed κ α} {k : κ} :
    k ∈ m.keys ↔ (m.get? k).isSome := by
  rw [Option.isSome_iff_ne_none, get?, Ne, lookup_eq_none, Decidable.not_not, keys]

theorem Keyed.size_eq [DecidableEq κ] {m : Keyed κ α} {l : Keyed κ β}
    (h : ∀ k, (m.get? k).isSome = (l.get? k).isSome) : m.size = l.size := by
  have hp : m.keys.Perm l.keys :=
    (List.perm_ext_iff_of_nodup m.nodup l.nodup).2 fun k =>
      mem_keys.trans ((h k).symm ▸ mem_keys.symm)
  simpa only [keys, size, List.length_map] using hp.length_eq

/-- Two lists that agree under each key have the same items. -/
theorem perm_of_filter_eq [DecidableEq κ] {key : α → κ} {xs ys : List α}
    (h : ∀ k, xs.filter (key · = k) = ys.filter (key · = k)) : xs.Perm ys := by
  classical
  refine List.perm_iff_count.2 fun a => ?_
  have count (zs : List α) : (zs.filter (key · = key a)).count a = zs.count a :=
    List.count_filter (decide_eq_true rfl)
  rw [← count xs, h, count]

namespace PendingTable

namespace Line

def follow (L : Line) (ms : List Move) : Line := ms.foldl (fun L m => (L.turn m.id m.deed).line) L

/-- The moves with what comes of each. -/
def turns (L : Line) : List Move → List (Move × Turn)
  | [] => []
  | m :: ms => (m, L.turn m.id m.deed) :: turns (L.turn m.id m.deed).line ms

end Line

namespace History

variable {H : History}

/-- The moves with what the line of each says. -/
def turns (H : History) : List Move → List (Move × Turn)
  | [] => []
  | m :: ms => (m, (H.line m.id).turn m.id m.deed) :: turns (H.move m) ms

/-! ## A run, line by line -/

theorem Orderly.run (actions : List Action) : Orderly (run actions) :=
  run_induction .new (fun _ a O => O.act a) actions

theorem Orderly.follow (O : Orderly H) (ms : List Move) : Orderly (H.follow ms) := by
  induction ms generalizing H with
  | nil => exact O
  | cons m ms ih => exact ih (O.move m)

theorem Orderly.line_move (O : Orderly H) (m : Move) (id : Uuid) : (H.move m).line id =
    if m.id = id then ((H.line id).turn m.id m.deed).line else H.line id := by
  split
  · next h => exact h ▸ (O.turn m).line
  · next h => exact (O.turn m).others id (Ne.symm h)

theorem Orderly.line_follow (O : Orderly H) (ms : List Move) (id : Uuid) :
    (H.follow ms).line id = (H.line id).follow (ms.filter (·.id = id)) := by
  induction ms generalizing H with
  | nil => rfl
  | cons m ms ih =>
    have hstep := (ih (O.move m)).trans (by rw [O.line_move])
    by_cases h : m.id = id
    · subst h
      simp only [List.filter_cons, decide_true, if_true] at hstep ⊢
      exact hstep
    · simp only [List.filter_cons, h, decide_false, if_false, Bool.false_eq_true] at hstep ⊢
      exact hstep

theorem Orderly.turns_filter (O : Orderly H) (ms : List Move) (id : Uuid) :
    (H.turns ms).filter (·.1.id = id) = (H.line id).turns (ms.filter (·.id = id)) := by
  induction ms generalizing H with
  | nil => rfl
  | cons m ms ih =>
    have hstep := (ih (O.move m)).trans (by rw [O.line_move])
    by_cases h : m.id = id
    · simp only [turns, List.filter_cons, h, decide_true, if_true, Line.turns] at hstep ⊢
      rw [hstep]
    · simp only [turns, List.filter_cons, h, decide_false, if_false, Bool.false_eq_true] at hstep ⊢
      exact hstep

theorem Orderly.answers_eq (O : Orderly H) (ms : List Move) :
    H.answers ms = (H.turns ms).map fun p => (p.1, p.2.told) := by
  induction ms generalizing H with
  | nil => rfl
  | cons m ms ih => rw [answers, turns, List.map_cons, ih (O.move m), (O.turn m).told]

/-- A counter goes up by the number of moves whose lines say so. -/
theorem Orderly.reading_follow (O : Orderly H) (ms : List Move) (c : Counter) :
    (H.follow ms).table.reading c =
      H.table.reading c + UInt64.ofNat ((H.turns ms).countP (·.2.counter = some c)) := by
  induction ms generalizing H with
  | nil => exact (UInt64.add_zero _).symm
  | cons m ms ih =>
    refine (ih (O.move m)).trans ?_
    rw [(O.turn m).counter, turns, List.countP_cons]
    by_cases h : ((H.line m.id).turn m.id m.deed).counter = some c
    · rw [if_pos h, if_pos (decide_eq_true h), UInt64.ofNat_add, UInt64.add_assoc,
        UInt64.add_comm 1]
      rfl
    · rw [if_neg h, if_neg (by simpa using h), UInt64.add_zero, Nat.add_zero]

/-- The lines tell which requests are in the table, and which handle waits for each. -/
theorem Orderly.waiter?_eq (O : Orderly H) (id : Uuid) : H.waiter? id =
    if (H.line id).pending then some ((H.line id).findIdx (·.waits)) else none := by
  rw [O.inv.pending_line, waiter?]
  cases hid : H.table.entries.get? id with
  | none => rfl
  | some n =>
    have same : ∀ h ∈ H.handlesOf id, decide (h.serial = n) = (H.slot h).waits := by
      intro h hh
      obtain ⟨hi, he⟩ := mem_handlesOf.1 hh
      rw [Bool.eq_iff_iff, decide_eq_true_iff, O.inv.serial_eq_iff hi hid]
      exact ⟨And.right, And.intro he⟩
    refine congrArg some ?_
    calc (H.handlesOf id).findIdx (·.serial = n)
      _ = ((H.handlesOf id).map fun h => decide (h.serial = n)).findIdx (·) :=
        (List.findIdx_map _ _ fun b => b).symm
      _ = ((H.handlesOf id).map fun h => (H.slot h).waits).findIdx (·) := by
        rw [List.map_congr_left same]
      _ = (H.line id).findIdx (·.waits) := by
        rw [line, List.findIdx_map, List.findIdx_map]
        rfl

/-! ## Two orders of the same moves -/

/-- Nobody can tell in which of two orders the moves have been made. -/
structure Alike (H : History) (s t : List Move) : Prop where
  told : ∀ id, (H.answers s).filter (·.1.id = id) = (H.answers t).filter (·.1.id = id)
  /-- What the handles of a request show, and their outcomes. -/
  handles : ∀ id, (H.follow s).line id = (H.follow t).line id
  entries : ∀ id, (H.follow s).waiter? id = (H.follow t).waiter? id
  stats : (H.follow s).table.stats = (H.follow t).table.stats

theorem Orderly.alike (O : Orderly H) {s t : List Move}
    (same : ∀ id, s.filter (·.id = id) = t.filter (·.id = id)) : Alike H s t := by
  have lines (id : Uuid) : (H.follow s).line id = (H.follow t).line id := by
    rw [O.line_follow, O.line_follow, same]
  have turns (id : Uuid) : (H.turns s).filter (·.1.id = id) = (H.turns t).filter (·.1.id = id) := by
    rw [O.turns_filter, O.turns_filter, same]
  have readings (c : Counter) : (H.follow s).table.reading c = (H.follow t).table.reading c := by
    rw [O.reading_follow, O.reading_follow, (perm_of_filter_eq turns).countP_eq]
  have pending (id : Uuid) : ((H.follow s).table.entries.get? id).isSome =
      ((H.follow t).table.entries.get? id).isSome := by
    rw [← (O.follow s).inv.pending_line, ← (O.follow t).inv.pending_line, lines]
  have size : (H.follow s).table.size = (H.follow t).table.size := Keyed.size_eq pending
  refine ⟨fun id => ?_, lines, fun id => ?_, ?_⟩
  · rw [O.answers_eq, O.answers_eq, List.filter_map, List.filter_map]
    exact congrArg _ (turns id)
  · rw [(O.follow s).waiter?_eq, (O.follow t).waiter?_eq, lines]
  · exact PendingStats.mk.injEq .. ▸ ⟨congrArg UInt64.ofNat size, readings .completed,
      readings .timedOut, readings .failed, readings .interrupted, readings .droppedReplies⟩

/-- After any history it makes no difference how the moves for different requests are mixed. -/
theorem run_alike (actions : List Action) {s t : List Move}
    (same : ∀ id, s.filter (·.id = id) = t.filter (·.id = id)) : Alike (run actions) s t :=
  (Orderly.run actions).alike same

/-- Two requests whose replies come out of order, one of them entered again before its first handle
is let go, and the same two one after the other. -/
theorem crossed_alike :
    let a : Uuid := ⟨1⟩
    let b : Uuid := ⟨2⟩
    let s : List Move := [⟨a, .create⟩, ⟨b, .create⟩, ⟨b, .complete (.success .null)⟩,
      ⟨a, .expire 5⟩, ⟨b, .create⟩, ⟨a, .poll 0⟩, ⟨b, .drop 0⟩, ⟨a, .complete (.success .null)⟩]
    let t : List Move := [⟨a, .create⟩, ⟨a, .expire 5⟩, ⟨a, .poll 0⟩,
      ⟨a, .complete (.success .null)⟩, ⟨b, .create⟩, ⟨b, .complete (.success .null)⟩,
      ⟨b, .create⟩, ⟨b, .drop 0⟩]
    (∀ id, s.filter (·.id = id) = t.filter (·.id = id)) ∧ Alike (run []) s t ∧
      ((run []).follow s).table.stats = ⟨0, 1, 1, 0, 1, 1⟩ := by
  intro a b s t
  have same (id : Uuid) : s.filter (·.id = id) = t.filter (·.id = id) := by
    by_cases ha : a = id
    · subst ha
      rfl
    · by_cases hb : b = id
      · subst hb
        rfl
      · simp [s, t, ha, hb]
  exact ⟨same, run_alike [] same, by decide +kernel⟩

/-! ## Actions are moves -/

/-- A handle that is held has a place in the line of its request. -/
theorem Orderly.getElem?_of_handle? (O : Orderly H) {serial : Nat} {k : Handle}
    (hk : H.handle? serial = some k) :
    ∃ n : Nat, (H.handlesOf k.requestId)[n]? = some k ∧ k.serial = serial := by
  have hi := O.inv.held_issued k (handle?_mem hk)
  obtain ⟨n, hn⟩ := List.mem_iff_getElem?.1 (mem_handlesOf.2 ⟨hi, rfl⟩)
  exact ⟨n, hn, beq_iff_eq.1 (List.find?_some (p := fun k : Handle => k.serial == serial) hk)⟩

theorem act_of_none {a : Action} (h : H.perform? a = none) : H.act a = H := by rw [act, h]

/-- What can be done with a handle is a move too. Where there is no such handle, nothing is done. -/
theorem Orderly.exists_move_of_handle (O : Orderly H) {act : Nat → Action} (deed : Nat → Deed)
    (move : ∀ id n, H.action? ⟨id, deed n⟩ = (H.handlesOf id)[n]?.map fun h => act h.serial)
    (nobody : ∀ serial, H.handle? serial = none → H.perform? (act serial) = none) (serial : Nat) :
    ∃ m, H.move m = H.act (act serial) := by
  cases hk : H.handle? serial with
  | none =>
    refine ⟨⟨⟨0⟩, deed (H.handlesOf ⟨0⟩).length⟩, ?_⟩
    rw [History.move, move, List.getElem?_eq_none (Nat.le_refl _), act_of_none (nobody serial hk)]
    rfl
  | some k =>
    obtain ⟨n, hn, hserial⟩ := O.getElem?_of_handle? hk
    refine ⟨⟨k.requestId, deed n⟩, ?_⟩
    rw [History.move, move, hn, ← hserial]
    rfl

theorem Orderly.exists_move (O : Orderly H) (a : Action) : ∃ m, H.move m = H.act a := by
  cases a with
  | create id => exact ⟨⟨id, .create⟩, rfl⟩
  | complete r => exact ⟨⟨r.requestId, .complete r.outcome⟩, rfl⟩
  | expire id ms => exact ⟨⟨id, .expire ms⟩, rfl⟩
  | fail id e => exact ⟨⟨id, .fail e⟩, rfl⟩
  | poll serial =>
    exact O.exists_move_of_handle .poll (fun _ _ => rfl) (fun n h => by rw [perform?, h]; rfl) serial
  | drop serial =>
    exact O.exists_move_of_handle .drop (fun _ _ => rfl) (fun n h => by rw [perform?, h]; rfl) serial

/-- Every history of a new table is one of moves. -/
theorem exists_follow_eq_run (actions : List Action) : ∃ ms, follow {} ms = run actions := by
  suffices h : ∀ H, Orderly H → ∃ ms, H.follow ms = actions.foldl act H from h {} .new
  induction actions with
  | nil => exact fun _ _ => ⟨[], rfl⟩
  | cons a actions ih =>
    intro H O
    obtain ⟨m, hm⟩ := O.exists_move a
    obtain ⟨ms, hms⟩ := ih (H.act a) (O.act a)
    exact ⟨m :: ms, by rw [List.foldl_cons, ← hms, ← hm]; rfl⟩

end History

end PendingTable

end CallGateway
