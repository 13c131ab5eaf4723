import CallGateway.Proofs.Pending.History

/-!
# How handles are settled

`Effect` says all that an action can do to the entries and the handles of a table. `Track` follows
one handle through a history: it waits, then it is settled by the one action that removes its entry,
then the result is read or the handle is let go. Identifiers come back after their requests have
left the table, so what is followed is the handle and not the identifier.
-/

namespace CallGateway.PendingTable

/-! ## The steps of a table -/

/-- The entry of a request is gone, and the handle that waits for it has its result. -/
def settled (t : PendingTable) (id : Uuid) (serial : Nat) (o : CallResult) : PendingTable :=
  { t with
    entries := t.entries.erase id
    handles := t.handles.modify serial fun _ => .settled o }

/-- The table with one more request in it. -/
def entered (t : PendingTable) (id : Uuid) : PendingTable :=
  { t with
    entries := t.entries.set id t.nextSerial
    handles := t.handles.set t.nextSerial .waiting
    nextSerial := t.nextSerial + 1 }

theorem settle?_eq (t : PendingTable) (id : Uuid) (o : CallResult) :
    t.settle? id o = (t.entries.get? id).map fun n => t.settled id n o := rfl

theorem create_eq (t : PendingTable) (id : Uuid) :
    t.create id =
      match t.entries.get? id with
      | some _ => .error (.duplicateRequest id)
      | none => .ok (⟨t.nextSerial, id⟩, t.entered id) := by
  rw [create, contains, Keyed.contains]
  split <;> cases h : t.entries.get? id <;> simp_all [entered]

/-- What a step can do to entries and handles. The counters are left open. -/
inductive History.Effect (H : History) (r : Record) (held : List Handle) : Prop
  /-- Nothing that a handle can notice. -/
  | quiet (entries : r.after.entries = H.table.entries) (handles : r.after.handles = H.table.handles)
      (serial : r.after.nextSerial = H.table.nextSerial) (same : held = H.held)
      (answer : (∃ e, r.answer = .refused e) ∨ r.answer = .removed false ∨
        ∃ h s, r.answer = .shown h s ∧ ∀ o, s ≠ some (.settled o))
  | created (id : Uuid) (absent : H.table.entries.get? id = none)
      (entries : r.after.entries = H.table.entries.set id H.table.nextSerial)
      (handles : r.after.handles = H.table.handles.set H.table.nextSerial .waiting)
      (serial : r.after.nextSerial = H.table.nextSerial + 1)
      (more : held = H.held ++ [⟨H.table.nextSerial, id⟩])
      (answer : r.answer = .created ⟨H.table.nextSerial, id⟩)
  | settled (id : Uuid) (n : Nat) (o : CallResult) (present : H.table.entries.get? id = some n)
      (entries : r.after.entries = H.table.entries.erase id)
      (handles : r.after.handles = H.table.handles.modify n fun _ => .settled o)
      (serial : r.after.nextSerial = H.table.nextSerial) (same : held = H.held)
      (answer : r.answer = .removed true) (outcome : r.outcome? = some o)
  | read (h : Handle) (o : CallResult) (mem : h ∈ H.held)
      (settled : H.table.state? h = some (.settled o))
      (entries : r.after.entries = H.table.entries)
      (handles : r.after.handles = H.table.handles.set h.serial .read)
      (serial : r.after.nextSerial = H.table.nextSerial) (same : held = H.held)
      (answer : r.answer = .shown h (some (.settled o)))
  /-- A handle is let go. The entry of its identifier goes too, if there is one. -/
  | dropped (h : Handle) (mem : h ∈ H.held)
      (entries : r.after.entries = H.table.entries.erase h.requestId)
      (handles : r.after.handles = (match H.table.entries.get? h.requestId with
        | some n => H.table.handles.modify n fun _ => .settled (.error (.interrupted h.requestId))
        | none => H.table.handles).erase h.serial)
      (serial : r.after.nextSerial = H.table.nextSerial) (less : held = H.held.filter (· != h))
      (answer : r.answer = .dropped h)
      (outcome : r.outcome? = some (.error (.interrupted h.requestId)))

theorem History.handle?_mem {H : History} (h : H.handle? serial = some k) : k ∈ H.held :=
  List.mem_of_find?_eq_some h

theorem complete_eq (t : PendingTable) (r : Reply) :
    t.complete r =
      match t.entries.get? r.requestId with
      | some n => (true, { t.settled r.requestId n (.ok r) with completed := t.completed + 1 })
      | none => (false, { t with droppedReplies := t.droppedReplies + 1 }) := by
  rw [complete, settle?_eq]; cases t.entries.get? r.requestId <;> rfl

theorem expire_eq (t : PendingTable) (id : Uuid) (ms : UInt64) :
    t.expire id ms =
      match t.entries.get? id with
      | some n =>
        (true, { t.settled id n (.error (.timeout id ms)) with timedOut := t.timedOut + 1 })
      | none => (false, t) := by
  rw [expire, settle?_eq]; cases t.entries.get? id <;> rfl

theorem fail_eq (t : PendingTable) (id : Uuid) (e : GatewayError) :
    t.fail id e =
      match t.entries.get? id with
      | some n => (true, { t.settled id n (.error e) with failed := t.failed + 1 })
      | none => (false, t) := by
  rw [fail, settle?_eq]; cases t.entries.get? id <;> rfl

theorem drop_eq (t : PendingTable) (h : Handle) :
    t.drop h =
      match t.entries.get? h.requestId with
      | some n =>
        let s := t.settled h.requestId n (.error (.interrupted h.requestId))
        { s with interrupted := t.interrupted + 1, handles := s.handles.erase h.serial }
      | none => { t with handles := t.handles.erase h.serial } := by
  rw [drop, settle?_eq]; cases t.entries.get? h.requestId <;> rfl

theorem entries_complete (t : PendingTable) (r : Reply) :
    (t.complete r).2.entries = t.entries.erase r.requestId := by
  rw [complete_eq]
  cases hn : t.entries.get? r.requestId with
  | none => exact (Keyed.erase_of_get?_eq_none hn).symm
  | some n => rfl

theorem entries_expire (t : PendingTable) (id : Uuid) (ms : UInt64) :
    (t.expire id ms).2.entries = t.entries.erase id := by
  rw [expire_eq]
  cases hn : t.entries.get? id with
  | none => exact (Keyed.erase_of_get?_eq_none hn).symm
  | some n => rfl

theorem entries_fail (t : PendingTable) (id : Uuid) (e : GatewayError) :
    (t.fail id e).2.entries = t.entries.erase id := by
  rw [fail_eq]
  cases hn : t.entries.get? id with
  | none => exact (Keyed.erase_of_get?_eq_none hn).symm
  | some n => rfl

theorem entries_drop (t : PendingTable) (h : Handle) :
    (t.drop h).entries = t.entries.erase h.requestId := by
  rw [drop_eq]
  cases hn : t.entries.get? h.requestId with
  | none => exact (Keyed.erase_of_get?_eq_none hn).symm
  | some n => rfl

theorem poll_eq (t : PendingTable) (h : Handle) :
    t.poll h =
      match t.state? h with
      | some (.settled o) => (some (.settled o), { t with handles := t.handles.set h.serial .read })
      | s => (s, t) := rfl

theorem entries_poll (t : PendingTable) (h : Handle) : (t.poll h).2.entries = t.entries := by
  rw [poll_eq]
  split <;> rfl

/-- Everything that an action does is one of the effects. -/
theorem History.perform?_effect {H : History} {a : Action} {held : List Handle}
    (h : H.perform? a = some (answer, after, held)) :
    Effect H ⟨a, H.table, answer, after⟩ held := by
  cases a with
  | create id =>
    rw [perform?, create_eq] at h
    cases hid : H.table.entries.get? id with
    | some n => rw [hid] at h; cases h; exact .quiet rfl rfl rfl rfl (.inl ⟨_, rfl⟩)
    | none => rw [hid] at h; cases h; exact .created id hid rfl rfl rfl rfl rfl
  | complete reply =>
    rw [perform?, complete_eq] at h
    cases hid : H.table.entries.get? reply.requestId with
    | some n => rw [hid] at h; cases h; exact .settled _ n _ hid rfl rfl rfl rfl rfl rfl
    | none => rw [hid] at h; cases h; exact .quiet rfl rfl rfl rfl (.inr (.inl rfl))
  | expire id ms =>
    rw [perform?, expire_eq] at h
    cases hid : H.table.entries.get? id with
    | some n => rw [hid] at h; cases h; exact .settled _ n _ hid rfl rfl rfl rfl rfl rfl
    | none => rw [hid] at h; cases h; exact .quiet rfl rfl rfl rfl (.inr (.inl rfl))
  | fail id e =>
    rw [perform?, fail_eq] at h
    cases hid : H.table.entries.get? id with
    | some n => rw [hid] at h; cases h; exact .settled _ n _ hid rfl rfl rfl rfl rfl rfl
    | none => rw [hid] at h; cases h; exact .quiet rfl rfl rfl rfl (.inr (.inl rfl))
  | poll serial =>
    obtain ⟨k, hk, h⟩ := Option.map_eq_some_iff.1 h
    rw [poll_eq] at h
    cases hs : H.table.state? k with
    | none => rw [hs] at h; cases h; exact .quiet rfl rfl rfl rfl (.inr (.inr ⟨_, _, rfl, nofun⟩))
    | some s =>
      cases s with
      | settled o =>
        rw [hs] at h; cases h; exact .read k o (handle?_mem hk) hs rfl rfl rfl rfl rfl
      | waiting | read =>
        rw [hs] at h; cases h; exact .quiet rfl rfl rfl rfl (.inr (.inr ⟨_, _, rfl, nofun⟩))
  | drop serial =>
    obtain ⟨k, hk, h⟩ := Option.map_eq_some_iff.1 h
    rw [drop_eq] at h
    cases hid : H.table.entries.get? k.requestId with
    | some n =>
      rw [hid] at h; cases h
      exact .dropped k (handle?_mem hk) rfl (by rw [hid]; rfl) rfl rfl rfl rfl
    | none =>
      rw [hid] at h; cases h
      exact .dropped k (handle?_mem hk) (Keyed.erase_of_get?_eq_none hid).symm (by rw [hid])
        rfl rfl rfl rfl

/-! ## One handle in a history -/

namespace History

variable {H : History} {r : Record} {held : List Handle}

@[simp] theorem table_push : (H.push r held).table = r.after := rfl

@[simp] theorem held_push : (H.push r held).held = held := rfl

@[simp] theorem records_push : (H.push r held).records = H.records ++ [r] := rfl

theorem issued_push : (H.push r held).issued = H.issued ++ r.created?.toList := by
  simp only [issued, records_push, List.filterMap_append]
  cases h : r.created? <;> simp [h]

theorem removals_push (h : Handle) :
    (H.push r held).removals h = H.removals h ++ if r.Removes h then [r] else [] := by
  simp only [removals, records_push, List.filter_append]
  split <;> simp_all

theorem received_push (h : Handle) :
    (H.push r held).received h = H.received h ++ (r.shown? h).toList := by
  simp only [received, records_push, List.filterMap_append]
  cases hs : r.shown? h <;> simp [hs]

/-- How far a handle has come. -/
inductive Track (H : History) (h : Handle) : Prop
  | pending (held : h ∈ H.held) (pends : H.table.Pends h)
      (state : H.table.state? h = some .waiting)
      (removals : H.removals h = []) (received : H.received h = [])
  | settled (r : Record) (o : CallResult) (held : h ∈ H.held) (pends : ¬ H.table.Pends h)
      (state : H.table.state? h = some (.settled o))
      (removals : H.removals h = [r]) (outcome : r.outcome? = some o) (received : H.received h = [])
  | read (r : Record) (o : CallResult) (held : h ∈ H.held) (pends : ¬ H.table.Pends h)
      (state : H.table.state? h = some .read)
      (removals : H.removals h = [r]) (outcome : r.outcome? = some o)
      (received : H.received h = [o])
  /-- Let go, before or after the result has been read. -/
  | gone (r : Record) (o : CallResult) (held : h ∉ H.held) (pends : ¬ H.table.Pends h)
      (state : H.table.state? h = none)
      (removals : H.removals h = [r]) (outcome : r.outcome? = some o)
      (received : H.received h = [] ∨ H.received h = [o])

/-- A step that this handle does not notice. -/
theorem Track.frame (T : Track H h) (hb : r.before = H.table)
    (hp : r.after.Pends h ↔ H.table.Pends h) (hs : r.after.state? h = H.table.state? h)
    (hh : h ∈ held ↔ h ∈ H.held) (hn : r.shown? h = none) : Track (H.push r held) h := by
  have hr : ¬ r.Removes h := by rw [Record.Removes, hb, hp]; exact fun h => h.2 h.1
  have hrem : (H.push r held).removals h = H.removals h := by rw [removals_push, if_neg hr]; simp
  have hrec : (H.push r held).received h = H.received h := by rw [received_push, hn]; simp
  cases T with
  | pending h1 h2 h3 h4 h5 =>
    exact .pending (hh.2 h1) (hp.2 h2) (hs.trans h3) (hrem.trans h4) (hrec.trans h5)
  | settled r' o h1 h2 h3 h4 h5 h6 =>
    exact .settled r' o (hh.2 h1) (mt hp.1 h2) (hs.trans h3) (hrem.trans h4) h5 (hrec.trans h6)
  | read r' o h1 h2 h3 h4 h5 h6 =>
    exact .read r' o (hh.2 h1) (mt hp.1 h2) (hs.trans h3) (hrem.trans h4) h5 (hrec.trans h6)
  | gone r' o h1 h2 h3 h4 h5 h6 =>
    exact .gone r' o (mt hh.1 h1) (mt hp.1 h2) (hs.trans h3) (hrem.trans h4) h5 (by rwa [hrec])

/-- The entry of this handle goes, and the handle has its result. -/
theorem Track.settle (T : Track H h) (hb : r.before = H.table) (hp : H.table.Pends h)
    (hp' : ¬ r.after.Pends h) (ho : r.outcome? = some o)
    (hs : r.after.state? h = some (.settled o)) (hh : h ∈ held) (hn : r.shown? h = none) :
    Track (H.push r held) h := by
  cases T with
  | pending h1 h2 h3 h4 h5 =>
    refine .settled r o hh hp' hs ?_ ho ?_
    · rw [removals_push, h4, if_pos ⟨hb ▸ hp, hp'⟩]; rfl
    · rw [received_push, h5, hn]; rfl
  | settled _ _ _ h2 | read _ _ _ h2 | gone _ _ _ h2 => exact absurd hp h2

/-- What every history keeps. -/
structure Inv (H : History) : Prop where
  track : ∀ h ∈ H.issued, Track H h
  /-- Whoever waits for an entry still holds the handle. -/
  entry : ∀ {id n}, H.table.entries.get? id = some n → ⟨n, id⟩ ∈ H.held
  held_issued : ∀ h ∈ H.held, h ∈ H.issued
  serial_lt : ∀ h ∈ H.issued, h.serial < H.table.nextSerial
  serial_inj : ∀ h ∈ H.issued, ∀ k ∈ H.issued, h.serial = k.serial → h = k
  /-- Records speak of handles only after these have been given out. -/
  past : ∀ r ∈ H.records, ∀ h, r.before.Pends h ∨ r.shown? h ≠ none → h ∈ H.issued

theorem Inv.new : Inv {} where
  track _ h := absurd h List.not_mem_nil
  entry h := by cases h
  held_issued _ h := absurd h List.not_mem_nil
  serial_lt _ h := absurd h List.not_mem_nil
  serial_inj _ h := absurd h List.not_mem_nil
  past _ h := absurd h List.not_mem_nil

theorem Inv.pends_issued (I : Inv H) (h : H.table.Pends k) : k ∈ H.issued :=
  I.held_issued _ (I.entry h)

/-- A handle that nobody has got has no past. -/
theorem Inv.no_past (I : Inv H) (hk : k ∉ H.issued) : H.removals k = [] ∧ H.received k = [] := by
  constructor
  · refine List.filter_eq_nil_iff.2 fun r hr h => hk (I.past r hr k (.inl ?_))
    exact (of_decide_eq_true h).1
  · refine List.filterMap_eq_nil_iff.2 fun r hr => Classical.byContradiction fun h => ?_
    exact hk (I.past r hr k (.inr h))

/-- The handle whose number stands in an entry is the one that was given out for it. -/
theorem Inv.requestId_eq (I : Inv H) (hi : h ∈ H.issued) {id : Uuid}
    (present : H.table.entries.get? id = some h.serial) : h.requestId = id :=
  congrArg Handle.requestId (I.serial_inj _ hi _ (I.held_issued _ (I.entry present)) rfl)

/-- One step, seen from a handle that has been given out before. -/
theorem Inv.track_push (I : Inv H) (hb : r.before = H.table) (E : Effect H r held)
    (hi : h ∈ H.issued) : Track (H.push r held) h := by
  have T := I.track h hi
  cases E with
  | quiet entries handles _ same answer =>
    refine T.frame hb (by rw [Pends, entries]; rfl) (by rw [state?, handles]; rfl) (by rw [same]) ?_
    rcases answer with ⟨e, h⟩ | h | ⟨k, s, h, hs⟩
    · simp [Record.shown?, h]
    · simp [Record.shown?, h]
    · rw [Record.shown?, h]; grind
  | created id absent entries handles _ more answer =>
    have hlt := I.serial_lt h hi
    refine T.frame hb ?_ ?_ ?_ (by simp [Record.shown?, answer])
    · rw [Pends, entries, Keyed.get?_set, Pends]; grind
    · rw [state?, handles, Keyed.get?_set, if_neg (by omega)]; rfl
    · rw [more, List.mem_append, List.mem_singleton]
      exact ⟨fun h => h.resolve_right (by rintro rfl; exact Nat.lt_irrefl _ hlt), .inl⟩
  | settled id n o present entries handles _ same answer outcome =>
    have hn : r.shown? h = none := by simp [Record.shown?, answer]
    by_cases hs : h.serial = n
    · subst hs
      obtain rfl := I.requestId_eq hi present
      refine T.settle (o := o) hb present ?_ outcome ?_ (same ▸ I.entry present) hn
      · rw [Pends, entries, Keyed.get?_erase, if_pos rfl]
        intro h
        cases h
      · have hw : H.table.state? h = some .waiting := by
          cases T with
          | pending _ _ hw => exact hw
          | settled _ _ _ hp | read _ _ _ hp | gone _ _ _ hp => exact absurd present hp
        rw [state?, handles, Keyed.get?_modify, if_pos rfl, ← state?, hw]; rfl
    · refine T.frame hb ?_ ?_ (by rw [same]) hn
      · rw [Pends, entries, Keyed.get?_erase, Pends]; grind
      · rw [state?, handles, Keyed.get?_modify, if_neg hs]; rfl
  | read k o mem settled entries handles _ same answer =>
    have hp : r.after.Pends h ↔ H.table.Pends h := by rw [Pends, entries]; rfl
    by_cases hk : h = k
    · subst hk
      have hr : ¬ r.Removes h := by rw [Record.Removes, hb, hp]; exact fun h => h.2 h.1
      cases T with
      | settled r' o' h1 h2 h3 h4 h5 h6 =>
        obtain rfl : o' = o := by simpa [h3] using settled
        refine .read r' o' (same ▸ h1) (mt hp.1 h2) ?_ ?_ h5 ?_
        · simp [state?, handles, Keyed.get?_set]
        · rw [removals_push, h4, if_neg hr]; rfl
        · rw [received_push, h6, Record.shown?, answer]; simp
      | pending _ _ h3 | read _ _ _ _ h3 | gone _ _ _ _ h3 => simp [h3] at settled
    · have hs : h.serial ≠ k.serial := fun hs =>
        hk (I.serial_inj h hi k (I.held_issued k mem) hs)
      refine T.frame hb hp ?_ (by rw [same]) ?_
      · rw [state?, handles, Keyed.get?_set, if_neg hs]; rfl
      · simp [Record.shown?, answer, Ne.symm hk]
  | dropped k mem entries handles _ less answer outcome =>
    have hn : r.shown? h = none := by simp [Record.shown?, answer]
    by_cases hk : h = k
    · subst hk
      have hh : h ∉ held := by simp [less]
      have hp : ¬ r.after.Pends h := by
        rw [Pends, entries, Keyed.get?_erase, if_pos rfl]
        intro h
        cases h
      have hst : r.after.state? h = none := by
        rw [state?, handles, Keyed.get?_erase, if_pos rfl]
      have hrec : (H.push r held).received h = H.received h := by rw [received_push, hn]; simp
      cases T with
      | pending h1 h2 h3 h4 h5 =>
        refine .gone r _ hh hp hst ?_ outcome (.inl (hrec.trans h5))
        rw [removals_push, h4, if_pos ⟨hb ▸ h2, hp⟩]; rfl
      | settled r' o h1 h2 h3 h4 h5 h6 =>
        refine .gone r' o hh hp hst ?_ h5 (.inl (hrec.trans h6))
        rw [removals_push, h4, if_neg fun h => h2 (hb ▸ h.1)]; rfl
      | read r' o h1 h2 h3 h4 h5 h6 =>
        refine .gone r' o hh hp hst ?_ h5 (.inr (hrec.trans h6))
        rw [removals_push, h4, if_neg fun h => h2 (hb ▸ h.1)]; rfl
      | gone _ _ h1 => exact absurd mem h1
    · have hs : h.serial ≠ k.serial := fun hs =>
        hk (I.serial_inj h hi k (I.held_issued k mem) hs)
      have hh : h ∈ held ↔ h ∈ H.held := by simp [less, hk]
      by_cases present : H.table.entries.get? k.requestId = some h.serial
      · -- The identifier has come back: the entry that goes is that of the newer handle.
        have hid := I.requestId_eq hi present
        have hp : H.table.Pends h := by rw [Pends, hid, present]
        have hw : H.table.state? h = some .waiting := by
          cases T with
          | pending _ _ hw => exact hw
          | settled _ _ _ hp' | read _ _ _ hp' | gone _ _ _ hp' => exact absurd hp hp'
        refine T.settle (o := .error (.interrupted k.requestId)) hb hp ?_ outcome ?_
          (hh.2 (I.entry hp)) hn
        · rw [Pends, entries, Keyed.get?_erase, if_pos hid]
          intro h
          cases h
        · rw [state?, handles, Keyed.get?_erase, if_neg hs, present]
          simp only [Keyed.get?_modify, if_pos]
          rw [← state?, hw]; rfl
      · refine T.frame hb ?_ ?_ hh hn
        · rw [Pends, entries, Keyed.get?_erase, Pends]; grind
        · rw [state?, handles, Keyed.get?_erase, if_neg hs]
          cases hid : H.table.entries.get? k.requestId with
          | none => rfl
          | some n =>
            have hne : h.serial ≠ n := by rintro rfl; exact present hid
            simp only [Keyed.get?_modify, if_neg hne]; rfl

theorem Effect.of_created (E : Effect H r held) (hc : r.created? = some h) :
    ∃ id, h = ⟨H.table.nextSerial, id⟩ ∧ H.table.entries.get? id = none ∧
      r.after.entries = H.table.entries.set id H.table.nextSerial ∧
      r.after.handles = H.table.handles.set H.table.nextSerial .waiting ∧
      r.after.nextSerial = H.table.nextSerial + 1 ∧ held = H.held ++ [h] ∧ r.answer = .created h := by
  have hc' : r.answer = .created h := by
    revert hc; rw [Record.created?]; split <;> simp_all
  cases E with
  | created id absent entries handles serial more answer =>
    cases hc'.symm.trans answer
    exact ⟨id, rfl, absent, entries, handles, serial, more, hc'⟩
  | quiet _ _ _ _ answer => rcases answer with ⟨e, h⟩ | h | ⟨k, s, h, -⟩ <;> cases h.symm.trans hc'
  | settled _ _ _ _ _ _ _ _ answer | read _ _ _ _ _ _ _ _ answer | dropped _ _ _ _ _ _ answer =>
    cases answer.symm.trans hc'

theorem Effect.nextSerial_eq (E : Effect H r held) (hc : r.created? = none) :
    r.after.nextSerial = H.table.nextSerial := by
  cases E with
  | created _ _ _ _ _ _ answer => rw [Record.created?, answer] at hc; cases hc
  | quiet _ _ serial | settled _ _ _ _ _ _ serial | read _ _ _ _ _ _ serial
  | dropped _ _ _ _ serial => exact serial

theorem Effect.held_subset (E : Effect H r held) (h : k ∈ held) :
    k ∈ H.held ∨ r.created? = some k := by
  cases E with
  | created id _ _ _ _ more answer =>
    rw [more, List.mem_append, List.mem_singleton] at h
    exact h.imp_right fun h => by rw [Record.created?, answer, h]
  | quiet _ _ _ same | settled _ _ _ _ _ _ _ same | read _ _ _ _ _ _ _ same =>
    exact .inl (same ▸ h)
  | dropped _ _ _ _ _ less => rw [less] at h; exact .inl (List.mem_filter.1 h).1

theorem Effect.entry (E : Effect H r held) (I : Inv H) {id : Uuid} {n : Nat}
    (h : r.after.entries.get? id = some n) : ⟨n, id⟩ ∈ held := by
  cases E with
  | quiet entries _ _ same => rw [entries] at h; exact same ▸ I.entry h
  | read _ _ _ _ entries _ _ same => rw [entries] at h; exact same ▸ I.entry h
  | created id' _ entries _ _ more =>
    rw [entries, Keyed.get?_set] at h
    rw [more, List.mem_append, List.mem_singleton]
    split at h
    · cases h; subst id; exact .inr rfl
    · exact .inl (I.entry h)
  | settled id' _ _ _ entries _ _ same =>
    rw [entries, Keyed.get?_erase] at h
    split at h
    · cases h
    · exact same ▸ I.entry h
  | dropped k _ entries _ _ less =>
    rw [entries, Keyed.get?_erase] at h
    split at h
    · cases h
    · next hid =>
      have : (⟨n, id⟩ : Handle) ≠ k := by rintro rfl; exact hid rfl
      rw [less]
      exact List.mem_filter.2 ⟨I.entry h, by simpa using this⟩

theorem Effect.shown_held (E : Effect H r held) (h : r.shown? k ≠ none) : k ∈ H.held := by
  cases E with
  | read k' o mem _ _ _ _ _ answer =>
    simp only [Record.shown?, answer, ne_eq, ite_eq_right_iff, reduceCtorEq, imp_false,
      Decidable.not_not] at h
    exact h ▸ mem
  | quiet _ _ _ _ answer =>
    refine absurd ?_ h
    rcases answer with ⟨e, h⟩ | h | ⟨k', s, h, hs⟩
    · simp [Record.shown?, h]
    · simp [Record.shown?, h]
    · rw [Record.shown?, h]; grind
  | created _ _ _ _ _ _ answer | settled _ _ _ _ _ _ _ _ answer
  | dropped _ _ _ _ _ _ answer => simp [Record.shown?, answer] at h

/-- A handle that is new waits. -/
theorem Inv.track_created (I : Inv H) (hb : r.before = H.table) (E : Effect H r held)
    (hc : r.created? = some h) : Track (H.push r held) h := by
  obtain ⟨id, rfl, absent, entries, handles, _, more, answer⟩ := E.of_created hc
  have new : (⟨H.table.nextSerial, id⟩ : Handle) ∉ H.issued := fun hi =>
    Nat.lt_irrefl _ (I.serial_lt _ hi)
  obtain ⟨hrem, hrec⟩ := I.no_past new
  refine .pending (by simp [more]) ?_ ?_ ?_ ?_
  · rw [Pends, table_push, entries, Keyed.get?_set, if_pos rfl]
  · rw [state?, table_push, handles, Keyed.get?_set, if_pos rfl]
  · rw [removals_push, hrem, if_neg]
    · rfl
    · rw [Record.Removes, hb, Pends, absent]; exact fun h => nomatch h.1
  · rw [received_push, hrec, Record.shown?, answer]; rfl

theorem Inv.push (I : Inv H) (hb : r.before = H.table) (E : Effect H r held) :
    Inv (H.push r held) := by
  have hi : ∀ h, h ∈ (H.push r held).issued ↔ h ∈ H.issued ∨ r.created? = some h := fun h => by
    rw [issued_push, List.mem_append, Option.mem_toList]
  refine ⟨fun h h1 => ?_, fun h => E.entry I h, fun h h1 => ?_, fun h h1 => ?_,
    fun h h1 k k1 hs => ?_, fun r' hr' k hk => ?_⟩
  · exact ((hi h).1 h1).elim (I.track_push hb E) (I.track_created hb E)
  · exact (hi h).2 ((E.held_subset h1).imp_left (I.held_issued h))
  · rw [table_push]
    rcases (hi h).1 h1 with h1 | hc
    · have := I.serial_lt h h1
      cases hc : r.created? with
      | none => rw [E.nextSerial_eq hc]; exact this
      | some k => obtain ⟨_, _, _, _, _, hs, _⟩ := E.of_created hc; omega
    · obtain ⟨_, rfl, _, _, _, hs, _⟩ := E.of_created hc
      rw [hs]; exact Nat.lt_succ_self _
  · -- The number of a new handle is that of no earlier one.
    have new : ∀ {h k}, h ∈ H.issued → r.created? = some k → h.serial ≠ k.serial := by
      intro h k h1 hc
      obtain ⟨_, rfl, _⟩ := E.of_created hc
      exact Nat.ne_of_lt (I.serial_lt h h1)
    rcases (hi h).1 h1 with h1 | hc <;> rcases (hi k).1 k1 with k1 | hc'
    · exact I.serial_inj h h1 k k1 hs
    · exact absurd hs (new h1 hc')
    · exact absurd hs.symm (new k1 hc)
    · rw [hc] at hc'; cases hc'; rfl
  · refine (hi k).2 (.inl ?_)
    rw [records_push, List.mem_append, List.mem_singleton] at hr'
    rcases hr' with hr' | rfl
    · exact I.past r' hr' k hk
    · rcases hk with hp | hs
      · exact I.pends_issued (hb ▸ hp)
      · exact I.held_issued k (E.shown_held hs)

theorem Inv.act (I : Inv H) (a : Action) : Inv (H.act a) := by
  rw [History.act]
  cases h : H.perform? a with
  | none => exact I
  | some p => exact I.push rfl (perform?_effect h)

theorem Inv.run (actions : List Action) : Inv (run actions) :=
  run_induction .new (fun _ a I => I.act a) actions

end History

end CallGateway.PendingTable
