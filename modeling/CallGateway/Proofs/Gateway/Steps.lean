import CallGateway.Proofs.Gateway.Happens

/-!
# The steps of a session

Every event has one of the effects, and every effect keeps every call at some stage.
-/

namespace CallGateway

namespace Session

variable {s s' : Session} {n : Note} {h k : Handle}

theorem map_handle_filter (calls : List OpenCall) (k : Handle) :
    (calls.filter (·.handle != k)).map (·.handle) = (calls.map (·.handle)).filter (· != k) := by
  rw [List.filter_map]; rfl

/-- A step without a note which leaves the table and the calls alone. -/
theorem Effect.of_silent (log : s'.log = s.log) (table : s'.table = s.table)
    (opened : s'.opened = s.opened) : Effect s s' :=
  .quiet none (log.trans (List.append_nil _).symm) nofun table opened

/-- A step with one note, which no call cares about. -/
theorem Effect.of_mute (n : Note) (log : s'.log = s.log ++ [n]) (accepted : n.accepted? = none)
    (mute : ∀ h, n.fate? h = none ∧ n.ends h = false) (stray : ∀ l, Log.isStray l n = false)
    (table : s'.table = s.table) (opened : s'.opened = s.opened) : Effect s s' :=
  .quiet (some n) log (fun _ h => Option.some.inj h ▸ ⟨accepted, mute, stray⟩) table opened

/-- Some call waits for a reply exactly if its request is in the table. -/
theorem Inv.awaits_eq (I : Inv s) (id : Uuid) :
    s.log.awaits id = (s.table.entries.get? id).isSome := by
  rw [Bool.eq_iff_iff, Log.awaits_iff, Option.isSome_iff_exists]
  constructor
  · rintro ⟨h, hh, rfl, hf⟩
    exact ⟨_, (I.stage h hh).fate_eq_none_iff.1 hf⟩
  · rintro ⟨m, hm⟩
    have hh := I.entry hm
    exact ⟨_, hh, rfl, (I.stage _ hh).fate_eq_none_iff.2 hm⟩

/-- The end of a call's time is not noticed by the other calls. -/
theorem Inv.fate?_expired (I : Inv s) {ms : UInt64} (hh : h ∈ s.accepted) (hk : k ∈ s.opened) :
    (Note.expired k ms).fate? h = if h.requestId = k.requestId then some (.overdue ms) else none := by
  rw [Note.fate?]
  by_cases he : k = h
  · rw [if_pos he, if_pos (congrArg Handle.requestId he).symm]
  · rw [if_neg he, if_neg fun hid => he (I.id_inj h hh _ (I.opened _ hk) hid).symm]

theorem mem_opened_of_getElem? {i : Nat} {c : OpenCall} (hc : s.gateway.calls[i]? = some c) :
    c.handle ∈ s.opened :=
  List.mem_map_of_mem (List.mem_of_getElem? hc)

theorem state?_of_result? {t : PendingTable} (H : t.result? h = some o) :
    t.state? h = some (.settled o) := by
  rw [PendingTable.result?] at H
  split at H
  · next hs => cases H; exact hs
  · cases H

/-- A message that comes on the reply topic decides a call or is of no use. -/
theorem Inv.effect_take (I : Inv s) (payload : Bytes) (b : Broker) :
    Effect s { s with
      gateway := s.gateway.take payload
      broker := b
      log := s.log ++ [taking payload] } := by
  rw [Gateway.take, taking]
  cases Reply.ofBytes payload with
  | error _ =>
    exact .of_mute (.discarded payload) rfl rfl (fun _ => ⟨rfl, rfl⟩) (fun _ => rfl) rfl rfl
  | ok r =>
    refine .decided (.received r) r.requestId (.replied r) _ rfl rfl (fun h _ => ?_) (fun _ => rfl)
      rfl (.complete _ _) rfl ?_
    · simp only [Note.fate?, eq_comm]
    · rw [Log.isStray, I.awaits_eq, Option.not_isSome]
      exact PendingTable.droppedReplies_complete ..

theorem Happens.effect {e : Event} (H : s.Happens e s') (I : Inv s) : Effect s s' := by
  cases H with
  | refuse =>
    exact .of_mute (.refused _ _) rfl rfl (fun _ => ⟨rfl, rfl⟩) (fun _ => rfl) rfl rfl
  | accept _ new => exact .accepted _ new rfl rfl List.map_append
  | @fail _ r err =>
    refine .decided (.unsent r.requestId r.topic err.message) r.requestId
      (.unsent r.topic err.message) _ rfl rfl (fun h _ => ?_) (fun _ => rfl) rfl (.fail _ _ _ _)
      rfl ?_
    · simp only [Note.fate?, eq_comm]
    · exact (PendingTable.droppedReplies_fail ..).trans (UInt64.add_zero _).symm
  | listen => exact I.effect_take _ _
  | expire hc =>
    exact .decided (.expired _ _) _ (.overdue _) _ rfl rfl
      (fun h hh => I.fate?_expired hh (mem_opened_of_getElem? hc)) (fun _ => rfl) rfl
      (.expire _ _ _) rfl ((PendingTable.droppedReplies_expire ..).trans (UInt64.add_zero _).symm)
  | conclude hc ho =>
    exact .closed _ (.concluded _ _) (mem_opened_of_getElem? hc) rfl
      (.inr ⟨_, rfl, state?_of_result? ho⟩) rfl (map_handle_filter ..)
  | leave hc =>
    exact .closed _ (.left _) (List.mem_map_of_mem (List.mem_of_find?_eq_some hc)) rfl (.inl rfl)
      rfl (map_handle_filter ..)
  | publish | startListener | stopListener | tick | elsewhere => exact .of_silent rfl rfl rfl
  | noRequest | noMessage | notLate | noResult | noCall | noListener =>
    exact .of_silent rfl rfl rfl

/-- Everything that an event does is one of the effects. -/
theorem Inv.effect (I : Inv s) (e : Event) : Effect s (s.step e) := (s.happens e).effect I

/-! ## What steps keep -/

theorem Inv.start (config : GatewayConfig) (b : Broker) : Inv (start config b) where
  stage _ h := absurd h List.not_mem_nil
  entry h := by cases h
  opened _ h := absurd h List.not_mem_nil
  serial_lt _ h := absurd h List.not_mem_nil
  serial_inj _ h := absurd h List.not_mem_nil
  submitted _ h := absurd h List.not_mem_nil
  ends _ h := absurd h List.not_mem_nil
  id_inj _ h := absurd h List.not_mem_nil
  nodup := .nil

/-- A step that accepts no call. -/
theorem accepted_of_log (log : s'.log = s.log ++ [n]) (hn : n.accepted? = none) :
    s'.accepted = s.accepted := by
  rw [accepted, log, Log.accepted_append, hn]; exact List.append_nil _

theorem fate?_of_log (hh : h ∈ s.accepted) (log : s'.log = s.log ++ [n]) :
    s'.fate? h = (s.fate? h).or (n.fate? h) := by
  rw [fate?, log, Log.fate?_append hh]; rfl

theorem endings_of_log (log : s'.log = s.log ++ [n]) :
    s'.endings h = s.endings h ++ if n.ends h then [n] else [] := by
  rw [endings, log, Log.endings_append]; rfl

/-- One step with a note, seen from a call whose fate it does not tell. -/
theorem frame_of_log (hh : h ∈ s.accepted) (log : s'.log = s.log ++ [n])
    (fate : s.fate? h = none → n.fate? h = none) (ends : n.ends h = false)
    (entry : s'.table.entries.get? h.requestId = s.table.entries.get? h.requestId)
    (state : s'.table.state? h = s.table.state? h) (opened : h ∈ s'.opened ↔ h ∈ s.opened) :
    Frame s s' h where
  fate h0 := by rw [fate?_of_log hh log, h0, fate h0]; rfl
  fated f hf := by rw [fate?_of_log hh log, hf]; rfl
  entry := entry
  state := state
  opened := opened
  endings := by rw [endings_of_log log, ends]; exact List.append_nil _

/-- A mute step is not seen from any call. -/
theorem frame_quiet {m : Option Note} (hh : h ∈ s.accepted) (log : s'.log = s.log ++ m.toList)
    (mute : ∀ n, m = some n → n.fate? h = none ∧ n.ends h = false) (table : s'.table = s.table)
    (opened : s'.opened = s.opened) : Frame s s' h := by
  cases m with
  | none =>
    have log : s'.log = s.log := log.trans (List.append_nil _)
    exact ⟨fun h => by rwa [fate?, log], fun f h => by rwa [fate?, log], by rw [table],
      by rw [table], by rw [opened], by rw [endings, log, endings]⟩
  | some n =>
    obtain ⟨h1, h2⟩ := mute n rfl
    exact frame_of_log hh log (fun _ => h1) h2 (by rw [table]) (by rw [table]) (by rw [opened])

/-- The handle in an entry is that of the call whose request it is. -/
theorem Inv.serial_ne (I : Inv s) (hh : h ∈ s.accepted) {id : Uuid} {m : Nat}
    (present : s.table.entries.get? id = some m) (hid : h.requestId ≠ id) : h.serial ≠ m := by
  rintro rfl
  exact hid (congrArg Handle.requestId (I.serial_inj h hh _ (I.entry present) rfl))

theorem Inv.stage_accepted (I : Inv s) {id : Uuid} (fresh : id ∉ s.log.submitted)
    (log : s'.log = s.log ++ [.accepted ⟨s.table.nextSerial, id⟩])
    (entries : s'.table.entries = s.table.entries.set id s.table.nextSerial)
    (handles : s'.table.handles = s.table.handles.set s.table.nextSerial .waiting)
    (opened : s'.opened = s.opened ++ [⟨s.table.nextSerial, id⟩])
    (hh : h ∈ s.accepted ∨ h = ⟨s.table.nextSerial, id⟩) : Stage s' h := by
  rcases hh with hh | rfl
  · have hs := I.serial_lt h hh
    have hid : h.requestId ≠ id := fun he => fresh (he ▸ I.submitted h hh)
    refine (I.stage h hh).frame (frame_of_log hh log (fun _ => rfl) rfl ?_ ?_ ?_)
    · rw [entries, Keyed.get?_set, if_neg hid]
    · rw [PendingTable.state?, handles, Keyed.get?_set, if_neg (Nat.ne_of_lt hs)]; rfl
    · rw [opened, List.mem_append, List.mem_singleton]
      exact ⟨fun h => h.resolve_right fun he => hid (congrArg Handle.requestId he), .inl⟩
  · have new : (⟨s.table.nextSerial, id⟩ : Handle) ∉ s.accepted := fun hh =>
      Nat.lt_irrefl _ (I.serial_lt _ hh)
    refine .waiting ?_ ?_ ?_ ?_ ?_
    · rw [fate?, log]; exact Log.fate?_append_of_not_mem new
    · rw [PendingTable.Pends, entries, Keyed.get?_set, if_pos rfl]
    · rw [PendingTable.state?, handles, Keyed.get?_set, if_pos rfl]
    · rw [opened]; exact List.mem_append_right _ (.head _)
    · rw [endings_of_log log]
      refine (List.append_nil _).trans (List.filter_eq_nil_iff.2 fun n hn he => ?_)
      exact new (I.ends n hn _ he)

theorem Inv.stage_decided (I : Inv s) {id : Uuid} (log : s'.log = s.log ++ [n])
    (result : f.result? id = some o) (fate : n.fate? h = if h.requestId = id then some f else none)
    (ends : n.ends h = false) (T : s.table.Decides s'.table id f o) (opened : s'.opened = s.opened)
    (hh : h ∈ s.accepted) : Stage s' h := by
  have S := I.stage h hh
  by_cases hid : h.requestId = id
  · subst hid
    cases S with
    | waiting h1 h2 h3 h4 h5 =>
      refine .settled f o ?_ result ?_ ?_ (opened ▸ h4) ?_
      · rw [fate?_of_log hh log, h1, fate, if_pos rfl]; rfl
      · rw [T.entries, Keyed.get?_erase, if_pos rfl]
      · rw [PendingTable.state?, T.handles, h2]
        dsimp only
        rw [Keyed.get?_modify, if_pos rfl, ← PendingTable.state?, h3]; rfl
      · rw [endings_of_log log, ends, h5]; rfl
    | settled _ _ hf _ gone | concluded _ _ hf _ gone | left _ hf gone =>
      -- The fate of the call is known, and its request is no longer in the table.
      refine (I.stage h hh).frame (frame_of_log hh log (fun h0 => ?_) ends ?_ ?_ (by rw [opened]))
      · rw [hf] at h0; cases h0
      · rw [T.entries, Keyed.get?_erase, if_pos rfl, gone]
      · rw [PendingTable.state?, T.handles, gone]; rfl
  · refine S.frame (frame_of_log hh log (fun _ => ?_) ends ?_ ?_ (by rw [opened]))
    · rw [fate, if_neg hid]
    · rw [T.entries, Keyed.get?_erase, if_neg hid]
    · rw [PendingTable.state?, T.handles]
      cases hm : s.table.entries.get? id with
      | none => rfl
      | some m =>
        dsimp only
        rw [Keyed.get?_modify, if_neg (I.serial_ne hh hm hid)]; rfl

theorem Inv.stage_closed (I : Inv s) (mem : k ∈ s.opened) (log : s'.log = s.log ++ [n])
    (note : n = .left k ∨ ∃ o, n = .concluded k o ∧ s.table.state? k = some (.settled o))
    (table : s'.table = s.table.drop k) (opened : s'.opened = s.opened.filter (· != k))
    (hh : h ∈ s.accepted) : Stage s' h := by
  have S := I.stage h hh
  have hk := I.opened k mem
  by_cases he : h = k
  · subst he
    have gone : s'.table.entries.get? h.requestId = none := by
      rw [table, PendingTable.entries_drop, Keyed.get?_erase, if_pos rfl]
    have closed : h ∉ s'.opened := by rw [opened]; simp
    rcases note with rfl | ⟨o, rfl, hs⟩
    · have hl : s.endings h = [] → s'.endings h = [.left h] := fun h0 => by
        rw [endings_of_log log, h0, Note.ends, decide_eq_true rfl]; rfl
      cases S with
      | waiting h1 _ _ _ h5 =>
        refine .left .abandoned ?_ gone closed (hl h5)
        rw [fate?_of_log hh log, h1, Note.fate?, if_pos rfl]; rfl
      | settled f _ h1 _ _ _ _ h6 =>
        refine .left f ?_ gone closed (hl h6)
        rw [fate?_of_log hh log, h1]; rfl
      | concluded _ _ _ _ _ h4 | left _ _ _ h4 => exact absurd mem h4
    · cases S with
      | waiting _ _ h3 => rw [h3] at hs; cases hs
      | settled f o' h1 h2 _ h4 _ h6 =>
        rw [h4] at hs
        cases hs
        refine .concluded f o ?_ h2 gone closed ?_
        · rw [fate?_of_log hh log, h1]; rfl
        · rw [endings_of_log log, h6, Note.ends, decide_eq_true rfl]; rfl
      | concluded _ _ _ _ _ h4 | left _ _ _ h4 => exact absurd mem h4
  · have hid : h.requestId ≠ k.requestId := fun hid => he (I.id_inj h hh k hk hid)
    have hs : h.serial ≠ k.serial := fun hs => he (I.serial_inj h hh k hk hs)
    have hn : n.fate? h = none ∧ n.ends h = false := by
      rcases note with rfl | ⟨o, rfl, -⟩
      · exact ⟨if_neg (Ne.symm he), decide_eq_false (Ne.symm he)⟩
      · exact ⟨rfl, decide_eq_false (Ne.symm he)⟩
    refine S.frame (frame_of_log hh log (fun _ => hn.1) hn.2 ?_ ?_ ?_)
    · rw [table, PendingTable.entries_drop, Keyed.get?_erase, if_neg hid]
    · rw [table]
      exact PendingTable.state?_drop hs fun hm => I.serial_ne hh hm hid rfl
    · simp [opened, he]

/-- A step that accepts no call keeps what is known of the calls if it keeps their stages. -/
theorem Inv.of_accepted_eq (I : Inv s) (ha : s'.accepted = s.accepted)
    (stage : ∀ h ∈ s.accepted, Stage s' h)
    (entry : ∀ {id m}, s'.table.entries.get? id = some m → s.table.entries.get? id = some m)
    (opened : ∀ h ∈ s'.opened, h ∈ s.opened)
    (serial : s'.table.nextSerial = s.table.nextSerial)
    (submitted : ∀ id ∈ s.log.submitted, id ∈ s'.log.submitted)
    (ends : ∀ n ∈ s'.log, ∀ h, n.ends h = true → n ∈ s.log ∨ h ∈ s.accepted) : Inv s' where
  stage h hh := stage h (ha ▸ hh)
  entry h := ha ▸ I.entry (entry h)
  opened h hh := ha ▸ I.opened h (opened h hh)
  serial_lt := by rw [ha, serial]; exact I.serial_lt
  serial_inj := by rw [ha]; exact I.serial_inj
  submitted h hh := submitted _ (I.submitted h (ha ▸ hh))
  ends n hn h he := ha ▸ (ends n hn h he).elim (fun hn => I.ends n hn h he) fun hh => hh
  id_inj := by rw [ha]; exact I.id_inj
  nodup := by rw [ha]; exact I.nodup

theorem submitted_subset_of_log (log : s'.log = s.log ++ [n]) :
    ∀ id ∈ s.log.submitted, id ∈ s'.log.submitted := fun id h => by
  rw [log, Log.submitted_append]
  exact List.mem_append_left _ h

theorem Inv.push_quiet (I : Inv s) {m : Option Note} (log : s'.log = s.log ++ m.toList)
    (mute : ∀ n, m = some n →
      n.accepted? = none ∧ (∀ h, n.fate? h = none ∧ n.ends h = false) ∧ ∀ l, Log.isStray l n = false)
    (table : s'.table = s.table) (opened : s'.opened = s.opened) : Inv s' := by
  refine I.of_accepted_eq ?_ (fun h hh => ?_) (fun h => table ▸ h) (fun h hh => opened ▸ hh)
    (by rw [table]) ?_ (fun n hn h he => ?_)
  · cases m with
    | none => rw [accepted, log]; exact congrArg Log.accepted (List.append_nil _)
    | some n => exact accepted_of_log log (mute n rfl).1
  · exact (I.stage h hh).frame (frame_quiet hh log (fun n hn => (mute n hn).2.1 h) table opened)
  · cases m with
    | none => rw [log]; exact fun id h => by rwa [Option.toList_none, List.append_nil]
    | some n => exact submitted_subset_of_log log
  · rw [log, List.mem_append] at hn
    refine hn.imp_right fun hn => ?_
    rw [((mute n (Option.mem_toList.1 hn)).2.1 h).2] at he
    cases he

theorem Inv.push_accepted (I : Inv s) {id : Uuid}
    (log : s'.log = s.log ++ [.accepted ⟨s.table.nextSerial, id⟩])
    (table : s'.table = { s.table with
      entries := s.table.entries.set id s.table.nextSerial
      handles := s.table.handles.set s.table.nextSerial .waiting
      nextSerial := s.table.nextSerial + 1 })
    (opened : s'.opened = s.opened ++ [⟨s.table.nextSerial, id⟩])
    (fresh : s'.log.submitted.Nodup) : Inv s' := by
  have ha : s'.accepted = s.accepted ++ [⟨s.table.nextSerial, id⟩] := by
    rw [accepted, log, Log.accepted_append]; rfl
  have mem : ∀ h, h ∈ s'.accepted ↔ h ∈ s.accepted ∨ h = ⟨s.table.nextSerial, id⟩ := fun h => by
    rw [ha, List.mem_append, List.mem_singleton]
  have hsub : s'.log.submitted = s.log.submitted ++ [id] := by rw [log, Log.submitted_append]; rfl
  have hid : id ∉ s.log.submitted := fun h => by
    rw [hsub, List.nodup_append] at fresh
    exact fresh.2.2 id h id (.head _) rfl
  have old : ∀ h ∈ s.accepted, h.serial ≠ s.table.nextSerial ∧ h.requestId ≠ id := fun h hh =>
    ⟨Nat.ne_of_lt (I.serial_lt h hh), fun he => hid (he ▸ I.submitted h hh)⟩
  refine ⟨fun h hh => ?_, ?_, ?_, ?_, ?_, ?_, ?_, ?_, ?_⟩
  · exact I.stage_accepted hid log (by rw [table]) (by rw [table]) opened ((mem h).1 hh)
  · intro id' m h
    rw [table, Keyed.get?_set] at h
    refine (mem _).2 ?_
    split at h
    · next he => cases h; exact .inr (by rw [he])
    · exact .inl (I.entry h)
  · intro h hh
    rw [opened, List.mem_append, List.mem_singleton] at hh
    exact (mem h).2 (hh.imp_left (I.opened h))
  · intro h hh
    rw [table]
    rcases (mem h).1 hh with hh | rfl
    · exact Nat.lt_succ_of_lt (I.serial_lt h hh)
    · exact Nat.lt_succ_self _
  · intro h hh k hk hs
    rcases (mem h).1 hh with hh | rfl <;> rcases (mem k).1 hk with hk | rfl
    · exact I.serial_inj h hh k hk hs
    · exact absurd hs (old h hh).1
    · exact absurd hs.symm (old k hk).1
    · rfl
  · intro h hh
    rw [hsub, List.mem_append, List.mem_singleton]
    rcases (mem h).1 hh with hh | rfl
    · exact .inl (I.submitted h hh)
    · exact .inr rfl
  · intro n hn h he
    rw [log, List.mem_append, List.mem_singleton] at hn
    rcases hn with hn | rfl
    · exact (mem h).2 (.inl (I.ends n hn h he))
    · cases he
  · intro h hh k hk hs
    rcases (mem h).1 hh with hh | rfl <;> rcases (mem k).1 hk with hk | rfl
    · exact I.id_inj h hh k hk hs
    · exact absurd hs (old h hh).2
    · exact absurd hs.symm (old k hk).2
    · rfl
  · rw [ha, List.nodup_append]
    refine ⟨I.nodup, List.pairwise_singleton .., fun h hh k hk => ?_⟩
    cases List.mem_singleton.1 hk
    rintro rfl
    exact (old _ hh).2 rfl

theorem Inv.push (I : Inv s) (E : Effect s s') (fresh : s'.log.submitted.Nodup) : Inv s' := by
  cases E with
  | quiet m log mute table opened => exact I.push_quiet log mute table opened
  | accepted id _ log table opened => exact I.push_accepted log table opened fresh
  | decided n id f o result log fate ends accepted T opened =>
    refine I.of_accepted_eq (accepted_of_log log accepted) (fun h hh => ?_) (fun h => ?_)
      (fun h hh => opened ▸ hh) T.nextSerial (submitted_subset_of_log log) (fun m hm h he => ?_)
    · exact I.stage_decided log result (fate h hh) (ends h) T opened hh
    · rw [T.entries] at h
      exact Keyed.get?_of_get?_erase h
    · rw [log, List.mem_append, List.mem_singleton] at hm
      refine hm.imp_right fun hm => ?_
      rw [hm, ends h] at he
      cases he
  | closed k n mem log note table opened =>
    have hn : n.accepted? = none := by rcases note with rfl | ⟨o, rfl, -⟩ <;> rfl
    refine I.of_accepted_eq (accepted_of_log log hn) (fun h hh => ?_) (fun h => ?_) (fun h hh => ?_)
      (by rw [table, PendingTable.nextSerial_drop]) (submitted_subset_of_log log)
      (fun m hm h he => ?_)
    · exact I.stage_closed mem log note table opened hh
    · rw [table, PendingTable.entries_drop] at h
      exact Keyed.get?_of_get?_erase h
    · rw [opened] at hh
      exact (List.mem_filter.1 hh).1
    · rw [log, List.mem_append, List.mem_singleton] at hm
      refine hm.imp_right fun hm => ?_
      subst hm
      have : k = h := by rcases note with rfl | ⟨o, rfl, -⟩ <;> exact of_decide_eq_true he
      exact this ▸ I.opened k mem

end Session

end CallGateway
