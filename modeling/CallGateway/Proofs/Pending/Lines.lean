import CallGateway.Proofs.Pending.Exact

/-!
# Requests one by one

What is done to a table for one request concerns no other request. The line of a request has its
handles in the order in which they were given out, and `Line.turn` says what a move does to a line
without a table. A table with its history is nothing but the lines of all requests, together with
the counters, to which every move adds what its own line says.
-/

namespace CallGateway.PendingTable

/-- What can be done for one request. Its handles go by the order in which they were given out. -/
inductive Deed
  | create
  | complete (outcome : Outcome)
  | expire (milliseconds : UInt64)
  | fail (e : GatewayError)
  | poll (k : Nat)
  | drop (k : Nat)

structure Move where
  id : Uuid
  deed : Deed

/-- What whoever makes a move learns from it. -/
inductive Told
  | entered
  | refused (e : GatewayError)
  | removed (was : Bool)
  | shown (state : Option HandleState)
  | letGo

def Answer.told : Answer → Told
  | .created _ => .entered
  | .refused e => .refused e
  | .removed was => .removed was
  | .shown _ state => .shown state
  | .dropped _ => .letGo

inductive Counter
  | completed | timedOut | failed | interrupted | droppedReplies
  deriving DecidableEq

def reading (t : PendingTable) : Counter → UInt64
  | .completed => t.completed
  | .timedOut => t.timedOut
  | .failed => t.failed
  | .interrupted => t.interrupted
  | .droppedReplies => t.droppedReplies

/-! ## The line of a request -/

/-- A handle in the line of its request: what it would show, if it is still held, and what the steps
that have removed its entry have let it know. -/
structure Slot where
  state : Option HandleState
  outcomes : List CallResult

namespace Slot

def waits (s : Slot) : Bool :=
  match s.state with
  | some .waiting => true
  | _ => false

/-- The entry is removed if it is for this handle. -/
def settle (o : CallResult) (s : Slot) : Slot :=
  if s.waits then ⟨some (.settled o), s.outcomes ++ [o]⟩ else s

/-- A result has been looked at. -/
def look (s : Slot) : Slot :=
  match s.state with
  | some (.settled _) => { s with state := some .read }
  | _ => s

def release (s : Slot) : Slot := { s with state := none }

end Slot

abbrev Line := List Slot

/-- What comes of a move: what is told, if the move is possible, the counter that goes up, and the
line afterwards. -/
structure Turn where
  told : Option Told
  counter : Option Counter
  line : Line

namespace Line

/-- The request is in the table. -/
def pending (L : Line) : Bool := L.any (·.waits)

def settle (o : CallResult) (L : Line) : Line := L.map (·.settle o)

/-- A move that removes the entry of the request, if there is one. -/
def remove (L : Line) (o : CallResult) (used : Counter) (unused : Option Counter) : Turn :=
  if L.pending then ⟨some (.removed true), some used, L.settle o⟩
  else ⟨some (.removed false), unused, L⟩

def turn (id : Uuid) (L : Line) : Deed → Turn
  | .create =>
    if L.pending then ⟨some (.refused (.duplicateRequest id)), none, L⟩
    else ⟨some .entered, none, L ++ [⟨some .waiting, []⟩]⟩
  | .complete o => L.remove (.ok ⟨id, o⟩) .completed (some .droppedReplies)
  | .expire ms => L.remove (.error (.timeout id ms)) .timedOut none
  | .fail e => L.remove (.error e) .failed none
  | .poll k =>
    match L[k]?.bind (·.state) with
    | some s => ⟨some (.shown (some s)), none, L.modify k Slot.look⟩
    | none => ⟨none, none, L⟩
  | .drop k =>
    match L[k]?.bind (·.state) with
    | some _ => ⟨some .letGo, if L.pending then some .interrupted else none,
        (L.settle (.error (.interrupted id))).modify k Slot.release⟩
    | none => ⟨none, none, L⟩

end Line

/-! ## The lines of a history -/

namespace History

/-- The handles that have been given out for a request. -/
def handlesOf (H : History) (id : Uuid) : List Handle := H.issued.filter (·.requestId = id)

def slot (H : History) (h : Handle) : Slot :=
  ⟨H.table.state? h, (H.removals h).filterMap (·.outcome?)⟩

def line (H : History) (id : Uuid) : Line := (H.handlesOf id).map H.slot

/-- The action that makes a move. Nothing can be done with a handle that has not been given out. -/
def action? (H : History) (m : Move) : Option Action :=
  match m.deed with
  | .create => some (.create m.id)
  | .complete o => some (.complete ⟨m.id, o⟩)
  | .expire ms => some (.expire m.id ms)
  | .fail e => some (.fail m.id e)
  | .poll k => (H.handlesOf m.id)[k]?.map fun h => .poll h.serial
  | .drop k => (H.handlesOf m.id)[k]?.map fun h => .drop h.serial

def told? (H : History) (m : Move) : Option Told :=
  (H.action? m).bind fun a => (H.perform? a).map (·.1.told)

def move (H : History) (m : Move) : History := (H.action? m).elim H H.act

/-- What comes of a table by these moves. -/
def follow (H : History) (moves : List Move) : History := moves.foldl move H

/-- The moves with what is told of each. -/
def answers (H : History) : List Move → List (Move × Option Told)
  | [] => []
  | m :: ms => (m, H.told? m) :: answers (H.move m) ms

/-- The request is in the table, and this is the place of the handle that waits for it. -/
def waiter? (H : History) (id : Uuid) : Option Nat :=
  (H.table.entries.get? id).map fun n => (H.handlesOf id).findIdx (·.serial = n)

/-! ## What a step does to a slot -/

variable {H : History} {r : Record} {held : List Handle} {h k : Handle} {id : Uuid} {o : CallResult}

/-- What every history keeps, and that no handle has been given out twice. -/
structure Orderly (H : History) : Prop where
  inv : Inv H
  nodup : H.issued.Nodup

theorem Orderly.new : Orderly {} := ⟨.new, .nil⟩

theorem Orderly.push (O : Orderly H) (hb : r.before = H.table) (E : Effect H r held) :
    Orderly (H.push r held) := by
  refine ⟨O.inv.push hb E, ?_⟩
  rw [issued_push]
  cases hc : r.created? with
  | none => exact (List.append_nil _).symm ▸ O.nodup
  | some k =>
    obtain ⟨id, rfl, -⟩ := E.of_created hc
    refine List.nodup_append.2 ⟨O.nodup, List.pairwise_singleton .., fun h hh k hk => ?_⟩
    cases List.mem_singleton.1 hk
    rintro rfl
    exact Nat.lt_irrefl _ (O.inv.serial_lt _ hh)

theorem Orderly.act (O : Orderly H) (a : Action) : Orderly (H.act a) := by
  rw [History.act]
  cases h : H.perform? a with
  | none => exact O
  | some p => exact O.push rfl (perform?_effect h)

theorem Orderly.move (O : Orderly H) (m : Move) : Orderly (H.move m) := by
  rw [History.move]
  cases H.action? m with
  | none => exact O
  | some a => exact O.act a

theorem slot_push (H : History) (r : Record) (held : List Handle) (h : Handle) :
    (H.push r held).slot h = ⟨r.after.state? h,
      (H.slot h).outcomes ++ if r.Removes h then r.outcome?.toList else []⟩ := by
  simp only [slot, table_push, removals_push, List.filterMap_append]
  split
  · cases ho : r.outcome? <;> simp [ho]
  · rfl

/-- A step that does not touch the entry of a handle and what the handle shows. -/
theorem slot_of_frame (hb : r.before = H.table) (hp : H.table.Pends h → r.after.Pends h)
    (hs : r.after.state? h = H.table.state? h) : (H.push r held).slot h = H.slot h := by
  have hr : ¬ r.Removes h := by
    rw [Record.Removes, hb]
    exact fun hr => hr.2 (hp hr.1)
  rw [slot_push, if_neg hr, List.append_nil, hs]
  rfl

theorem Inv.waits_iff (I : Inv H) (hi : h ∈ H.issued) :
    (H.slot h).waits = true ↔ H.table.Pends h := by
  rw [← (I.track h hi).waiting_iff, Slot.waits, slot]
  split <;> simp_all

theorem mem_handlesOf : h ∈ H.handlesOf id ↔ h ∈ H.issued ∧ h.requestId = id := by
  rw [handlesOf, List.mem_filter, decide_eq_true_iff]

/-- A request is in the table exactly if one of its handles waits. -/
theorem Inv.pending_line (I : Inv H) (id : Uuid) :
    (H.line id).pending = (H.table.entries.get? id).isSome := by
  rw [Bool.eq_iff_iff, Line.pending, line, List.any_map, List.any_eq_true, Option.isSome_iff_exists]
  constructor
  · rintro ⟨h, hh, hw⟩
    obtain ⟨hi, rfl⟩ := mem_handlesOf.1 hh
    exact ⟨_, (I.waits_iff hi).1 hw⟩
  · rintro ⟨n, hn⟩
    have hi := I.pends_issued (k := ⟨n, id⟩) hn
    exact ⟨_, mem_handlesOf.2 ⟨hi, rfl⟩, (I.waits_iff hi).2 hn⟩

/-- The number in an entry tells the handle that waits for it. -/
theorem Inv.serial_eq_iff (I : Inv H) (hi : h ∈ H.issued) {n : Nat}
    (present : H.table.entries.get? id = some n) :
    h.serial = n ↔ h.requestId = id ∧ (H.slot h).waits = true := by
  rw [I.waits_iff hi]
  constructor
  · rintro rfl
    have hid := I.requestId_eq hi present
    exact ⟨hid, by rw [Pends, hid, present]⟩
  · rintro ⟨rfl, hp⟩
    exact Option.some.inj (hp.symm.trans present)

theorem Inv.removes_iff (I : Inv H) (hb : r.before = H.table)
    (entries : r.after.entries = H.table.entries.erase id) (hi : h ∈ H.issued) :
    r.Removes h ↔ h.requestId = id ∧ (H.slot h).waits = true := by
  rw [I.waits_iff hi, Record.Removes, hb, Pends, Pends, entries, Keyed.get?_erase]
  by_cases hid : h.requestId = id
  · simp [hid]
  · simp [hid]

/-- The entry of a request goes, and the handle that waits for it, if there is one, has its
result. -/
theorem Inv.slot_settled (I : Inv H) (hb : r.before = H.table)
    (entries : r.after.entries = H.table.entries.erase id) (outcome : r.outcome? = some o)
    (hi : h ∈ H.issued)
    (state : r.after.state? h = match H.table.entries.get? id with
      | some n => (H.table.handles.modify n fun _ => .settled o).get? h.serial
      | none => H.table.state? h) :
    (H.push r held).slot h = if h.requestId = id then (H.slot h).settle o else H.slot h := by
  rw [slot_push, state]
  simp only [I.removes_iff hb entries hi, outcome, Option.toList_some]
  have hkept : (H.slot h).state = H.table.state? h := rfl
  cases present : H.table.entries.get? id with
  | none =>
    have hw : ¬ (h.requestId = id ∧ (H.slot h).waits = true) := by
      rintro ⟨rfl, hw⟩
      cases ((I.waits_iff hi).1 hw).symm.trans present
    rw [if_neg hw, List.append_nil]
    by_cases hid : h.requestId = id
    · rw [if_pos hid, Slot.settle, if_neg fun hw' => hw ⟨hid, hw'⟩]
      rfl
    · rw [if_neg hid]
      rfl
  | some n =>
    dsimp only
    rw [Keyed.get?_modify]
    by_cases hw : h.requestId = id ∧ (H.slot h).waits = true
    · have hs : H.table.handles.get? h.serial = some .waiting := by
        have hp := (I.waits_iff hi).1 hw.2
        exact (I.track h hi).waiting_iff.2 hp
      rw [if_pos ((I.serial_eq_iff hi present).2 hw), if_pos hw, if_pos hw.1, Slot.settle,
        if_pos hw.2, hs]
      rfl
    · rw [if_neg (mt (I.serial_eq_iff hi present).1 hw), if_neg hw, List.append_nil]
      by_cases hid : h.requestId = id
      · rw [if_pos hid, Slot.settle, if_neg fun hw' => hw ⟨hid, hw'⟩]
        rfl
      · rw [if_neg hid]
        rfl

section

variable (absent : H.table.entries.get? id = none)
  (hb : r.before = H.table) (entries : r.after.entries = H.table.entries.set id H.table.nextSerial)
  (handles : r.after.handles = H.table.handles.set H.table.nextSerial .waiting)

include absent hb entries handles

/-- The entry of a new handle is none that another one waits for. -/
theorem Inv.slot_old (I : Inv H) (hi : h ∈ H.issued) : (H.push r held).slot h = H.slot h := by
  refine slot_of_frame hb (fun hp => ?_) ?_
  · have hne : h.requestId ≠ id := by
      intro he
      rw [Pends, he, absent] at hp
      cases hp
    rw [Pends, entries, Keyed.get?_set, if_neg hne]
    exact hp
  · rw [state?, handles, Keyed.get?_set, if_neg (Nat.ne_of_lt (I.serial_lt h hi))]
    rfl

omit entries in
theorem Inv.slot_new (I : Inv H) :
    (H.push r held).slot ⟨H.table.nextSerial, id⟩ = ⟨some .waiting, []⟩ := by
  have hno : (⟨H.table.nextSerial, id⟩ : Handle) ∉ H.issued := fun hi =>
    Nat.lt_irrefl _ (I.serial_lt _ hi)
  have hkept : ¬ r.Removes ⟨H.table.nextSerial, id⟩ := fun hr => by
    have hp := hr.1
    rw [hb] at hp
    cases absent.symm.trans hp
  rw [slot_push, state?, handles, Keyed.get?_set, if_pos rfl, slot, (I.no_past hno).1,
    if_neg hkept]
  rfl

/-- A new handle stands behind the others for its request. -/
theorem Inv.line_created (I : Inv H) (hc : r.created? = some ⟨H.table.nextSerial, id⟩)
    (id' : Uuid) : (H.push r held).line id' =
      H.line id' ++ if id = id' then [⟨some .waiting, []⟩] else [] := by
  have hhandles : (H.push r held).handlesOf id' =
      H.handlesOf id' ++ if id = id' then [⟨H.table.nextSerial, id⟩] else [] := by
    rw [handlesOf, issued_push, hc, List.filter_append, handlesOf]
    by_cases h : id = id' <;> simp [h]
  rw [line, hhandles, List.map_append, line]
  congr 1
  · exact List.map_congr_left fun h hm =>
      I.slot_old absent hb entries handles (mem_handlesOf.1 hm).1
  · split
    · rw [List.map_singleton, I.slot_new absent hb handles]
    · rfl

end

/-! ## What a move does to the lines -/

theorem handlesOf_push (hc : r.created? = none) (id : Uuid) :
    (H.push r held).handlesOf id = H.handlesOf id := by
  rw [handlesOf, issued_push, hc, Option.toList_none, List.append_nil, handlesOf]

theorem line_push (hc : r.created? = none) (id : Uuid) (f : Slot → Slot)
    (hf : ∀ h ∈ H.issued, h.requestId = id → (H.push r held).slot h = f (H.slot h)) :
    (H.push r held).line id = (H.line id).map f := by
  rw [line, handlesOf_push hc, line, List.map_map]
  refine List.map_congr_left fun h hm => ?_
  obtain ⟨hi, hid⟩ := mem_handlesOf.1 hm
  exact hf h hi hid

/-- A step after which every handle of a request is as before. -/
theorem line_push_of_frame (hc : r.created? = none) (id : Uuid)
    (hf : ∀ h ∈ H.issued, h.requestId = id → (H.push r held).slot h = H.slot h) :
    (H.push r held).line id = H.line id :=
  (line_push hc id (fun s => s) hf).trans (List.map_id' _)

/-- In a list without doubles a position stands for an item. -/
theorem map_ite_eq_modify [DecidableEq α] {xs : List α} (hn : xs.Nodup) {k : Nat} {a : α}
    (hk : xs[k]? = some a) (f : α → β) (g : β → β) :
    (xs.map fun x => if x = a then g (f x) else f x) = (xs.map f).modify k g := by
  apply List.ext_getElem?
  intro i
  rw [List.getElem?_map, List.getElem?_modify, List.getElem?_map]
  cases hx : xs[i]? with
  | none => rfl
  | some x =>
    have hiff : k = i ↔ x = a := by
      constructor
      · rintro rfl
        exact Option.some.inj (hx.symm.trans hk)
      · rintro rfl
        obtain ⟨hlt, -⟩ := List.getElem?_eq_some_iff.1 hk
        exact (List.getElem?_inj hlt hn).1 (hk.trans hx.symm)
    simp only [Option.map_eq_map, Option.map_some, hiff]

/-- A move answers, changes its line and moves the counters as the line alone tells, and leaves all
other lines as they are. -/
structure Matches (H : History) (m : Move) (t : Turn) : Prop where
  told : H.told? m = t.told
  line : (H.move m).line m.id = t.line
  others : ∀ id, id ≠ m.id → (H.move m).line id = H.line id
  counter : ∀ c, (H.move m).table.reading c =
    H.table.reading c + if t.counter = some c then 1 else 0

variable {m : Move} {a : Action} {answer : Answer} {after : PendingTable}

theorem Matches.of_none (ha : H.action? m = none ∨ ∃ a, H.action? m = some a ∧ H.perform? a = none) :
    Matches H m ⟨none, none, H.line m.id⟩ := by
  have hm : H.move m = H := by
    obtain ha | ⟨a, ha, hp⟩ := ha
    · rw [History.move, ha]; rfl
    · rw [History.move, ha]
      show H.act a = H
      rw [History.act, hp]
  refine ⟨?_, by rw [hm], fun _ _ => by rw [hm], fun c => ?_⟩
  · obtain ha | ⟨a, ha, hp⟩ := ha
    · rw [told?, ha]; rfl
    · rw [told?, ha, Option.bind_some, hp]; rfl
  · rw [hm, if_neg (by simp)]
    exact (UInt64.add_zero _).symm

theorem move_eq (ha : H.action? m = some a) (hp : H.perform? a = some (answer, after, held)) :
    H.move m = H.push ⟨a, H.table, answer, after⟩ held ∧ H.told? m = some answer.told := by
  constructor
  · rw [History.move, ha]
    show H.act a = _
    rw [History.act, hp]
  · rw [told?, ha, Option.bind_some, hp]; rfl

/-- A move that gives out no handle. -/
theorem Matches.of_push (ha : H.action? m = some a)
    (hp : H.perform? a = some (answer, after, held)) {t : Turn}
    (hc : (Record.mk a H.table answer after).created? = none)
    (told : t.told = some answer.told)
    (line : (H.push ⟨a, H.table, answer, after⟩ held).line m.id = t.line)
    (others : ∀ h ∈ H.issued, h.requestId ≠ m.id →
      (H.push ⟨a, H.table, answer, after⟩ held).slot h = H.slot h)
    (counter : ∀ c, after.reading c = H.table.reading c + if t.counter = some c then 1 else 0) :
    Matches H m t := by
  obtain ⟨hm, ht⟩ := move_eq ha hp
  refine ⟨ht.trans told.symm, by rw [hm, line], fun id hid => ?_, fun c => by rw [hm]; exact counter c⟩
  rw [hm]
  exact line_push_of_frame hc id fun h hi he => others h hi (he ▸ hid)

theorem Orderly.turn_create (O : Orderly H) (hm : m.deed = .create) :
    Matches H m ((H.line m.id).turn m.id m.deed) := by
  have ha : H.action? m = some (.create m.id) := by rw [action?, hm]
  rw [hm, Line.turn, O.inv.pending_line]
  cases hid : H.table.entries.get? m.id with
  | some n =>
    have hp : H.perform? (.create m.id) =
        some (.refused (.duplicateRequest m.id), H.table, H.held) := by
      rw [perform?, create_eq, hid]
    have hf (h : Handle) : (H.push ⟨.create m.id, H.table, .refused (.duplicateRequest m.id),
        H.table⟩ H.held).slot h = H.slot h := slot_of_frame rfl (fun hp => hp) rfl
    exact .of_push ha hp rfl rfl (line_push_of_frame rfl m.id fun h _ _ => hf h)
      (fun h _ _ => hf h) fun c => (UInt64.add_zero _).symm
  | none =>
    let new : Handle := ⟨H.table.nextSerial, m.id⟩
    have hp : H.perform? (.create m.id) =
        some (.created new, H.table.entered m.id, H.held ++ [new]) := by
      rw [perform?, create_eq, hid]
    obtain ⟨hm', ht⟩ := move_eq ha hp
    have hline (id : Uuid) : (H.move m).line id =
        H.line id ++ if m.id = id then [⟨some .waiting, []⟩] else [] := by
      rw [hm']
      exact O.inv.line_created hid rfl rfl rfl rfl id
    refine ⟨ht, ?_, fun id hne => ?_, fun c => ?_⟩
    · rw [hline, if_pos rfl]
      rfl
    · rw [hline, if_neg (Ne.symm hne), List.append_nil]
    · rw [hm']
      cases c <;> exact (UInt64.add_zero _).symm

/-- What the three moves have in common that are made without a handle. -/
theorem Orderly.turn_remove (O : Orderly H) {a : Action} (ha : H.action? m = some a)
    {used : Counter} {unused : Option Counter}
    (outcome : ∀ before answer after, (Record.mk a before answer after).outcome? = some o)
    (present : ∀ n, H.table.entries.get? m.id = some n → ∃ t,
      H.perform? a = some (.removed true, t, H.held) ∧
      t.entries = H.table.entries.erase m.id ∧
      t.handles = H.table.handles.modify n (fun _ => .settled o) ∧
      ∀ c, t.reading c = H.table.reading c + if used = c then 1 else 0)
    (absent : H.table.entries.get? m.id = none → ∃ t,
      H.perform? a = some (.removed false, t, H.held) ∧
      t.entries = H.table.entries ∧ t.handles = H.table.handles ∧
      ∀ c, t.reading c = H.table.reading c + if unused = some c then 1 else 0) :
    Matches H m ((H.line m.id).remove o used unused) := by
  rw [Line.remove, O.inv.pending_line]
  cases hid : H.table.entries.get? m.id with
  | none =>
    obtain ⟨t, hp, hentries, hhandles, hc⟩ := absent hid
    have hf (h : Handle) : (H.push ⟨a, H.table, .removed false, t⟩ H.held).slot h = H.slot h :=
      slot_of_frame rfl (fun hp => by rw [Pends, hentries]; exact hp)
        (by rw [state?, hhandles]; rfl)
    exact .of_push ha hp rfl rfl (line_push_of_frame rfl m.id fun h _ _ => hf h)
      (fun h _ _ => hf h) hc
  | some n =>
    obtain ⟨t, hp, hentries, hhandles, hc⟩ := present n hid
    have hs (h : Handle) (hi : h ∈ H.issued) : (H.push ⟨a, H.table, .removed true, t⟩ H.held).slot h =
        if h.requestId = m.id then (H.slot h).settle o else H.slot h :=
      O.inv.slot_settled rfl hentries (outcome ..) hi (by rw [state?, hhandles, hid])
    refine .of_push ha hp rfl rfl ?_ (fun h hi hne => ?_) fun c => ?_
    · exact line_push rfl m.id (·.settle o) fun h hi he => (hs h hi).trans (if_pos he)
    · exact (hs h hi).trans (if_neg hne)
    · simp [hc c]

theorem Orderly.handle?_eq (O : Orderly H) (hi : h ∈ H.issued) :
    H.handle? h.serial = (H.table.state? h).map fun _ => h := by
  have hheld : h ∈ H.held ↔ H.table.state? h ≠ none := by
    cases O.inv.track h hi with
    | pending hh _ hs | settled _ _ hh _ hs | read _ _ hh _ hs => simp [hh, hs]
    | gone _ _ hh _ hs => simp [hh, hs]
  cases hf : H.handle? h.serial with
  | some k =>
    have hk := handle?_mem hf
    have hserial : k.serial = h.serial :=
      beq_iff_eq.1 (List.find?_some (p := fun k : Handle => k.serial == h.serial) hf)
    obtain rfl := O.inv.serial_inj k (O.inv.held_issued k hk) h hi hserial
    cases hs : H.table.state? k with
    | none => exact absurd hs (hheld.1 hk)
    | some s => rfl
  | none =>
    have hk : h ∉ H.held := fun hk => List.find?_eq_none.1 hf h hk (beq_self_eq_true _)
    rw [Decidable.not_not.1 (mt hheld.2 hk)]
    rfl

theorem line_getElem? {n : Nat} (H : History) (id : Uuid) :
    (H.line id)[n]?.bind (·.state) = (H.handlesOf id)[n]?.bind H.table.state? := by
  rw [line, List.getElem?_map, Option.bind_map]
  rfl

theorem Orderly.nodup_handlesOf (O : Orderly H) (id : Uuid) : (H.handlesOf id).Nodup :=
  List.filter_sublist.nodup O.nodup

/-- A step that changes what the handle at one place shows. -/
theorem Orderly.line_push_at (O : Orderly H) (hc : r.created? = none) {n : Nat} {k : Handle}
    (hk : (H.handlesOf id)[n]? = some k) {f : Handle → Slot} {g : Slot → Slot}
    (hslot : ∀ h ∈ H.issued, (H.push r held).slot h = if h = k then g (f h) else f h) :
    (H.push r held).line id = ((H.handlesOf id).map f).modify n g := by
  rw [line, handlesOf_push hc]
  refine Eq.trans (List.map_congr_left fun h hh => hslot h (mem_handlesOf.1 hh).1) ?_
  exact map_ite_eq_modify (O.nodup_handlesOf id) hk f g

/-- No such handle is held, whatever the reason. -/
theorem Orderly.turn_nobody (O : Orderly H) {n : Nat} {act : Nat → Action}
    (ha : H.action? m = (H.handlesOf m.id)[n]?.map fun h => act h.serial)
    (hp : ∀ serial, H.handle? serial = none → H.perform? (act serial) = none)
    (hs : (H.line m.id)[n]?.bind (·.state) = none) : Matches H m ⟨none, none, H.line m.id⟩ := by
  rw [line_getElem?] at hs
  apply Matches.of_none
  cases hk : (H.handlesOf m.id)[n]? with
  | none => exact .inl (by rw [ha, hk]; rfl)
  | some h =>
    rw [hk, Option.bind_some] at hs
    refine .inr ⟨_, by rw [ha, hk]; rfl, hp _ ?_⟩
    rw [O.handle?_eq (mem_handlesOf.1 (List.mem_of_getElem? hk)).1, hs]
    rfl

/-- Whoever looks at a handle sees its state, and changes no other handle. -/
theorem Orderly.exists_poll (O : Orderly H) {k : Handle} (hi : k ∈ H.issued) {s : HandleState}
    (hs : H.table.state? k = some s) : ∃ t,
      H.perform? (.poll k.serial) = some (.shown k (some s), t, H.held) ∧
      t.entries = H.table.entries ∧
      (∀ h ∈ H.issued, t.state? h =
        if h = k then (Slot.look ⟨some s, []⟩).state else H.table.state? h) ∧
      ∀ c, t.reading c = H.table.reading c := by
  rw [perform?, O.handle?_eq hi, hs, Option.map_some, Option.map_some, poll_eq, hs]
  cases s with
  | settled o =>
    refine ⟨_, rfl, rfl, fun h hh => ?_, fun c => by cases c <;> rfl⟩
    rw [state?, Keyed.get?_set]
    by_cases he : h = k
    · rw [if_pos he, if_pos (congrArg Handle.serial he)]
      rfl
    · rw [if_neg he, if_neg fun hserial => he (O.inv.serial_inj h hh k hi hserial)]
      rfl
  | waiting | read =>
    refine ⟨_, rfl, rfl, fun h hh => ?_, fun c => rfl⟩
    split
    · next he =>
      rw [he, hs]
      rfl
    · rfl

theorem Orderly.turn_poll (O : Orderly H) {n : Nat} (hm : m.deed = .poll n) :
    Matches H m ((H.line m.id).turn m.id m.deed) := by
  have ha : H.action? m = (H.handlesOf m.id)[n]?.map fun h => .poll h.serial := by rw [action?, hm]
  rw [hm, Line.turn]
  cases hs : (H.line m.id)[n]?.bind (·.state) with
  | none =>
    refine O.turn_nobody ha (fun serial h => ?_) hs
    rw [perform?, h]
    rfl
  | some s =>
    rw [line_getElem?] at hs
    obtain ⟨k, hk, hs⟩ := Option.bind_eq_some_iff.1 hs
    obtain ⟨hi, hid⟩ := mem_handlesOf.1 (List.mem_of_getElem? hk)
    obtain ⟨t, hp, hentries, hstate, hc⟩ := O.exists_poll hi hs
    have hslot (h : Handle) (hh : h ∈ H.issued) :
        (H.push ⟨.poll k.serial, H.table, .shown k (some s), t⟩ H.held).slot h =
          if h = k then (H.slot h).look else H.slot h := by
      have hr : ¬ (Record.mk (.poll k.serial) H.table (.shown k (some s)) t).Removes h := by
        rw [Record.Removes, Pends, Pends, hentries]
        exact fun hr => hr.2 hr.1
      rw [slot_push, if_neg hr, List.append_nil, hstate h hh]
      split
      · next he =>
        subst he
        rw [Slot.look, slot, hs]
        cases s <;> rfl
      · rfl
    refine .of_push (by rw [ha, hk]; rfl) hp rfl rfl ?_ (fun h hh hne => ?_) fun c => ?_
    · exact O.line_push_at rfl hk hslot
    · rw [hslot h hh, if_neg]
      rintro rfl
      exact hne hid
    · rw [hc c]
      exact (UInt64.add_zero _).symm

/-- Letting go of a handle removes the entry of its request first, if there is one. -/
theorem exists_drop (t : PendingTable) (k : Handle) : ∃ t' : PendingTable,
    t.drop k = { t' with handles := t'.handles.erase k.serial } ∧
    t'.entries = t.entries.erase k.requestId ∧
    t'.handles = (match t.entries.get? k.requestId with
      | some n => t.handles.modify n fun _ => .settled (.error (.interrupted k.requestId))
      | none => t.handles) ∧
    ∀ c, t'.reading c = t.reading c + if (if (t.entries.get? k.requestId).isSome = true
      then some Counter.interrupted else none) = some c then 1 else 0 := by
  rw [drop_eq]
  cases present : t.entries.get? k.requestId with
  | none =>
    exact ⟨t, rfl, (Keyed.erase_of_get?_eq_none present).symm, rfl,
      fun c => (UInt64.add_zero _).symm⟩
  | some n =>
    refine ⟨{ t.settled k.requestId n (.error (.interrupted k.requestId)) with
      interrupted := t.interrupted + 1 }, rfl, rfl, rfl, fun c => ?_⟩
    cases c with
    | interrupted => rfl
    | _ => exact (UInt64.add_zero _).symm

theorem Orderly.turn_drop (O : Orderly H) {n : Nat} (hm : m.deed = .drop n) :
    Matches H m ((H.line m.id).turn m.id m.deed) := by
  have ha : H.action? m = (H.handlesOf m.id)[n]?.map fun h => .drop h.serial := by rw [action?, hm]
  rw [hm, Line.turn]
  cases hs : (H.line m.id)[n]?.bind (·.state) with
  | none =>
    refine O.turn_nobody ha (fun serial h => ?_) hs
    rw [perform?, h]
    rfl
  | some s =>
    rw [line_getElem?] at hs
    obtain ⟨k, hk, hs⟩ := Option.bind_eq_some_iff.1 hs
    obtain ⟨hi, hid⟩ := mem_handlesOf.1 (List.mem_of_getElem? hk)
    have hp : H.perform? (.drop k.serial) =
        some (.dropped k, H.table.drop k, H.held.filter (· != k)) := by
      rw [perform?, O.handle?_eq hi, hs]
      rfl
    obtain ⟨t, hdrop, hentries, hhandles, hc⟩ := exists_drop H.table k
    rw [hid] at hentries hhandles hc
    let r : Record := ⟨.drop k.serial, H.table, .dropped k, t⟩
    have hsettled (h : Handle) (hh : h ∈ H.issued) : (H.push r H.held).slot h =
        if h.requestId = m.id then (H.slot h).settle (.error (.interrupted m.id)) else H.slot h := by
      refine O.inv.slot_settled rfl hentries (by rw [← hid]; rfl) hh ?_
      rw [state?, hhandles]
      cases H.table.entries.get? m.id <;> rfl
    have hslot (h : Handle) (hh : h ∈ H.issued) :
        (H.push ⟨.drop k.serial, H.table, .dropped k, H.table.drop k⟩
          (H.held.filter (· != k))).slot h =
          if h = k then ((H.push r H.held).slot h).release else (H.push r H.held).slot h := by
      rw [slot_push, slot_push, hdrop, state?, Keyed.get?_erase]
      by_cases he : h = k
      · rw [if_pos he, if_pos (congrArg Handle.serial he)]
        rfl
      · rw [if_neg he, if_neg fun hserial => he (O.inv.serial_inj h hh k hi hserial)]
        rfl
    refine .of_push (by rw [ha, hk]; rfl) hp rfl rfl ?_ (fun h hh hne => ?_) fun c => ?_
    · refine (O.line_push_at rfl hk hslot).trans (congrArg (List.modify · n Slot.release) ?_)
      rw [Line.settle, line, List.map_map]
      refine List.map_congr_left fun h hh => ?_
      obtain ⟨hh, he⟩ := mem_handlesOf.1 hh
      exact (hsettled h hh).trans (if_pos he)
    · rw [hslot h hh, if_neg, hsettled h hh, if_neg hne]
      rintro rfl
      exact hne hid
    · rw [hdrop, O.inv.pending_line]
      exact hc c

/-- Every move is told, shown in the counters and kept in the lines as its own line says. -/
theorem Orderly.turn (O : Orderly H) (m : Move) : Matches H m ((H.line m.id).turn m.id m.deed) := by
  cases hm : m.deed with
  | create => exact hm ▸ O.turn_create hm
  | poll n => exact hm ▸ O.turn_poll hm
  | drop n => exact hm ▸ O.turn_drop hm
  | complete o =>
    refine O.turn_remove (a := .complete ⟨m.id, o⟩) (by rw [action?, hm]) (fun _ _ _ => rfl)
      (fun n hn => ⟨_, by rw [perform?, complete_eq, hn], rfl, rfl, fun c => ?_⟩)
      fun hn => ⟨{ H.table with droppedReplies := H.table.droppedReplies + 1 },
        by rw [perform?, complete_eq, hn], rfl, rfl, fun c => ?_⟩
    · cases c <;> first | rfl | exact (UInt64.add_zero _).symm
    · cases c <;> first | rfl | exact (UInt64.add_zero _).symm
  | expire ms =>
    refine O.turn_remove (a := .expire m.id ms) (by rw [action?, hm]) (fun _ _ _ => rfl)
      (fun n hn => ⟨_, by rw [perform?, expire_eq, hn], rfl, rfl, fun c => ?_⟩)
      fun hn => ⟨_, by rw [perform?, expire_eq, hn], rfl, rfl, fun c => (UInt64.add_zero _).symm⟩
    cases c <;> first | rfl | exact (UInt64.add_zero _).symm
  | fail e =>
    refine O.turn_remove (a := .fail m.id e) (by rw [action?, hm]) (fun _ _ _ => rfl)
      (fun n hn => ⟨_, by rw [perform?, fail_eq, hn], rfl, rfl, fun c => ?_⟩)
      fun hn => ⟨_, by rw [perform?, fail_eq, hn], rfl, rfl, fun c => (UInt64.add_zero _).symm⟩
    cases c <;> first | rfl | exact (UInt64.add_zero _).symm

end History

end CallGateway.PendingTable
