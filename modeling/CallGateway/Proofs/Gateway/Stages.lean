import CallGateway.Proofs.Gateway.Log
import CallGateway.Proofs.Pending.Settlement

/-!
# The stages of a call

An accepted call waits, then its fate is known and its handle has the result, and then the caller
has learned it or has left. `Stage` ties what the log says of a call to the table and to the calls
that are open; `Inv` says that every call is at some stage.
-/

namespace CallGateway

namespace PendingTable

/-- Count one more request with a fate of this kind. -/
def count (t : PendingTable) : Fate.Kind → PendingTable
  | .replied => { t with completed := t.completed + 1 }
  | .overdue => { t with timedOut := t.timedOut + 1 }
  | .unsent => { t with failed := t.failed + 1 }
  | .abandoned => { t with interrupted := t.interrupted + 1 }

theorem entries_count (t : PendingTable) (k : Fate.Kind) : (t.count k).entries = t.entries := by
  cases k <;> rfl

theorem handles_count (t : PendingTable) (k : Fate.Kind) : (t.count k).handles = t.handles := by
  cases k <;> rfl

theorem nextSerial_count (t : PendingTable) (k : Fate.Kind) :
    (t.count k).nextSerial = t.nextSerial := by
  cases k <;> rfl

theorem counter_count (t : PendingTable) (k j : Fate.Kind) :
    (t.count k).counter j = t.counter j + if j = k then 1 else 0 := by
  cases k <;> cases j <;> simp [count, counter]

/-- The request meets its fate, and whoever waits for it has its result, if it is in the table. -/
structure Decides (t t' : PendingTable) (id : Uuid) (f : Fate) (o : CallResult) : Prop where
  entries : t'.entries = t.entries.erase id
  handles : t'.handles = match t.entries.get? id with
    | some n => t.handles.modify n fun _ => .settled o
    | none => t.handles
  nextSerial : t'.nextSerial = t.nextSerial
  counter : ∀ k, t'.counter k = t.counter k +
    if (t.entries.get? id).isSome ∧ k = f.kind then 1 else 0

theorem Decides.of_eq {t t' : PendingTable} {id : Uuid} {d : UInt64}
    (H : t' = match t.entries.get? id with
      | some n => (t.settled id n o).count f.kind
      | none => { t with droppedReplies := d }) : t.Decides t' id f o := by
  cases h : t.entries.get? id with
  | none =>
    rw [h] at H
    subst H
    refine ⟨(Keyed.erase_of_get?_eq_none h).symm, by rw [h], rfl, fun k => ?_⟩
    rw [h, if_neg (by simp)]
    cases k <;> simp [PendingTable.counter]
  | some n =>
    rw [h] at H
    subst H
    refine ⟨by rw [entries_count]; rfl, by rw [h, handles_count]; rfl,
      by rw [nextSerial_count]; rfl, fun k => ?_⟩
    rw [counter_count, h]
    simp only [Option.isSome_some, true_and]
    cases k <;> rfl

theorem Decides.complete (t : PendingTable) (r : Reply) :
    t.Decides (t.complete r).2 r.requestId (.replied r) (.ok r) := by
  refine .of_eq (d := t.droppedReplies + 1) ?_
  rw [complete_eq]
  cases t.entries.get? r.requestId <;> rfl

theorem Decides.expire (t : PendingTable) (id : Uuid) (ms : UInt64) :
    t.Decides (t.expire id ms).2 id (.overdue ms) (.error (.timeout id ms)) := by
  refine .of_eq (d := t.droppedReplies) ?_
  rw [expire_eq]
  cases t.entries.get? id <;> rfl

theorem Decides.fail (t : PendingTable) (id : Uuid) (topic reason : String) :
    t.Decides (t.fail id (.brokerPublish id topic reason)).2 id (.unsent topic reason)
      (.error (.brokerPublish id topic reason)) := by
  refine .of_eq (d := t.droppedReplies) ?_
  rw [fail_eq]
  cases t.entries.get? id <;> rfl

theorem droppedReplies_complete (t : PendingTable) (r : Reply) : (t.complete r).2.droppedReplies =
    t.droppedReplies + if (t.entries.get? r.requestId).isNone then 1 else 0 := by
  rw [complete_eq]
  cases h : t.entries.get? r.requestId <;> simp [settled]

theorem droppedReplies_expire (t : PendingTable) (id : Uuid) (ms : UInt64) :
    (t.expire id ms).2.droppedReplies = t.droppedReplies := by
  rw [expire_eq]; cases t.entries.get? id <;> rfl

theorem droppedReplies_fail (t : PendingTable) (id : Uuid) (e : GatewayError) :
    (t.fail id e).2.droppedReplies = t.droppedReplies := by
  rw [fail_eq]; cases t.entries.get? id <;> rfl

theorem droppedReplies_drop (t : PendingTable) (h : Handle) :
    (t.drop h).droppedReplies = t.droppedReplies := by
  rw [drop_eq]; cases t.entries.get? h.requestId <;> rfl

theorem counter_drop (t : PendingTable) (h : Handle) (k : Fate.Kind) : (t.drop h).counter k =
    t.counter k + if (t.entries.get? h.requestId).isSome ∧ k = .abandoned then 1 else 0 := by
  rw [drop_eq]
  cases hn : t.entries.get? h.requestId <;> cases k <;> simp [counter, settled]

theorem nextSerial_drop (t : PendingTable) (h : Handle) : (t.drop h).nextSerial = t.nextSerial := by
  rw [drop_eq]; cases t.entries.get? h.requestId <;> rfl

/-- Who lets go of a handle is not seen from another one, unless it waits for the same request. -/
theorem state?_drop {t : PendingTable} {h k : Handle} (hs : h.serial ≠ k.serial)
    (hk : t.entries.get? k.requestId ≠ some h.serial) : (t.drop k).state? h = t.state? h := by
  rw [drop_eq, state?, state?]
  cases hn : t.entries.get? k.requestId with
  | none => simp only [Keyed.get?_erase, if_neg hs]
  | some n =>
    have hne : h.serial ≠ n := fun he => hk (hn.trans (congrArg some he.symm))
    simp only [settled, Keyed.get?_erase, if_neg hs, Keyed.get?_modify, if_neg hne]

end PendingTable

namespace Session

variable {s s' : Session} {n : Note} {h k : Handle}

def accepted (s : Session) : List Handle := s.log.accepted

def fate? (s : Session) (h : Handle) : Option Fate := s.log.fate? h

def endings (s : Session) (h : Handle) : List Note := s.log.endings h

/-- The calls whose callers wait. -/
def opened (s : Session) : List Handle := s.gateway.calls.map (·.handle)

abbrev table (s : Session) : PendingTable := s.gateway.pending

/-- How far an accepted call has come. -/
inductive Stage (s : Session) (h : Handle) : Prop
  | waiting (fate : s.fate? h = none) (pends : s.table.Pends h)
      (state : s.table.state? h = some .waiting) (opened : h ∈ s.opened) (endings : s.endings h = [])
  | settled (f : Fate) (o : CallResult) (fate : s.fate? h = some f)
      (result : f.result? h.requestId = some o) (gone : s.table.entries.get? h.requestId = none)
      (state : s.table.state? h = some (.settled o)) (opened : h ∈ s.opened)
      (endings : s.endings h = [])
  | concluded (f : Fate) (o : CallResult) (fate : s.fate? h = some f)
      (result : f.result? h.requestId = some o) (gone : s.table.entries.get? h.requestId = none)
      (closed : h ∉ s.opened) (endings : s.endings h = [.concluded h o])
  | left (f : Fate) (fate : s.fate? h = some f) (gone : s.table.entries.get? h.requestId = none)
      (closed : h ∉ s.opened) (endings : s.endings h = [.left h])

/-- The steps which one call does not notice. -/
structure Frame (s s' : Session) (h : Handle) : Prop where
  fate : s.fate? h = none → s'.fate? h = none
  fated : ∀ f, s.fate? h = some f → s'.fate? h = some f
  entry : s'.table.entries.get? h.requestId = s.table.entries.get? h.requestId
  state : s'.table.state? h = s.table.state? h
  opened : h ∈ s'.opened ↔ h ∈ s.opened
  endings : s'.endings h = s.endings h

theorem Stage.frame (S : Stage s h) (F : Frame s s' h) : Stage s' h := by
  cases S with
  | waiting h1 h2 h3 h4 h5 =>
    exact .waiting (F.fate h1) (F.entry.trans h2) (F.state.trans h3) (F.opened.2 h4)
      (F.endings.trans h5)
  | settled f o h1 h2 h3 h4 h5 h6 =>
    exact .settled f o (F.fated f h1) h2 (F.entry.trans h3) (F.state.trans h4) (F.opened.2 h5)
      (F.endings.trans h6)
  | concluded f o h1 h2 h3 h4 h5 =>
    exact .concluded f o (F.fated f h1) h2 (F.entry.trans h3) (mt F.opened.1 h4)
      (F.endings.trans h5)
  | left f h1 h2 h3 h4 =>
    exact .left f (F.fated f h1) (F.entry.trans h2) (mt F.opened.1 h3) (F.endings.trans h4)

/-- The request of a call is in the table exactly as long as the call has no fate. -/
theorem Stage.fate_eq_none_iff (S : Stage s h) :
    s.fate? h = none ↔ s.table.entries.get? h.requestId = some h.serial := by
  cases S with
  | waiting h1 h2 => exact ⟨fun _ => h2, fun _ => h1⟩
  | settled f _ h1 _ h3 | concluded f _ h1 _ h3 | left f h1 h3 => simp [h1, h3]

theorem Stage.gone (S : Stage s h) (hf : s.fate? h = some f) :
    s.table.entries.get? h.requestId = none := by
  cases S with
  | waiting h1 => rw [h1] at hf; cases hf
  | settled _ _ _ _ h3 | concluded _ _ _ _ h3 | left _ _ h3 => exact h3

/-- What every session keeps whose requests have identifiers of their own. -/
structure Inv (s : Session) : Prop where
  stage : ∀ h ∈ s.accepted, Stage s h
  entry : ∀ {id m}, s.table.entries.get? id = some m → ⟨m, id⟩ ∈ s.accepted
  opened : ∀ h ∈ s.opened, h ∈ s.accepted
  serial_lt : ∀ h ∈ s.accepted, h.serial < s.table.nextSerial
  serial_inj : ∀ h ∈ s.accepted, ∀ k ∈ s.accepted, h.serial = k.serial → h = k
  submitted : ∀ h ∈ s.accepted, h.requestId ∈ s.log.submitted
  ends : ∀ n ∈ s.log, ∀ h, n.ends h = true → h ∈ s.accepted
  id_inj : ∀ h ∈ s.accepted, ∀ k ∈ s.accepted, h.requestId = k.requestId → h = k
  nodup : s.accepted.Nodup

/-! ## What steps do -/

/-- What a step can do to the table, to the calls that are open and to the log. -/
inductive Effect (s s' : Session) : Prop
  /-- Nothing that a call can notice. -/
  | quiet (n : Option Note) (log : s'.log = s.log ++ n.toList)
      (mute : ∀ m, n = some m → m.accepted? = none ∧ (∀ h, m.fate? h = none ∧ m.ends h = false) ∧
        ∀ l, Log.isStray l m = false)
      (table : s'.table = s.table) (opened : s'.opened = s.opened)
  | accepted (id : Uuid) (absent : s.table.entries.get? id = none)
      (log : s'.log = s.log ++ [.accepted ⟨s.table.nextSerial, id⟩])
      (table : s'.table = { s.table with
        entries := s.table.entries.set id s.table.nextSerial
        handles := s.table.handles.set s.table.nextSerial .waiting
        nextSerial := s.table.nextSerial + 1 })
      (opened : s'.opened = s.opened ++ [⟨s.table.nextSerial, id⟩])
  /-- The fate of a request is told, if it is in the table. -/
  | decided (n : Note) (id : Uuid) (f : Fate) (o : CallResult) (result : f.result? id = some o)
      (log : s'.log = s.log ++ [n])
      (fate : ∀ h ∈ s.accepted, n.fate? h = if h.requestId = id then some f else none)
      (ends : ∀ h, n.ends h = false) (accepted : n.accepted? = none)
      (table : s.table.Decides s'.table id f o) (opened : s'.opened = s.opened)
      (dropped : s'.table.droppedReplies = s.table.droppedReplies +
        if s.log.isStray n then 1 else 0)
  | closed (k : Handle) (n : Note) (mem : k ∈ s.opened) (log : s'.log = s.log ++ [n])
      (note : n = .left k ∨ ∃ o, n = .concluded k o ∧ s.table.state? k = some (.settled o))
      (table : s'.table = s.table.drop k) (opened : s'.opened = s.opened.filter (· != k))

end Session

end CallGateway
