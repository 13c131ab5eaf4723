import CallGateway.Deployment
import CallGateway.Proofs.Broker.Carries
import CallGateway.Proofs.Gateway.Stages
import CallGateway.Proofs.Message.Wire
import CallGateway.Proofs.Procedure.NotFound

/-!
# Where replies come from

A ledger has the requests that have been entered, and knows on which topics some worker lacks which
procedures. `Deployment.Honest` says that whoever claims a procedure to be missing, be it a message,
an execution or the result of a call, does so for a request on a topic where it is.
-/

namespace CallGateway

/-- A request that has been entered. -/
structure Origin where
  handle : Handle
  topic : String
  procedure : String

structure Ledger where
  asked : List Origin := []
  /-- Some worker that consumes this topic has no procedure of this name. -/
  Lacks : (topic procedure : String) → Prop
  /-- What a request topic has after the name of the service. -/
  suffix : String

namespace Ledger

def add (L : Ledger) (o : Origin) : Ledger := { L with asked := L.asked ++ [o] }

/-- No two requests have the same identifier or the same handle. -/
structure Distinct (L : Ledger) : Prop where
  id : ∀ o ∈ L.asked, ∀ o' ∈ L.asked, o.handle.requestId = o'.handle.requestId → o = o'
  serial : ∀ o ∈ L.asked, ∀ o' ∈ L.asked, o.handle.serial = o'.handle.serial → o = o'

/-- If the reply says that a procedure is missing, the request lacks it to which `which` points. -/
def Warrants (L : Ledger) (which : Origin → Prop) (r : Reply) : Prop :=
  ∀ m, r.errorMessage? = some m → IsNotFound m →
    ∃ o ∈ L.asked, which o ∧ L.Lacks o.topic o.procedure

/-- What the reply says is true of the request that it is for. -/
def Warranted (L : Ledger) (r : Reply) : Prop :=
  L.Warrants (fun o => o.handle.requestId = r.requestId) r

/-- What the reply says is true of the request with this handle. -/
def Fits (L : Ledger) (serial : Nat) (r : Reply) : Prop :=
  L.Warrants (fun o => o.handle.serial = serial) r

/-- A message on a topic is an envelope that has been sent there, or a reply. -/
inductive Genuine (L : Ledger) (topic : String) : Bytes → Prop
  | request (e : Envelope) (o : Origin) (mem : o ∈ L.asked) (sent : o.topic = topic)
      (id : o.handle.requestId = e.requestId) (procedure : o.procedure = e.procedureName) :
      Genuine L topic e.toBytes
  | reply (r : Reply) (warranted : L.Warranted r) : Genuine L topic r.toBytes

variable {L : Ledger} {which : Origin → Prop} {r : Reply}

/-- Of two members with the same value of `f`, both are old, or both are the new one. -/
theorem eq_of_mem_add (f : Origin → α) {p q : Origin}
    (inj : ∀ o ∈ L.asked, ∀ o' ∈ L.asked, f o = f o' → o = o') {o : Origin}
    (new : ∀ o' ∈ L.asked, f o' ≠ f o) (hp : p ∈ (L.add o).asked) (hq : q ∈ (L.add o).asked)
    (h : f p = f q) : p = q := by
  rcases List.mem_append.1 hp with hp | hp <;> rcases List.mem_append.1 hq with hq | hq
  · exact inj p hp q hq h
  · exact absurd (List.mem_singleton.1 hq ▸ h) (new p hp)
  · exact absurd (List.mem_singleton.1 hp ▸ h.symm) (new q hq)
  · exact (List.mem_singleton.1 hp).trans (List.mem_singleton.1 hq).symm

theorem Distinct.add (D : L.Distinct) {o : Origin}
    (id : ∀ p ∈ L.asked, p.handle.requestId ≠ o.handle.requestId)
    (serial : ∀ p ∈ L.asked, p.handle.serial ≠ o.handle.serial) : (L.add o).Distinct where
  id _ hp _ hq := eq_of_mem_add (·.handle.requestId) D.id id hp hq
  serial _ hp _ hq := eq_of_mem_add (·.handle.serial) D.serial serial hp hq

theorem Warrants.add (H : L.Warrants which r) (o : Origin) : (L.add o).Warrants which r := by
  intro m hm hn
  obtain ⟨p, hp, hw, hl⟩ := H m hm hn
  exact ⟨p, List.mem_append_left _ hp, hw, hl⟩

theorem Genuine.add (H : L.Genuine topic bs) (o : Origin) : (L.add o).Genuine topic bs := by
  cases H with
  | request e p hp ht hid hproc => exact .request e p (List.mem_append_left _ hp) ht hid hproc
  | reply r h => exact .reply r (Warrants.add h o)

/-- A reply that does not say that a procedure is missing needs no warrant. -/
theorem warrants_of_message (H : ∀ m, r.errorMessage? = some m → ¬ IsNotFound m) :
    L.Warrants which r :=
  fun m hm hn => absurd hn (H m hm)

/-- What is read of a genuine message as a reply is warranted. -/
theorem Genuine.ofBytes (H : L.Genuine topic bs) (h : Reply.ofBytes bs = .ok r) :
    L.Warranted r := by
  cases H with
  | request e =>
    have he := Reply.ofBytes_envelope e
    rw [h] at he
    cases he
  | reply r' hr =>
    obtain ⟨hid, hm⟩ := Reply.ofBytes_toBytes h
    intro m h hn
    rw [hm] at h
    rw [hid]
    exact hr m h hn

end Ledger

open Ledger

variable {L : Ledger}

/-! ## Tables of pending requests -/

namespace PendingTable

structure Honest (L : Ledger) (t : PendingTable) : Prop where
  serial : ∀ o ∈ L.asked, o.handle.serial < t.nextSerial
  entry : ∀ {id n}, t.entries.get? id = some n → ∃ o ∈ L.asked, o.handle = ⟨n, id⟩
  settled : ∀ {n r}, t.handles.get? n = some (.settled (.ok r)) → L.Fits n r

variable {t t' : PendingTable}

theorem Honest.decides {id : Uuid} (H : t.Honest L) (D : t.Decides t' id f res)
    (h : ∀ n r, t.entries.get? id = some n → res = .ok r → L.Fits n r) : t'.Honest L where
  serial o ho := D.nextSerial ▸ H.serial o ho
  entry hid := by
    rw [D.entries] at hid
    exact H.entry (Keyed.get?_of_get?_erase hid)
  settled {n r} hn := by
    rw [D.handles] at hn
    cases hid : t.entries.get? id with
    | none =>
      rw [hid] at hn
      exact H.settled hn
    | some k =>
      rw [hid, Keyed.get?_modify] at hn
      split at hn
      · next hk =>
        obtain ⟨_, -, hs⟩ := Option.map_eq_some_iff.1 hn
        cases hs
        subst hk
        exact h _ r hid rfl
      · exact H.settled hn

/-- A reply is taken to the handle that waits for it. -/
theorem Honest.complete (H : t.Honest L) (D : L.Distinct) {r : Reply} (hr : L.Warranted r) :
    (t.complete r).2.Honest L := by
  refine H.decides (.complete t r) fun n r' hid h => ?_
  cases h
  obtain ⟨o, ho, hh⟩ := H.entry hid
  intro m hm hn
  obtain ⟨o', ho', hid', hl⟩ := hr m hm hn
  obtain rfl := D.id o ho o' ho' (by rw [hid', hh])
  exact ⟨o, ho, congrArg Handle.serial hh, hl⟩

theorem Honest.expire (H : t.Honest L) (id : Uuid) (ms : UInt64) :
    (t.expire id ms).2.Honest L :=
  H.decides (.expire t id ms) fun _ _ _ h => nomatch h

theorem Honest.fail (H : t.Honest L) (id : Uuid) (topic reason : String) :
    (t.fail id (.brokerPublish id topic reason)).2.Honest L :=
  H.decides (.fail t id topic reason) fun _ _ _ h => nomatch h

theorem Honest.drop (H : t.Honest L) (h : Handle) : (t.drop h).Honest L where
  serial o ho := nextSerial_drop t h ▸ H.serial o ho
  entry hid := by
    rw [entries_drop] at hid
    exact H.entry (Keyed.get?_of_get?_erase hid)
  settled {n r} hn := by
    rw [drop_eq] at hn
    cases hid : t.entries.get? h.requestId with
    | none =>
      rw [hid] at hn
      exact H.settled (Keyed.get?_of_get?_erase hn)
    | some k =>
      rw [hid] at hn
      have hn := Keyed.get?_of_get?_erase hn
      dsimp only [PendingTable.settled] at hn
      rw [Keyed.get?_modify] at hn
      split at hn
      · obtain ⟨_, -, hs⟩ := Option.map_eq_some_iff.1 hn
        cases hs
      · exact H.settled hn

theorem create_eq_ok {id : Uuid} {h : Handle} (H : t.create id = .ok (h, t')) :
    h = ⟨t.nextSerial, id⟩ ∧ t' = t.entered id := by
  rw [create_eq] at H
  cases hid : t.entries.get? id with
  | some n => rw [hid] at H; cases H
  | none => rw [hid] at H; cases H; exact ⟨rfl, rfl⟩

/-- A new request is asked for with the handle that it is given. -/
theorem Honest.create {id : Uuid} {h : Handle} (H : t.Honest L) (topic procedure : String)
    (hc : t.create id = .ok (h, t')) : t'.Honest (L.add ⟨h, topic, procedure⟩) := by
  obtain ⟨rfl, rfl⟩ := create_eq_ok hc
  refine ⟨fun o ho => ?_, @fun id' n hid => ?_, @fun n r hn => ?_⟩
  · rcases List.mem_append.1 ho with ho | ho
    · exact Nat.lt_succ_of_lt (H.serial o ho)
    · rw [List.mem_singleton.1 ho]
      exact Nat.lt_succ_self _
  · rw [entered, Keyed.get?_set] at hid
    split at hid
    · next h =>
      cases hid
      subst h
      exact ⟨_, List.mem_append_right _ (.head _), rfl⟩
    · obtain ⟨o, ho, he⟩ := H.entry hid
      exact ⟨o, List.mem_append_left _ ho, he⟩
  · rw [entered, Keyed.get?_set] at hn
    split at hn
    · cases hn
    · exact (H.settled hn).add _

end PendingTable

end CallGateway
