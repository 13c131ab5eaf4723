import Mathlib.Data.List.Dedup
import CallGateway.Proofs.Broker.Weight
import CallGateway.Proofs.Deployment.Steps
import CallGateway.Proofs.Message.Wire
import CallGateway.Proofs.Worker.Answers
import CallGateway.Proofs.Worker.Steps

/-!
# How much is still to be published

As long as nobody enters a call or joins a group, what can still be published is bounded by what is
under way: a request goes to every group at most and gets one answer from each, a message that is no
reply gets one answer, and a reply gets none.
-/

namespace CallGateway

/-! ## Sums over lists -/

theorem sum_map_set {f : α → Nat} {x y : α} {xs : List α} {i : Nat} (h : xs[i]? = some x) :
    ((xs.set i y).map f).sum + f x = (xs.map f).sum + f y := by
  induction xs generalizing i with
  | nil => cases h
  | cons z zs ih =>
    cases i with
    | zero =>
      cases h
      simp only [List.set_cons_zero, List.map_cons, List.sum_cons]
      omega
    | succ i =>
      have := ih h
      simp only [List.set_cons_succ, List.map_cons, List.sum_cons]
      omega

/-- Two sums that differ in one summand. -/
theorem sum_map_of_nodup {f g : α → Nat} {a : α} {xs : List α} (hn : xs.Nodup) (ha : a ∈ xs)
    (h : ∀ x, x ≠ a → f x = g x) : (xs.map f).sum + g a = (xs.map g).sum + f a := by
  induction xs with
  | nil => cases ha
  | cons x xs ih =>
    obtain ⟨hx, hn⟩ := List.nodup_cons.1 hn
    simp only [List.map_cons, List.sum_cons]
    obtain rfl | ha := List.mem_cons.1 ha
    · have hsame : xs.map f = xs.map g :=
        List.map_congr_left fun y hy => h y fun he => hx (he ▸ hy)
      rw [hsame]
      omega
    · have := ih hn ha
      have := h x fun he => hx (he ▸ ha)
      omega

open Classical in
/-- The number of answers to a message: none to a reply. -/
noncomputable def due (payload : Bytes) : Nat := if ∃ r : Reply, payload = r.toBytes then 0 else 1

theorem due_le_one (payload : Bytes) : due payload ≤ 1 := by
  rw [due]
  split <;> decide

theorem due_reply (r : Reply) : due r.toBytes = 0 := if_pos ⟨r, rfl⟩

/-! ## The broker -/

namespace Broker

variable {b b' : Broker}

/-- The answers to the messages that wait. -/
noncomputable def owed (b : Broker) : Nat := b.weight fun m => due m.payload

theorem owed_publish {topic key : String} {payload : Bytes} {r : Receipt}
    (h : b.publish topic key payload = .ok (r, b')) :
    b'.totalPublished = b.totalPublished + 1 ∧ b'.groupCount = b.groupCount ∧
      b'.owed ≤ b.owed + b.groupCount * due payload := by
  obtain ⟨-, rfl⟩ := publish_eq_ok h
  exact ⟨totalPublished_accept .., groupCount_accept .., weight_accept_le ..⟩

theorem owed_receive? {s : Subscription} {m : Message} (h : b.receive? s = some (m, b')) :
    b'.totalPublished = b.totalPublished ∧ b'.groupCount = b.groupCount ∧
      b'.owed + due m.payload ≤ b.owed :=
  ⟨(sameBooks_receive? h).total, groupCount_receive? h, weight_receive?_le h⟩

end Broker

/-! ## Workers -/

/-- A reply that is published calls for no answer. -/
theorem Task.owed_reply (t : Task) (b : Broker) :
    (t.reply b).totalPublished ≤ b.totalPublished + (if t.answer.isSome = true then 1 else 0) ∧
      (t.reply b).groupCount = b.groupCount ∧ (t.reply b).owed ≤ b.owed := by
  rw [reply]
  cases t.answer with
  | none => exact ⟨Nat.le_refl _, rfl, Nat.le_refl _⟩
  | some a =>
    dsimp only
    rw [Worker.reply]
    split
    · next hp =>
      obtain ⟨htotal, hcount, howed⟩ := Broker.owed_publish hp
      rw [due_reply, Nat.mul_zero] at howed
      exact ⟨htotal.le, hcount, howed⟩
    · exact ⟨Nat.le_add_right _ _, rfl, Nat.le_refl _⟩

namespace Worker

variable {w w' : Worker} {b b' : Broker} {c : Consumer} {s : Subscription}
  {now : Instant} {clock k : Nat}

def subscriptions (w : Worker) : List Subscription := w.consumers.map (·.subscription)

/-- The message that a consumer of this subscription holds. -/
def heldBy? (w : Worker) (s : Subscription) : Option Message :=
  (w.consumers.find? (·.subscription == s)).bind (·.held)

/-- The answers to the messages that are held. -/
noncomputable def heldOwed (w : Worker) : Nat :=
  (w.subscriptions.dedup.map fun s => (w.heldBy? s).elim 0 (due ·.payload)).sum

/-- The answers to the messages that are held, and those that have been worked out. -/
noncomputable def owed (w : Worker) : Nat := w.heldOwed + w.tasks.countP (·.answer.isSome)

theorem heldOwed_congr (h : w'.consumers = w.consumers) : w'.heldOwed = w.heldOwed := by
  simp only [heldOwed, subscriptions, heldBy?, h]

theorem heldBy?_hold (w : Worker) (s s' : Subscription) (held : Option Message) :
    (w.hold s held).heldBy? s' =
      if s' = s ∧ s ∈ w.subscriptions then held else w.heldBy? s' := by
  have hp : ((fun c : Consumer => c.subscription == s') ∘
      fun c => if c.subscription = s then { c with held } else c) =
        fun c => c.subscription == s' := by
    funext c
    rw [Function.comp_apply]
    split <;> rfl
  rw [heldBy?, hold, List.find?_map, hp, heldBy?]
  cases hc : w.consumers.find? (·.subscription == s') with
  | none =>
    have hno : ¬ (s' = s ∧ s ∈ w.subscriptions) := by
      rintro ⟨rfl, hs⟩
      obtain ⟨c, hmem, he⟩ := List.mem_map.1 hs
      exact List.find?_eq_none.1 hc c hmem (beq_iff_eq.2 he)
    rw [if_neg hno]
    rfl
  | some c =>
    obtain rfl : c.subscription = s' := beq_iff_eq.1
      (List.find?_some (p := fun c : Consumer => c.subscription == s') hc)
    have hmem : c.subscription ∈ w.subscriptions := List.mem_map_of_mem (List.mem_of_find?_eq_some hc)
    rw [Option.map_some, Option.bind_some]
    by_cases hs : c.subscription = s
    · rw [if_pos hs, if_pos ⟨hs, hs ▸ hmem⟩]
    · rw [if_neg hs, if_neg fun h => hs h.1]
      rfl

theorem heldOwed_hold (hs : s ∈ w.subscriptions) (held : Option Message) :
    (w.hold s held).heldOwed + (w.heldBy? s).elim 0 (due ·.payload) =
      w.heldOwed + held.elim 0 (due ·.payload) := by
  have hsubs : (w.hold s held).subscriptions = w.subscriptions := subscriptions_hold w s held
  have hsum := sum_map_of_nodup w.subscriptions.nodup_dedup (List.mem_dedup.2 hs)
    (f := fun s' => ((w.hold s held).heldBy? s').elim 0 (due ·.payload))
    (g := fun s' => (w.heldBy? s').elim 0 (due ·.payload)) fun s' hne => by
      rw [heldBy?_hold, if_neg fun h => hne h.1]
  rw [heldBy?_hold, if_pos ⟨rfl, hs⟩] at hsum
  rwa [heldOwed, heldOwed, hsubs]

theorem owed_take? (hc : w.consumers[k]? = some c) (h : w.take? b c = some (w', b')) :
    b'.totalPublished = b.totalPublished ∧ b'.groupCount = b.groupCount ∧
      b'.owed + w'.owed ≤ b.owed + w.owed := by
  obtain ⟨m, -, hr, rfl⟩ := of_take? h
  obtain ⟨htotal, hcount, howed⟩ := Broker.owed_receive? hr
  have hs : c.subscription ∈ w.subscriptions := List.mem_map_of_mem (List.mem_of_getElem? hc)
  have hhold := heldOwed_hold hs (some m)
  rw [Option.elim_some] at hhold
  refine ⟨htotal, hcount, ?_⟩
  show b'.owed + ((w.hold c.subscription (some m)).heldOwed + w.tasks.countP (·.answer.isSome)) ≤
    b.owed + (w.heldOwed + w.tasks.countP (·.answer.isSome))
  omega

/-- Nothing has to be answered to a reply. -/
theorem answer_isSome_le (w : Worker) (now : Instant) (clock : Nat) (payload : Bytes) :
    (if (w.answer now clock payload).result.isSome = true then 1 else 0) ≤ due payload := by
  by_cases hr : ∃ r : Reply, payload = r.toBytes
  · obtain ⟨r, rfl⟩ := hr
    cases he : Envelope.ofBytes now r.toBytes with
    | ok e =>
      have hno := Envelope.ofBytes_reply now r
      rw [he] at hno
      cases hno
    | error err =>
      rw [answer_of_neither he (Header.ofBytes?_reply r)]
      exact Nat.zero_le _
  · rw [due, if_neg hr]
    split
    · exact Nat.le_refl _
    · exact Nat.zero_le _

theorem owed_grant? (h : w.grant? now clock = some w') : w'.owed ≤ w.owed := by
  obtain ⟨t, htasks, hnext, hanswer⟩ := grant?_eq_some h
  obtain ⟨c, m, waiting, free, hc, -, hwaiting, -, hw⟩ := of_grant? h
  have hheld : w.heldBy? c.subscription = some t.message := by
    rw [next?, hwaiting] at hnext
    exact hnext
  have hhold : (w.hold c.subscription none).heldOwed + due t.message.payload = w.heldOwed := by
    have h := heldOwed_hold (List.mem_map_of_mem hc) none
    rwa [hheld] at h
  have hle := w.answer_isSome_le now clock t.message.payload
  rw [← hanswer] at hle
  rw [owed, owed, heldOwed_congr (w := w.hold c.subscription none) (by rw [hw]), htasks,
    List.countP_append, List.countP_singleton]
  omega

theorem owed_finish? (h : w.finish? b clock k = some (w', b')) :
    b'.totalPublished + b'.owed + w'.owed ≤ b.totalPublished + b.owed + w.owed ∧
      b'.groupCount = b.groupCount := by
  obtain ⟨t, hk, -, rfl, rfl⟩ := of_finish? h
  obtain ⟨htotal, hcount, howed⟩ := t.owed_reply b
  have hperm := (perm_eraseIdx hk).countP_eq (·.answer.isSome)
  rw [List.countP_cons] at hperm
  refine ⟨?_, hcount⟩
  show _ + _ + (w.heldOwed + (w.tasks.eraseIdx k).countP (·.answer.isSome)) ≤ _
  rw [owed]
  omega

end Worker

/-! ## Gateways -/

namespace Gateway

variable {g g' : Gateway} {b b' : Broker} {c : OpenCall} {s : Subscription} {clock k : Nat}

theorem outbox_expire? (h : g.expire? clock c = some g') : g'.outbox = g.outbox := by
  rw [expire?] at h
  split at h
  · split at h <;> cases h
    rfl
  · cases h

theorem outbox_conclude? (h : g.conclude? c = some g') : g'.outbox = g.outbox := by
  obtain ⟨r, -, h⟩ := Option.map_eq_some_iff.1 h
  cases h
  rfl

theorem of_listen? (h : g.listen? b s = some (g', b')) :
    ∃ m, b.receive? s = some (m, b') ∧ g' = g.take m.payload := by
  obtain ⟨⟨m, b₁⟩, hr, h⟩ := Option.map_eq_some_iff.1 h
  cases h
  exact ⟨m, hr, rfl⟩

theorem outbox_take (g : Gateway) (payload : Bytes) : (g.take payload).outbox = g.outbox := by
  rw [take]
  split <;> rfl

/-- A request that leaves the outbox is published once and answered by every group at most. -/
theorem owed_publish? (h : g.publish? b k = some (g', b')) :
    g'.outbox.length + 1 = g.outbox.length ∧ b'.groupCount = b.groupCount ∧
      b'.totalPublished + b'.owed ≤ b.totalPublished + b.owed + (1 + b.groupCount) := by
  rw [publish?] at h
  obtain ⟨r, hr, h⟩ := Option.map_eq_some_iff.1 h
  have hlength : (g.outbox.eraseIdx k).length + 1 = g.outbox.length := by
    obtain ⟨hk, -⟩ := List.getElem?_eq_some_iff.1 hr
    rw [List.length_eraseIdx_of_lt hk]
    omega
  split at h
  · next hp =>
    cases h
    obtain ⟨htotal, hcount, howed⟩ := Broker.owed_publish hp
    have := Nat.mul_le_mul_left b.groupCount (due_le_one r.payload)
    exact ⟨hlength, hcount, by omega⟩
  · cases h
    exact ⟨hlength, rfl, by omega⟩

end Gateway

/-! ## Deployments -/

namespace Deployment

variable {d d' : Deployment} {e : Event}

/-- What goes on while nobody does anything from outside. -/
inductive Move
  | event (e : Event)
  | wait (milliseconds : Nat)

/-- What cannot happen does nothing. -/
def move (d : Deployment) : Move → Deployment
  | .event e => (d.step? e).getD d
  | .wait ms => { d with clock := d.clock + ms }

def follow (d : Deployment) (moves : List Move) : Deployment := moves.foldl move d

/-- The number of messages that may still be published: the requests that wait for it with an answer
to each from every group, the answers to what is queued or held, and those that have been worked
out. Replies have no answers. -/
noncomputable def owed (d : Deployment) : Nat :=
  (d.gateways.map fun g => g.outbox.length * (1 + d.broker.groupCount)).sum + d.broker.owed +
    (d.workers.map (·.owed)).sum

variable {i : Nat} {g g' : Gateway} {w w' : Worker} {b : Broker}

/-- A step of a gateway. -/
theorem owed_setGateway_le (hg : d.gateways[i]? = some g)
    (hcount : b.groupCount = d.broker.groupCount)
    (h : b.totalPublished + b.owed + g'.outbox.length * (1 + d.broker.groupCount) ≤
      d.broker.totalPublished + d.broker.owed + g.outbox.length * (1 + d.broker.groupCount)) :
    b.totalPublished + ((d.setGateway i g').withBroker b).owed ≤
      d.broker.totalPublished + d.owed := by
  have hsum := sum_map_set (f := fun g => g.outbox.length * (1 + d.broker.groupCount)) (y := g') hg
  show b.totalPublished + (((d.gateways.set i g').map fun g =>
    g.outbox.length * (1 + b.groupCount)).sum + b.owed + (d.workers.map (·.owed)).sum) ≤ _
  rw [hcount, owed]
  omega

/-- A step of a worker. -/
theorem owed_setWorker_le (hw : d.workers[i]? = some w)
    (hcount : b.groupCount = d.broker.groupCount)
    (h : b.totalPublished + b.owed + w'.owed ≤ d.broker.totalPublished + d.broker.owed + w.owed) :
    b.totalPublished + ((d.setWorker i w').withBroker b).owed ≤
      d.broker.totalPublished + d.owed := by
  have hsum := sum_map_set (f := (·.owed)) (y := w') hw
  show b.totalPublished + ((d.gateways.map fun g => g.outbox.length * (1 + b.groupCount)).sum +
    b.owed + ((d.workers.set i w').map (·.owed)).sum) ≤ _
  rw [hcount, owed]
  omega

theorem Happens.owed_le (h : Happens d e d') :
    d'.broker.totalPublished + d'.owed ≤ d.broker.totalPublished + d.owed := by
  cases h with
  | expire hg _ h =>
    refine owed_setGateway_le (b := d.broker) hg rfl ?_
    rw [Gateway.outbox_expire? h]
  | conclude hg _ h =>
    refine owed_setGateway_le (b := d.broker) hg rfl ?_
    rw [Gateway.outbox_conclude? h]
  | @publish i k g g' b hg h =>
    obtain ⟨hlength, hcount, howed⟩ := Gateway.owed_publish? h
    refine owed_setGateway_le (b := b) hg hcount ?_
    rw [← hlength, Nat.succ_mul]
    omega
  | @listen i k g g' b s hg _ h =>
    obtain ⟨m, hr, rfl⟩ := Gateway.of_listen? h
    obtain ⟨htotal, hcount, howed⟩ := Broker.owed_receive? hr
    refine owed_setGateway_le (b := b) hg hcount ?_
    rw [Gateway.outbox_take]
    omega
  | @take i k w w' b c hw hc h =>
    obtain ⟨htotal, hcount, howed⟩ := Worker.owed_take? hc h
    exact owed_setWorker_le (b := b) hw hcount (by omega)
  | grant hw h =>
    have := Worker.owed_grant? h
    exact owed_setWorker_le (b := d.broker) hw rfl (by omega)
  | @finish i k w w' b hw h =>
    obtain ⟨howed, hcount⟩ := Worker.owed_finish? h
    exact owed_setWorker_le (b := b) hw hcount howed

/-- Nothing that goes on by itself makes more messages than were owed. -/
theorem owed_follow_le (d : Deployment) (moves : List Move) :
    (d.follow moves).broker.totalPublished + (d.follow moves).owed ≤
      d.broker.totalPublished + d.owed := by
  induction moves generalizing d with
  | nil => exact Nat.le_refl _
  | cons m moves ih =>
    refine (ih (d.move m)).trans ?_
    cases m with
    | wait ms => exact Nat.le_refl _
    | event e =>
      rw [move]
      cases h : d.step? e with
      | none => exact Nat.le_refl _
      | some d' => exact (Happens.of_step? h).owed_le

end Deployment

end CallGateway
