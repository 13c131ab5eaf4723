import CallGateway.Proofs.Broker.Actions
import CallGateway.Proofs.Worker.Steps
import CallGateway.Proofs.Worker.Topics

/-!
# A worker at work

A shift is a replica from its start on, on a broker that is used by others as well. Its consumers
take messages, permits are granted, executions end, time passes, and at some moment the replica is
stopped; in which order, nobody says. What has been done with the broker is recorded.
-/

namespace CallGateway

/-- The publication of the reply, if there is one. -/
def Task.publication? (t : Task) : Option Broker.Action :=
  t.answer.map fun (topic, r) => .publish topic r.requestId.display r.toBytes

/-- A history goes on with the publication of the reply, if there is one. -/
def Task.enter (t : Task) (H : Broker.History) : Broker.History := t.publication?.elim H H.act

structure Shift where
  worker : Worker
  broker : Broker
  /-- What has been done with the broker. -/
  history : Broker.History
  /-- The subscriptions with which the replica has been started. -/
  own : List Subscription
  /-- Milliseconds. -/
  clock : Nat
  /-- The calendar time at each reading of the clock. -/
  calendar : Nat → Instant
  /-- The messages for which a permit has been granted, the first to start first. -/
  started : List Message := []
  /-- The executions that have come to their ends, the first to end first. -/
  handled : List Task := []
  stopped : Bool := false

namespace Shift

open Broker (onTopic onTopic_concat)

/-- What can happen to a replica, and what others do with its broker. -/
inductive Event
  | elsewhere (a : Broker.Action)
  | take (consumer : Nat)
  | grant
  | finish (task : Nat)
  | wait (milliseconds : Nat)
  | stop

/-- Nobody else receives on a subscription of the replica or drops it. -/
def Owns (s : Shift) : Broker.Action → Bool
  | .drop serial | .receive serial => s.own.any (·.serial == serial)
  | _ => false

/-- What an event does, if it can happen now. -/
def step? (s : Shift) : Event → Option Shift
  | .elsewhere a =>
    if s.Owns a then none
    else
      let history := s.history.act a
      some { s with history, broker := history.broker }
  | .take k => do
    let c ← s.worker.consumers[k]?
    let (worker, broker) ← s.worker.take? s.broker c
    return { s with worker, broker, history := s.history.act (.receive c.subscription.serial) }
  | .grant => do
    let worker ← s.worker.grant? (s.calendar s.clock) s.clock
    let begun := worker.tasks.drop s.worker.tasks.length
    return { s with worker, started := s.started ++ begun.map (·.message) }
  | .finish k => do
    let t ← s.worker.tasks[k]?
    let (worker, broker) ← s.worker.finish? s.broker s.clock k
    return { s with
      worker
      broker
      history := t.enter s.history
      handled := s.handled ++ [t] }
  | .wait milliseconds => some { s with clock := s.clock + milliseconds }
  | .stop =>
    let (worker, broker) := s.worker.stop s.broker
    some { s with
      worker
      broker
      history := s.worker.consumers.foldl
        (fun H c => H.act (.drop c.subscription.serial)) s.history
      stopped := true }

/-- An event has happened. -/
inductive Happens (s : Shift) : Event → Shift → Prop
  | elsewhere {a : Broker.Action} (others : ¬ s.Owns a = true) : Happens s (.elsewhere a) { s with
      history := s.history.act a
      broker := (s.history.act a).broker }
  | take {k : Nat} {c : Consumer} {m : Message} {b : Broker} (hc : c ∈ s.worker.consumers)
    (idle : c.held = none) (hr : s.broker.receive? c.subscription = some (m, b)) :
    Happens s (.take k) { s with
      worker := { s.worker.hold c.subscription (some m) with
        waiting := s.worker.waiting ++ [c.subscription] }
      broker := b
      history := s.history.act (.receive c.subscription.serial) }
  | grant {c : Consumer} {m : Message} {waiting : List Subscription} {free : Nat} {t : Task}
    (hc : c ∈ s.worker.consumers) (held : c.held = some m)
    (hw : s.worker.waiting = c.subscription :: waiting) (hf : s.worker.free = free + 1)
    (hm : t.message = m)
    (answer : t.answer = (s.worker.answer (s.calendar s.clock) s.clock m.payload).result)
    (finish : t.finish =
      s.clock + (s.worker.answer (s.calendar s.clock) s.clock m.payload).elapsed) :
    Happens s .grant { s with
      worker := { s.worker.hold c.subscription none with
        waiting, free, tasks := s.worker.tasks ++ [t] }
      started := s.started ++ [m] }
  | finish {k : Nat} {t : Task} (ht : s.worker.tasks[k]? = some t) : Happens s (.finish k) { s with
      worker := { s.worker with free := s.worker.free + 1, tasks := s.worker.tasks.eraseIdx k }
      broker := t.reply s.broker
      history := t.enter s.history
      handled := s.handled ++ [t] }
  | wait (milliseconds : Nat) :
    Happens s (.wait milliseconds) { s with clock := s.clock + milliseconds }
  | stop : Happens s .stop { s with
      worker := (s.worker.stop s.broker).1
      broker := (s.worker.stop s.broker).2
      history := s.worker.consumers.foldl
        (fun H c => H.act (.drop c.subscription.serial)) s.history
      stopped := true }

theorem Happens.of_step? {s s' : Shift} {e : Event} (h : s.step? e = some s') :
    Happens s e s' := by
  cases e with
  | elsewhere a =>
    rw [Shift.step?] at h
    split at h
    · cases h
    · next ha =>
      cases h
      exact .elsewhere ha
  | take k =>
    obtain ⟨c, hc, h⟩ := Option.bind_eq_some_iff.1 h
    obtain ⟨⟨worker, broker⟩, ht, h⟩ := Option.bind_eq_some_iff.1 h
    cases h
    obtain ⟨m, idle, hr, rfl⟩ := Worker.of_take? ht
    exact .take (List.mem_of_getElem? hc) idle hr
  | grant =>
    obtain ⟨worker, hg, h⟩ := Option.bind_eq_some_iff.1 h
    cases h
    obtain ⟨c, m, waiting, free, hc, held, hw, hf, rfl⟩ := Worker.of_grant? hg
    simp only [List.drop_left]
    exact .grant hc held hw hf rfl rfl rfl
  | finish k =>
    obtain ⟨t, ht, h⟩ := Option.bind_eq_some_iff.1 h
    obtain ⟨⟨worker, broker⟩, hf, h⟩ := Option.bind_eq_some_iff.1 h
    cases h
    obtain ⟨t', ht', -, rfl, rfl⟩ := Worker.of_finish? hf
    cases ht.symm.trans ht'
    exact .finish ht
  | wait milliseconds =>
    cases h
    exact .wait milliseconds
  | stop =>
    cases h
    exact .stop

/-- What cannot happen does not. -/
def step (s : Shift) (e : Event) : Shift := (s.step? e).getD s

def run (s : Shift) (events : List Event) : Shift := events.foldl step s

/-- A replica that has just been started and has subscribed to its topics. -/
def start (H : Broker.History) (w : Worker) (b : Broker) (clock : Nat)
    (calendar : Nat → Instant) : Shift where
  worker := w
  broker := b
  history := w.config.topics.foldl (fun H topic => H.act (.subscribe topic w.config.consumerGroup)) H
  own := w.consumers.map (·.subscription)
  clock
  calendar

/-! ## What every step keeps -/

variable {w : Worker} {s : Shift} {sub : Subscription} {c d : Consumer} {m : Message}

structure Inv (w : Worker) (s : Shift) : Prop where
  ledger : Broker.History.Ledger s.history
  recorded : s.history.broker = s.broker
  dispatcher : s.worker.dispatcher = w.dispatcher
  topics : s.own.map (·.topic) = w.config.topics
  consumes : s.worker.consumers.map (·.subscription) = if s.stopped then [] else s.own
  alive : ∀ c ∈ s.worker.consumers, c.subscription ∈ s.history.held
  permits : s.worker.free + s.worker.tasks.length = w.config.concurrency.toNat
  accounted : ((s.worker.tasks ++ s.handled).map (·.message)).Perm s.started
  answers : ∀ t ∈ s.worker.tasks ++ s.handled, ∃ clock ≤ s.clock,
    t.answer = (w.answer (s.calendar clock) clock t.message.payload).result ∧
      t.finish = clock + (w.answer (s.calendar clock) clock t.message.payload).elapsed
  replied : (s.handled.filterMap (·.publication?)).Sublist s.history.actions
  received : ∀ c ∈ s.worker.consumers, s.history.received c.subscription =
    onTopic c.subscription.topic s.started ++ c.held.toList
  asks : ∀ c ∈ s.worker.consumers, c.held.isSome ↔ c.subscription ∈ s.worker.waiting
  waits : ∀ sub ∈ s.worker.waiting, sub ∈ s.worker.consumers.map (·.subscription)
  inLine : s.worker.waiting.Nodup
  ordered : ∀ sub ∈ s.own, onTopic sub.topic s.started <+: s.history.handed sub
  delivered : ∀ m ∈ s.started, ∃ sub ∈ s.own, sub.topic = m.topic

namespace Inv

theorem mem_own (I : Inv w s) (hc : c ∈ s.worker.consumers) : c.subscription ∈ s.own := by
  have h := List.mem_map_of_mem (f := (·.subscription)) hc
  rw [I.consumes] at h
  split at h
  · cases h
  · exact h

/-- The topics of the replica tell its subscriptions apart. -/
theorem eq_of_topic (I : Inv w s) (hs : sub ∈ s.own) {sub' : Subscription} (hs' : sub' ∈ s.own)
    (h : sub.topic = sub'.topic) : sub = sub' :=
  List.inj_on_of_nodup_map (I.topics ▸ w.config.nodup_topics) hs hs' h

theorem nodup_own (I : Inv w s) : s.own.Nodup :=
  List.Nodup.of_map (·.topic) (I.topics ▸ w.config.nodup_topics)

theorem nodup_subscriptions (I : Inv w s) :
    (s.worker.consumers.map (·.subscription)).Nodup := by
  rw [I.consumes]
  split
  · exact .nil
  · exact I.nodup_own

/-- The subscriptions tell the consumers apart. -/
theorem eq_of_subscription (I : Inv w s) (hc : c ∈ s.worker.consumers)
    (hd : d ∈ s.worker.consumers) (h : c.subscription = d.subscription) : c = d :=
  List.inj_on_of_nodup_map I.nodup_subscriptions hc hd h

/-- What others do with the broker is nothing to the replica. -/
theorem apart (I : Inv w s) {H' : Broker.History}
    (A : Broker.History.Apart s.own s.history H') :
    Inv w { s with history := H', broker := H'.broker } where
  ledger := A.ledger
  recorded := rfl
  dispatcher := I.dispatcher
  topics := I.topics
  consumes := I.consumes
  alive c hc := A.held _ (I.mem_own hc) (I.alive c hc)
  permits := I.permits
  accounted := I.accounted
  answers := I.answers
  replied := I.replied.trans A.actions.sublist
  received c hc := (A.received _ (I.mem_own hc)).trans (I.received c hc)
  asks := I.asks
  waits := I.waits
  inLine := I.inLine
  ordered sub hsub := (I.ordered sub hsub).trans (A.handed sub)
  delivered := I.delivered

/-- A consumer takes a message. -/
theorem take (I : Inv w s) (hc : c ∈ s.worker.consumers) (idle : c.held = none) {b : Broker}
    (h : s.broker.receive? c.subscription = some (m, b)) :
    Inv w { s with
      worker := { s.worker.hold c.subscription (some m) with
        waiting := s.worker.waiting ++ [c.subscription] }
      broker := b
      history := s.history.act (.receive c.subscription.serial) } := by
  rw [← I.recorded] at h
  have hact := Broker.History.act_receive I.ledger.tied (I.alive c hc) h
  have L := I.ledger.act (.receive c.subscription.serial)
  have hreceived (sub : Subscription) :
      (s.history.act (.receive c.subscription.serial)).received sub =
        s.history.received sub ++ if c.subscription = sub then [m] else [] := by
    rw [hact, Broker.History.received_push]
    show _ ++ (if c.subscription = sub then some m else none).toList = _
    split <;> rfl
  have hsubs := s.worker.subscriptions_hold c.subscription (some m)
  have hnew : c.subscription ∉ s.worker.waiting := by
    rw [← I.asks c hc, idle]
    nofun
  refine ⟨L, ?_, I.dispatcher, I.topics, hsubs.trans I.consumes, ?_, I.permits, I.accounted,
    I.answers, I.replied.trans (Broker.History.actions_act ..).sublist, ?_, ?_, ?_, ?_, ?_,
    I.delivered⟩
  · rw [hact]; rfl
  · intro d hd
    rw [hact]
    obtain ⟨d, hd, hs, rfl⟩ | ⟨hd, hs⟩ := Worker.mem_hold hd
    · exact I.alive c hc
    · exact I.alive d hd
  · intro d hd
    obtain ⟨d, hd, hs, rfl⟩ | ⟨hd, hs⟩ := Worker.mem_hold hd
    · rw [hreceived, if_pos rfl, I.received c hc, idle, Option.toList_none, List.append_nil,
        Option.toList_some]
    · rw [hreceived, if_neg (Ne.symm hs), List.append_nil, I.received d hd]
  · intro d hd
    obtain ⟨d, hd, hs, rfl⟩ | ⟨hd, hs⟩ := Worker.mem_hold hd
    · exact iff_of_true rfl (List.mem_append_right _ (.head _))
    · rw [I.asks d hd]
      simp [hs]
  · show ∀ sub ∈ s.worker.waiting ++ [c.subscription],
      sub ∈ (s.worker.hold c.subscription (some m)).consumers.map (·.subscription)
    rw [hsubs]
    intro sub hsub
    obtain hsub | hsub := List.mem_append.1 hsub
    · exact I.waits sub hsub
    · rw [List.mem_singleton.1 hsub]
      exact List.mem_map_of_mem hc
  · exact List.nodup_append.2 ⟨I.inLine, List.nodup_singleton _, by grind⟩
  · exact fun sub hsub => (I.ordered sub hsub).trans (Broker.History.handed_act ..)

/-- A permit sets the message of the first consumer in line going. -/
theorem grant (I : Inv w s) (hc : c ∈ s.worker.consumers) (held : c.held = some m)
    {waiting : List Subscription} (hw : s.worker.waiting = c.subscription :: waiting) {free : Nat}
    (hf : s.worker.free = free + 1) {t : Task} (hm : t.message = m)
    (answer : t.answer = (s.worker.answer (s.calendar s.clock) s.clock m.payload).result)
    (finish : t.finish =
      s.clock + (s.worker.answer (s.calendar s.clock) s.clock m.payload).elapsed) :
    Inv w { s with
      worker := { s.worker.hold c.subscription none with
        waiting, free, tasks := s.worker.tasks ++ [t] }
      started := s.started ++ [m] } := by
  have hsubs := s.worker.subscriptions_hold c.subscription none
  have hreceived : s.history.received c.subscription =
      onTopic c.subscription.topic s.started ++ [m] := by
    rw [I.received c hc, held]; rfl
  have htopic : m.topic = c.subscription.topic := by
    refine I.ledger.topic_of_handed ((I.ledger.past _).subset ?_)
    rw [hreceived]
    exact List.mem_append_right _ (.head _)
  have hnodup := I.inLine
  rw [hw, List.nodup_cons] at hnodup
  refine ⟨I.ledger, I.recorded, I.dispatcher, I.topics, hsubs.trans I.consumes, ?_, ?_, ?_, ?_,
    I.replied, ?_, ?_, ?_, hnodup.2, ?_, ?_⟩
  · intro d hd
    obtain ⟨d, hd, hs, rfl⟩ | ⟨hd, hs⟩ := Worker.mem_hold hd
    · exact I.alive c hc
    · exact I.alive d hd
  · have hp := I.permits
    rw [hf] at hp
    show free + (s.worker.tasks ++ [t]).length = _
    rw [List.length_append, List.length_singleton]
    omega
  · show ((s.worker.tasks ++ [t] ++ s.handled).map (·.message)).Perm (s.started ++ [m])
    have split : (s.worker.tasks ++ [t] ++ s.handled).map (·.message) =
        s.worker.tasks.map (·.message) ++ m :: s.handled.map (·.message) := by simp [hm]
    rw [split]
    refine List.perm_middle.trans ?_
    rw [← List.map_append]
    exact (I.accounted.cons m).trans (List.perm_append_singleton m s.started).symm
  · intro u hu
    have hu : u ∈ s.worker.tasks ++ s.handled ∨ u = t := by
      simpa [or_assoc, or_comm, or_left_comm] using hu
    obtain hu | rfl := hu
    · exact I.answers u hu
    · refine ⟨s.clock, Nat.le_refl _, ?_⟩
      rw [hm, ← Worker.answer_congr I.dispatcher]
      exact ⟨answer, finish⟩
  · intro d hd
    rw [onTopic_concat]
    obtain ⟨d, hd, hs, rfl⟩ | ⟨hd, hs⟩ := Worker.mem_hold hd
    · rw [if_pos htopic, Option.toList_none, List.append_nil]
      exact hreceived
    · have hne : m.topic ≠ d.subscription.topic := fun h =>
        hs (I.eq_of_topic (I.mem_own hd) (I.mem_own hc) (h.symm.trans htopic))
      rw [if_neg hne, List.append_nil]
      exact I.received d hd
  · intro d hd
    obtain ⟨d, hd, hs, rfl⟩ | ⟨hd, hs⟩ := Worker.mem_hold hd
    · exact iff_of_false nofun hnodup.1
    · rw [I.asks d hd, hw, List.mem_cons]
      exact or_iff_right hs
  · show ∀ sub ∈ waiting,
      sub ∈ (s.worker.hold c.subscription none).consumers.map (·.subscription)
    rw [hsubs]
    exact fun sub hsub => I.waits sub (hw ▸ .tail _ hsub)
  · intro sub hsub
    rw [onTopic_concat]
    by_cases h : m.topic = sub.topic
    · obtain rfl := I.eq_of_topic hsub (I.mem_own hc) (h.symm.trans htopic)
      rw [if_pos h, ← hreceived]
      exact I.ledger.past _
    · rw [if_neg h, List.append_nil]
      exact I.ordered sub hsub
  · intro k hk
    obtain hk | hk := List.mem_append.1 hk
    · exact I.delivered k hk
    · rw [List.mem_singleton.1 hk]
      exact ⟨_, I.mem_own hc, htopic.symm⟩

theorem broker_enter (t : Task) (H : Broker.History) : (t.enter H).broker = t.reply H.broker := by
  rw [Task.enter, Task.publication?, Task.reply]
  cases t.answer with
  | none => rfl
  | some a => exact Broker.History.broker_act_publish ..

theorem actions_enter (t : Task) (H : Broker.History) :
    (t.enter H).actions = H.actions ++ t.publication?.toList := by
  rw [Task.enter, Task.publication?]
  cases t.answer with
  | none => exact (List.append_nil _).symm
  | some a => exact Broker.History.actions_act_publish ..

theorem apart_enter {H : Broker.History} (L : H.Ledger) (subs : List Subscription) (t : Task) :
    Broker.History.Apart subs H (t.enter H) := by
  rw [Task.enter, Task.publication?]
  cases t.answer with
  | none => exact .refl L subs
  | some a =>
    exact Broker.History.Apart.of_act (a := .publish a.1 _ _) L fun _ _ => ⟨nofun, nofun⟩

/-- An execution ends, and its reply is published. -/
theorem finish (I : Inv w s) {k : Nat} {t : Task} (ht : s.worker.tasks[k]? = some t) :
    Inv w { s with
      worker := { s.worker with free := s.worker.free + 1, tasks := s.worker.tasks.eraseIdx k }
      broker := t.reply s.broker
      history := t.enter s.history
      handled := s.handled ++ [t] } := by
  have hothers := Worker.perm_eraseIdx ht
  have hperm : (s.worker.tasks.eraseIdx k ++ (s.handled ++ [t])).Perm
      (s.worker.tasks ++ s.handled) := by
    rw [← List.append_assoc]
    exact (List.perm_append_singleton _ _).trans (hothers.append_right s.handled)
  have I' := I.apart (apart_enter I.ledger s.own t)
  rw [broker_enter, I.recorded] at I'
  exact { I' with
    permits := by
      rw [← I.permits, ← hothers.length_eq]
      exact Nat.add_right_comm ..
    accounted := (hperm.map _).trans I.accounted
    answers := fun u hu => I.answers u (hperm.mem_iff.1 hu)
    replied := by
      show ((s.handled ++ [t]).filterMap _).Sublist (t.enter s.history).actions
      have last : [t].filterMap (·.publication?) = t.publication?.toList := by
        cases h : t.publication? <;> simp [h]
      rw [actions_enter, List.filterMap_append, last]
      exact I.replied.append_right _ }

theorem wait (I : Inv w s) (milliseconds : Nat) :
    Inv w { s with clock := s.clock + milliseconds } :=
  { I with answers := fun t ht =>
      let ⟨clock, h, ha⟩ := I.answers t ht
      ⟨clock, Nat.le_add_right_of_le h, ha⟩ }

end Inv

/-- The subscriptions are dropped one after the other. -/
theorem drop_all {H : Broker.History} (L : H.Ledger) {subs : List Subscription}
    (distinct : subs.Nodup) (alive : ∀ sub ∈ subs, sub ∈ H.held) :
    Broker.History.Apart [] H (subs.foldl (fun H sub => H.act (.drop sub.serial)) H) ∧
      (subs.foldl (fun H sub => H.act (.drop sub.serial)) H).broker =
        subs.foldl Broker.unsubscribe H.broker := by
  induction subs generalizing H with
  | nil => exact ⟨.refl L [], rfl⟩
  | cons sub subs ih =>
    obtain ⟨hnew, distinct⟩ := List.nodup_cons.1 distinct
    have hact := Broker.History.act_drop L.tied (alive sub (.head _))
    have alive' : ∀ sub' ∈ subs, sub' ∈ (H.act (.drop sub.serial)).held := by
      intro sub' hsub'
      rw [hact]
      refine List.mem_filter.2 ⟨alive sub' (.tail _ hsub'), bne_iff_ne.2 ?_⟩
      rintro rfl
      exact hnew hsub'
    obtain ⟨A, hb⟩ := ih (L.act _) distinct alive'
    refine ⟨.trans (.of_act L nofun) A, ?_⟩
    rw [List.foldl_cons, List.foldl_cons, hb, hact]
    rfl

/-- A replica that is stopped gives up its subscriptions. -/
theorem Inv.stop (I : Inv w s) : Inv w ((s.step? .stop).getD s) := by
  have h := drop_all I.ledger I.nodup_subscriptions fun sub hsub => by
    obtain ⟨c, hc, rfl⟩ := List.mem_map.1 hsub
    exact I.alive c hc
  rw [List.foldl_map, List.foldl_map, I.recorded] at h
  obtain ⟨A, hb⟩ := h
  exact {
    ledger := A.ledger
    recorded := hb
    dispatcher := I.dispatcher
    topics := I.topics
    consumes := rfl
    alive := nofun
    permits := I.permits
    accounted := I.accounted
    answers := I.answers
    replied := I.replied.trans A.actions.sublist
    received := nofun
    asks := nofun
    waits := nofun
    inLine := .nil
    ordered := fun sub hsub => (I.ordered sub hsub).trans (A.handed sub)
    delivered := I.delivered }

theorem Inv.step? (I : Inv w s) {e : Event} {s' : Shift} (h : s.step? e = some s') : Inv w s' := by
  cases Happens.of_step? h with
  | elsewhere others =>
    have mine (sub : Subscription) (hsub : sub ∈ s.own) :
        s.own.any (·.serial == sub.serial) = true :=
      List.any_eq_true.2 ⟨sub, hsub, beq_self_eq_true _⟩
    refine I.apart (.of_act I.ledger fun sub hsub => ⟨?_, ?_⟩)
    · rintro rfl
      exact others (mine sub hsub)
    · rintro rfl
      exact others (mine sub hsub)
  | take hc idle hr => exact I.take hc idle hr
  | grant hc held hw hf hm answer finish => exact I.grant hc held hw hf hm answer finish
  | finish ht => exact I.finish ht
  | wait milliseconds => exact I.wait milliseconds
  | stop => exact I.stop

/-! ## From the start on -/

/-- New subscriptions come without messages. -/
theorem subscribed {H : Broker.History} (L : H.Ledger) {group : String}
    {held subs : List Subscription} {topics : List String} {b : Broker}
    (h : Worker.subscribeAll group held H.broker topics = (.ok subs, b))
    (hheld : ∀ sub ∈ held, sub ∈ H.held ∧ H.received sub = []) :
    let H' := topics.foldl (fun H topic => H.act (.subscribe topic group)) H
    H'.Ledger ∧ H'.broker = b ∧ (∀ sub ∈ subs, sub ∈ H'.held ∧ H'.received sub = []) ∧
      subs.map (·.topic) = held.map (·.topic) ++ topics := by
  induction topics generalizing H held with
  | nil =>
    cases h
    exact ⟨L, rfl, hheld, (List.append_nil _).symm⟩
  | cons topic topics ih =>
    rw [Worker.subscribeAll] at h
    split at h
    · next sub b₁ hs =>
      have hact := Broker.History.act_subscribe hs
      have A : Broker.History.Apart (held ++ [sub]) H (H.act (.subscribe topic group)) :=
        .of_act L fun _ _ => ⟨nofun, nofun⟩
      have hsub := (Broker.subscribe_eq_ok hs).1
      have hunborn : sub ∉ H.issued := fun hi =>
        absurd (L.tied.fresh sub hi) (by rw [hsub]; exact Nat.lt_irrefl _)
      have hnone : H.received sub = [] := List.prefix_nil.1 (L.unborn sub hunborn ▸ L.past sub)
      rw [← show (H.act (.subscribe topic group)).broker = b₁ by rw [hact]; rfl] at h
      obtain ⟨L', hb, hsubs, htopics⟩ := ih A.ledger h fun k hk => by
        obtain hk' | hk' := List.mem_append.1 hk
        · exact ⟨A.held k hk (hheld k hk').1, (A.received k hk).trans (hheld k hk').2⟩
        · rw [List.mem_singleton.1 hk']
          refine ⟨?_, (A.received sub (List.mem_append_right _ (.head _))).trans hnone⟩
          rw [hact]
          exact List.mem_append_right _ (.head _)
      refine ⟨L', hb, hsubs, ?_⟩
      rw [htopics, List.map_append, List.append_assoc, hsub]
      rfl
    · cases h

/-- A replica that has not done anything yet. -/
theorem Inv.idle {H : Broker.History} (L : H.Ledger) {subs : List Subscription}
    (hsubs : ∀ sub ∈ subs, sub ∈ H.held ∧ H.received sub = [])
    (htopics : subs.map (·.topic) = w.config.topics)
    (hc : w.consumers = subs.map fun sub => ⟨sub, none⟩) (hw : w.waiting = [])
    (hf : w.free = w.config.concurrency.toNat) (ht : w.tasks = []) (clock : Nat)
    (calendar : Nat → Instant) : Inv w
      { worker := w, broker := H.broker, history := H, own := w.consumers.map (·.subscription),
        clock, calendar } := by
  have hown : w.consumers.map (·.subscription) = subs := by
    rw [hc, List.map_map]
    exact List.map_id _
  have idle (c : Consumer) (h : c ∈ w.consumers) : c.subscription ∈ subs ∧ c.held = none := by
    rw [hc] at h
    obtain ⟨sub, hsub, rfl⟩ := List.mem_map.1 h
    exact ⟨hsub, rfl⟩
  exact {
    ledger := L
    recorded := rfl
    dispatcher := rfl
    topics := (congrArg _ hown).trans htopics
    consumes := rfl
    alive := fun c h => (hsubs _ (idle c h).1).1
    permits := by rw [ht, hf]; rfl
    accounted := by rw [ht]; exact .nil
    answers := by rw [ht]; nofun
    replied := List.nil_sublist _
    received := fun c h => by
      rw [(idle c h).2]
      exact (hsubs _ (idle c h).1).2
    asks := fun c h => by
      rw [(idle c h).2, hw]
      exact iff_of_false nofun nofun
    waits := by rw [hw]; nofun
    inLine := by rw [hw]; exact .nil
    ordered := fun _ _ => List.nil_prefix
    delivered := nofun }

theorem Inv.start {H : Broker.History} (L : H.Ledger) {config : WorkerConfig} {catalog : Catalog}
    {b : Broker} (h : Worker.start config catalog H.broker = (.ok w, b)) (clock : Nat)
    (calendar : Nat → Instant) : Inv w (.start H w b clock calendar) := by
  obtain ⟨subs, hs, rfl, -, hc, hw, hf, ht⟩ := Worker.of_start h
  obtain ⟨L', rfl, hsubs, htopics⟩ := subscribed L hs nofun
  exact .idle L' hsubs htopics hc hw hf ht clock calendar

theorem Inv.step (I : Inv w s) (e : Event) : Inv w (s.step e) := by
  rw [Shift.step]
  cases h : s.step? e with
  | none => exact I
  | some s' => exact I.step? h

theorem Inv.run (I : Inv w s) (events : List Event) : Inv w (s.run events) := by
  induction events generalizing s with
  | nil => exact I
  | cons e events ih => exact ih (I.step e)

end Shift

end CallGateway
