import Mathlib.Algebra.Order.BigOperators.Group.List
import Mathlib.Algebra.Order.Group.Nat
import Mathlib.Data.List.Nodup
import CallGateway.Deployment
import CallGateway.Proofs.Broker.Since
import CallGateway.Proofs.Gateway.Steps
import CallGateway.Proofs.Message.Wire
import CallGateway.Proofs.Worker.Answers
import CallGateway.Proofs.Worker.Steps

/-!
# The way of a call

A call leaves its gateway, waits for a worker and for a permit, and is executed; its reply comes back,
settles the request, and the caller learns it. If nothing else is under way, every event that can
happen moves the call on to its next stage, in whatever order events are tried and however time passes
before the deadline. Only copies of the reply may still occupy the worker, which does not answer them;
there is one for each consumer at most, so that this comes to an end as well.
-/

namespace CallGateway

/-- Nothing is under way between a gateway that listens for replies and a worker that consumes a topic
as its only subscriber. -/
structure Deployment.Quiet (d : Deployment) (g : Gateway) (w : Worker)
    (consumer listener : Subscription) : Prop where
  gateways : d.gateways = [g]
  workers : d.workers = [w]
  outbox : g.outbox = []
  calls : g.calls = []
  pending : ∀ id, g.pending.contains id = false
  /-- The calls that have ended have had handles. -/
  past : ∀ x ∈ g.ended, x.1 < g.pending.nextSerial
  listeners : g.listeners = [listener]
  replies : listener.topic = g.config.replyTopic
  /-- No other member of its group takes replies from the listener. -/
  alone : (d.broker.group listener.topic listener.group).serials = [listener.serial]
  unread : d.broker.queue listener = []
  consumes : consumer ∈ w.consumers.map (·.subscription)
  /-- Nobody but the worker receives what is sent to it. -/
  only : ∀ group, (d.broker.group consumer.topic group).serials =
    if group = consumer.group then [consumer.serial] else []
  topics : (w.consumers.map (·.subscription.topic)).Nodup
  members : ∀ c ∈ w.consumers,
    (d.broker.group c.subscription.topic c.subscription.group).serials.Nodup
  stranger : listener ∉ w.consumers.map (·.subscription)
  idle : ∀ c ∈ w.consumers, c.held = none ∧ d.broker.queue c.subscription = []
  waiting : w.waiting = []
  tasks : w.tasks = []
  free : 0 < w.free
  requests : consumer.topic ∉ d.broker.failing
  answers : listener.topic ∉ d.broker.failing

/-- A call that a quiet gateway accepts, and that the worker answers at once. -/
structure Trip where
  scene : Deployment
  gateway : Gateway
  worker : Worker
  consumer : Subscription
  listener : Subscription
  request : Envelope
  reply : Reply
  quiet : scene.Quiet gateway worker consumer listener
  named : Text.isBlank request.procedureName = false
  addressed : request.replyTo = gateway.config.replyTopic
  resolves : resolveTopic scene.directory gateway.config.topicSuffix request.clientType =
    .ok consumer.topic
  patient : gateway.config.requestTimeout ≠ 0
  answered : ∀ now clock, worker.answer now clock request.toBytes =
    ⟨0, some (request.replyTo, reply)⟩
  returned : reply.requestId = request.requestId
  readable : Reply.ofBytes reply.toBytes = .ok reply

namespace Trip

inductive Stage
  | leaving
  | queued
  | held
  | running
  | answered
  | settled
  | ended

namespace Stage

def next : Stage → Stage
  | leaving => queued
  | queued => held
  | held => running
  | running => answered
  | answered => settled
  | settled => ended
  | ended => ended

/-- The number of stages that are still to come. -/
def rank : Stage → Nat
  | leaving => 6
  | queued => 5
  | held => 4
  | running => 3
  | answered => 2
  | settled => 1
  | ended => 0

theorem rank_next {st : Stage} (h : st ≠ .ended) : st.rank = st.next.rank + 1 := by
  cases st with
  | ended => exact absurd rfl h
  | _ => rfl

/-- It is for the worker to bring the call forward. -/
def WithWorker : Stage → Prop
  | queued | held | running => True
  | _ => False

/-- The reply has been published. -/
def Replied : Stage → Prop
  | leaving | queued | held | running => False
  | answered | settled | ended => True

end Stage

variable (P : Trip)

def handle : Handle := ⟨P.gateway.pending.nextSerial, P.request.requestId⟩

def deadline : Nat := P.scene.clock + P.gateway.config.requestTimeout.toNat

def outgoing : OutgoingRequest := ⟨P.request.requestId, P.consumer.topic, P.request.toBytes⟩

/-- The request as the broker accepts it. -/
def asking : Message :=
  P.scene.broker.numbered P.consumer.topic P.request.requestId.display P.request.toBytes

/-- The reply as the broker accepts it. -/
def answering : Message :=
  P.scene.broker.numbered P.listener.topic P.request.requestId.display P.reply.toBytes

/-! ## Where everything is at a stage -/

def outbox : Stage → List OutgoingRequest
  | .leaving => [P.outgoing]
  | _ => []

def calls : Stage → List OpenCall
  | .ended => []
  | _ => [⟨P.handle, P.deadline⟩]

def state : Stage → Option HandleState
  | .settled => some (.settled (.ok P.reply))
  | .ended => none
  | _ => some .waiting

def entry : Stage → Option Nat
  | .settled | .ended => none
  | _ => some P.handle.serial

def result : Stage → Option CallResult
  | .ended => some (.ok P.reply)
  | _ => none

/-- What the broker has accepted. -/
def added : Stage → List Message
  | .leaving => []
  | .queued | .held | .running => [P.asking]
  | .answered | .settled | .ended => [P.asking, P.answering]

def requests : Stage → List Message
  | .queued => [P.asking]
  | _ => []

def replies : Stage → List Message
  | .answered => [P.answering]
  | _ => []

/-! ## How many steps are left -/

/-- The number of messages that wait for the worker. -/
def backlog (b : Broker) : Nat :=
  (P.worker.consumers.map fun c => (b.queue c.subscription).length).sum

/-- The number of steps that the worker needs for messages that it does not answer: each is taken,
gets a permit, and is done with. -/
def chores (w : Worker) (b : Broker) : Nat :=
  3 * P.backlog b + 2 * w.waiting.length + w.tasks.length

/-- The steps that do not bring the call forward. Before there is a reply they are all still to
come. -/
def aside (w : Worker) (b : Broker) : Stage → Nat
  | .leaving | .queued | .held | .running => 3 * P.worker.consumers.length
  | .answered | .settled | .ended => P.chores w b

/-- No more events than these can happen. -/
def left (w : Worker) (b : Broker) (st : Stage) : Nat := st.rank + P.aside w b st

/-! ## What holds at a stage -/

structure GatewayAt (st : Stage) (g : Gateway) : Prop where
  listeners : g.listeners = [P.listener]
  outbox : g.outbox = P.outbox st
  calls : g.calls = P.calls st
  state : g.pending.state? P.handle = P.state st
  entry : g.pending.entries.get? P.request.requestId = P.entry st
  result : g.ended.lookup P.handle.serial = P.result st

/-- The worker is still the one that has been there before the call. -/
structure Same (w : Worker) : Prop where
  dispatcher : w.dispatcher = P.worker.dispatcher
  subscriptions : w.consumers.map (·.subscription) = P.worker.consumers.map (·.subscription)

/-- The worker holds no message but this, and executes nothing but this. -/
structure Attends (message : Option Message) (running : List Task) (w : Worker) : Prop
    extends P.Same w where
  held : ∀ c ∈ w.consumers, c.held = if c.subscription = P.consumer then message else none
  waiting : w.waiting = message.toList.map fun _ => P.consumer
  tasks : w.tasks = running
  free : running = [] → 0 < w.free

/-- The worker holds nothing but copies of the reply, and it has nothing to answer. -/
structure Mute (w : Worker) : Prop extends P.Same w where
  held : ∀ c ∈ w.consumers, ∀ m, c.held = some m → m.payload = P.reply.toBytes
  tasks : ∀ t ∈ w.tasks, t.answer = none

def WorkerAt (clock : Nat) (w : Worker) : Stage → Prop
  | .leaving | .queued => P.Attends none [] w
  | .held => P.Attends (some P.asking) [] w
  | .running => ∃ t, P.Attends none [t] w ∧ t.answer = some (P.request.replyTo, P.reply) ∧
      t.finish ≤ clock
  | .answered | .settled | .ended => P.Mute w

structure BrokerAt (st : Stage) (b : Broker) : Prop where
  since : Broker.Since P.scene.broker b (P.added st)
  requests : b.queue P.consumer = P.requests st
  replies : b.queue P.listener = P.replies st
  others : ∀ c ∈ P.worker.consumers, c.subscription ≠ P.consumer →
    ∀ m ∈ b.queue c.subscription, st.Replied ∧ m.payload = P.reply.toBytes

structure At (st : Stage) (d : Deployment) : Prop where
  gateway : ∃ g, d.gateways = [g] ∧ P.GatewayAt st g
  worker : ∃ w, d.workers = [w] ∧ P.WorkerAt d.clock w st
  broker : P.BrokerAt st d.broker
  early : d.clock < P.deadline

variable {P : Trip} {st : Stage} {d d' : Deployment} {g g' : Gateway} {w w' : Worker}
  {b b' : Broker} {c : Consumer} {m : Message} {clock : Nat}

/-! ## Fewer steps are left -/

theorem backlog_receive (hc : c ∈ P.worker.consumers)
    (h : b.receive? c.subscription = some (m, b')) : P.backlog b' < P.backlog b := by
  obtain ⟨-, -, -, hq, hothers⟩ := Broker.receive?_eq_some h
  have hlt : (b'.queue c.subscription).length < (b.queue c.subscription).length := by
    rw [hq]
    exact Nat.lt_succ_self _
  refine List.sum_lt_sum _ _ (fun d _ => ?_) ⟨c, hc, hlt⟩
  by_cases hs : d.subscription = c.subscription
  · rw [hs]
    exact Nat.le_of_lt hlt
  · rw [hothers _ hs]

/-- The listener takes nothing from the worker. -/
theorem backlog_collect (h : b.receive? P.listener = some (m, b')) :
    P.backlog b' = P.backlog b := by
  obtain ⟨-, -, -, -, hothers⟩ := Broker.receive?_eq_some h
  refine congrArg List.sum (List.map_congr_left fun c hc => ?_)
  rw [hothers c.subscription fun h => P.quiet.stranger (h ▸ List.mem_map_of_mem hc)]

theorem chores_take {s : Subscription} (h : P.backlog b' < P.backlog b) (held : Option Message) :
    P.chores { w.hold s held with waiting := w.waiting ++ [s] } b' < P.chores w b := by
  simp only [chores, List.length_append, List.length_singleton]
  show _ + w.tasks.length < _
  omega

theorem chores_grant {s : Subscription} {waiting : List Subscription} (h : w.waiting = s :: waiting)
    (held : Option Message) (free : Nat) (t : Task) :
    P.chores { w.hold s held with waiting, free, tasks := w.tasks ++ [t] } b < P.chores w b := by
  simp only [chores, h, List.length_append, List.length_cons, List.length_nil]
  omega

theorem chores_finish {k : Nat} {t : Task} (h : w.tasks[k]? = some t) (free : Nat) :
    P.chores { w with free, tasks := w.tasks.eraseIdx k } b < P.chores w b := by
  have hk := (List.getElem?_eq_some_iff.1 h).1
  simp only [chores, List.length_eraseIdx_of_lt hk]
  omega

/-! ## The two topics -/

theorem consumer_topic_ne (P : Trip) : P.consumer.topic ≠ "" := by
  have h := P.resolves
  rw [resolveTopic] at h
  split at h
  · cases h
  next unnamed =>
  split at h
  · rw [← Except.ok.inj h, requestTopic]
    exact fun he => unnamed (String.isEmpty_iff.2 (String.append_eq_empty_iff.1 he).1)
  · cases h

theorem listener_topic_ne (P : Trip) : P.listener.topic ≠ "" := by
  rw [P.quiet.replies, GatewayConfig.replyTopic, replyTopic]
  exact fun he => absurd (String.append_eq_empty_iff.1 he).2 (by decide)

theorem listener_ne (P : Trip) : P.listener ≠ P.consumer := fun h =>
  P.quiet.stranger (h ▸ P.quiet.consumes)

/-- Who sends replies there does not send requests there, for the listener would receive them. -/
theorem topics_ne (P : Trip) : P.consumer.topic ≠ P.listener.topic := by
  intro h
  have only := P.quiet.only P.listener.group
  rw [h, P.quiet.alone] at only
  split at only
  · next hg => exact Broker.serial_ne P.listener_ne ⟨h.symm, hg⟩ (List.singleton_inj.1 only)
  · cases only

/-- The topics of the worker tell its subscriptions apart. -/
theorem topic_ne (hc : c ∈ P.worker.consumers) (hne : c.subscription ≠ P.consumer) :
    c.subscription.topic ≠ P.consumer.topic := by
  intro h
  obtain ⟨c', hc', heq⟩ := List.mem_map.1 P.quiet.consumes
  apply hne
  rw [List.inj_on_of_nodup_map P.quiet.topics hc hc' (h.trans (congrArg _ heq.symm)), heq]

/-! ## The broker -/

namespace BrokerAt

/-- The broker accepts the request. -/
theorem ask (B : P.BrokerAt .leaving b) :
    ∃ r, b.publish P.consumer.topic P.request.requestId.display P.request.toBytes =
      .ok (r, b.accept P.asking) ∧ P.BrokerAt .queued (b.accept P.asking) := by
  have hoffset : (b.topic P.consumer.topic).nextOffset =
      (P.scene.broker.topic P.consumer.topic).nextOffset := B.since.nextOffset _
  refine ⟨⟨P.consumer.topic, 0, (b.topic P.consumer.topic).nextOffset⟩, ?_, ?_⟩
  · rw [Broker.publish_eq, if_neg P.consumer_topic_ne, B.since.failing, if_neg P.quiet.requests,
      hoffset]
    rfl
  · refine ⟨B.since.accept _, ?_, ?_, fun c hc hne k hk => ?_⟩
    · have hserials : (b.group P.consumer.topic P.consumer.group).serials = [P.consumer.serial] := by
        rw [B.since.serials, P.quiet.only, if_pos rfl]
      rw [Broker.queue_accept_only hserials rfl, B.requests]
      rfl
    · rw [Broker.queue_accept_of_ne P.topics_ne.symm, B.replies]
      rfl
    · rw [Broker.queue_accept_of_ne (topic_ne hc hne)] at hk
      exact (B.others c hc hne k hk).1.elim

/-- The broker accepts the reply. -/
theorem answer (B : P.BrokerAt .running b) :
    Worker.reply b P.request.replyTo P.reply = b.accept P.answering ∧
      P.BrokerAt .answered (b.accept P.answering) := by
  have hoffset : (b.topic P.listener.topic).nextOffset =
      (P.scene.broker.topic P.listener.topic).nextOffset := by
    have hnone : Broker.onTopic P.listener.topic (P.added .running) = [] :=
      List.filter_cons_of_neg (mt beq_iff_eq.1 P.topics_ne)
    rw [B.since.nextOffset, hnone]
    rfl
  constructor
  · rw [Worker.reply, P.addressed, ← P.quiet.replies, Broker.publish_eq,
      if_neg P.listener_topic_ne, B.since.failing, if_neg P.quiet.answers, P.returned, hoffset]
    rfl
  · refine ⟨B.since.accept _, ?_, ?_, fun c hc hne k hk => ?_⟩
    · rw [Broker.queue_accept_of_ne P.topics_ne, B.requests]
      rfl
    · have hserials : (b.group P.listener.topic P.listener.group).serials = [P.listener.serial] := by
        rw [B.since.serials, P.quiet.alone]
      rw [Broker.queue_accept_only hserials rfl, B.replies]
      rfl
    · have hn := P.quiet.members c hc
      rw [← B.since.serials] at hn
      obtain hk | ⟨rfl, -⟩ := Broker.mem_queue_accept hn hk
      · exact (B.others c hc hne k hk).1.elim
      · exact ⟨trivial, rfl⟩

/-- Nothing waits for the worker before that, and one copy of the reply at most at each consumer
afterwards. -/
theorem backlog_answer (B : P.BrokerAt .running b) :
    P.backlog (b.accept P.answering) ≤ P.worker.consumers.length := by
  have hone : ∀ n ∈ P.worker.consumers.map (fun c =>
      ((b.accept P.answering).queue c.subscription).length), n ≤ 1 := by
    intro n hmem
    obtain ⟨c, hc, rfl⟩ := List.mem_map.1 hmem
    have hnil : b.queue c.subscription = [] := by
      by_cases hs : c.subscription = P.consumer
      · rw [hs, B.requests]
        rfl
      · exact List.eq_nil_iff_forall_not_mem.2 fun m hm => (B.others c hc hs m hm).1
    have hn := P.quiet.members c hc
    rw [← B.since.serials] at hn
    obtain hq | ⟨-, hq⟩ := Broker.queue_accept_cases hn P.answering
    · simp [hq, hnil]
    · simp [hq, hnil]
  simpa [backlog] using List.sum_le_card_nsmul _ 1 hone

/-- The worker receives the request. -/
theorem receive (B : P.BrokerAt st b) (h : b.receive? P.consumer = some (m, b')) :
    st = .queued ∧ m = P.asking ∧ P.BrokerAt .held b' := by
  obtain ⟨-, -, -, hq, hothers⟩ := Broker.receive?_eq_some h
  rw [B.requests] at hq
  cases st with
  | queued =>
    obtain ⟨rfl, hnil⟩ := List.cons.inj hq
    refine ⟨rfl, rfl, B.since.receive h, hnil.symm, ?_, fun c hc hne k hk => ?_⟩
    · rw [hothers _ P.listener_ne, B.replies]
      rfl
    · rw [hothers _ hne] at hk
      exact (B.others c hc hne k hk).1.elim
  | _ => cases hq

/-- The listener receives the reply. -/
theorem collect (B : P.BrokerAt st b) (h : b.receive? P.listener = some (m, b')) :
    st = .answered ∧ m = P.answering ∧ P.BrokerAt .settled b' := by
  obtain ⟨-, -, -, hq, hothers⟩ := Broker.receive?_eq_some h
  rw [B.replies] at hq
  cases st with
  | answered =>
    obtain ⟨rfl, hnil⟩ := List.cons.inj hq
    refine ⟨rfl, rfl, B.since.receive h, ?_, hnil.symm, fun c hc hne k hk => ?_⟩
    · rw [hothers _ P.listener_ne.symm, B.requests]
      rfl
    · have hs : c.subscription ≠ P.listener := fun h =>
        P.quiet.stranger (h ▸ List.mem_map_of_mem hc)
      rw [hothers _ hs] at hk
      exact B.others c hc hne k hk
  | _ => cases hq

/-- The worker receives a copy of the reply. -/
theorem copy (B : P.BrokerAt st b) (hc : c ∈ P.worker.consumers)
    (hne : c.subscription ≠ P.consumer) (h : b.receive? c.subscription = some (m, b')) :
    st.Replied ∧ m.payload = P.reply.toBytes ∧ P.BrokerAt st b' := by
  obtain ⟨-, -, -, hq, hothers⟩ := Broker.receive?_eq_some h
  obtain ⟨hreplied, hm⟩ := B.others c hc hne m (hq ▸ .head _)
  have hs : P.listener ≠ c.subscription := fun h => P.quiet.stranger (h ▸ List.mem_map_of_mem hc)
  refine ⟨hreplied, hm, B.since.receive h, ?_, ?_, fun d hd hd' k hk => ?_⟩
  · rw [hothers _ hne.symm, B.requests]
  · rw [hothers _ hs, B.replies]
  · by_cases hdc : d.subscription = c.subscription
    · rw [hdc] at hk
      exact B.others c hc hne k (hq ▸ .tail _ hk)
    · rw [hothers _ hdc] at hk
      exact B.others d hd hd' k hk

end BrokerAt

/-! ## The gateway -/

namespace GatewayAt

/-- No deadline comes. -/
theorem expire? (G : P.GatewayAt st g) (early : clock < P.deadline) {k : Nat} {o : OpenCall}
    (hk : g.calls[k]? = some o) (h : g.expire? clock o = some g') : False := by
  have ho := List.mem_of_getElem? hk
  rw [G.calls] at ho
  cases st with
  | ended => cases ho
  | _ =>
    obtain rfl := List.mem_singleton.1 ho
    rw [Gateway.expire?] at h
    split at h
    · split at h
      · next hd => exact absurd hd (Nat.not_le.2 early)
      · cases h
    · cases h

/-- The request goes to the broker. -/
theorem publish? (G : P.GatewayAt st g) (B : P.BrokerAt st b) {k : Nat}
    (h : g.publish? b k = some (g', b')) :
    st = .leaving ∧ P.GatewayAt .queued g' ∧ P.BrokerAt .queued b' := by
  rw [Gateway.publish?, G.outbox] at h
  obtain ⟨r, hr, h⟩ := Option.map_eq_some_iff.1 h
  cases st with
  | leaving =>
    obtain ⟨rfl, rfl⟩ : k = 0 ∧ r = P.outgoing := by
      cases k with
      | zero => exact ⟨rfl, (Option.some.inj hr).symm⟩
      | succ k => cases hr
    obtain ⟨receipt, hp, B'⟩ := B.ask
    have hp : b.publish P.outgoing.topic P.outgoing.requestId.display P.outgoing.payload =
      .ok (receipt, b.accept P.asking) := hp
    simp only [hp] at h
    cases h
    exact ⟨rfl, ⟨G.listeners, rfl, G.calls, G.state, G.entry, G.result⟩, B'⟩
  | _ => cases hr

/-- The reply settles the request. -/
theorem listen? (G : P.GatewayAt st g) (B : P.BrokerAt st b) {k : Nat} {s : Subscription}
    (hk : g.listeners[k]? = some s) (h : g.listen? b s = some (g', b')) : st = .answered ∧
    P.GatewayAt .settled g' ∧ P.BrokerAt .settled b' ∧ P.backlog b' = P.backlog b := by
  have hs := List.mem_of_getElem? hk
  rw [G.listeners] at hs
  obtain rfl := List.mem_singleton.1 hs
  obtain ⟨⟨m, b₁⟩, hr, h⟩ := Option.map_eq_some_iff.1 h
  cases h
  obtain ⟨rfl, rfl, B'⟩ := B.collect hr
  refine ⟨rfl, ?_, B', backlog_collect hr⟩
  have hentry : g.pending.entries.get? P.reply.requestId = some P.handle.serial :=
    P.returned ▸ G.entry
  rw [Gateway.take, show Reply.ofBytes P.answering.payload = .ok P.reply from P.readable]
  simp only [PendingTable.complete_eq, hentry]
  have hstate : g.pending.handles.get? P.handle.serial = some .waiting := G.state
  refine ⟨G.listeners, G.outbox, G.calls, ?_, ?_, G.result⟩
  · show Keyed.get? (g.pending.handles.modify P.handle.serial _) P.handle.serial = _
    rw [Keyed.get?_modify, if_pos rfl, hstate]
    rfl
  · show Keyed.get? (g.pending.entries.erase P.reply.requestId) P.request.requestId = _
    rw [Keyed.get?_erase, if_pos P.returned.symm]
    rfl

/-- The caller learns the reply. -/
theorem conclude? (G : P.GatewayAt st g) {k : Nat} {o : OpenCall}
    (hk : g.calls[k]? = some o) (h : g.conclude? o = some g') :
    st = .settled ∧ P.GatewayAt .ended g' := by
  have ho := List.mem_of_getElem? hk
  rw [G.calls] at ho
  obtain ⟨r, hr, h⟩ := Option.map_eq_some_iff.1 h
  have hstate := G.state
  cases st with
  | ended => cases ho
  | settled =>
    obtain rfl := List.mem_singleton.1 ho
    cases h
    rw [PendingTable.result?, hstate] at hr
    cases hr
    have hentry : g.pending.entries.get? P.handle.requestId = none := G.entry
    rw [PendingTable.drop_eq, hentry]
    refine ⟨rfl, G.listeners, G.outbox, ?_, ?_, hentry, ?_⟩
    · show g.calls.filter _ = []
      rw [G.calls]
      exact List.filter_cons_of_neg (by simp)
    · show Keyed.get? (g.pending.handles.erase P.handle.serial) P.handle.serial = none
      rw [Keyed.get?_erase, if_pos rfl]
    · show (g.ended ++ [(P.handle.serial, Except.ok P.reply)]).lookup P.handle.serial = _
      rw [List.lookup_append, G.result]
      exact List.lookup_cons_self
  | _ =>
    obtain rfl := List.mem_singleton.1 ho
    rw [PendingTable.result?, hstate] at hr
    cases hr

end GatewayAt

/-! ## The worker -/

theorem Same.hold (S : P.Same w) (s : Subscription) (held : Option Message) :
    (w.hold s held).consumers.map (·.subscription) = P.worker.consumers.map (·.subscription) :=
  (w.subscriptions_hold s held).trans S.subscriptions

theorem Same.exists_consumer (S : P.Same w) (hc : c ∈ w.consumers) :
    ∃ c' ∈ P.worker.consumers, c'.subscription = c.subscription :=
  List.mem_map.1 (S.subscriptions ▸ List.mem_map_of_mem hc)

/-- The request is answered at once, whenever that is. -/
theorem Same.answer_asking (S : P.Same w) (now : Instant) (clock : Nat) :
    w.answer now clock P.asking.payload = ⟨0, some (P.request.replyTo, P.reply)⟩ :=
  (Worker.answer_congr S.dispatcher ..).trans (P.answered now clock)

/-- A copy of the reply is not answered. -/
theorem answer_reply (w : Worker) (now : Instant) (clock : Nat) (r : Reply) :
    (w.answer now clock r.toBytes).result = none := by
  have hnone := Envelope.ofBytes_reply now r
  cases h : Envelope.ofBytes now r.toBytes with
  | ok e => rw [h] at hnone; cases hnone
  | error err => exact Worker.answer_of_neither h (Header.ofBytes?_reply r)

namespace Attends

variable {message : Option Message} {running : List Task}

/-- The worker takes the request. -/
theorem take (A : P.Attends none [] w) : P.Attends (some m) []
    { w.hold P.consumer (some m) with waiting := w.waiting ++ [P.consumer] } where
  dispatcher := A.dispatcher
  subscriptions := A.hold ..
  held c hc := by
    obtain ⟨d, hd, hs, rfl⟩ | ⟨hd, hs⟩ := Worker.mem_hold hc
    · exact (if_pos rfl).symm
    · rw [if_neg hs, A.held c hd, ite_self]
  waiting := by
    show w.waiting ++ [P.consumer] = _
    rw [A.waiting]
    rfl
  tasks := A.tasks
  free := A.free

/-- The worker gets a permit for the request. -/
theorem grant (A : P.Attends (some m) [] w) (t : Task) (free : Nat) : P.Attends none [t]
    { w.hold P.consumer none with waiting := [], free, tasks := w.tasks ++ [t] } where
  dispatcher := A.dispatcher
  subscriptions := A.hold ..
  held c hc := by
    rw [ite_self]
    obtain ⟨d, hd, hs, rfl⟩ | ⟨hd, hs⟩ := Worker.mem_hold hc
    · rfl
    · rw [A.held c hd, if_neg hs]
  waiting := rfl
  tasks := by
    show w.tasks ++ [t] = _
    rw [A.tasks]
    rfl
  free := nofun

/-- The worker has done what it had to do. -/
theorem finish (A : P.Attends none running w) (free : Nat) :
    P.Mute { w with free, tasks := [] } where
  dispatcher := A.dispatcher
  subscriptions := A.subscriptions
  held c hc m hm := by
    rw [A.held c hc, ite_self] at hm
    cases hm
  tasks := nofun

end Attends

namespace Mute

theorem take (M : P.Mute w) {s : Subscription} (hm : m.payload = P.reply.toBytes)
    (waiting : List Subscription) :
    P.Mute { w.hold s (some m) with waiting } where
  dispatcher := M.dispatcher
  subscriptions := M.hold ..
  held c hc k hk := by
    obtain ⟨d, hd, hs, rfl⟩ | ⟨hd, hs⟩ := Worker.mem_hold hc
    · cases hk
      exact hm
    · exact M.held c hd k hk
  tasks := M.tasks

theorem grant (M : P.Mute w) {s : Subscription} {t : Task} (ht : t.answer = none)
    (waiting : List Subscription) (free : Nat) :
    P.Mute { w.hold s none with waiting, free, tasks := w.tasks ++ [t] } where
  dispatcher := M.dispatcher
  subscriptions := M.hold ..
  held c hc k hk := by
    obtain ⟨d, hd, hs, rfl⟩ | ⟨hd, hs⟩ := Worker.mem_hold hc
    · cases hk
    · exact M.held c hd k hk
  tasks u hu := (List.mem_append.1 hu).elim (M.tasks u) fun h => List.mem_singleton.1 h ▸ ht

theorem finish (M : P.Mute w) (free k : Nat) :
    P.Mute { w with free, tasks := w.tasks.eraseIdx k } where
  dispatcher := M.dispatcher
  subscriptions := M.subscriptions
  held := M.held
  tasks t ht := M.tasks t (List.mem_of_mem_eraseIdx ht)

end Mute

theorem Same.of_workerAt (W : P.WorkerAt clock w st) : P.Same w := by
  cases st with
  | leaving | queued | held => exact Attends.toSame W
  | running =>
    obtain ⟨t, A, -⟩ := W
    exact A.toSame
  | answered | settled | ended => exact Mute.toSame W

/-- What a step of the worker comes to: the call moves on, or the reply is out and the worker has
been busy with a copy of it. Fewer steps are left. -/
def Moves (P : Trip) (st : Stage) (clock : Nat) (w : Worker) (b : Broker) (w' : Worker)
    (b' : Broker) : Prop :=
  ∃ st', P.WorkerAt clock w' st' ∧ P.BrokerAt st' b' ∧ P.left w' b' st' < P.left w b st ∧
    (st' = st.next ∧ st.WithWorker ∨ st' = st ∧ st.Replied)

theorem Moves.aside (hst : st.Replied) (M : P.Mute w') (B : P.BrokerAt st b')
    (h : P.chores w' b' < P.chores w b) : P.Moves st clock w b w' b' := by
  refine ⟨st, ?_, B, ?_, .inr ⟨rfl, hst⟩⟩
  · cases st with
    | answered | settled | ended => exact M
    | _ => exact hst.elim
  · cases st with
    | answered | settled | ended => exact Nat.add_lt_add_left h _
    | _ => exact hst.elim

theorem mute_of_workerAt (W : P.WorkerAt clock w st) (hst : st.Replied) : P.Mute w := by
  cases st with
  | answered | settled | ended => exact W
  | _ => exact hst.elim

theorem take? (W : P.WorkerAt clock w st) (B : P.BrokerAt st b) {k : Nat}
    (hk : w.consumers[k]? = some c) (h : w.take? b c = some (w', b')) :
    P.Moves st clock w b w' b' := by
  have hc := List.mem_of_getElem? hk
  obtain ⟨m, idle, hr, rfl⟩ := Worker.of_take? h
  by_cases hs : c.subscription = P.consumer
  · rw [hs] at hr ⊢
    obtain ⟨rfl, rfl, B'⟩ := B.receive hr
    exact ⟨.held, Attends.take W, B', Nat.add_lt_add_right (Nat.lt_succ_self 4) _,
      .inl ⟨rfl, trivial⟩⟩
  · obtain ⟨c', hc', hsub⟩ := (Same.of_workerAt W).exists_consumer hc
    rw [← hsub] at hs hr
    obtain ⟨hreplied, hm, B'⟩ := B.copy hc' hs hr
    exact .aside hreplied ((mute_of_workerAt W hreplied).take hm _) B'
      (chores_take (backlog_receive hc' hr) _)

theorem grant? (W : P.WorkerAt clock w st) (B : P.BrokerAt st b) {now : Instant}
    (h : w.grant? now clock = some w') : P.Moves st clock w b w' b := by
  obtain ⟨c, m, waiting, free, hc, hm, hw, hf, rfl⟩ := Worker.of_grant? h
  cases st with
  | leaving | queued =>
    have hnone := Attends.held W c hc
    rw [hm, ite_self] at hnone
    cases hnone
  | held =>
    have hheld := Attends.held W c hc
    rw [hm] at hheld
    split at hheld
    · next hs =>
      cases hheld
      have hline := Attends.waiting W
      rw [hw] at hline
      obtain ⟨-, rfl⟩ := List.cons.inj hline
      rw [hs, (Attends.toSame W).answer_asking now clock]
      exact ⟨.running, ⟨⟨P.asking, clock, some (P.request.replyTo, P.reply)⟩,
        Attends.grant W _ free, rfl, Nat.le_refl _⟩, ⟨B.since, B.requests, B.replies, B.others⟩,
        Nat.add_lt_add_right (Nat.lt_succ_self 3) _, .inl ⟨rfl, trivial⟩⟩
    · cases hheld
  | running =>
    obtain ⟨t, A, -, -⟩ := W
    have hnone := A.held c hc
    rw [hm, ite_self] at hnone
    cases hnone
  | answered | settled | ended =>
    have hnone : (w.answer now clock m.payload).result = none := by
      rw [Mute.held W c hc m hm]
      exact answer_reply ..
    rw [hnone]
    exact .aside trivial (Mute.grant W rfl waiting free) B (chores_grant hw ..)

/-- The copies of the reply have been allowed for. -/
theorem left_answered {running : List Task} (A : P.Attends none running w)
    (B : P.BrokerAt .running b) (free : Nat) :
    P.left { w with free, tasks := [] } (b.accept P.answering) .answered <
      P.left w b .running := by
  have hbacklog := B.backlog_answer
  have hwaiting : w.waiting.length = 0 := congrArg List.length A.waiting
  show 2 + (3 * P.backlog (b.accept P.answering) + 2 * w.waiting.length + 0) <
    3 + 3 * P.worker.consumers.length
  omega

theorem finish? (W : P.WorkerAt clock w st) (B : P.BrokerAt st b) {k : Nat}
    (h : w.finish? b clock k = some (w', b')) : P.Moves st clock w b w' b' := by
  obtain ⟨t, ht, -, rfl, rfl⟩ := Worker.of_finish? h
  cases st with
  | leaving | queued | held =>
    rw [Attends.tasks W] at ht
    cases ht
  | running =>
    obtain ⟨u, A, hanswer, -⟩ := W
    rw [A.tasks] at ht ⊢
    obtain ⟨rfl, rfl⟩ : k = 0 ∧ t = u := by
      cases k with
      | zero => exact ⟨rfl, (Option.some.inj ht).symm⟩
      | succ k => cases ht
    obtain ⟨hb, B'⟩ := B.answer
    rw [Task.reply, hanswer]
    simp only [hb]
    exact ⟨.answered, A.finish _, B', left_answered A B _, .inl ⟨rfl, trivial⟩⟩
  | answered | settled | ended =>
    have hnone := Mute.tasks W t (List.mem_of_getElem? ht)
    rw [Task.reply, hnone]
    exact .aside trivial (Mute.finish W _ k) B (chores_finish ht _)

end Trip

end CallGateway
