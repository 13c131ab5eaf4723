import CallGateway.Procedure.Sample
import CallGateway.Proofs.Worker.Shift

/-!
# What a worker keeps to

However the steps of a replica, of its callers and of time are mixed: no more messages are handled at
once than there are permits, every message that has been delivered is in one place and is handled at
most once, and the messages of a topic start in the order of their delivery. When the replica has
been stopped nothing starts any more, and what has started still ends and is replied to as is owed.
-/

namespace CallGateway

/-! ## What is owed -/

/-- What a worker owes for a payload that it reads at some moment: the milliseconds that pass, and the
publication at their end. For an envelope that is the reply of the dispatcher, on the topic and under
the identifier that the envelope names; for a payload that merely names them, a refusal; and for any
other, nothing. -/
inductive Worker.Owes (w : Worker) (now : Instant) (clock : Nat) (payload : Bytes) :
    Nat → Option Broker.Action → Prop
  | dispatched {e : Envelope} {elapsed : Nat} {r : Reply}
    (he : Envelope.ofBytes now payload = .ok e)
    (hd : w.dispatcher.dispatch e now clock = ⟨elapsed, r⟩) (hid : r.requestId = e.requestId) :
    Owes w now clock payload elapsed (some (.publish e.replyTo e.requestId.display r.toBytes))
  | refused {err : MessageError} {h : Header} (he : Envelope.ofBytes now payload = .error err)
    (hh : Header.ofBytes? payload = some h) :
    Owes w now clock payload 0 (some (.publish h.replyTo h.requestId.display
      (Reply.toBytes ⟨h.requestId, .failure s!"Invalid envelope: {err.message}"⟩)))
  | nothing {err : MessageError} (he : Envelope.ofBytes now payload = .error err)
    (hh : Header.ofBytes? payload = none) : Owes w now clock payload 0 none

/-- What a worker works out is what it owes. -/
theorem Task.owes {w : Worker} {now : Instant} {clock : Nat} {payload : Bytes} {t : Task}
    (h : t.answer = (w.answer now clock payload).result) :
    w.Owes now clock payload (w.answer now clock payload).elapsed t.publication? := by
  rw [publication?, h, Worker.answer]
  cases he : Envelope.ofBytes now payload with
  | ok e => exact .dispatched he rfl rfl
  | error err =>
    cases hh : Header.ofBytes? payload with
    | some h => exact .refused he hh
    | none => exact .nothing he hh

namespace Shift

open Broker (onTopic mem_onTopic)

variable {w : Worker} {s s' : Shift} {c : Consumer} {m : Message} {t : Task}

/-- Where a message can be that has been given to a subscription of the replica. -/
inductive Place
  | queued
  | held
  | running
  | handled

/-- A message that has been given to a consumer is in this place. -/
def At (s : Shift) (c : Consumer) (m : Message) : Place → Prop
  | .queued => m ∈ s.broker.queue c.subscription
  | .held => c.held = some m
  | .running => m ∈ s.worker.tasks.map (·.message)
  | .handled => m ∈ s.handled.map (·.message)

/-- What a replica keeps to, seen from a moment of its shift; `w` is the replica as it has been
started. -/
structure Sound (w : Worker) (s : Shift) : Prop where
  recorded : s.history.broker = s.broker
  permits : s.worker.free + s.worker.tasks.length = w.config.concurrency.toNat
  bounded : s.worker.tasks.length ≤ w.config.concurrency.toNat
  /-- Until it is stopped, the replica consumes all of its topics. -/
  consumes : s.stopped = false →
    s.worker.consumers.map (·.subscription) = s.own ∧ s.own.map (·.topic) = w.config.topics
  /-- A consumer that holds a message waits for a permit, and no other does. -/
  asks : ∀ c ∈ s.worker.consumers, c.held.isSome ↔ c.subscription ∈ s.worker.waiting
  /-- What has been given to a consumer stands in line, in the order of delivery: what has started,
  what is held, and what is queued. -/
  line : ∀ c ∈ s.worker.consumers, s.history.handed c.subscription =
    onTopic c.subscription.topic s.started ++ c.held.toList ++ s.broker.queue c.subscription
  placed : ∀ c ∈ s.worker.consumers, ∀ m ∈ s.history.handed c.subscription, ∃! p, s.At c m p
  /-- What has started is being handled or has been handled, and no message comes twice. -/
  accounted : ((s.worker.tasks ++ s.handled).map (·.message)).Perm s.started
  once : s.started.Nodup
  /-- Only what has been delivered starts, and the messages of a topic start in the order in which
  they have been delivered, also those that have started before the replica has been stopped. -/
  ordered : ∀ sub ∈ s.own, onTopic sub.topic s.started <+: s.history.handed sub
  delivered : ∀ m ∈ s.started, ∃ sub ∈ s.own, m ∈ s.history.handed sub
  /-- Every execution takes as long, and publishes at its end, as is owed for its message. -/
  answers : ∀ t ∈ s.worker.tasks ++ s.handled, ∃ clock ≤ s.clock, ∃ elapsed,
    w.Owes (s.calendar clock) clock t.message.payload elapsed t.publication? ∧
      t.finish = clock + elapsed
  /-- An execution whose time has come ends, replies and returns its permit. Whether the reply is
  taken is up to the broker. -/
  ends : ∀ k t, s.worker.tasks[k]? = some t → t.finish ≤ s.clock →
    (s.step (.finish k)).handled = s.handled ++ [t] ∧
      (s.step (.finish k)).worker.free = s.worker.free + 1 ∧
      (s.step (.finish k)).history = t.enter s.history
  /-- Whatever happens in the meantime, an execution that is going on can still come to its end, with
  its reply published. -/
  finishes : ∀ t ∈ s.worker.tasks, ∀ later, ∃ milliseconds k,
    let s' := s.run (later ++ [.wait milliseconds, .finish k])
    t ∈ s'.handled ∧ ∀ a ∈ t.publication?, a ∈ s'.history.actions
  /-- The replies to what has been handled have been published, in this order. -/
  replied : (s.handled.filterMap (·.publication?)).Sublist s.history.actions
  /-- A consumer that holds nothing takes the first message that is queued for it. -/
  takes : ∀ k c, s.worker.consumers[k]? = some c → c.held = none →
    ∀ m ∈ (s.broker.queue c.subscription).head?,
      (s.step (.take k)).worker.consumers[k]? = some { c with held := some m }
  /-- A free permit goes to the first in line. -/
  proceeds : ∀ sub ∈ s.worker.waiting.head?, 0 < s.worker.free →
    ∃ c ∈ s.worker.consumers, c.subscription = sub ∧ ∃ m ∈ c.held,
      (s.step .grant).started = s.started ++ [m]
  /-- After the stop nothing starts. -/
  halted : s.stopped = true → ∀ later, (s.run later).started = s.started

/-! ## One place for every message -/

namespace Inv

theorem line (I : Inv w s) (hc : c ∈ s.worker.consumers) : s.history.handed c.subscription =
    onTopic c.subscription.topic s.started ++ c.held.toList ++ s.broker.queue c.subscription := by
  rw [I.ledger.waiting _ (I.alive c hc), I.received c hc, I.recorded]

theorem delivered_of_started (I : Inv w s) (hm : m ∈ s.started) :
    ∃ sub ∈ s.own, m ∈ s.history.handed sub := by
  obtain ⟨sub, hsub, ht⟩ := I.delivered m hm
  exact ⟨sub, hsub, (I.ordered sub hsub).subset (mem_onTopic.2 ⟨hm, ht.symm⟩)⟩

/-- The messages of each topic start at most once, so all do. -/
theorem once (I : Inv w s) : s.started.Nodup := by
  rw [List.nodup_iff_count_le_one]
  intro m
  by_cases hm : m ∈ s.started
  · obtain ⟨sub, hsub, ht⟩ := I.delivered m hm
    have hn : (onTopic sub.topic s.started).Nodup :=
      (I.ordered sub hsub).sublist.nodup (I.ledger.nodup_handed sub)
    rw [← List.count_filter (p := fun m : Message => m.topic == sub.topic) (by simp [ht])]
    exact List.nodup_iff_count_le_one.1 hn m
  · rw [List.count_eq_zero_of_not_mem hm]
    exact Nat.zero_le _

/-- A message that has been delivered and has not started is held or queued, but not both. -/
theorem placed (I : Inv w s) (hc : c ∈ s.worker.consumers)
    (hm : m ∈ s.history.handed c.subscription) : ∃! p, s.At c m p := by
  have ht : m.topic = c.subscription.topic := I.ledger.topic_of_handed hm
  have hline := I.ledger.nodup_handed c.subscription
  rw [I.line hc] at hm hline
  obtain ⟨hfront, -, hqueue⟩ := List.nodup_append.1 hline
  obtain ⟨-, -, hheld⟩ := List.nodup_append.1 hfront
  have hstarted : m ∈ s.started ↔ s.At c m .running ∨ s.At c m .handled := by
    rw [← I.accounted.mem_iff, List.map_append, List.mem_append]
    rfl
  have hnot_both : s.At c m .running → ¬ s.At c m .handled := by
    have hn := I.accounted.nodup_iff.2 I.once
    rw [List.map_append, List.nodup_append] at hn
    exact fun hr hh => hn.2.2 m hr m hh rfl
  have hheld_iff : m ∈ c.held.toList ↔ s.At c m .held := Option.mem_toList
  have hcases : m ∈ s.started ∨ s.At c m .held ∨ s.At c m .queued := by
    rw [List.mem_append, List.mem_append, mem_onTopic, hheld_iff, or_assoc] at hm
    exact hm.imp_left And.left
  have hnot_held (h : m ∈ s.started) : ¬ s.At c m .held := fun hh =>
    hheld m (mem_onTopic.2 ⟨h, ht⟩) m (hheld_iff.2 hh) rfl
  have hnot_queued (h : m ∈ s.started ∨ s.At c m .held) : ¬ s.At c m .queued := fun hq =>
    hqueue m (List.mem_append.2 (h.imp (fun h => mem_onTopic.2 ⟨h, ht⟩) hheld_iff.2)) m hq rfl
  obtain h | h | h := hcases
  · obtain hr | hh := hstarted.1 h
    · exact ⟨.running, hr, fun p hp => by cases p <;> grind⟩
    · exact ⟨.handled, hh, fun p hp => by cases p <;> grind⟩
  · exact ⟨.held, h, fun p hp => by cases p <;> grind⟩
  · exact ⟨.queued, h, fun p hp => by cases p <;> grind⟩

end Inv

/-! ## Ends -/

theorem step_finish {k : Nat} (ht : s.worker.tasks[k]? = some t) (hc : t.finish ≤ s.clock) :
    s.step (.finish k) = { s with
      worker := { s.worker with free := s.worker.free + 1, tasks := s.worker.tasks.eraseIdx k }
      broker := t.reply s.broker
      history := t.enter s.history
      handled := s.handled ++ [t] } := by
  simp only [step, step?, ht, Worker.finish?_eq_some ht hc]
  rfl

/-- What has been handled stays so, and what is being handled is not given up. -/
structure Keeps (s s' : Shift) : Prop where
  handled : s.handled <+: s'.handled
  running : ∀ t ∈ s.worker.tasks, t ∈ s'.worker.tasks ∨ t ∈ s'.handled

theorem Keeps.refl (s : Shift) : Keeps s s := ⟨List.prefix_refl _, fun _ => .inl⟩

theorem Keeps.trans {s₁ s₂ s₃ : Shift} (K : Keeps s₁ s₂) (K' : Keeps s₂ s₃) : Keeps s₁ s₃ where
  handled := K.handled.trans K'.handled
  running t ht := (K.running t ht).elim (K'.running t) fun h => .inr (K'.handled.subset h)

theorem Keeps.of_tasks {s s' : Shift} (tasks : s.worker.tasks ⊆ s'.worker.tasks)
    (handled : s'.handled = s.handled) : Keeps s s' :=
  ⟨handled ▸ List.prefix_refl _, fun _ ht => .inl (tasks ht)⟩

theorem keeps_step? {e : Event} (h : s.step? e = some s') : Keeps s s' := by
  cases Happens.of_step? h with
  | elsewhere | take | wait | stop => exact .of_tasks (List.Subset.refl _) rfl
  | grant => exact .of_tasks (List.subset_append_left ..) rfl
  | finish ht =>
    refine ⟨List.prefix_append .., fun u hu => ?_⟩
    obtain rfl | hu := List.mem_cons.1 ((Worker.perm_eraseIdx ht).mem_iff.2 hu)
    · exact .inr (List.mem_append_right _ (.head _))
    · exact .inl hu

theorem keeps_run (s : Shift) (later : List Event) : Keeps s (s.run later) := by
  induction later generalizing s with
  | nil => exact .refl s
  | cons e later ih =>
    refine .trans ?_ (ih (s.step e))
    rw [step]
    cases h : s.step? e with
    | none => exact .refl s
    | some s' => exact keeps_step? h

theorem run_append (s : Shift) (xs ys : List Event) : s.run (xs ++ ys) = (s.run xs).run ys :=
  List.foldl_append ..

theorem exists_finish (s : Shift) (ht : t ∈ s.worker.tasks ∨ t ∈ s.handled) :
    ∃ milliseconds k, t ∈ (s.run [.wait milliseconds, .finish k]).handled := by
  obtain ht | ht := ht
  · obtain ⟨k, hk⟩ := List.getElem?_of_mem ht
    refine ⟨t.finish, k, ?_⟩
    have hdue : t.finish ≤ s.clock + t.finish := Nat.le_add_left ..
    show t ∈ (step { s with clock := s.clock + t.finish } (.finish k)).handled
    rw [step_finish (s := { s with clock := s.clock + t.finish }) hk hdue]
    exact List.mem_append_right _ (.head _)
  · exact ⟨0, 0, (keeps_run s _).handled.subset ht⟩

/-! ## Beginnings -/

theorem takes {k : Nat} (hc : s.worker.consumers[k]? = some c) (idle : c.held = none)
    (hm : (s.broker.queue c.subscription).head? = some m) :
    (s.step (.take k)).worker.consumers[k]? = some { c with held := some m } := by
  obtain ⟨ms, hq⟩ := List.head?_eq_some_iff.1 hm
  obtain ⟨b, hr⟩ : ∃ b, s.broker.receive? c.subscription = some (m, b) := by
    rw [Broker.receive?, hq]
    exact ⟨_, rfl⟩
  simp [Shift.step, Shift.step?, Worker.take?, hc, idle, hr]

/-- A free permit goes to the first in line. -/
theorem Inv.proceeds (I : Inv w s) {sub : Subscription} (hw : s.worker.waiting.head? = some sub)
    (hf : 0 < s.worker.free) : ∃ c ∈ s.worker.consumers, c.subscription = sub ∧ ∃ m ∈ c.held,
      (s.step .grant).started = s.started ++ [m] := by
  obtain ⟨waiting, hw⟩ := List.head?_eq_some_iff.1 hw
  obtain ⟨c, hc, rfl⟩ := List.mem_map.1 (I.waits sub (hw ▸ .head _))
  obtain ⟨m, held⟩ := Option.isSome_iff_exists.1 ((I.asks c hc).2 (hw ▸ .head _))
  obtain ⟨free, hf⟩ := Nat.exists_eq_add_one.2 hf
  have hfind : s.worker.consumers.find? (·.subscription == c.subscription) = some c := by
    cases h : s.worker.consumers.find? (·.subscription == c.subscription) with
    | none => exact absurd (beq_self_eq_true _) (List.find?_eq_none.1 h c hc)
    | some d =>
      have hd : d.subscription = c.subscription := by simpa using List.find?_some h
      rw [I.eq_of_subscription (List.mem_of_find?_eq_some h) hc hd]
  refine ⟨c, hc, rfl, m, held, ?_⟩
  simp [Shift.step, Shift.step?, Worker.grant?, hf, hw, hfind, held]

/-! ## After the stop -/

namespace Inv

theorem waiting_of_stopped (I : Inv w s) (hs : s.stopped = true) : s.worker.waiting = [] := by
  have hc := I.consumes
  rw [hs, if_pos rfl] at hc
  cases hw : s.worker.waiting with
  | nil => rfl
  | cons sub waiting => cases hc ▸ I.waits sub (hw ▸ .head _)

theorem halted_step? (I : Inv w s) (hs : s.stopped = true) {e : Event}
    (h : s.step? e = some s') : s'.stopped = true ∧ s'.started = s.started := by
  cases Happens.of_step? h with
  | grant _ _ hw =>
    rw [I.waiting_of_stopped hs] at hw
    cases hw
  | stop => exact ⟨rfl, rfl⟩
  | elsewhere | take | finish | wait => exact ⟨hs, rfl⟩

theorem halted (I : Inv w s) (hs : s.stopped = true) (later : List Event) :
    (s.run later).started = s.started := by
  induction later generalizing s with
  | nil => rfl
  | cons e later ih =>
    show ((s.step e).run later).started = s.started
    have I' := I.step e
    rw [Shift.step] at I' ⊢
    cases h : s.step? e with
    | none => exact ih I hs
    | some s' =>
      rw [h] at I'
      obtain ⟨hs', hstarted⟩ := I.halted_step? hs h
      exact (ih I' hs').trans hstarted

theorem sound (I : Inv w s) : Sound w s where
  recorded := I.recorded
  permits := I.permits
  bounded := I.permits ▸ Nat.le_add_left ..
  consumes h := ⟨by rw [I.consumes, h]; rfl, I.topics⟩
  asks := I.asks
  line c := I.line
  placed c hc m := I.placed hc
  accounted := I.accounted
  once := I.once
  ordered := I.ordered
  delivered m := I.delivered_of_started
  answers t ht :=
    let ⟨clock, hc, answer, finish⟩ := I.answers t ht
    ⟨clock, hc, _, Task.owes answer, finish⟩
  ends k t ht hc := by
    rw [step_finish ht hc]
    exact ⟨rfl, rfl, rfl⟩
  finishes t ht later := by
    obtain ⟨milliseconds, k, h⟩ := exists_finish _ ((keeps_run s later).running t ht)
    rw [← run_append] at h
    exact ⟨milliseconds, k, h, fun a ha =>
      (I.run _).replied.subset (List.mem_filterMap.2 ⟨t, h, ha⟩)⟩
  replied := I.replied
  takes k c hc idle m hm := takes hc idle hm
  proceeds sub := I.proceeds
  halted := I.halted

end Inv

/-- Whatever is done with a broker before a replica is started on it, and whatever happens from then
on: the replica keeps to its duties. -/
theorem run_sound {keepHistory : Bool} {before : List Broker.Action} {config : WorkerConfig}
    {catalog : Catalog} {b : Broker}
    (h : Worker.start config catalog (Broker.History.run keepHistory before).broker = (.ok w, b))
    (clock : Nat) (calendar : Nat → Instant) (events : List Event) :
    Sound w ((start (.run keepHistory before) w b clock calendar).run events) :=
  ((Inv.start (.run keepHistory before) h clock calendar).run events).sound

/-- A call of the nap, with the milliseconds for which it lasts. -/
def nap : Envelope where
  requestId := ⟨7⟩
  clientType := "client"
  procedureName := "nap"
  parameters := Procedure.Sample.Delay.toJson ⟨300, .string "rested"⟩
  replyTo := "replies"
  metadata := {}
  issuedAt := .epoch

/-- It says whom to answer, and no more. -/
def bare : Bytes :=
  (Json.Value.object [("requestId", Uuid.toJson ⟨8⟩), ("replyTo", .string "replies")]).print

/-- A replica with one permit for two topics, as it has been started. -/
def single : Worker where
  config := { service := "client", extraTopics := ["urgent"], concurrency := 1 }
  dispatcher := { catalog := ⟨[⟨"nap", Procedure.Sample.sleep⟩]⟩ }
  consumers := [⟨⟨"client-procedures", "worker-client", 0⟩, none⟩,
    ⟨⟨"urgent", "worker-client", 1⟩, none⟩]
  free := 1

/-- It refuses a message, passes over another, and is stopped while it naps, one message is held,
and one is queued. -/
def singleEvents : List Event :=
  [.elsewhere (.publish "client-procedures" "a" bare), .elsewhere (.publish "urgent" "b" []),
    .elsewhere (.publish "client-procedures" "c" nap.toBytes),
    .elsewhere (.publish "urgent" "d" []), .elsewhere (.publish "urgent" "e" []),
    .take 0, .take 1, .grant, .finish 0, .take 0, .grant, .finish 0, .grant, .take 1, .stop,
    .grant, .finish 0, .wait 300, .finish 0]

/-- The call that was going on at the stop is the last to be replied to. -/
theorem run_sound_single : ∃ b s,
    Worker.start single.config single.dispatcher.catalog (Broker.History.run true []).broker =
        (.ok single, b) ∧
      s = (start (.run true []) single b 0 fun _ => .epoch).run singleEvents ∧ Sound single s ∧
      s.started = [⟨"client-procedures", "a", bare, 0⟩, ⟨"urgent", "b", [], 0⟩,
        ⟨"client-procedures", "c", nap.toBytes, 1⟩] ∧
      s.handled.map (·.message) = s.started ∧ s.worker.free = 1 ∧
      s.broker.published "replies" = [⟨"replies", Uuid.display ⟨8⟩, Reply.toBytes ⟨⟨8⟩, .failure
          "Invalid envelope: malformed message: missing field `clientType`"⟩, 0⟩,
        ⟨"replies", Uuid.display ⟨7⟩, Reply.toBytes ⟨⟨7⟩, .success (.string "rested")⟩, 1⟩] := by
  have h : Worker.start single.config single.dispatcher.catalog
      (Broker.History.run true []).broker = (.ok single, _) := rfl
  refine ⟨_, _, h, rfl, run_sound h 0 _ singleEvents, ?_⟩
  decide +kernel

end Shift

end CallGateway
