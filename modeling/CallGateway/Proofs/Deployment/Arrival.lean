import CallGateway.Proofs.Deployment.Steps
import CallGateway.Proofs.Deployment.Trip

/-!
# Calls arrive

Wherever a call is on its way, an event can happen that moves it on, and nothing that happens before
the deadline moves it anywhere else. As every event leaves fewer steps to be made, the call has ended
when nothing can happen any more, and whoever waits for it learns the reply.
-/

namespace CallGateway

namespace Deployment

/-- A number of events happen one after the other. Time may pass between them, but does not reach the
deadline. -/
inductive Course (deadline : Nat) (d : Deployment) : Nat → Deployment → Prop
  | start : Course deadline d 0 d
  | event {n : Nat} {d₁ d₂ : Deployment} {e : Event} (course : Course deadline d n d₁)
    (h : d₁.step? e = some d₂) : Course deadline d (n + 1) d₂
  | tick {n : Nat} {d₁ : Deployment} {time : Nat} (course : Course deadline d n d₁)
    (h : d₁.clock ≤ time) (early : time < deadline) :
    Course deadline d n { d₁ with clock := time }

/-- A call has come to its end with this reply. The broker has accepted these messages for it and
nothing else, and the request is not pending any more. -/
structure Served (before : Deployment) (h : Handle) (reply : Reply) (messages : List Message)
    (d : Deployment) : Prop where
  result : d.result? 0 h = some (.ok reply)
  accepted : Broker.Since before.broker d.broker messages
  done : ∀ g ∈ d.gateways, g.pending.contains h.requestId = false

/-- A call is served by its deadline, in whatever order things happen and however time passes. -/
structure Serves (before d : Deployment) (deadline bound : Nat) (h : Handle) (reply : Reply)
    (messages : List Message) : Prop where
  /-- The events come to an end. -/
  bounded : ∀ n d', Course deadline d n d' → n ≤ bound
  /-- Until the call has ended something can happen. -/
  live : ∀ n d', Course deadline d n d' → d'.result? 0 h = none → ∃ e, (d'.step? e).isSome
  /-- The call does not end in another way. -/
  safe : ∀ n d', Course deadline d n d' → d'.result? 0 h ≠ none →
    before.Served h reply messages d'
  /-- Whoever waits for the call learns the reply. -/
  awaited : ∀ n d', Course deadline d n d' →
    ∃ later, d'.await 0 h = (.ok reply, later) ∧ before.Served h reply messages later

end Deployment

namespace Trip

variable {P : Trip} {st : Stage} {d d' : Deployment} {e : Event}

/-- The number of events that can still happen. -/
def remaining (P : Trip) (st : Stage) (d : Deployment) : Nat :=
  (d.workers.map fun w => P.left w d.broker st).sum

theorem remaining_eq {w : Worker} (h : d.workers = [w]) :
    P.remaining st d = P.left w d.broker st := by
  rw [remaining, h]
  exact Nat.add_zero _

namespace At

/-- The gateway has made a step. -/
theorem setGateway (A : P.At st d) {st' : Stage} {g : Gateway} {b : Broker}
    (hg : P.GatewayAt st' g) (hb : P.BrokerAt st' b)
    (hw : ∀ w, P.WorkerAt d.clock w st → P.WorkerAt d.clock w st') :
    P.At st' ((d.setGateway 0 g).withBroker b) where
  gateway := by
    obtain ⟨g₀, hd, -⟩ := A.gateway
    exact ⟨g, by rw [Deployment.setGateway, hd]; rfl, hg⟩
  worker := by
    obtain ⟨w, hd, W⟩ := A.worker
    exact ⟨w, hd, hw w W⟩
  broker := hb
  early := A.early

/-- The worker has made a step. -/
theorem setWorker (A : P.At st d) {st' : Stage} {w : Worker} {b : Broker}
    (hw : P.WorkerAt d.clock w st') (hb : P.BrokerAt st' b)
    (hg : ∀ g, P.GatewayAt st g → P.GatewayAt st' g) :
    P.At st' ((d.setWorker 0 w).withBroker b) where
  gateway := by
    obtain ⟨g, hd, G⟩ := A.gateway
    exact ⟨g, hd, hg g G⟩
  worker := by
    obtain ⟨w₀, hd, -⟩ := A.worker
    exact ⟨w, by rw [Deployment.setWorker, hd]; rfl, hw⟩
  broker := hb
  early := A.early

/-- Time passes. -/
theorem tick (A : P.At st d) {time : Nat} (h : d.clock ≤ time) (early : time < P.deadline) :
    P.At st { d with clock := time } where
  gateway := A.gateway
  worker := by
    obtain ⟨w, hd, W⟩ := A.worker
    refine ⟨w, hd, ?_⟩
    cases st with
    | running =>
      obtain ⟨t, hA, ha, ht⟩ := W
      exact ⟨t, hA, ha, Nat.le_trans ht h⟩
    | _ => exact W
  broker := A.broker
  early := early

/-- While the worker brings the call forward, the gateway waits as before. -/
theorem gatewayAt_next (hst : st.WithWorker) {g : Gateway} (G : P.GatewayAt st g) :
    P.GatewayAt st.next g := by
  obtain ⟨hlisteners, houtbox, hcalls, hstate, hentry, hresult⟩ := G
  cases st with
  | queued | held | running => exact ⟨hlisteners, houtbox, hcalls, hstate, hentry, hresult⟩
  | _ => exact hst.elim

/-- What an event comes to: the call is at its next stage, or the reply has been published and it is
the worker that has been busy with a copy. -/
def Advances (P : Trip) (st : Stage) (e : Event) (d d' : Deployment) : Prop :=
  ∃ st', P.At st' d' ∧ P.remaining st' d' < P.remaining st d ∧
    (st' = st.next ∧ st ≠ .ended ∨ st' = st ∧ st.Replied ∧ e.byWorker = true)

theorem of_gateway (A : P.At st d) (hst : st ≠ .ended) {g : Gateway} {b : Broker}
    (G : P.GatewayAt st.next g) (B : P.BrokerAt st.next b)
    (hw : ∀ w, P.WorkerAt d.clock w st → P.WorkerAt d.clock w st.next)
    (ha : ∀ w, P.aside w b st.next = P.aside w d.broker st) :
    Advances P st e d ((d.setGateway 0 g).withBroker b) := by
  obtain ⟨w, hws, -⟩ := A.worker
  refine ⟨_, A.setGateway G B hw, ?_, .inl ⟨rfl, hst⟩⟩
  rw [remaining_eq hws, remaining_eq (d := (d.setGateway 0 g).withBroker b) hws, left, left]
  show _ + P.aside w b st.next < _
  rw [ha w, Stage.rank_next hst]
  exact Nat.add_lt_add_right (Nat.lt_succ_self _) _

theorem of_worker (A : P.At st d) {w w' : Worker} {b : Broker} (hws : d.workers = [w])
    (h : P.Moves st d.clock w d.broker w' b) (he : e.byWorker = true) :
    Advances P st e d ((d.setWorker 0 w').withBroker b) := by
  obtain ⟨st', W, B, hleft, hst⟩ := h
  have hws' : ((d.setWorker 0 w').withBroker b).workers = [w'] := by
    show d.workers.set 0 w' = _
    rw [hws]
    rfl
  refine ⟨st', A.setWorker W B fun g G => ?_, ?_, ?_⟩
  · obtain ⟨rfl, hwith⟩ | ⟨rfl, -⟩ := hst
    · exact gatewayAt_next hwith G
    · exact G
  · rwa [remaining_eq hws, remaining_eq hws']
  · obtain ⟨rfl, hwith⟩ | ⟨rfl, hreplied⟩ := hst
    · refine .inl ⟨rfl, ?_⟩
      rintro rfl
      exact hwith
    · exact .inr ⟨rfl, hreplied, he⟩

/-- Every event moves the call on, or is the worker's and has to do with a copy of the reply. -/
theorem step? (A : P.At st d) (h : d.step? e = some d') : Advances P st e d d' := by
  obtain ⟨g, hgs, G⟩ := A.gateway
  obtain ⟨w, hws, W⟩ := A.worker
  cases Deployment.Happens.of_step? h with
  | expire hg hc h' =>
    obtain ⟨rfl, rfl⟩ := Deployment.of_getElem?_singleton (hgs ▸ hg)
    exact (G.expire? A.early hc h').elim
  | conclude hg hc h' =>
    obtain ⟨rfl, rfl⟩ := Deployment.of_getElem?_singleton (hgs ▸ hg)
    obtain ⟨rfl, G'⟩ := G.conclude? hc h'
    have B := A.broker
    exact A.of_gateway nofun G' ⟨B.since, B.requests, B.replies, B.others⟩ (fun _ => id) fun _ => rfl
  | publish hg h' =>
    obtain ⟨rfl, rfl⟩ := Deployment.of_getElem?_singleton (hgs ▸ hg)
    obtain ⟨rfl, G', B'⟩ := G.publish? A.broker h'
    exact A.of_gateway nofun G' B' (fun _ => id) fun _ => rfl
  | @listen _ _ _ _ b _ hg hs h' =>
    obtain ⟨rfl, rfl⟩ := Deployment.of_getElem?_singleton (hgs ▸ hg)
    obtain ⟨rfl, G', B', hbacklog⟩ := G.listen? A.broker hs h'
    refine A.of_gateway nofun G' B' (fun _ => id) fun w => ?_
    show 3 * P.backlog b + _ + _ = 3 * P.backlog d.broker + _ + _
    rw [hbacklog]
  | take hw hc h' =>
    obtain ⟨rfl, rfl⟩ := Deployment.of_getElem?_singleton (hws ▸ hw)
    exact A.of_worker hws (Trip.take? W A.broker hc h') rfl
  | grant hw h' =>
    obtain ⟨rfl, rfl⟩ := Deployment.of_getElem?_singleton (hws ▸ hw)
    exact A.of_worker hws (Trip.grant? W A.broker h') rfl
  | finish hw h' =>
    obtain ⟨rfl, rfl⟩ := Deployment.of_getElem?_singleton (hws ▸ hw)
    exact A.of_worker hws (Trip.finish? W A.broker h') rfl

/-! ## Nothing gets stuck -/

/-- The request can be published, the reply can be received, and the caller can learn it. -/
theorem gateway_advances {g : Gateway} (hgs : d.gateways = [g]) (G : P.GatewayAt st g)
    (B : P.BrokerAt st d.broker) (hst : st = .leaving ∨ st = .answered ∨ st = .settled) :
    ∃ e ∈ Deployment.gatewayEvents 0 g, (d.step? e).isSome := by
  obtain rfl | rfl | rfl := hst
  · have ho : g.outbox = [P.outgoing] := G.outbox
    refine ⟨.publish 0 0, ?_, ?_⟩
    · simp [Deployment.gatewayEvents, ho]
    · simp [Deployment.step?, hgs, Gateway.publish?, ho]
  · have hl : g.listeners = [P.listener] := G.listeners
    have hq : d.broker.queue P.listener = [P.answering] := B.replies
    refine ⟨.listen 0 0, ?_, ?_⟩
    · simp [Deployment.gatewayEvents, hl]
    · simp [Deployment.step?, hgs, hl, Gateway.listen?, Broker.receive?, hq]
  · have hc : g.calls = [⟨P.handle, P.deadline⟩] := G.calls
    have hs : g.pending.state? P.handle = some (.settled (.ok P.reply)) := G.state
    refine ⟨.conclude 0 0, ?_, ?_⟩
    · simp [Deployment.gatewayEvents, hc]
    · simp [Deployment.step?, hgs, hc, Gateway.conclude?, PendingTable.result?, hs]

/-- The worker can take the request, execute it and reply to it. -/
theorem worker_advances {w : Worker} (hws : d.workers = [w]) (W : P.WorkerAt d.clock w st)
    (B : P.BrokerAt st d.broker) (hst : st.WithWorker) :
    ∃ e ∈ Deployment.workerEvents 0 w, (d.step? e).isSome := by
  obtain ⟨c, hc, hs⟩ := List.mem_map.1 ((Same.of_workerAt W).subscriptions ▸ P.quiet.consumes)
  cases st with
  | queued =>
    have hq : d.broker.queue P.consumer = [P.asking] := B.requests
    have hidle : c.held = none := by rw [Attends.held W c hc, ite_self]
    obtain ⟨k, hk⟩ := List.getElem?_of_mem hc
    have hlt : k < w.consumers.length := (List.getElem?_eq_some_iff.1 hk).1
    refine ⟨.take 0 k, ?_, ?_⟩
    · simp [Deployment.workerEvents, hlt]
    · simp [Deployment.step?, hws, hk, Worker.take?, hidle, Broker.receive?, hs, hq]
  | held =>
    have hw : w.waiting = [P.consumer] := Attends.waiting W
    obtain ⟨free, hf⟩ := Nat.exists_eq_add_one.2 (Attends.free W rfl)
    obtain ⟨c', hfind⟩ : ∃ c', w.consumers.find? (·.subscription == P.consumer) = some c' :=
      Option.isSome_iff_exists.1 (List.find?_isSome.2 ⟨c, hc, beq_iff_eq.2 hs⟩)
    have hheld : c'.held = some P.asking := by
      have hs' : c'.subscription = P.consumer := by simpa using List.find?_some hfind
      rw [Attends.held W c' (List.mem_of_find?_eq_some hfind), if_pos hs']
    refine ⟨.grant 0, ?_, ?_⟩
    · simp [Deployment.workerEvents]
    · simp [Deployment.step?, hws, Worker.grant?, hf, hw, hfind, hheld]
  | running =>
    obtain ⟨t, A, -, ht⟩ := W
    refine ⟨.finish 0 0, ?_, ?_⟩
    · simp [Deployment.workerEvents, A.tasks]
    · simp [Deployment.step?, hws, Worker.finish?, A.tasks, ht]
  | _ => exact hst.elim

/-- What is tried first moves the call on. -/
theorem next? (A : P.At st d) (hst : st ≠ .ended) :
    ∃ d', d.next? = some d' ∧ P.At st.next d' := by
  obtain ⟨g, hgs, G⟩ := A.gateway
  obtain ⟨w, hws, W⟩ := A.worker
  have hnext : d.next? = ((Deployment.gatewayEvents 0 g).findSome? d.step?).or
      ((Deployment.workerEvents 0 w).findSome? d.step?) := by
    rw [Deployment.next?, Deployment.events_eq hgs hws, List.findSome?_append]
  by_cases hw : st.WithWorker
  · obtain ⟨e, he, hsome⟩ := worker_advances hws W A.broker hw
    obtain ⟨d', hd⟩ : ∃ d', d.next? = some d' := by
      refine Option.isSome_iff_exists.1 (List.findSome?_isSome_iff.2 ⟨e, ?_, hsome⟩)
      exact Deployment.events_eq hgs hws ▸ List.mem_append_right _ he
    obtain ⟨e', hstep⟩ := Deployment.of_next? hd
    obtain ⟨st', A', -, ⟨rfl, -⟩ | ⟨-, hreplied, -⟩⟩ := A.step? hstep
    · exact ⟨d', hd, A'⟩
    · cases st <;> first | exact hw.elim | exact hreplied.elim
  · -- The worker may be busy with a copy of the reply, but the events of the gateway come first.
    have hwith : st = .leaving ∨ st = .answered ∨ st = .settled := by
      cases st with
      | leaving => exact .inl rfl
      | answered => exact .inr (.inl rfl)
      | settled => exact .inr (.inr rfl)
      | ended => exact absurd rfl hst
      | queued | held | running => exact absurd trivial hw
    obtain ⟨e, he, hsome⟩ := gateway_advances hgs G A.broker hwith
    obtain ⟨d', hd⟩ := Option.isSome_iff_exists.1 (List.findSome?_isSome_iff.2 ⟨e, he, hsome⟩)
    obtain ⟨e', he', hstep⟩ := List.exists_of_findSome?_eq_some hd
    refine ⟨d', by rw [hnext, hd, Option.some_or], ?_⟩
    obtain ⟨st', A', -, ⟨rfl, -⟩ | ⟨-, -, hby⟩⟩ := A.step? hstep
    · exact A'
    · exact absurd hby (Bool.eq_false_iff.1 (Deployment.byWorker_of_mem he'))

/-! ## The end of the call -/

theorem result?_eq (A : P.At st d) : d.result? 0 P.handle = P.result st := by
  obtain ⟨g, hgs, G⟩ := A.gateway
  rw [Deployment.result?, hgs]
  exact G.result

theorem run (A : P.At st d) {fuel : Nat} (h : st.rank ≤ fuel) : P.At .ended (d.run fuel) := by
  induction fuel generalizing d st with
  | zero =>
    cases st with
    | ended => exact A
    | _ => cases h
  | succ fuel ih =>
    rw [Deployment.run]
    by_cases hst : st = .ended
    · -- What is left are copies of the reply, and the call stays where it is.
      subst hst
      split
      · exact A
      · next d' hd =>
        obtain ⟨e, hstep⟩ := Deployment.of_next? hd
        obtain ⟨st', A', -, ⟨-, hne⟩ | ⟨rfl, -⟩⟩ := A.step? hstep
        · exact absurd rfl hne
        · exact ih A' (Nat.zero_le _)
    · obtain ⟨d', hd, A'⟩ := A.next? hst
      simp only [hd]
      rw [Stage.rank_next hst] at h
      exact ih A' (Nat.le_of_succ_le_succ h)

theorem rank_le_eventBound (st : Stage) (d : Deployment) : st.rank ≤ d.eventBound := by
  have hrank : st.rank ≤ 6 := by cases st <;> decide
  have hbound : 1 * (4 * 2) ^ 2 ≤ d.eventBound :=
    Nat.mul_le_mul (Nat.le_add_left 1 _) (Nat.pow_le_pow_left (by omega) 2)
  omega

/-- Whoever waits for the call learns the reply. -/
theorem await (A : P.At st d) :
    ∃ d', d.await 0 P.handle = (.ok P.reply, d') ∧ P.At .ended d' := by
  have A' : P.At .ended d.settle := A.run (rank_le_eventBound st d)
  refine ⟨d.settle, ?_, A'⟩
  rw [Deployment.await, Deployment.awaitCall, A'.result?_eq]
  rfl

theorem served (A : P.At .ended d) :
    P.scene.Served P.handle P.reply [P.asking, P.answering] d where
  result := A.result?_eq
  accepted := A.broker.since
  done g hg := by
    obtain ⟨g', hgs, G⟩ := A.gateway
    obtain rfl := List.mem_singleton.1 (hgs ▸ hg)
    exact congrArg Option.isSome G.entry

/-- In the course of events the call stays at some stage, and every event counts. -/
theorem course (A : P.At st d) {n : Nat} (h : Deployment.Course P.deadline d n d') :
    ∃ st', P.At st' d' ∧ n + P.remaining st' d' ≤ P.remaining st d := by
  induction h with
  | start => exact ⟨st, A, Nat.le_of_eq (Nat.zero_add _)⟩
  | event _ hstep ih =>
    obtain ⟨st₁, A₁, h₁⟩ := ih
    obtain ⟨st₂, A₂, hlt, -⟩ := A₁.step? hstep
    exact ⟨st₂, A₂, by omega⟩
  | tick _ hclock early ih =>
    obtain ⟨st₁, A₁, h₁⟩ := ih
    exact ⟨st₁, A₁.tick hclock early, h₁⟩

theorem serves (A : P.At st d) : P.scene.Serves d P.deadline (P.remaining st d) P.handle P.reply
    [P.asking, P.answering] where
  bounded n d' h := by
    obtain ⟨st', -, hle⟩ := A.course h
    exact Nat.le_trans (Nat.le_add_right n _) hle
  live n d' h hresult := by
    obtain ⟨st', A', -⟩ := A.course h
    rw [A'.result?_eq] at hresult
    obtain ⟨d'', hnext, -⟩ := A'.next? (by rintro rfl; cases hresult)
    obtain ⟨e, hstep⟩ := Deployment.of_next? hnext
    exact ⟨e, Option.isSome_of_eq_some hstep⟩
  safe n d' h hresult := by
    obtain ⟨st', A', -⟩ := A.course h
    rw [A'.result?_eq] at hresult
    cases st' with
    | ended => exact A'.served
    | _ => exact absurd rfl hresult
  awaited n d' h := by
    obtain ⟨st', A', -⟩ := A.course h
    obtain ⟨later, hawait, hlater⟩ := A'.await
    exact ⟨later, hawait, hlater.served⟩

end At

/-! ## The beginning of the call -/

/-- The gateway after it has accepted the call. -/
def entering (P : Trip) : Gateway :=
  { P.gateway with
    pending := { P.gateway.pending with
      entries := P.gateway.pending.entries.set P.request.requestId P.handle.serial
      handles := P.gateway.pending.handles.set P.handle.serial .waiting
      nextSerial := P.handle.serial + 1 }
    outbox := P.gateway.outbox ++ [P.outgoing]
    calls := P.gateway.calls ++ [⟨P.handle, P.deadline⟩] }

theorem submit_eq (P : Trip) :
    P.gateway.submit P.scene.directory P.scene.clock P.request = .ok (P.handle, P.entering) := by
  have hfresh : P.gateway.pending.entries.get? P.request.requestId = none :=
    Option.not_isSome_iff_eq_none.1 (Bool.eq_false_iff.1 (P.quiet.pending P.request.requestId))
  have hnamed : ¬ Text.isBlank P.request.procedureName = true := by
    rw [P.named]
    exact Bool.false_ne_true
  rw [Gateway.submit_eq, if_neg hnamed, P.resolves]
  simp only [PendingTable.create_eq, hfresh]
  rfl

theorem gatewayAt_entering (P : Trip) : P.GatewayAt .leaving P.entering where
  listeners := P.quiet.listeners
  outbox := congrArg (· ++ [P.outgoing]) P.quiet.outbox
  calls := congrArg (· ++ [OpenCall.mk P.handle P.deadline]) P.quiet.calls
  state := by
    show Keyed.get? (P.gateway.pending.handles.set _ _) _ = _
    rw [Keyed.get?_set, if_pos rfl]
    rfl
  entry := by
    show Keyed.get? (P.gateway.pending.entries.set _ _) _ = _
    rw [Keyed.get?_set, if_pos rfl]
    rfl
  result := by
    refine List.lookup_eq_none_iff.2 fun x hx => ?_
    exact bne_iff_ne.2 (Nat.ne_of_gt (P.quiet.past x hx))

theorem brokerAt_scene (P : Trip) : P.BrokerAt .leaving P.scene.broker where
  since := .refl _
  requests := by
    obtain ⟨c, hc, hs⟩ := List.mem_map.1 P.quiet.consumes
    rw [← hs, (P.quiet.idle c hc).2]
    rfl
  replies := P.quiet.unread
  others c hc _ m hm := by
    rw [(P.quiet.idle c hc).2] at hm
    cases hm

theorem attends_worker (P : Trip) : P.Attends none [] P.worker where
  dispatcher := rfl
  subscriptions := rfl
  held c hc := by rw [(P.quiet.idle c hc).1, ite_self]
  waiting := P.quiet.waiting
  tasks := P.quiet.tasks
  free _ := P.quiet.free

/-- The call has been entered at the gateway. -/
theorem entered (P : Trip) : ∃ after,
    P.scene.submit 0 P.request = some (.ok (P.handle, after)) ∧ P.At .leaving after ∧
      after.workers = [P.worker] := by
  refine ⟨P.scene.setGateway 0 P.entering, ?_, ⟨?_, ?_, P.brokerAt_scene, ?_⟩, P.quiet.workers⟩
  · rw [Deployment.submit, P.quiet.gateways]
    show some (P.gateway.submit .. >>= _) = _
    rw [P.submit_eq]
    rfl
  · exact ⟨P.entering, by rw [Deployment.setGateway, P.quiet.gateways]; rfl, P.gatewayAt_entering⟩
  · exact ⟨P.worker, P.quiet.workers, P.attends_worker⟩
  · have htime : P.gateway.config.requestTimeout.toNat ≠ 0 := fun h =>
      P.patient (UInt64.toNat_inj.1 h)
    exact Nat.lt_add_of_pos_right (Nat.pos_of_ne_zero htime)

/-- The call is served, with three steps for each copy of the reply at most. -/
theorem serves (P : Trip) : ∃ after, P.scene.submit 0 P.request = some (.ok (P.handle, after)) ∧
    P.scene.Serves after P.deadline (6 + 3 * P.worker.consumers.length) P.handle P.reply
      [P.asking, P.answering] := by
  obtain ⟨after, hsubmit, A, hworkers⟩ := P.entered
  refine ⟨after, hsubmit, ?_⟩
  have hserves := A.serves
  rwa [remaining_eq hworkers] at hserves

end Trip

end CallGateway
