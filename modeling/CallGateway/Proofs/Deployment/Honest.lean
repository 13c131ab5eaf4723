import CallGateway.Proofs.Deployment.Ledger
import CallGateway.Proofs.Deployment.Steps
import CallGateway.Proofs.Gateway.Steps
import CallGateway.Proofs.Worker.Steps

/-!
# Honest deployments

No event makes a gateway or a worker say that a procedure is missing for a request on a topic where
nobody lacks it.
-/

namespace CallGateway

open Ledger

variable {L : Ledger} {b b' : Broker}

theorem resolveTopic_eq_ok {d : Directory} {suffix : String}
    (H : resolveTopic d suffix clientType = .ok topic) :
    topic = requestTopic clientType suffix := by
  rw [resolveTopic] at H
  split at H
  · cases H
  · split at H
    · cases H; rfl
    · cases H

/-! ## Gateways -/

namespace Gateway

structure Honest (L : Ledger) (g : Gateway) : Prop where
  suffix : g.config.topicSuffix = L.suffix
  outbox : ∀ r ∈ g.outbox, L.Genuine r.topic r.payload
  pending : g.pending.Honest L
  ended : ∀ n r, (n, .ok r) ∈ g.ended → L.Fits n r

variable {g g' : Gateway}

theorem Honest.publish? (H : g.Honest L) (B : b.Carries L.Genuine)
    (h : g.publish? b k = some (g', b')) : g'.Honest L ∧ b'.Carries L.Genuine := by
  rw [Gateway.publish?] at h
  obtain ⟨r, hr, h⟩ := Option.map_eq_some_iff.1 h
  have hm := H.outbox r (List.mem_of_getElem? hr)
  have kept : ∀ r ∈ g.outbox.eraseIdx k, L.Genuine r.topic r.payload :=
    fun r hr => H.outbox r (List.mem_of_mem_eraseIdx hr)
  split at h
  · next hp =>
    cases h
    exact ⟨⟨H.suffix, kept, H.pending, H.ended⟩, B.publish hp hm⟩
  · cases h
    exact ⟨⟨H.suffix, kept, H.pending.fail .., H.ended⟩, B⟩

theorem Honest.take (H : g.Honest L) (D : L.Distinct) {topic : String} {payload : Bytes}
    (h : L.Genuine topic payload) : (g.take payload).Honest L := by
  rw [Gateway.take]
  split
  · next r hr => exact ⟨H.suffix, H.outbox, H.pending.complete D (h.ofBytes hr), H.ended⟩
  · exact H

theorem Honest.listen? (H : g.Honest L) (D : L.Distinct) (B : b.Carries L.Genuine)
    {s : Subscription} (h : g.listen? b s = some (g', b')) :
    g'.Honest L ∧ b'.Carries L.Genuine := by
  rw [Gateway.listen?] at h
  obtain ⟨⟨m, b₁⟩, hr, h⟩ := Option.map_eq_some_iff.1 h
  cases h
  obtain ⟨hm, B'⟩ := B.receive? hr
  exact ⟨H.take D hm, B'⟩

theorem Honest.lapse (H : g.Honest L) (c : OpenCall) : (g.lapse c).Honest L :=
  ⟨H.suffix, H.outbox, H.pending.expire .., H.ended⟩

theorem Honest.expire? (H : g.Honest L) (h : g.expire? clock c = some g') : g'.Honest L := by
  rw [Gateway.expire?] at h
  split at h
  · split at h
    · cases h
      exact H.lapse c
    · cases h
  · cases h

theorem Honest.conclude? (H : g.Honest L) (h : g.conclude? c = some g') : g'.Honest L := by
  rw [Gateway.conclude?] at h
  obtain ⟨res, hres, h⟩ := Option.map_eq_some_iff.1 h
  cases h
  refine ⟨H.suffix, H.outbox, H.pending.drop c.handle, fun n r hr => ?_⟩
  rcases List.mem_append.1 hr with hr | hr
  · exact H.ended n r hr
  · cases List.mem_singleton.1 hr
    exact H.pending.settled (Session.state?_of_result? hres)

theorem Honest.cancel (H : g.Honest L) (serial : Nat) : (g.cancel serial).2.Honest L := by
  rw [Gateway.cancel]
  split
  · exact H
  · exact ⟨H.suffix, H.outbox, H.pending.drop _, H.ended⟩

/-- A call that is accepted is asked for on the request topic of its pool. -/
theorem Honest.submit (H : g.Honest L) {d : Directory} {e : Envelope}
    {k : Handle} (h : g.submit d clock e = .ok (k, g')) : k = ⟨g.pending.nextSerial, e.requestId⟩ ∧
      g'.Honest (L.add ⟨k, requestTopic e.clientType L.suffix, e.procedureName⟩) := by
  rw [submit_eq, H.suffix] at h
  split at h
  · cases h
  · split at h
    · cases h
    · next topic ht =>
      obtain rfl := resolveTopic_eq_ok ht
      split at h
      · cases h
      · next hc =>
        cases h
        obtain ⟨hk, -⟩ := PendingTable.create_eq_ok hc
        refine ⟨hk, H.suffix, fun r hr => ?_, H.pending.create _ _ hc,
          fun n r hr => (H.ended n r hr).add _⟩
        rcases List.mem_append.1 hr with hr | hr
        · exact (H.outbox r hr).add _
        · obtain rfl := List.mem_singleton.1 hr
          exact .request e _ (List.mem_append_right _ (.head _)) rfl (by rw [hk]) rfl

end Gateway

/-! ## Workers -/

namespace Worker

structure Honest (L : Ledger) (w : Worker) : Prop where
  lacks : ∀ c ∈ w.consumers, ∀ name, w.dispatcher.catalog.find? name = none →
    L.Lacks c.subscription.topic name
  held : ∀ c ∈ w.consumers, ∀ m, c.held = some m → L.Genuine c.subscription.topic m.payload
  tasks : ∀ t ∈ w.tasks, ∀ topic r, t.answer = some (topic, r) → L.Warranted r

variable {w w' : Worker}

theorem Honest.add (H : w.Honest L) (o : Origin) : w.Honest (L.add o) where
  lacks := H.lacks
  held c hc m hm := (H.held c hc m hm).add o
  tasks t ht topic r hr := (H.tasks t ht topic r hr).add o

theorem Honest.hold (H : w.Honest L) (s : Subscription) (held : Option Message)
    (h : ∀ m, held = some m → L.Genuine s.topic m.payload) : (w.hold s held).Honest L where
  lacks c hc := by
    obtain ⟨d, hd, rfl⟩ := List.mem_map.1 hc
    have := H.lacks d hd
    split <;> exact this
  held c hc m hm := by
    obtain ⟨d, hd, rfl⟩ := List.mem_map.1 hc
    by_cases hs : d.subscription = s
    · rw [if_pos hs] at hm ⊢
      rw [hs]
      exact h m hm
    · rw [if_neg hs] at hm ⊢
      exact H.held d hd m hm
  tasks := H.tasks

theorem Honest.take? (H : w.Honest L) (B : b.Carries L.Genuine) (h : w.take? b c = some (w', b')) :
    w'.Honest L ∧ b'.Carries L.Genuine := by
  rw [Worker.take?] at h
  split at h
  · cases h
  · obtain ⟨⟨m, b₁⟩, hr, h⟩ := Option.map_eq_some_iff.1 h
    cases h
    obtain ⟨hm, B'⟩ := B.receive? hr
    obtain ⟨lacks, held, tasks⟩ := H.hold c.subscription (some m) fun k hk => by
      cases hk
      exact hm
    exact ⟨⟨lacks, held, tasks⟩, B'⟩

/-- What a worker answers to a genuine message is warranted. -/
theorem Honest.answer (H : w.Honest L) {c : Consumer} (hc : c ∈ w.consumers) {now : Instant}
    {clock : Nat} {payload : Bytes} (hm : L.Genuine c.subscription.topic payload)
    {topic : String} {r : Reply} (h : (w.answer now clock payload).result = some (topic, r)) :
    L.Warranted r := by
  rw [Worker.answer] at h
  cases he : Envelope.ofBytes now payload with
  | error err =>
    rw [he] at h
    obtain ⟨d, -, h⟩ := Option.map_eq_some_iff.1 h
    cases h
    have hb : Begins 'I' "Invalid envelope: " := ⟨_, rfl⟩
    refine warrants_of_message fun m hm => ?_
    cases hm
    exact (hb.append _).ne_notFound (by decide)
  | ok e =>
    rw [he] at h
    cases h
    cases hm with
    | reply r' _ =>
      have hr := Envelope.ofBytes_reply now r'
      rw [he] at hr
      cases hr
    | request e₀ o ho ht hid hp =>
      obtain ⟨hid', hp'⟩ := Envelope.ofBytes_toBytes he
      intro m hm hn
      refine ⟨o, ho, hid.trans hid'.symm, ?_⟩
      rw [ht, hp, ← hp']
      have hf : (w.dispatcher.dispatch e now clock).result.outcome = .failure m :=
        Reply.outcome_of_errorMessage? hm
      exact H.lacks c hc _ (Dispatcher.find?_of_notFound hf hn)

theorem Honest.grant? (H : w.Honest L) (h : w.grant? now clock = some w') : w'.Honest L := by
  rw [Worker.grant?] at h
  split at h
  · next s _ _ _ =>
    split at h
    · cases h
    · next m hm =>
      cases h
      obtain ⟨c, hc, hm⟩ := Option.bind_eq_some_iff.1 hm
      have hc := List.mem_of_find?_eq_some hc
      obtain ⟨lacks, held, -⟩ := H.hold s none fun _ h => absurd h.symm (Option.some_ne_none _)
      refine ⟨lacks, held, fun t ht topic r hr => ?_⟩
      rcases List.mem_append.1 ht with ht | ht
      · exact H.tasks t ht topic r hr
      · rw [List.mem_singleton.1 ht] at hr
        exact H.answer hc (H.held c hc m hm) hr
  · cases h

theorem Honest.finish? (H : w.Honest L) (B : b.Carries L.Genuine)
    (h : w.finish? b clock k = some (w', b')) : w'.Honest L ∧ b'.Carries L.Genuine := by
  rw [Worker.finish?] at h
  split at h
  · cases h
  · next t ht =>
    have ht := List.mem_of_getElem? ht
    split at h
    · cases h
      refine ⟨⟨H.lacks, H.held, fun t ht => H.tasks t (List.mem_of_mem_eraseIdx ht)⟩, ?_⟩
      split
      · next topic r hr =>
        rw [reply]
        split
        · next hp => exact B.publish hp (.reply r (H.tasks t ht topic r hr))
        · exact B
      · exact B
    · cases h

end Worker

/-! ## Deployments -/

namespace Deployment

structure Honest (L : Ledger) (d : Deployment) : Prop where
  broker : d.broker.Carries L.Genuine
  gateway : ∃ g, d.gateways = [g] ∧ g.Honest L
  workers : ∀ w ∈ d.workers, w.Honest L

variable {d d' : Deployment} {g g' : Gateway} {w : Worker} {i : Nat}

theorem Honest.of_getElem? (H : d.Honest L) (h : d.gateways[i]? = some g) :
    g.Honest L := by
  obtain ⟨g', hg, H'⟩ := H.gateway
  rw [hg] at h
  cases i with
  | zero => cases h; exact H'
  | succ i => cases h

theorem Honest.setGateway (H : d.Honest L) (h : d.gateways[i]? = some g) (hg' : g'.Honest L) :
    (d.setGateway i g').Honest L := by
  obtain ⟨g₀, hg, -⟩ := H.gateway
  refine ⟨H.broker, ⟨g', ?_, hg'⟩, H.workers⟩
  rw [hg] at h
  cases i with
  | zero => rw [Deployment.setGateway, hg]; rfl
  | succ i => cases h

theorem Honest.setWorker (H : d.Honest L) (i : Nat) (hw : w.Honest L) :
    (d.setWorker i w).Honest L := by
  refine ⟨H.broker, H.gateway, fun w' hw' => ?_⟩
  rcases List.mem_or_eq_of_mem_set hw' with hw' | rfl
  · exact H.workers w' hw'
  · exact hw

theorem Honest.withBroker (H : d.Honest L) (B : b.Carries L.Genuine) : (d.withBroker b).Honest L :=
  ⟨B, H.gateway, H.workers⟩

theorem Honest.withClock (H : d.Honest L) (time : Nat) : { d with clock := time }.Honest L :=
  ⟨H.broker, H.gateway, H.workers⟩

/-- Whatever happens to an honest deployment leaves it honest. -/
theorem Honest.step? (H : d.Honest L) (D : L.Distinct) (h : d.step? e = some d') :
    d'.Honest L := by
  cases Happens.of_step? h with
  | expire hg _ h' => exact H.setGateway hg ((H.of_getElem? hg).expire? h')
  | conclude hg _ h' => exact H.setGateway hg ((H.of_getElem? hg).conclude? h')
  | publish hg h' =>
    obtain ⟨Hg, B⟩ := (H.of_getElem? hg).publish? H.broker h'
    exact (H.setGateway hg Hg).withBroker B
  | listen hg _ h' =>
    obtain ⟨Hg, B⟩ := (H.of_getElem? hg).listen? D H.broker h'
    exact (H.setGateway hg Hg).withBroker B
  | take hw _ h' =>
    obtain ⟨Hw, B⟩ := (H.workers _ (List.mem_of_getElem? hw)).take? H.broker h'
    exact (H.setWorker _ Hw).withBroker B
  | grant hw h' => exact H.setWorker _ ((H.workers _ (List.mem_of_getElem? hw)).grant? h')
  | finish hw h' =>
    obtain ⟨Hw, B⟩ := (H.workers _ (List.mem_of_getElem? hw)).finish? H.broker h'
    exact (H.setWorker _ Hw).withBroker B

theorem Honest.run (H : d.Honest L) (D : L.Distinct) (fuel : Nat) : (run fuel d).Honest L := by
  induction fuel generalizing d with
  | zero => exact H
  | succ fuel ih =>
    rw [Deployment.run]
    split
    · exact H
    · next d' h =>
      obtain ⟨e, he⟩ := of_next? h
      exact ih (H.step? D he)

theorem Honest.moveTo (H : d.Honest L) (D : L.Distinct) (time : Nat) : (d.moveTo time).Honest L :=
  (H.withClock time).run D _

/-- The result of a call fits the request that was made for it. -/
theorem Honest.result? (H : d.Honest L) {k : Handle} (h : d.result? 0 k = some (.ok r)) :
    L.Fits k.serial r := by
  obtain ⟨g, hg, h⟩ := Option.bind_eq_some_iff.1 h
  obtain ⟨l₁, l₂, he, -⟩ := List.lookup_eq_some_iff.1 h
  exact (H.of_getElem? hg).ended _ _ (he ▸ List.mem_append_right _ (.head _))

theorem Honest.awaitCall (H : d.Honest L) (D : L.Distinct) {k : Handle} (fuel : Nat)
    (h : awaitCall 0 k fuel d = (res, d')) :
    d'.Honest L ∧ ∀ r, res = .ok r → L.Fits k.serial r := by
  induction fuel generalizing d with
  | zero => cases h; exact ⟨H, nofun⟩
  | succ fuel ih =>
    rw [Deployment.awaitCall] at h
    split at h
    · next hr =>
      cases h
      refine ⟨H, fun r hres => ?_⟩
      subst hres
      exact H.result? hr
    · exact ih (H.moveTo D _) h
    · cases h
      exact ⟨H, nofun⟩

theorem Honest.await (H : d.Honest L) (D : L.Distinct) {k : Handle}
    (h : d.await 0 k = (res, d')) : d'.Honest L ∧ ∀ r, res = .ok r → L.Fits k.serial r :=
  (H.run D _).awaitCall D _ h

theorem Honest.cancel (H : d.Honest L) (i serial : Nat) : (d.cancel i serial).2.Honest L := by
  rw [Deployment.cancel]
  split
  · exact H
  · next g hg => exact H.setGateway hg ((H.of_getElem? hg).cancel serial)

/-- A call that is accepted has been asked for; no other request has its handle. -/
theorem Honest.submit (H : d.Honest L) {e : Envelope} {k : Handle}
    (h : d.submit 0 e = some (.ok (k, d'))) : k.requestId = e.requestId ∧
      (∀ o ∈ L.asked, o.handle.serial ≠ k.serial) ∧
      d'.Honest (L.add ⟨k, requestTopic e.clientType L.suffix, e.procedureName⟩) := by
  obtain ⟨g, hg, Hg⟩ := H.gateway
  rw [Deployment.submit, hg] at h
  cases hs : g.submit d.directory d.clock e with
  | error err => simp only [List.getElem?_cons_zero, Option.map_some, hs] at h; cases h
  | ok p =>
    obtain ⟨k', g'⟩ := p
    simp only [List.getElem?_cons_zero, Option.map_some, hs] at h
    cases h
    obtain ⟨rfl, Hg'⟩ := Hg.submit hs
    refine ⟨rfl, fun o ho => Nat.ne_of_lt (Hg.pending.serial o ho),
      H.broker.mono fun _ _ h => h.add _, ⟨g', ?_, Hg'⟩, fun w hw => (H.workers w hw).add _⟩
    rw [Deployment.setGateway, hg]; rfl

end Deployment

end CallGateway
