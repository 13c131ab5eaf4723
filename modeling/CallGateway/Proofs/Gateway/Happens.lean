import CallGateway.Proofs.Gateway.Stages

/-!
# What an event does to a session

Everything that a single event can do, with what must be the case for it.
-/

namespace CallGateway

namespace Gateway

variable {g g' : Gateway} {d : Directory} {clock : Nat} {e : Envelope} {k : Handle}

theorem submit_eq (g : Gateway) (d : Directory) (clock : Nat) (e : Envelope) :
    g.submit d clock e =
      if Text.isBlank e.procedureName then .error .blankProcedureName
      else match resolveTopic d g.config.topicSuffix e.clientType with
        | .error err => .error err
        | .ok topic => match g.pending.create e.requestId with
          | .error err => .error err
          | .ok (h, pending) => .ok (h, { g with
              pending
              outbox := g.outbox ++ [⟨e.requestId, topic, e.toBytes⟩]
              calls := g.calls ++ [⟨h, clock + g.config.requestTimeout.toNat⟩] }) := by
  rw [submit]
  cases resolveTopic d g.config.topicSuffix e.clientType with
  | error err => rfl
  | ok topic => cases g.pending.create e.requestId <;> rfl

/-- The gateway after a call has been entered whose request goes to a topic. -/
def entered (g : Gateway) (clock : Nat) (e : Envelope) (topic : String) : Gateway :=
  { g with
    pending := g.pending.entered e.requestId
    outbox := g.outbox ++ [⟨e.requestId, topic, e.toBytes⟩]
    calls := g.calls ++ [⟨⟨g.pending.nextSerial, e.requestId⟩,
      clock + g.config.requestTimeout.toNat⟩] }

theorem of_submit_eq_ok (H : g.submit d clock e = .ok (k, g')) :
    ∃ topic, resolveTopic d g.config.topicSuffix e.clientType = .ok topic ∧
      g.pending.entries.get? e.requestId = none ∧ k = ⟨g.pending.nextSerial, e.requestId⟩ ∧
      g' = g.entered clock e topic := by
  rw [submit_eq] at H
  split at H
  · cases H
  · split at H
    · cases H
    · next topic ht =>
      rw [PendingTable.create_eq] at H
      cases hid : g.pending.entries.get? e.requestId with
      | some n => rw [hid] at H; cases H
      | none => rw [hid] at H; cases H; exact ⟨topic, ht, rfl, rfl, rfl⟩

/-- Of a gateway that takes something only the table changes. -/
theorem take_eq (g : Gateway) (payload : Bytes) :
    g.take payload = { g with pending := (g.take payload).pending } := by
  rw [take]
  split <;> rfl

theorem pending_take {g : Gateway} {payload : Bytes} {r : Reply}
    (hr : Reply.ofBytes payload = .ok r) : (g.take payload).pending = (g.pending.complete r).2 := by
  rw [take, hr]

end Gateway

namespace Session

/-- An event has happened, or has found nothing to do. -/
inductive Happens (s : Session) : Event → Session → Prop
  | refuse {d : Directory} {e : Envelope} {err : GatewayError}
    (h : s.gateway.submit d s.clock e = .error err) :
    Happens s (.submit d e) { s with log := s.log ++ [.refused e.requestId err] }
  | accept {d : Directory} {e : Envelope} {topic : String}
    (h : s.gateway.submit d s.clock e =
      .ok (⟨s.table.nextSerial, e.requestId⟩, s.gateway.entered s.clock e topic))
    (new : s.table.entries.get? e.requestId = none) :
    Happens s (.submit d e) { s with
      gateway := s.gateway.entered s.clock e topic
      log := s.log ++ [.accepted ⟨s.table.nextSerial, e.requestId⟩] }
  | publish {k : Nat} {r : OutgoingRequest} {receipt : Receipt} {b : Broker}
    (hr : s.gateway.outbox[k]? = some r)
    (h : s.broker.publish r.topic r.requestId.display r.payload = .ok (receipt, b)) :
    Happens s (.publish k) { s with
      gateway := { s.gateway with outbox := s.gateway.outbox.eraseIdx k }
      broker := b }
  | fail {k : Nat} {r : OutgoingRequest} {err : BrokerError}
    (hr : s.gateway.outbox[k]? = some r)
    (h : s.broker.publish r.topic r.requestId.display r.payload = .error err) :
    Happens s (.publish k) { s with
      gateway := { s.gateway with
        outbox := s.gateway.outbox.eraseIdx k
        pending := (s.table.fail r.requestId
          (.brokerPublish r.requestId r.topic err.message)).2 }
      log := s.log ++ [.unsent r.requestId r.topic err.message] }
  | listen {k : Nat} {l : Subscription} {m : Message} {b : Broker}
    (hl : s.gateway.listeners[k]? = some l) (h : s.broker.receive? l = some (m, b)) :
    Happens s (.listen k) { s with
      gateway := s.gateway.take m.payload
      broker := b
      log := s.log ++ [taking m.payload] }
  | expire {k : Nat} {c : OpenCall} (hc : s.gateway.calls[k]? = some c)
    (late : c.deadline ≤ s.clock) :
    Happens s (.expire k) { s with
      gateway := s.gateway.lapse c
      log := s.log ++ [.expired c.handle s.gateway.config.requestTimeout] }
  | conclude {k : Nat} {c : OpenCall} {o : CallResult} (hc : s.gateway.calls[k]? = some c)
    (ho : s.table.result? c.handle = some o) :
    Happens s (.conclude k) { s with
      gateway := { s.gateway with
        pending := s.table.drop c.handle
        calls := s.gateway.calls.filter (·.handle != c.handle)
        ended := s.gateway.ended ++ [(c.handle.serial, o)] }
      log := s.log ++ [.concluded c.handle o] }
  | leave {serial : Nat} {c : OpenCall}
    (hc : s.gateway.calls.find? (·.handle.serial == serial) = some c) :
    Happens s (.leave serial) { s with
      gateway := { s.gateway with
        pending := s.table.drop c.handle
        calls := s.gateway.calls.filter (·.handle != c.handle) }
      log := s.log ++ [.left c.handle] }
  | startListener {l : Subscription} {b : Broker}
    (h : s.broker.subscribe s.gateway.config.replyTopic s.gateway.config.replyGroup =
      .ok (l, b)) :
    Happens s .startListener { s with
      gateway := { s.gateway with listeners := s.gateway.listeners ++ [l] }
      broker := b }
  | stopListener (l : Subscription) :
    Happens s (.stopListener l) { s with
      gateway := { s.gateway with listeners := s.gateway.listeners.filter (· != l) }
      broker := s.broker.unsubscribe l }
  | tick (ms : Nat) : Happens s (.tick ms) { s with clock := s.clock + ms }
  | elsewhere (b : Broker) : Happens s (.elsewhere b) { s with broker := b }
  | noRequest {k : Nat} (h : s.gateway.outbox[k]? = none) : Happens s (.publish k) s
  | noMessage {k : Nat}
    (h : ∀ l, s.gateway.listeners[k]? = some l → s.broker.receive? l = none) :
    Happens s (.listen k) s
  | notLate {k : Nat} (h : ∀ c, s.gateway.calls[k]? = some c → s.clock < c.deadline) :
    Happens s (.expire k) s
  | noResult {k : Nat}
    (h : ∀ c, s.gateway.calls[k]? = some c → s.table.result? c.handle = none) :
    Happens s (.conclude k) s
  | noCall {serial : Nat} (h : s.gateway.calls.find? (·.handle.serial == serial) = none) :
    Happens s (.leave serial) s
  | noListener {err : BrokerError}
    (h : s.broker.subscribe s.gateway.config.replyTopic s.gateway.config.replyGroup =
      .error err) : Happens s .startListener s

theorem happens (s : Session) (ev : Event) : s.Happens ev (s.step ev) := by
  cases ev with
  | submit d e =>
    rw [step]
    cases h : s.gateway.submit d s.clock e with
    | error err => exact .refuse h
    | ok p =>
      obtain ⟨topic, -, new, hk, hg⟩ := Gateway.of_submit_eq_ok h
      obtain ⟨k, g⟩ := p
      subst hk hg
      exact .accept h new
  | publish k =>
    rw [step]
    cases hr : s.gateway.outbox[k]? with
    | none => exact .noRequest hr
    | some r =>
      dsimp only
      rw [Gateway.publish?, hr, Option.map_some, publishing]
      cases h : s.broker.publish r.topic r.requestId.display r.payload with
      | ok p =>
        dsimp only
        rw [List.append_nil]
        exact .publish hr h
      | error err => exact .fail hr h
  | listen k =>
    rw [step]
    cases hl : s.gateway.listeners[k]? with
    | none => exact .noMessage fun l h => by rw [hl] at h; cases h
    | some l =>
      dsimp only
      rw [Gateway.listen?]
      cases h : s.broker.receive? l with
      | none => exact .noMessage fun l' h' => by rw [hl] at h'; cases h'; exact h
      | some p => exact .listen hl h
  | expire k =>
    rw [step]
    cases hc : s.gateway.calls[k]? with
    | none => exact .notLate fun c h => by rw [hc] at h; cases h
    | some c =>
      dsimp only
      split
      · next late => exact .expire hc late
      · next early =>
        exact .notLate fun c' h => by rw [hc] at h; cases h; exact Nat.lt_of_not_le early
  | conclude k =>
    rw [step]
    cases hc : s.gateway.calls[k]? with
    | none => exact .noResult fun c h => by rw [hc] at h; cases h
    | some c =>
      dsimp only
      rw [Gateway.conclude?]
      cases ho : s.gateway.pending.result? c.handle with
      | none => exact .noResult fun c' h => by rw [hc] at h; cases h; exact ho
      | some o => exact .conclude hc ho
  | leave serial =>
    rw [step]
    cases hc : s.gateway.calls.find? (·.handle.serial == serial) with
    | none => exact .noCall hc
    | some c =>
      dsimp only
      rw [Gateway.cancel, hc]
      exact .leave hc
  | startListener =>
    rw [step, Gateway.startListener]
    cases h : s.broker.subscribe s.gateway.config.replyTopic s.gateway.config.replyGroup with
    | error err => exact .noListener h
    | ok p => exact .startListener h
  | stopListener l => exact .stopListener l
  | tick ms => exact .tick ms
  | elsewhere b => exact .elsewhere b

end Session

end CallGateway
