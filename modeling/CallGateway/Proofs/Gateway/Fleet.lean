import CallGateway.Proofs.Broker.Sole
import CallGateway.Proofs.Gateway.Faithful

/-!
# Several gateways on one broker

Each gateway of a fleet has a session of its own and a listener that runs. They share a broker with
workers and others, of whom it is only said that they leave the listeners alone: they do not receive
on them, do not drop them and do not join their groups. Calls are made and cancelled, deadlines come
and messages are taken in any order.
-/

namespace CallGateway

/-- A gateway of a fleet. -/
structure Station where
  session : Session
  listener : Subscription
  /-- The number of messages that had been accepted on the reply topic before the listener came. -/
  since : Nat

namespace Session

/-- What can happen to a gateway whose listener runs and which shares its broker. -/
def Event.isOwn : Event → Bool
  | .startListener | .stopListener _ | .elsewhere _ => false
  | _ => true

/-- What an event is to the broker. -/
def action? (s : Session) : Event → Option Broker.Action
  | .publish k =>
    s.gateway.outbox[k]?.map fun r => .publish r.topic r.requestId.display r.payload
  | .listen k => s.gateway.listeners[k]?.map fun l => .receive l.serial
  | _ => none

/-- Replies to the calls of a gateway are to come to its own topic. -/
def address (s : Session) : Event → Event
  | .submit d e => .submit d (s.gateway.addressed e)
  | e => e

end Session

namespace Station

def config (st : Station) : GatewayConfig := st.session.gateway.config

def table (st : Station) : PendingTable := st.session.gateway.pending

/-- The turn of the gateway, which finds the broker as it is now. -/
def turn (st : Station) (b : Broker) (e : Session.Event) : Station :=
  { st with session := st.session.run [.elsewhere b, st.session.address e] }

end Station

structure Fleet where
  stations : List Station := []
  /-- The broker, and what has been done with it. -/
  history : Broker.History

namespace Fleet

inductive Event
  | turn (station : Nat) (e : Session.Event)
  /-- Others use the broker, or topics are marked or restored. -/
  | elsewhere (a : Broker.Action)

def Event.request? : Event → Option Uuid
  | .turn _ e => e.request?
  | .elsewhere _ => none

/-- The requests that are submitted at any of the gateways. -/
def requests (events : List Event) : List Uuid := events.filterMap (·.request?)

/-- A listener would be dropped, robbed, or given a companion. -/
def disturbs (F : Fleet) : Broker.Action → Bool
  | .drop serial | .receive serial => F.stations.any (·.listener.serial == serial)
  | .subscribe topic group => F.stations.any fun st =>
    st.listener.topic == topic && st.listener.group == group
  | _ => false

/-- What an event does. An event that cannot happen does nothing. -/
def step (F : Fleet) : Event → Fleet
  | .turn i e =>
    match F.stations[i]? with
    | none => F
    | some st =>
      if e.isOwn then
        { stations := F.stations.set i (st.turn F.history.broker e)
          history := (st.session.action? e).elim F.history F.history.act }
      else F
  | .elsewhere a => if F.disturbs a then F else { F with history := F.history.act a }

def run (F : Fleet) (events : List Event) : Fleet := events.foldl step F

/-- A new gateway starts its listener. -/
def add (F : Fleet) (config : GatewayConfig) : Except BrokerError Fleet := do
  let (listener, gateway, broker) ← Gateway.startListener { config } F.history.broker
  return {
    stations := F.stations ++ [{
      session := { gateway, broker }
      listener
      since := (F.history.accepted config.replyTopic).length }]
    history := F.history.act (.subscribe config.replyTopic config.replyGroup) }

/-- New gateways with these configurations start their listeners one after the other. -/
def start (H : Broker.History) (configs : List GatewayConfig) : Except BrokerError Fleet :=
  configs.foldlM add { history := H }

end Fleet

/-! ## What a session does in a fleet -/

namespace Note

/-- A listener has received a message. -/
def arrives : Note → Bool
  | .received _ | .discarded _ => true
  | _ => false

end Note

namespace Session

variable {s : Session} {e : Event} {l : Subscription} {m : Message} {b : Broker}

def arrivals (s : Session) : Log := s.log.filter (·.arrives)

/-- The message that is received in a turn. -/
def receives? (s : Session) : Event → Option Message
  | .listen k => s.gateway.listeners[k]?.bind fun l => (s.broker.receive? l).map (·.1)
  | _ => none

/-- What a turn does to a session, apart from the table and the calls. -/
structure Turn (s : Session) (e : Event) (s' : Session) : Prop where
  config : s'.gateway.config = s.gateway.config
  listeners : s'.gateway.listeners = s.gateway.listeners
  outbox : ∀ r ∈ s'.gateway.outbox, r ∈ s.gateway.outbox ∨
    ∃ d c, e = .submit d c ∧ r.requestId = c.requestId ∧ r.payload = c.toBytes
  arrivals : s'.arrivals = s.arrivals ++ ((s.receives? e).map (taking ·.payload)).toList

theorem arrivals_of_log {s' : Session} {notes : Log} (log : s'.log = s.log ++ notes)
    (h : ∀ n ∈ notes, n.arrives = false) : s'.arrivals = s.arrivals ++ [] := by
  have hnone : notes.filter (·.arrives) = [] :=
    List.filter_eq_nil_iff.2 fun n hn => by rw [h n hn]; exact Bool.false_ne_true
  rw [arrivals, log, List.filter_append, hnone, arrivals]

/-- A turn in which nothing is received and that leaves no new request in the outbox. -/
theorem Turn.of_outbox {s' : Session} {notes : Log} (quiet : s.receives? e = none)
    (config : s'.gateway.config = s.gateway.config)
    (listeners : s'.gateway.listeners = s.gateway.listeners)
    (outbox : s'.gateway.outbox ⊆ s.gateway.outbox) (log : s'.log = s.log ++ notes)
    (h : ∀ n ∈ notes, n.arrives = false) : Turn s e s' :=
  ⟨config, listeners, fun _ hr => .inl (outbox hr), by rw [quiet]; exact arrivals_of_log log h⟩

/-- A turn in which nothing is noted. -/
theorem Turn.of_silent {s' : Session} (quiet : s.receives? e = none)
    (gateway : s'.gateway = s.gateway) (log : s'.log = s.log) : Turn s e s' :=
  .of_outbox quiet (congrArg _ gateway) (congrArg _ gateway) (gateway ▸ List.Subset.refl _)
    (log.trans (List.append_nil _).symm) fun _ h => absurd h List.not_mem_nil

theorem Turn.refl (quiet : s.receives? e = none) : Turn s e s := .of_silent quiet rfl rfl

theorem arrives_taking (payload : Bytes) : (taking payload).arrives = true := by
  rw [taking]
  split <;> rfl

theorem Happens.turn {s' : Session} (H : s.Happens e s') (own : e.isOwn = true) : Turn s e s' := by
  cases H with
  | accept =>
    refine ⟨rfl, rfl, fun r hr => ?_, arrivals_of_log rfl (by simp [Note.arrives])⟩
    obtain hr | hr := List.mem_append.1 hr
    · exact .inl hr
    · rw [List.mem_singleton.1 hr]
      exact .inr ⟨_, _, rfl, rfl, rfl⟩
  | publish =>
    exact .of_outbox rfl rfl rfl List.eraseIdx_subset (List.append_nil _).symm (by simp)
  | fail => exact .of_outbox rfl rfl rfl List.eraseIdx_subset rfl (by simp [Note.arrives])
  | @listen k l m b hl hr =>
    have hgot : s.receives? (.listen k) = some m := by
      rw [receives?, hl, Option.bind_some, hr]; rfl
    rw [Gateway.take_eq]
    refine ⟨rfl, rfl, fun _ => .inl, ?_⟩
    rw [hgot, arrivals, List.filter_append, List.filter_cons_of_pos (arrives_taking _)]
    rfl
  | refuse | expire | conclude | leave =>
    exact .of_outbox rfl rfl rfl (List.Subset.refl _) rfl (by simp [Note.arrives])
  | @noMessage k h =>
    refine .refl ?_
    rw [receives?]
    cases hl : s.gateway.listeners[k]? with
    | none => rfl
    | some l => rw [Option.bind_some, h l hl]; rfl
  | tick => exact .of_silent rfl rfl rfl
  | noRequest | notLate | noResult | noCall => exact .refl rfl
  | startListener | stopListener | elsewhere | noListener => cases own

/-- The only listener takes the first message that waits, if there is one. -/
theorem step_listen (hl : s.gateway.listeners = [l]) (h : s.broker.receive? l = some (m, b)) :
    s.step (.listen 0) = { s with
      gateway := s.gateway.take m.payload
      broker := b
      log := s.log ++ [taking m.payload] } := by
  simp only [step, hl, List.getElem?_cons_zero, h, Gateway.listen?, Option.map_some]

/-- What a turn does with the broker is what is recorded. -/
theorem Happens.broker_eq {s' : Session} {H : Broker.History} (S : s.Happens e s') (T : H.Tied)
    (own : e.isOwn = true) (hb : s.broker = H.broker) (hl : s.gateway.listeners = [l])
    (alive : l ∈ H.held) : s'.broker = ((s.action? e).elim H H.act).broker := by
  cases S with
  | publish hr h | fail hr h =>
    rw [action?, hr, Option.map_some, Option.elim_some, Broker.History.broker_act_publish, ← hb, h]
  | listen hk hr =>
    rw [action?, hk, Option.map_some, Option.elim_some]
    rw [hl] at hk
    obtain rfl := List.mem_singleton.1 (List.mem_of_getElem? hk)
    rw [hb] at hr
    rw [Broker.History.act_receive T alive hr]
    rfl
  | @noMessage k h =>
    rw [action?]
    cases hk : s.gateway.listeners[k]? with
    | none => exact hb
    | some l' =>
      have hr := h l' hk
      rw [hl] at hk
      obtain rfl := List.mem_singleton.1 (List.mem_of_getElem? hk)
      rw [hb] at hr
      simp only [Option.map_some, Option.elim_some, Broker.History.act, Broker.History.perform?,
        T.subscription?_of_mem alive, hr]
      exact hb
  | noRequest h =>
    rw [action?, h]
    exact hb
  | refuse | accept | expire | conclude | leave | tick | notLate | noResult | noCall => exact hb
  | startListener | stopListener | elsewhere | noListener => cases own

/-- What is received in a turn is recorded as received by the listener. -/
theorem received_step {H : Broker.History} (T : H.Tied) (hb : s.broker = H.broker)
    (hl : s.gateway.listeners = [l]) (alive : l ∈ H.held) (e : Event) :
    ((s.action? e).elim H H.act).received l = H.received l ++ (s.receives? e).toList := by
  cases e with
  | publish k =>
    rw [action?]
    cases s.gateway.outbox[k]? with
    | none => exact (List.append_nil _).symm
    | some r =>
      have hreceived := H.received_act (s := l)
        (a := .publish r.topic r.requestId.display r.payload) nofun
      exact hreceived.trans (List.append_nil _).symm
  | listen k =>
    rw [action?, receives?, hl, hb]
    cases k with
    | zero => exact H.received_act_receive T alive
    | succ k => exact (List.append_nil _).symm
  | _ => exact (List.append_nil _).symm

theorem isOwn_address (s : Session) (e : Event) : (s.address e).isOwn = e.isOwn := by
  cases e <;> rfl

theorem action?_address (s : Session) (e : Event) : s.action? (s.address e) = s.action? e := by
  cases e <;> rfl

theorem request?_address (s : Session) (e : Event) : (s.address e).request? = e.request? := by
  cases e <;> rfl

end Session

end CallGateway
