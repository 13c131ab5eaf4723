import CallGateway.Proofs.Gateway.Sharing
import CallGateway.Proofs.Message.Addressed

/-!
# Replies to gateways that share a broker

Instance ids that are spelled differently can lead to one reply topic, and then every gateway with
such an id receives the replies to all of them. Still every reply comes to the listener of the gateway
whose call it answers, once, and completes this call and no other.
-/

namespace CallGateway

namespace PendingTable

variable {t : PendingTable} {h : Handle} {r : Reply}

theorem complete_of_pends (hp : t.Pends h) (hr : r.requestId = h.requestId) :
    (t.complete r).2 =
      { t.settled h.requestId h.serial (.ok r) with completed := t.completed + 1 } := by
  rw [complete_eq, hr, hp]

/-- Only the handle that waits for the reply notices it. -/
theorem state?_complete (hp : t.Pends h) (hr : r.requestId = h.requestId) (k : Handle) :
    (t.complete r).2.state? k =
      if k.serial = h.serial then (t.state? k).map fun _ => .settled (.ok r) else t.state? k := by
  rw [complete_of_pends hp hr]
  exact Keyed.get?_modify ..

theorem complete_of_absent (hr : t.entries.get? r.requestId = none) :
    (t.complete r).2 = { t with droppedReplies := t.droppedReplies + 1 } := by
  rw [complete_eq, hr]

end PendingTable

/-- The message is read as this reply to a call. -/
structure Message.Answers (m : Message) (h : Handle) (r : Reply) : Prop where
  read : Reply.ofBytes m.payload = .ok r
  request : r.requestId = h.requestId

/-- A reply can be read if its result is nested 126 deep at most. -/
theorem Message.exists_answers {m : Message} {h : Handle} {r : Reply}
    (payload : m.payload = r.toBytes) (request : r.requestId = h.requestId)
    (fits : ∀ v, r.result? = some v → v.nesting ≤ 126) : ∃ r', m.Answers h r' := by
  obtain ⟨r', hread, hid⟩ := Reply.exists_ofBytes fun v hv => by
    rw [Nat.add_comm]
    exact Nat.succ_le_succ (fits v hv)
  exact ⟨r', payload ▸ hread, hid.trans request⟩

/-- The call has got its reply, and no other call has noticed. -/
structure Station.Completes (st : Station) (h : Handle) (r : Reply) (st' : Station) : Prop where
  entries : st'.table.entries = st.table.entries.erase h.requestId
  state : st'.table.state? h = some (.settled (.ok r))
  fate : st'.session.fate? h = some (.replied r)
  counted : st'.table.completed = st.table.completed + 1
  others : ∀ k : Handle, k.serial ≠ h.serial → st'.table.state? k = st.table.state? k

namespace Fleet

open Session (taking)

variable {F F' : Fleet} {st st' st'' : Station} {i j : Nat} {m : Message} {h : Handle} {r : Reply}

/-! ## What listeners receive -/

/-- The gateway receives the first of the messages that wait for it. -/
structure Hears (F : Fleet) (i : Nat) (st : Station) (m : Message) (F' : Fleet) (st' : Station) :
    Prop where
  inv : F'.Inv
  station : F'.stations[i]? = some st'
  listener : st'.listener = st.listener
  since : st'.since = st.since
  gateway : st'.session.gateway = st.session.gateway.take m.payload
  log : st'.session.log = st.session.log ++ [taking m.payload]
  received : F'.history.received st.listener = F.history.received st.listener ++ [m]
  accepted : ∀ topic, F'.history.accepted topic = F.history.accepted topic

theorem Inv.hears (I : Inv F) (hi : F.stations[i]? = some st)
    (hm : (F.history.broker.queue st.listener).head? = some m) :
    ∃ st', F.Hears i st m (F.step (.turn i (.listen 0))) st' := by
  have R := I.running hi
  rw [← Broker.fst_receive?] at hm
  obtain ⟨⟨m, b⟩, hr, rfl⟩ := Option.map_eq_some_iff.1 hm
  have haction : st.session.action? (.listen 0) = some (.receive st.listener.serial) := by
    rw [Session.action?, R.listens]
    rfl
  have hstep := step_turn hi (e := .listen 0) rfl
  rw [haction, Option.elim_some] at hstep
  have hsubmitted := nodup_of_subperm (F.submitted_step_subperm (.turn i (.listen 0)))
    ((List.append_nil _).symm ▸ I.distinct)
  have hsession : (st.turn F.history.broker (.listen 0)).session = _ :=
    Session.step_listen (s := st.session.step (.elsewhere F.history.broker)) R.listens hr
  have I' := I.step _ hsubmitted
  rw [hstep] at I' ⊢
  refine ⟨st.turn F.history.broker (.listen 0), I', ?_, rfl, rfl, ?_, ?_, ?_, fun topic => ?_⟩
  · exact List.getElem?_set_self (List.getElem?_eq_some_iff.1 hi).1
  · rw [hsession]
    rfl
  · rw [hsession]
    rfl
  · dsimp only
    rw [Broker.History.received_act_receive I.ledger.tied R.sole.alive, hr]
    rfl
  · dsimp only
    rw [Broker.History.act_receive I.ledger.tied R.sole.alive hr]
    exact Broker.History.accepted_push_of_none rfl topic

theorem Hears.config (E : F.Hears i st m F' st') : st'.config = st.config := by
  rw [Station.config, E.gateway, Gateway.take_eq]
  rfl

/-- The listener is given what is accepted on the reply topic, whoever else is given it. -/
theorem Inv.delivered (I : Inv F) (hi : F.stations[i]? = some st) :
    F.history.received st.listener ++ F.history.broker.queue st.listener =
      (F.history.accepted st.config.replyTopic).drop st.since := by
  have R := I.running hi
  rw [← I.ledger.waiting _ R.sole.alive, R.sole.handed, R.topic]

theorem Inv.drained (I : Inv F) (hi : F.stations[i]? = some st) {waiting : List Message}
    (hw : F.history.broker.queue st.listener = waiting) :
    (F.run (List.replicate waiting.length (.turn i (.listen 0)))).history.received st.listener =
      (F.history.accepted st.config.replyTopic).drop st.since := by
  induction waiting generalizing F st with
  | nil =>
    have hdelivered := I.delivered hi
    rw [hw, List.append_nil] at hdelivered
    exact hdelivered
  | cons m waiting ih =>
    obtain ⟨st', E⟩ := I.hears hi (by rw [hw]; rfl)
    have hwaiting : (F.step (.turn i (.listen 0))).history.broker.queue st'.listener = waiting := by
      have hdelivered := E.inv.delivered E.station
      rw [E.listener, E.received, E.accepted, E.config, E.since, ← I.delivered hi, hw,
        List.append_assoc] at hdelivered
      rw [E.listener]
      exact (List.cons.inj (List.append_cancel_left hdelivered)).2
    have hdrained := ih E.inv E.station hwaiting
    rw [E.listener, E.accepted, E.config, E.since] at hdrained
    exact hdrained

/-! ## What becomes of replies -/

theorem Hears.completes (E : F.Hears i st m F' st') (I : Inv F) (hi : F.stations[i]? = some st)
    (hp : st.table.Pends h) (hm : m.Answers h r) : st.Completes h r st' := by
  have S := (I.running hi).sound.inv
  have hh : h ∈ st.session.accepted := S.entry hp
  have hstage := S.stage h hh
  have hfate := hstage.fate_eq_none_iff.2 hp
  have hstate : st.table.state? h = some .waiting := by
    cases hstage with
    | waiting _ _ hstate => exact hstate
    | settled _ _ hf | concluded _ _ hf | left _ hf => rw [hfate] at hf; cases hf
  have htable : st'.table = (st.table.complete r).2 :=
    (congrArg Gateway.pending E.gateway).trans (Gateway.pending_take hm.read)
  have hcomplete := PendingTable.complete_of_pends hp hm.request
  refine ⟨by rw [htable, hcomplete]; rfl, ?_, ?_, by rw [htable, hcomplete], fun k hk => ?_⟩
  · rw [htable, PendingTable.state?_complete hp hm.request, if_pos rfl, hstate]
    rfl
  · have hlog := E.log
    rw [taking, hm.read] at hlog
    rw [Session.fate?_of_log hh hlog, hfate, Note.fate?, if_pos hm.request]
    rfl
  · rw [htable, PendingTable.state?_complete hp hm.request, if_neg hk]

/-- A reply to the call of another gateway is counted and leaves everything else as it is. -/
theorem Hears.foreign (E : F.Hears j st' m F' st'') (I : Inv F) (hi : F.stations[i]? = some st)
    (hj : F.stations[j]? = some st') (hne : i ≠ j) (hh : h ∈ st.session.accepted)
    (hm : m.Answers h r) :
    st''.table = { st'.table with droppedReplies := st'.table.droppedReplies + 1 } := by
  have absent : st'.table.entries.get? r.requestId = none := by
    rw [hm.request, Option.eq_none_iff_forall_ne_some]
    intro n hn
    have S := (I.running hj).sound.inv
    exact I.not_submitted hi hj hne ((I.running hi).sound.inv.submitted h hh)
      (S.submitted ⟨n, h.requestId⟩ (S.entry hn))
  have htable : st''.table = (st'.table.complete r).2 :=
    (congrArg Gateway.pending E.gateway).trans (Gateway.pending_take hm.read)
  rw [htable, PendingTable.complete_of_absent absent]

/-- A call does not pend any more when a reply to it has been received. -/
theorem gone_of_received {s : Session} (S : s.Inv) {l₁ l₂ : Log}
    (hlog : s.log = l₁ ++ .accepted h :: l₂) (hr : .received r ∈ l₂)
    (hid : r.requestId = h.requestId) : s.table.entries.get? h.requestId = none := by
  have haccepted : s.accepted = l₁.accepted ++ h :: Log.accepted l₂ := by
    rw [Session.accepted, hlog]
    exact List.filterMap_append
  have hnodup := List.nodup_middle.1 (haccepted ▸ S.nodup)
  have hnew : h ∉ l₁.accepted := fun hh =>
    (List.nodup_cons.1 hnodup).1 (List.mem_append_left _ hh)
  have hfate : s.fate? h = l₂.findSome? (·.fate? h) := by
    rw [Session.fate?, hlog, Log.fate?_of_accepted hnew]
  cases hf : s.fate? h with
  | some f =>
    refine (S.stage h ?_).gone hf
    rw [haccepted]
    exact List.mem_append_right _ (.head _)
  | none =>
    have hnone := List.findSome?_eq_none_iff.1 (hfate.symm.trans hf) _ hr
    rw [Note.fate?, if_pos hid] at hnone
    cases hnone

/-- Gateways do not change in the turns of others. -/
theorem getElem?_step (F : Fleet) {e : Event} (he : ∀ e', e ≠ .turn i e') :
    (F.step e).stations[i]? = F.stations[i]? := by
  obtain h | ⟨j, e', st, rfl, hj, own⟩ | ⟨a, rfl, -, h⟩ := F.step_cases e
  · rw [h]
  · have hne : j ≠ i := by
      rintro rfl
      exact he e' rfl
    rw [step_turn hj own]
    exact List.getElem?_set_ne hne
  · rw [h]

/-! ## The contract -/

/-- What gateways on one broker can rely on. -/
structure Contract (F : Fleet) : Prop where
  /-- The broker after the turn of a gateway is the one that the gateway leaves. -/
  recorded : ∀ i st, F.stations[i]? = some st → ∀ e : Session.Event, e.isOwn = true →
    (F.step (.turn i e)).history.broker = (st.turn F.history.broker e).session.broker
  /-- The requests of a gateway ask for replies on its reply topic. -/
  addressed : ∀ st ∈ F.stations, ∀ r ∈ st.session.gateway.outbox, ∃ c : Envelope,
    r.requestId = c.requestId ∧ r.payload = c.toBytes ∧ c.replyTo = st.config.replyTopic
  /-- What is accepted on the reply topic after the listener has come is received by it or waits for
  it, in order and each message once. -/
  delivered : ∀ st ∈ F.stations,
    F.history.received st.listener ++ F.history.broker.queue st.listener =
        (F.history.accepted st.config.replyTopic).drop st.since ∧
      (F.history.received st.listener ++ F.history.broker.queue st.listener).Nodup
  /-- If the gateway goes on listening it has received everything. -/
  drained : ∀ i st, F.stations[i]? = some st →
    let listens := List.replicate (F.history.broker.queue st.listener).length (.turn i (.listen 0))
    (F.run listens).history.received st.listener =
      (F.history.accepted st.config.replyTopic).drop st.since
  /-- What is received is noted, as the reply that it is read as or as something else. -/
  noted : ∀ st ∈ F.stations,
    st.session.arrivals = (F.history.received st.listener).map (taking ·.payload)
  /-- No call pends to which a reply has been received. -/
  resolved : ∀ st ∈ F.stations, ∀ h r l₁ l₂, st.session.log = l₁ ++ .accepted h :: l₂ →
    .received r ∈ l₂ → r.requestId = h.requestId → st.table.entries.get? h.requestId = none
  /-- A reply that is read completes the call if it pends. -/
  completes : ∀ i st, F.stations[i]? = some st → ∀ h m r, st.table.Pends h →
    (F.history.broker.queue st.listener).head? = some m → m.Answers h r →
      ∃ st', (F.step (.turn i (.listen 0))).stations[i]? = some st' ∧ st.Completes h r st'
  /-- A reply can be read if its result is nested 126 deep at most. -/
  legible : ∀ (m : Message) (h : Handle) (r : Reply), m.payload = r.toBytes →
    r.requestId = h.requestId → (∀ v, r.result? = some v → v.nesting ≤ 126) → ∃ r', m.Answers h r'
  /-- A reply to a call of one gateway that another one receives too does nothing there but count. -/
  foreign : ∀ i j st st', F.stations[i]? = some st → F.stations[j]? = some st' → i ≠ j →
    ∀ h ∈ st.session.accepted, ∀ m r, (F.history.broker.queue st'.listener).head? = some m →
      m.Answers h r → ∃ st'', (F.step (.turn j (.listen 0))).stations[j]? = some st'' ∧
        st''.table = { st'.table with droppedReplies := st'.table.droppedReplies + 1 }
  /-- Gateways do not change in the turns of others. -/
  others : ∀ i e, (∀ e', e ≠ .turn i e') → (F.step e).stations[i]? = F.stations[i]?
  faithful : ∀ st ∈ F.stations, st.session.Faithful

theorem Inv.contract (I : Inv F) : F.Contract where
  recorded i st hi e own := by
    rw [step_turn hi own]
    exact (I.running hi).broker_turn I.ledger own
  addressed st hst := by
    obtain ⟨i, hi⟩ := List.getElem?_of_mem hst
    exact (I.running hi).addressed
  delivered st hst := by
    obtain ⟨i, hi⟩ := List.getElem?_of_mem hst
    refine ⟨I.delivered hi, ?_⟩
    rw [← I.ledger.waiting _ (I.running hi).sole.alive]
    exact I.ledger.nodup_handed st.listener
  drained i st hi := I.drained hi rfl
  noted st hst := by
    obtain ⟨i, hi⟩ := List.getElem?_of_mem hst
    exact (I.running hi).arrivals
  resolved st hst h r l₁ l₂ hlog hr hid := by
    obtain ⟨i, hi⟩ := List.getElem?_of_mem hst
    exact gone_of_received (I.running hi).sound.inv hlog hr hid
  completes i st hi h m r hp hm hr := by
    obtain ⟨st', E⟩ := I.hears hi hm
    exact ⟨st', E.station, E.completes I hi hp hr⟩
  legible m h r := Message.exists_answers
  foreign i j st st' hi hj hne h hh m r hm hr := by
    obtain ⟨st'', E⟩ := I.hears hj hm
    exact ⟨st'', E.station, E.foreign I hi hj hne hh hr⟩
  others i e := F.getElem?_step
  faithful st hst := by
    obtain ⟨i, hi⟩ := List.getElem?_of_mem hst
    exact (I.running hi).sound.faithful ((List.nodup_flatMap.1 I.distinct).1 st hst)

/-- Gateways with names of their own all start, and whatever happens then and in whatever order, the
contract holds, also for those that share a reply topic. -/
theorem run_delivers (keepHistory : Bool) (before : List Broker.Action)
    (configs : List GatewayConfig) (events : List Event)
    (ids : (configs.map (·.instanceId)).Nodup) (named : ∀ c ∈ configs, c.instanceId ≠ "")
    (free : ∀ c ∈ configs, ∀ s ∈ (Broker.History.run keepHistory before).held,
      s.isIn c.replyTopic c.replyGroup = false)
    (distinct : (requests events).Nodup) :
    ∃ F, start (Broker.History.run keepHistory before) configs = .ok F ∧
      (F.run events).stations.map (fun st => (st.config, st.since)) =
        configs.map (fun c =>
          (c, ((Broker.History.run keepHistory before).accepted c.replyTopic).length)) ∧
      (F.run events).Contract := by
  obtain ⟨F, hstart, I, hsubmitted, hroster⟩ :=
    exists_start (Broker.History.Ledger.run keepHistory before) ids named free
  have I' := I.run events (by rw [hsubmitted]; exact distinct)
  exact ⟨F, hstart, (F.roster_run events).trans hroster, I'.contract⟩

/-! ## Two spellings of one name -/

def pool : Directory := { services := .set .empty "a" [⟨0⟩] }

def callOf (id : Uuid) : Envelope := ⟨id, "A", "echo", .null, "", {}, .epoch⟩

def twins : List GatewayConfig := [⟨"gw 1", 30000, "-procedures"⟩, ⟨"GW-1", 30000, "-procedures"⟩]

/-- Each of the twins makes a call, and both receive the reply to the first one. -/
def twinEvents : List Event := [
  .turn 0 (.submit pool (callOf ⟨1⟩)), .turn 1 (.submit pool (callOf ⟨2⟩)),
  .turn 0 (.publish 0), .turn 1 (.publish 0),
  .elsewhere (.publish "gw-1-replies" "k" (Reply.toBytes ⟨⟨1⟩, .success (.bool true)⟩)),
  .turn 1 (.listen 0), .turn 0 (.listen 0)]

theorem delivers_twins : twins.map (·.replyTopic) = ["gw-1-replies", "gw-1-replies"] ∧
    (twins.map (·.instanceId)).Nodup ∧ (∀ c ∈ twins, c.instanceId ≠ "") ∧
    (requests twinEvents).Nodup ∧
    ∃ F, start (Broker.History.run true []) twins = .ok F ∧
      (F.run twinEvents).stations.map (·.table.stats) =
        [⟨0, 1, 0, 0, 0, 0⟩, ⟨1, 0, 0, 0, 0, 1⟩] ∧
      (F.run twinEvents).Contract := by
  have ids : (twins.map (·.instanceId)).Nodup := by decide
  have named : ∀ c ∈ twins, c.instanceId ≠ "" := by decide
  have distinct : (requests twinEvents).Nodup := by decide
  obtain ⟨F, hstart, -, hcontract⟩ := run_delivers true [] twins twinEvents ids named
    (fun _ _ _ hs => absurd hs List.not_mem_nil) distinct
  have hstats : ((start (Broker.History.run true []) twins).toOption.map fun F =>
      (F.run twinEvents).stations.map (·.table.stats)) =
        some [⟨0, 1, 0, 0, 0, 0⟩, ⟨1, 0, 0, 0, 0, 1⟩] := by decide +kernel
  rw [hstart] at hstats
  exact ⟨by decide +kernel, ids, named, distinct, F, hstart, Option.some.inj hstats, hcontract⟩

/-! ## Replies that cannot be read -/

/-- `null` in this many arrays. -/
def nested : Nat → Json.Value
  | 0 => .null
  | n + 1 => .array [nested n]

/-- The reply of a procedure that returns its parameters in an object, if they are as deep as a
request can carry them. -/
def deepReply : Reply := ⟨⟨1⟩, .success (.object [("params", nested 126)])⟩

def deepEvents : List Event := [
  .turn 0 (.submit pool (callOf ⟨1⟩)), .turn 0 (.publish 0),
  .elsewhere (.publish "gw-replies" "k" deepReply.toBytes), .turn 0 (.listen 0)]

def deepConfig : GatewayConfig := ⟨"gw", 30000, "-procedures"⟩

/-- The reply is accepted on the reply topic and the listener receives it, but the call still
pends. -/
theorem deepReply_leaves_pending : deepConfig.replyTopic = "gw-replies" ∧
    (∀ c ∈ [deepConfig], c.instanceId ≠ "") ∧ (requests deepEvents).Nodup ∧
    deepReply.requestId = ⟨1⟩ ∧
    ∃ F, start (Broker.History.run true []) [deepConfig] = .ok F ∧
      (F.run deepEvents).stations.map (·.session.accepted) = [[⟨0, ⟨1⟩⟩]] ∧
      ((F.run deepEvents).history.accepted "gw-replies").map (·.payload) = [deepReply.toBytes] ∧
      (F.run deepEvents).stations.map (fun st =>
          (((F.run deepEvents).history.received st.listener).map (·.payload),
            decide (st.table.Pends ⟨0, ⟨1⟩⟩))) =
        [([deepReply.toBytes], true)] := by
  have ids : ([deepConfig].map (·.instanceId)).Nodup := by decide
  have named : ∀ c ∈ [deepConfig], c.instanceId ≠ "" := by decide
  obtain ⟨F, hstart, -⟩ := exists_start (Broker.History.Ledger.run true []) ids named
    (fun _ _ _ hs => absurd hs List.not_mem_nil)
  have hcalls : ((start (Broker.History.run true []) [deepConfig]).toOption.map fun F =>
      (F.run deepEvents).stations.map (·.session.accepted)) = some [[⟨0, ⟨1⟩⟩]] := by
    decide +kernel
  have haccepted : ((start (Broker.History.run true []) [deepConfig]).toOption.map fun F =>
      ((F.run deepEvents).history.accepted "gw-replies").map (·.payload)) =
        some [deepReply.toBytes] := by
    decide +kernel
  have hstations : ((start (Broker.History.run true []) [deepConfig]).toOption.map fun F =>
      (F.run deepEvents).stations.map fun st =>
        (((F.run deepEvents).history.received st.listener).map (·.payload),
          decide (st.table.Pends ⟨0, ⟨1⟩⟩))) =
      some [([deepReply.toBytes], true)] := by
    decide +kernel
  rw [hstart] at hcalls haccepted hstations
  exact ⟨by decide +kernel, named, by decide, rfl, F, hstart, Option.some.inj hcalls,
    Option.some.inj haccepted, Option.some.inj hstations⟩

end Fleet

end CallGateway
