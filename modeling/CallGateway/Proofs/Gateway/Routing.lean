import Mathlib.Data.List.Perm.Basic
import CallGateway.Proofs.Broker.Queues
import CallGateway.Proofs.Gateway.Refusals
import CallGateway.Proofs.Worker.Answers

/-!
# How calls are routed

A call that is refused leaves nothing behind but the refusal. A call that is entered has one entry in
the table and one request in the outbox, and from there every request is handed to the broker once:
along a run, what has been handed over and what is still in the outbox are together what was in the
outbox and what has been entered since. No call ends with an error of encoding.
-/

namespace CallGateway

def GatewayError.isEncoding : GatewayError → Bool
  | .encoding _ => true
  | _ => false

def CallResult.isEncoding : CallResult → Bool
  | .ok _ => false
  | .error e => e.isEncoding

/-- Somebody is told of an error of encoding. -/
def Note.isEncoding : Note → Bool
  | .refused _ e => e.isEncoding
  | .concluded _ o => CallResult.isEncoding o
  | _ => false

namespace PendingTable

variable {t : PendingTable} {h : Handle} {o : CallResult}

/-- The handle waits, and whatever settles its request now gives it the result. -/
structure Resolves (t : PendingTable) (h : Handle) : Prop where
  reply : ∀ r, r.requestId = h.requestId →
    (t.complete r).1 = true ∧ (t.complete r).2.state? h = some (.settled (.ok r))
  overdue : ∀ ms, (t.expire h.requestId ms).1 = true ∧
    (t.expire h.requestId ms).2.state? h = some (.settled (.error (.timeout h.requestId ms)))
  failure : ∀ err, (t.fail h.requestId err).1 = true ∧
    (t.fail h.requestId err).2.state? h = some (.settled (.error err))

theorem state?_settled (hs : t.state? h = some .waiting) (o : CallResult) :
    (t.settled h.requestId h.serial o).state? h = some (.settled o) := by
  rw [state?, settled, Keyed.get?_modify, if_pos rfl]
  exact congrArg _ hs

theorem Resolves.of_pends (hp : t.Pends h) (hs : t.state? h = some .waiting) : t.Resolves h where
  reply r hr := by
    rw [complete_eq, hr, hp]
    exact ⟨rfl, state?_settled hs _⟩
  overdue ms := by
    rw [expire_eq, hp]
    exact ⟨rfl, state?_settled hs _⟩
  failure err := by
    rw [fail_eq, hp]
    exact ⟨rfl, state?_settled hs _⟩

/-! ## Errors of encoding -/

/-- No handle is settled with an error of encoding. -/
def EncodingFree (t : PendingTable) : Prop :=
  ∀ n o, t.handles.get? n = some (.settled o) → CallResult.isEncoding o = false

theorem EncodingFree.settled (E : t.EncodingFree) (id : Uuid) (n : Nat)
    (ho : CallResult.isEncoding o = false) : (t.settled id n o).EncodingFree := by
  intro m o' hm
  rw [PendingTable.settled, Keyed.get?_modify] at hm
  split at hm
  · cases ht : t.handles.get? m with
    | none => rw [ht] at hm; cases hm
    | some st => rw [ht] at hm; cases hm; exact ho
  · exact E m o' hm

theorem EncodingFree.decides {t' : PendingTable} {id : Uuid} {f : Fate} (E : t.EncodingFree)
    (D : t.Decides t' id f o) (ho : CallResult.isEncoding o = false) : t'.EncodingFree := by
  intro m o' hm
  rw [D.handles] at hm
  split at hm
  · exact E.settled id _ ho m o' hm
  · exact E m o' hm

theorem EncodingFree.drop (E : t.EncodingFree) (h : Handle) : (t.drop h).EncodingFree := by
  intro m o hm
  rw [drop_eq] at hm
  split at hm
  · exact E.settled h.requestId _ rfl m o (Keyed.get?_of_get?_erase hm)
  · exact E m o (Keyed.get?_of_get?_erase hm)

theorem EncodingFree.entered (E : t.EncodingFree) (id : Uuid) : (t.entered id).EncodingFree := by
  intro n o hn
  rw [PendingTable.entered, Keyed.get?_set] at hn
  split at hn
  · cases hn
  · exact E n o hn

theorem EncodingFree.take {g : Gateway} (E : g.pending.EncodingFree) (payload : Bytes) :
    (g.take payload).pending.EncodingFree := by
  rw [Gateway.take]
  split
  · exact E.decides (.complete _ _) rfl
  · exact E

end PendingTable

namespace Session

open scoped List

variable {s s' : Session} {d : Directory} {e : Envelope} {err : GatewayError}

/-! ## Requests on their way -/

/-- The request that an event hands to the broker. -/
def handed? (s : Session) : Event → Option OutgoingRequest
  | .publish k => s.gateway.outbox[k]?
  | _ => none

/-- The request of a call that is entered. -/
def entered? (s : Session) : Event → Option OutgoingRequest
  | .submit d e =>
    match s.gateway.submit d s.clock e with
    | .ok _ => some (s.gateway.requestOf e)
    | .error _ => none
  | _ => none

/-- The requests that are handed to the broker in the course of some events. -/
def handed (s : Session) : List Event → List OutgoingRequest
  | [] => []
  | e :: events => (s.handed? e).toList ++ handed (s.step e) events

/-- The requests of the calls that are entered in the course of some events. -/
def entered (s : Session) : List Event → List OutgoingRequest
  | [] => []
  | e :: events => (s.entered? e).toList ++ entered (s.step e) events

theorem step_of_refusal (R : s.gateway.Refusal d e err) :
    s.step (.submit d e) = { s with log := s.log ++ [.refused e.requestId err] } := by
  simp only [step, R.submit]

theorem step_of_admissible (A : s.gateway.Admissible d e) :
    s.step (.submit d e) = { s with
      gateway := s.gateway.entered s.clock e (requestTopic e.clientType s.gateway.config.topicSuffix)
      log := s.log ++ [.accepted ⟨s.table.nextSerial, e.requestId⟩] } := by
  simp only [step, A.submit]

/-- Calls that are refused have no request. -/
theorem entered?_submit (s : Session) (d : Directory) (e : Envelope) :
    (∃ err, s.gateway.Refusal d e err) ∧ s.entered? (.submit d e) = none ∨
      s.gateway.Admissible d e ∧ s.entered? (.submit d e) = some (s.gateway.requestOf e) := by
  rcases s.gateway.refused_or_admissible d e with ⟨err, R⟩ | A
  · exact .inl ⟨⟨err, R⟩, by simp only [entered?, R.submit]⟩
  · exact .inr ⟨A, by simp only [entered?, A.submit]⟩

/-- A request is handed over as it stands in the outbox, under its identifier, and leaves it. -/
theorem step_of_handed {k : Nat} {r : OutgoingRequest} (h : s.gateway.outbox[k]? = some r) :
    (s.step (.publish k)).broker = s.broker.attempt r.topic r.requestId.display r.payload ∧
      (s.step (.publish k)).gateway.outbox = s.gateway.outbox.eraseIdx k := by
  simp only [step, h, Gateway.publish?, Option.map_some, Broker.attempt]
  cases s.broker.publish r.topic r.requestId.display r.payload <;> exact ⟨rfl, rfl⟩

/-- What is handed over is taken off the outbox, and what is entered is put into it. -/
theorem Happens.outbox_perm {ev : Event} (H : s.Happens ev s') :
    (s.handed? ev).toList ++ s'.gateway.outbox ~ s.gateway.outbox ++ (s.entered? ev).toList := by
  cases H with
  | @refuse d e err h =>
    have none : s.entered? (.submit d e) = none := by simp only [entered?, h]
    rw [none]
    exact .of_eq (List.append_nil _).symm
  | @accept d e topic h =>
    rcases s.entered?_submit d e with ⟨⟨err, R⟩, -⟩ | ⟨A, he⟩
    · cases (R.submit s.clock).symm.trans h
    · obtain ⟨-, hg⟩ := Prod.mk.inj (Except.ok.inj ((A.submit s.clock).symm.trans h))
      rw [he, ← hg]
      exact .rfl
  | publish hr | fail hr =>
    obtain ⟨hk, rfl⟩ := List.getElem?_eq_some_iff.1 hr
    rw [handed?, hr]
    exact (List.getElem_cons_eraseIdx_perm hk).trans (.of_eq (List.append_nil _).symm)
  | noRequest h =>
    rw [handed?, h]
    exact .of_eq (List.append_nil _).symm
  | listen =>
    rw [Gateway.take_eq]
    exact .of_eq (List.append_nil _).symm
  | expire | conclude | leave | startListener | stopListener | tick | elsewhere =>
    exact .of_eq (List.append_nil _).symm
  | noMessage | notLate | noResult | noCall | noListener =>
    exact .of_eq (List.append_nil _).symm

/-- Every request that is entered is handed over once or is still on its way, and nothing else is
handed over. -/
theorem outbox_perm_run (s : Session) (events : List Event) :
    (s.handed events ++ (s.run events).gateway.outbox).Perm
      (s.gateway.outbox ++ s.entered events) := by
  induction events generalizing s with
  | nil => exact (List.append_nil _).symm ▸ .refl _
  | cons ev events ih =>
    let s₁ := s.step ev
    calc (s.handed? ev).toList ++ s₁.handed events ++ (s₁.run events).gateway.outbox
      _ = (s.handed? ev).toList ++ (s₁.handed events ++ (s₁.run events).gateway.outbox) :=
        List.append_assoc ..
      _ ~ (s.handed? ev).toList ++ (s₁.gateway.outbox ++ s₁.entered events) := (ih s₁).append_left _
      _ = (s.handed? ev).toList ++ s₁.gateway.outbox ++ s₁.entered events :=
        (List.append_assoc ..).symm
      _ ~ s.gateway.outbox ++ (s.entered? ev).toList ++ s₁.entered events :=
        (s.happens ev).outbox_perm.append_right _
      _ = s.gateway.outbox ++ ((s.entered? ev).toList ++ s₁.entered events) :=
        List.append_assoc ..

/-! ## What else the broker sees -/

/-- What is no attempt to publish brings no message to any topic. -/
theorem Happens.nextOffset_eq {ev : Event} (H : s.Happens ev s') (hh : s.handed? ev = none)
    (own : ∀ b, ev ≠ .elsewhere b) (topic : String) :
    (s'.broker.topic topic).nextOffset = (s.broker.topic topic).nextOffset := by
  cases H with
  | publish hr | fail hr => cases hr.symm.trans hh
  | listen _ h =>
    obtain ⟨-, -, offsets, -⟩ := Broker.receive?_eq_some h
    exact offsets topic
  | startListener h =>
    obtain ⟨-, -, -, offsets, -⟩ := Broker.subscribe_eq_ok h
    exact offsets topic
  | stopListener => exact Broker.nextOffset_setGroup ..
  | elsewhere b => exact absurd rfl (own b)
  | refuse | accept | expire | conclude | leave | tick => rfl
  | noRequest | noMessage | notLate | noResult | noCall | noListener => rfl

/-! ## Errors of encoding -/

/-- Nobody has been told of an error of encoding, nor is about to be. -/
structure EncodingFree (s : Session) : Prop where
  log : ∀ n ∈ s.log, n.isEncoding = false
  table : s.table.EncodingFree

theorem EncodingFree.start (config : GatewayConfig) (b : Broker) : (start config b).EncodingFree where
  log _ h := absurd h List.not_mem_nil
  table _ _ h := by cases h

/-- One more note, which is about something else. -/
theorem EncodingFree.note (E : s.EncodingFree) {n : Note} (log : s'.log = s.log ++ [n])
    (other : n.isEncoding = false) (table : s'.table.EncodingFree) : s'.EncodingFree where
  log := by
    rw [log, List.forall_mem_append, List.forall_mem_singleton]
    exact ⟨E.log, other⟩
  table := table

theorem EncodingFree.happens {ev : Event} (E : s.EncodingFree) (H : s.Happens ev s') :
    s'.EncodingFree := by
  cases H with
  | @refuse d e _ h =>
    rcases s.gateway.refused_or_admissible d e with ⟨err, R⟩ | A
    · obtain rfl := Except.error.inj ((R.submit s.clock).symm.trans h)
      exact E.note rfl (by cases R <;> rfl) E.table
    · cases (A.submit s.clock).symm.trans h
  | accept => exact E.note rfl rfl (E.table.entered _)
  | fail => exact E.note rfl rfl (E.table.decides (.fail _ _ _ _) rfl)
  | listen =>
    refine E.note rfl ?_ (E.table.take _)
    rw [taking]
    split <;> rfl
  | expire => exact E.note rfl rfl (E.table.decides (.expire _ _ _) rfl)
  | conclude _ ho => exact E.note rfl (E.table _ _ (state?_of_result? ho)) (E.table.drop _)
  | leave => exact E.note rfl rfl (E.table.drop _)
  | publish | startListener | stopListener | tick | elsewhere => exact ⟨E.log, E.table⟩
  | noRequest | noMessage | notLate | noResult | noCall | noListener => exact E

theorem EncodingFree.run (E : s.EncodingFree) (events : List Event) :
    (s.run events).EncodingFree := by
  induction events generalizing s with
  | nil => exact E
  | cons ev events ih => exact ih (E.happens (s.happens ev))

/-! ## The contract -/

/-- What a refusal leaves behind: a note of it, and nothing that has been or will be published. -/
structure Declines (s s' : Session) (id : Uuid) (err : GatewayError) : Prop where
  log : s'.log = s.log ++ [.refused id err]
  broker : s'.broker = s.broker
  /-- Later attempts to publish are for other calls. -/
  handed : ∀ events, s'.handed events ++ (s'.run events).gateway.outbox ~
    s.gateway.outbox ++ s'.entered events
  opened : s'.opened = s.opened
  /-- Entries, handles and counters. -/
  table : s'.table = s.table
  /-- The calls under way, one with the same identifier among them, still get their results. -/
  resolves : ∀ h, s.table.Pends h → s.table.state? h = some .waiting → s'.table.Resolves h

/-- What the entry of a call brings: one entry in the table, and one request that is handed to the
broker once. -/
structure Enters (s s' : Session) (d : Directory) (e : Envelope) (r : OutgoingRequest) :
    Prop where
  requestId : r.requestId = e.requestId
  topic : resolveTopic d s.gateway.config.topicSuffix e.clientType = .ok r.topic
  payload : r.payload = e.toBytes
  log : s'.log = s.log ++ [.accepted ⟨s.table.nextSerial, e.requestId⟩]
  broker : s'.broker = s.broker
  ready : s'.handed? (.publish s.gateway.outbox.length) = some r
  handed : ∀ events, s'.handed events ++ (s'.run events).gateway.outbox ~
    r :: (s.gateway.outbox ++ s'.entered events)
  opened : s'.opened = s.opened ++ [⟨s.table.nextSerial, e.requestId⟩]
  new : s.table.entries.get? e.requestId = none
  entries : ∀ id, s'.table.entries.get? id =
    if id = e.requestId then some s.table.nextSerial else s.table.entries.get? id
  stats : s'.table.stats = { s.table.stats with inFlight := .ofNat (s.table.size + 1) }
  resolves : s'.table.Resolves ⟨s.table.nextSerial, e.requestId⟩

/-- What a session promises to those who submit calls, in whatever state it is. -/
structure Routes (s : Session) : Prop where
  /-- A call is refused for the first thing that it misses, and for nothing else. -/
  refused_iff : ∀ d e err, (s.step (.submit d e)).log = s.log ++ [.refused e.requestId err] ↔
    s.gateway.Refusal d e err
  invalid_iff : ∀ d e err, s.gateway.Refusal d e err → (err.code = "INVALID_REQUEST" ↔
    Text.trim e.procedureName.toList = [] ∨ serviceName e.clientType = "")
  declines : ∀ d e err, s.gateway.Refusal d e err →
    Declines s (s.step (.submit d e)) e.requestId err
  enters : ∀ d e, (∀ err, ¬ s.gateway.Refusal d e err) →
    ∃ r, Enters s (s.step (.submit d e)) d e r
  /-- To hand over is to attempt to publish under the identifier of the request. -/
  attempts : ∀ ev r, s.handed? ev = some r →
    (s.step ev).broker = s.broker.attempt r.topic r.requestId.display r.payload
  /-- Nothing else brings messages to the broker, unless it comes from others. -/
  silent : ∀ ev, s.handed? ev = none → (∀ b, ev ≠ .elsewhere b) → ∀ topic,
    ((s.step ev).broker.topic topic).nextOffset = (s.broker.topic topic).nextOffset
  /-- What has come about with a new gateway is free of errors of encoding. -/
  encoding : ∀ config b events, s = (start config b).run events → s.EncodingFree

theorem declines_of_refusal (R : s.gateway.Refusal d e err) :
    Declines s (s.step (.submit d e)) e.requestId err := by
  rw [step_of_refusal R]
  exact {
    log := rfl
    broker := rfl
    handed := outbox_perm_run _
    opened := rfl
    table := rfl
    resolves := fun _ => .of_pends }

theorem enters_of_admissible (A : s.gateway.Admissible d e) :
    Enters s (s.step (.submit d e)) d e (s.gateway.requestOf e) := by
  have absent : s.table.entries.get? e.requestId = none := A.free
  have entry (id : Uuid) : (s.table.entered e.requestId).entries.get? id =
      if id = e.requestId then some s.table.nextSerial else s.table.entries.get? id :=
    Keyed.get?_set ..
  rw [step_of_admissible A]
  exact {
    requestId := rfl
    topic := resolveTopic_of_serves A.service A.served
    payload := rfl
    log := rfl
    broker := rfl
    ready := List.getElem?_concat_length
    handed := fun events => (outbox_perm_run _ events).trans <| by
      rw [Gateway.entered, List.append_assoc]
      exact List.perm_middle
    opened := List.map_append
    new := absent
    entries := entry
    stats := by
      have size : (s.table.entered e.requestId).size = s.table.size + 1 := Keyed.size_set _ absent
      rw [← size]
      rfl
    resolves := .of_pends (by rw [PendingTable.Pends]; exact (entry _).trans (if_pos rfl))
      ((Keyed.get?_set ..).trans (if_pos rfl)) }

/-- Whatever is under way and whatever the directory and the broker are like: a call is refused
without a trace or entered once and sent once. -/
theorem routes (s : Session) : Routes s where
  refused_iff d e err := by
    rcases s.gateway.refused_or_admissible d e with ⟨err', R⟩ | A
    · rw [step_of_refusal R, List.append_cancel_left_eq, List.singleton_inj, Note.refused.injEq]
      refine ⟨fun h => h.2 ▸ R, fun R' => ⟨rfl, ?_⟩⟩
      exact Except.error.inj ((R.submit s.clock).symm.trans (R'.submit s.clock))
    · rw [step_of_admissible A]
      constructor
      · intro h
        cases List.append_cancel_left h
      · intro R
        cases (R.submit s.clock).symm.trans (A.submit s.clock)
  invalid_iff d e err R := by
    cases R with
    | noProcedure blank => exact iff_of_true rfl (.inl blank)
    | noService _ unnamed => exact iff_of_true rfl (.inr unnamed)
    | noInstance procedure service =>
      have other : "SERVICE_NOT_FOUND" ≠ "INVALID_REQUEST" := by decide
      exact iff_of_false other (not_or.2 ⟨procedure, service⟩)
    | inFlight procedure service =>
      have other : "DUPLICATE_REQUEST" ≠ "INVALID_REQUEST" := by decide
      exact iff_of_false other (not_or.2 ⟨procedure, service⟩)
  declines _ _ _ R := declines_of_refusal R
  enters d e H := by
    rcases s.gateway.refused_or_admissible d e with ⟨err, R⟩ | A
    · exact absurd R (H err)
    · exact ⟨_, enters_of_admissible A⟩
  attempts ev r h := by
    cases ev with
    | publish k => exact (step_of_handed h).1
    | _ => cases h
  silent _ hh own topic := (s.happens _).nextOffset_eq hh own topic
  encoding config b events h := h ▸ (EncodingFree.start config b).run events

end Session

end CallGateway
