import CallGateway.Proofs.Deployment.Arrival
import CallGateway.Proofs.Message.ReplyRules
import CallGateway.Proofs.Message.RoundTrip
import CallGateway.Proofs.Procedure.Registry
import CallGateway.Procedure.Builtin

/-!
# The echo comes back

A procedure that answers at once is served, and the answer of the echo is what it has been called
with: neither the conversion of parameters nor a text on the wire changes a value. A worker that grants its
executions no time at all fails every call.
-/

namespace CallGateway

open Json

/-! ## Dispatch -/

namespace Dispatcher

variable {d : Dispatcher} {e : Envelope} {entry : Entry}

/-- What has no time at all does not even begin. -/
theorem bounded_exhausted (procedure : String) (t : Timed (Except DispatchError Value)) :
    bounded (some 0) procedure t =
      ⟨0, .error (.execution procedure "execution exceeded 0 ms")⟩ := by
  rw [bounded, if_pos (show (0 : UInt64).toNat ≤ t.elapsed from Nat.zero_le _)]
  rfl

/-- Whatever is called, and with whatever parameters. -/
theorem dispatch_exhausted (hosted : d.catalog.find? e.procedureName = some entry)
    (hb : d.budget = some 0) (now : Instant) (clock : Nat) :
    d.dispatch e now clock = ⟨0, e.requestId, .failure
      (DispatchError.execution e.procedureName "execution exceeded 0 ms").message⟩ := by
  have hstart : d.start entry e.parameters (.ofEnvelope e now clock) =
      ⟨0, .error (.execution e.procedureName "execution exceeded 0 ms")⟩ := by
    rw [start, hb, bounded_exhausted]
    rfl
  rw [dispatch, run, hosted]
  simp only [hstart, outcome]

end Dispatcher

theorem GatewayConfig.isBlank_replyTopic (c : GatewayConfig) :
    Text.isBlank c.replyTopic = false := by
  rw [replyTopic, CallGateway.replyTopic, Text.isBlank, String.toList_append, List.all_append]
  exact Bool.and_eq_false_iff.2 (.inr (by decide))

namespace Deployment

variable {d : Deployment} {g : Gateway} {w : Worker} {consumer listener : Subscription}

/-- A call that is dispatched at once is served, if the envelope and the reply survive the way. -/
theorem Quiet.serves (Q : d.Quiet g w consumer listener) (patient : g.config.requestTimeout ≠ 0)
    {e : Envelope} {o : Outcome} (named : Text.isBlank e.procedureName = false)
    (addressed : e.replyTo = g.config.replyTopic)
    (resolves : resolveTopic d.directory g.config.topicSuffix e.clientType = .ok consumer.topic)
    (read : ∀ now, Envelope.ofBytes now e.toBytes = .ok e)
    (dispatched : ∀ now clock, w.dispatcher.dispatch e now clock = ⟨0, e.requestId, o⟩)
    (readable : Reply.ofBytes (Reply.toBytes ⟨e.requestId, o⟩) = .ok ⟨e.requestId, o⟩) :
    consumer.topic ≠ listener.topic ∧ ∃ h after, d.submit 0 e = some (.ok (h, after)) ∧
      h.requestId = e.requestId ∧
      d.Serves after (d.clock + g.config.requestTimeout.toNat) (6 + 3 * w.consumers.length) h
        ⟨e.requestId, o⟩
        [d.broker.numbered consumer.topic e.requestId.display e.toBytes,
          d.broker.numbered listener.topic e.requestId.display
            (Reply.toBytes ⟨e.requestId, o⟩)] := by
  have answered (now : Instant) (clock : Nat) :
      w.answer now clock e.toBytes = ⟨0, some (e.replyTo, ⟨e.requestId, o⟩)⟩ := by
    rw [Worker.answer, read]
    simp only [dispatched]
  let P : Trip := ⟨d, g, w, consumer, listener, e, ⟨e.requestId, o⟩, Q, named, addressed, resolves,
    patient, answered, rfl, readable⟩
  obtain ⟨after, hsubmit, hserves⟩ := P.serves
  exact ⟨P.topics_ne, P.handle, after, hsubmit, rfl, hserves⟩

def echoConsumer : Subscription := ⟨"client-procedures", "worker-client", 1⟩

def echoListener : Subscription := ⟨"gw-replies", "gw", 0⟩

def echoCatalog : Catalog := ⟨[⟨"echo", .echo⟩]⟩

/-- A worker as it is started for the echo, with a budget for every execution. -/
def echoWorker (budget : Option UInt64) : Worker where
  config := { service := "client", executionTimeout := budget }
  dispatcher := { catalog := echoCatalog, budget }
  consumers := [⟨echoConsumer, none⟩]
  free := 3

def echoGateway : Gateway where
  config := { instanceId := "gw" }
  listeners := [echoListener]

/-- The gateway listens, and the worker is registered and consumes. -/
def echoScene (budget : Option UInt64) : Deployment where
  broker :=
    { topics := ⟨[("gw-replies", { groups := ⟨[("gw", { members := [{ serial := 0 }] })], by simp⟩ }),
        ("client-procedures",
          { groups := ⟨[("worker-client", { members := [{ serial := 1 }] })], by simp⟩ })],
        by decide⟩
      keepHistory := true
      nextSerial := 2 }
  directory := { services := ⟨[("client", [⟨1⟩])], by simp⟩ }
  gateways := [echoGateway]
  workers := [echoWorker budget]
  calendar _ := .epoch

theorem quiet_echoScene (budget : Option UInt64) :
    (echoScene budget).Quiet echoGateway (echoWorker budget) echoConsumer echoListener where
  gateways := rfl
  workers := rfl
  outbox := rfl
  calls := rfl
  pending _ := rfl
  past := nofun
  listeners := rfl
  replies := by decide
  alone := rfl
  unread := rfl
  consumes := .head _
  only group := by
    by_cases h : group = "worker-client"
    · subst h
      rfl
    · have hnone : (group == "worker-client") = false := beq_false_of_ne h
      rw [if_neg (show ¬ group = echoConsumer.group from h)]
      show ((List.lookup group [("worker-client", _)]).getD {} : Group).serials = []
      rw [List.lookup_cons, hnone]
      rfl
  topics := List.nodup_singleton _
  members c hc := by
    obtain rfl := List.mem_singleton.1 hc
    exact List.nodup_singleton _
  stranger h := absurd (List.mem_singleton.1 h) (by decide)
  idle c hc := by
    obtain rfl := List.mem_singleton.1 hc
    exact ⟨rfl, rfl⟩
  waiting := rfl
  tasks := rfl
  free := Nat.succ_pos 2
  requests := nofun
  answers := nofun

/-- A call with `null`, an empty object and a third among its parameters. -/
def echoCall : Call where
  clientType := "CLIENT"
  procedureName := "echo"
  parameters := .object [("a", .array [.null, .object []]),
    ("b", .number (.float ⟨false, 0x3fd5555555555555, by decide⟩))]

theorem echoCall_fits : echoCall.parameters.nesting ≤ 126 ∧
    (∀ x ∈ echoCall.parameters.floats, Value.Survives x) ∧ echoCall.parameters.Ordered :=
  ⟨by decide, by decide +kernel, by decide, ⟨trivial, ⟨.nil, trivial⟩, trivial⟩, trivial, trivial⟩

def echoRequest : Envelope := .ofCall ⟨7⟩ echoCall echoGateway.config.replyTopic {} .epoch

theorem resolves_echoCall (budget : Option UInt64) : resolveTopic (echoScene budget).directory
    echoGateway.config.topicSuffix echoCall.clientType = .ok echoConsumer.topic := rfl

/-- A worker without any time for executions hosts the echo as well, and nothing else is amiss, but
the call fails. -/
theorem echo_exhausted : echoCall.procedureName = "echo" ∧ echoCall.parameters.nesting ≤ 126 ∧
    (∀ x ∈ echoCall.parameters.floats, Value.Survives x) ∧ echoCall.parameters.Ordered ∧
    (echoScene (some 0)).Quiet echoGateway (echoWorker (some 0)) echoConsumer echoListener ∧
    (echoWorker (some 0)).dispatcher.catalog.find? "echo" = some ⟨"echo", .echo⟩ ∧
    echoGateway.config.requestTimeout ≠ 0 ∧
    resolveTopic (echoScene (some 0)).directory echoGateway.config.topicSuffix
      echoCall.clientType = .ok echoConsumer.topic ∧
    ∃ h after later, (echoScene (some 0)).submit 0 echoRequest = some (.ok (h, after)) ∧
      after.await 0 h = (.ok ⟨⟨7⟩, .failure
        "Error executing procedure 'echo': execution exceeded 0 ms"⟩, later) := by
  obtain ⟨hn, hf, ho⟩ := echoCall_fits
  have Q := quiet_echoScene (some 0)
  have hosted : (echoWorker (some 0)).dispatcher.catalog.find? "echo" = some ⟨"echo", .echo⟩ := rfl
  have patient : echoGateway.config.requestTimeout ≠ 0 := by decide
  have read (now : Instant) : Envelope.ofBytes now echoRequest.toBytes = .ok echoRequest :=
    echoRequest.round_trip now echoGateway.config.isBlank_replyTopic hn hf ho .nil
  obtain ⟨-, h, after, hsubmit, -, hserves⟩ := Q.serves patient (e := echoRequest) (by decide) rfl
    (resolves_echoCall _) read (Dispatcher.dispatch_exhausted hosted rfl) (Reply.ofBytes_failure _ _)
  obtain ⟨later, hawait, -⟩ := hserves.awaited 0 after .start
  exact ⟨rfl, hn, hf, ho, Q, hosted, patient, resolves_echoCall _, h, after, later, hsubmit, hawait⟩

end Deployment

end CallGateway
