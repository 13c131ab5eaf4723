import CallGateway.Proofs.Message.Addressed
import CallGateway.Proofs.Procedure.Shallow
import CallGateway.Worker

/-!
# Every message that can be answered is answered once

A permit is granted for one message, and the execution of the message ends in the publication of its
reply. Where the message is an envelope the dispatcher answers, and where it merely says whom to
answer it is refused; either way the reply is readable. A message that does not say whom to answer
is passed over.
-/

namespace CallGateway

open Json

namespace Broker

/-- A topic that has a name may refuse a message, but not for its name. -/
theorem publish_error {b : Broker} {topic key : String} {payload : Bytes} {e : BrokerError}
    (ht : topic.isEmpty = false) (H : b.publish topic key payload = .error e) :
    ∃ reason, e = .publishFailed topic reason := by
  rw [publish, if_neg (by rw [ht]; exact Bool.false_ne_true)] at H
  split at H
  · cases H
    exact ⟨_, rfl⟩
  · cases H

/-- The broker after an attempt to publish a payload on a topic under a key. -/
def attempt (b : Broker) (topic key : String) (payload : Bytes) : Broker :=
  match b.publish topic key payload with
  | .ok (_, b) => b
  | .error _ => b

end Broker

/-- What has been worked out for a message, as a list of topic, key and payload. Whichever worker it
is, and whatever has happened to the worker and the broker since, when the execution is at its end
this is what is published, and the execution is no more. -/
def Task.Publishes (t : Task) (ps : List (String × String × Bytes)) : Prop :=
  ∀ (w : Worker) (b : Broker) (clock k : Nat), w.tasks[k]? = some t → t.finish ≤ clock →
    w.finish? b clock k = some ({ w with free := w.free + 1, tasks := w.tasks.eraseIdx k },
      ps.foldl (fun b p => b.attempt p.1 p.2.1 p.2.2) b)

theorem Task.publishes_some {t : Task} {topic : String} {r : Reply}
    (H : t.answer = some (topic, r)) :
    t.Publishes [(topic, r.requestId.display, r.toBytes)] := by
  intro w b clock k hk hc
  simp only [Worker.finish?, hk, if_pos hc, H]
  rfl

theorem Task.publishes_none {t : Task} (H : t.answer = none) : t.Publishes [] := by
  intro w b clock k hk hc
  simp only [Worker.finish?, hk, if_pos hc, H]
  rfl

namespace Worker

def HostsBuiltins (w : Worker) : Prop :=
  ∀ e ∈ w.dispatcher.catalog.entries, ∃ service started name,
    Procedure.builtin? service started name = some e.procedure

/-- The message for which a permit is granted next. -/
def next? (w : Worker) : Option Message :=
  w.waiting.head?.bind fun s => (w.consumers.find? (·.subscription == s)).bind (·.held)

/-- What a permit sets going. -/
theorem grant?_eq_some {w w' : Worker} {now : Instant} {clock : Nat}
    (H : w.grant? now clock = some w') : ∃ t : Task, w'.tasks = w.tasks ++ [t] ∧
      w.next? = some t.message ∧ t.answer = (w.answer now clock t.message.payload).result := by
  rw [grant?] at H
  split at H
  · next free s waiting hfree hwaiting =>
    split at H
    · cases H
    · next m hm =>
      cases H
      refine ⟨_, rfl, ?_, rfl⟩
      rw [next?, hwaiting]
      exact hm
  · cases H

variable {w : Worker} {now : Instant} {clock : Nat}

theorem answer_of_envelope {payload : Bytes} {e : Envelope}
    (H : Envelope.ofBytes now payload = .ok e) : (w.answer now clock payload).result =
      some (e.replyTo, (w.dispatcher.dispatch e now clock).result) := by
  rw [answer, H]

theorem answer_of_header {payload : Bytes} {err : MessageError} {h : Header}
    (H : Envelope.ofBytes now payload = .error err) (hh : Header.ofBytes? payload = some h) :
    (w.answer now clock payload).result =
      some (h.replyTo, ⟨h.requestId, .failure s!"Invalid envelope: {err.message}"⟩) := by
  rw [answer, H, hh]
  rfl

theorem answer_of_neither {payload : Bytes} {err : MessageError}
    (H : Envelope.ofBytes now payload = .error err) (hh : Header.ofBytes? payload = none) :
    (w.answer now clock payload).result = none := by
  rw [answer, H, hh]
  rfl

/-- An addressed message is answered, and the answer is readable. -/
theorem answer_of_addressed (hw : w.HostsBuiltins) {fs : List (String × Value)} {h : Header}
    (H : Addressed fs h) : ∃ r r',
      (w.answer now clock (Value.object fs).print).result = some (h.replyTo, r) ∧
      r.requestId = h.requestId ∧ Reply.ofBytes r.toBytes = .ok r' ∧
      r'.requestId = h.requestId ∧
      (∀ e, Envelope.ofBytes now (Value.object fs).print = .ok e →
        r = (w.dispatcher.dispatch e now clock).result) ∧
      ∀ err, Envelope.ofBytes now (Value.object fs).print = .error err →
        r.outcome = .failure s!"Invalid envelope: {err.message}" := by
  cases he : Envelope.ofBytes now (Value.object fs).print with
  | ok e =>
    obtain ⟨rfl, hp⟩ := H.envelope he
    have hd : ∀ entry ∈ w.dispatcher.catalog.entries, entry.procedure.Shallow := by
      intro entry hentry
      obtain ⟨_, _, _, hb⟩ := hw entry hentry
      exact Procedure.builtin?_shallow hb
    have hfits : ∀ v, (w.dispatcher.dispatch e now clock).result.result? = some v →
        1 + v.nesting ≤ nestingLimit := fun v hv => Dispatcher.dispatch_fits hd hp hv
    obtain ⟨r', hr', hid⟩ := Reply.exists_ofBytes hfits
    refine ⟨_, r', answer_of_envelope he, rfl, hr', hid, ?_, ?_⟩
    · intro e' h
      cases h
      rfl
    · intro err h
      cases h
  | error err =>
    obtain ⟨r', hr', hid⟩ := Reply.exists_ofBytes (r := ⟨h.requestId, .failure
      s!"Invalid envelope: {err.message}"⟩) nofun
    refine ⟨_, r', answer_of_header he H.header, rfl, hr', hid, ?_, ?_⟩
    · intro e h
      cases h
    · intro err' h
      cases h
      rfl

/-- A worker that hosts built-in procedures is granted a permit. An object that names a call and a
topic is answered by one readable reply to that call on that topic, from the dispatcher or, where
the object is no envelope, with the reason for which it is none. What has neither an envelope nor a
header is not answered. -/
theorem grant_answers {w w' : Worker} {now : Instant} {clock : Nat} (hw : w.HostsBuiltins)
    (H : w.grant? now clock = some w') :
    ∃ t : Task, w'.tasks = w.tasks ++ [t] ∧ w.next? = some t.message ∧
      (∀ fs h, Addressed fs h → t.message.payload = (Value.object fs).print →
        ∃ r r', t.Publishes [(h.replyTo, h.requestId.display, r.toBytes)] ∧
          (∀ (b : Broker) e, b.publish h.replyTo h.requestId.display r.toBytes = .error e →
            ∃ reason, e = .publishFailed h.replyTo reason) ∧
          Reply.ofBytes r.toBytes = .ok r' ∧ r'.requestId = h.requestId ∧
          (∀ e, Envelope.ofBytes now t.message.payload = .ok e →
            r = (w.dispatcher.dispatch e now clock).result) ∧
          ∀ err, Envelope.ofBytes now t.message.payload = .error err →
            ∃ why, r.outcome = .failure ("Invalid envelope: " ++ why)) ∧
      ((∀ e, Envelope.ofBytes now t.message.payload ≠ .ok e) →
        Header.ofBytes? t.message.payload = none → t.Publishes []) := by
  obtain ⟨t, htasks, hnext, hanswer⟩ := grant?_eq_some H
  refine ⟨t, htasks, hnext, ?_, ?_⟩
  · intro fs h haddr hpayload
    obtain ⟨r, r', ha, hid, hr', hid', hok, herr⟩ := answer_of_addressed hw haddr
    rw [hpayload, ha] at hanswer
    rw [hpayload]
    refine ⟨r, r', ?_, fun b e => Broker.publish_error haddr.topic_nonempty, hr', hid', hok, ?_⟩
    · have hp := Task.publishes_some hanswer
      rwa [hid] at hp
    · intro err he
      exact ⟨err.message, herr err he⟩
  · intro hne hh
    cases he : Envelope.ofBytes now t.message.payload with
    | ok e => exact absurd he (hne e)
    | error err =>
      apply Task.publishes_none
      rw [hanswer, answer_of_neither he hh]

/-- A call of the echo without a client type, which makes it no envelope. -/
def misaddressed : List (String × Value) :=
  [("parameters", .array [.null, .array [.bool true]]), ("procedureName", .string "echo"),
    ("replyTo", .string " replies"),
    ("requestId", .string "\x7b00000000-0000-0000-0000-000000000007\x7d")]

/-- A worker that is about to execute that call. -/
def hesitant : Worker where
  config := { service := "client" }
  dispatcher := { catalog := ⟨[⟨"echo", Procedure.echo⟩]⟩ }
  consumers := [⟨⟨"client-procedures", "worker-client", 0⟩, some
    ⟨"client-procedures", "k", (Value.object misaddressed).print, 0⟩⟩]
  waiting := [⟨"client-procedures", "worker-client", 0⟩]
  free := 1

theorem grant_answers_misaddressed : hesitant.HostsBuiltins ∧
    Addressed misaddressed ⟨⟨7⟩, " replies"⟩ ∧
    ∃ w' t r r', hesitant.grant? .epoch 0 = some w' ∧ w'.tasks = [t] ∧
      t.Publishes [(" replies", Uuid.display ⟨7⟩, Reply.toBytes r)] ∧
      Reply.ofBytes r.toBytes = .ok r' ∧ r'.requestId = ⟨7⟩ := by
  have hw : hesitant.HostsBuiltins := by
    intro e he
    obtain rfl := List.mem_singleton.1 he
    exact ⟨"client", 0, "echo", rfl⟩
  have haddr : Addressed misaddressed ⟨⟨7⟩, " replies"⟩ :=
    ⟨by decide, ⟨_, rfl, by decide⟩, rfl, by decide⟩
  obtain ⟨w', H⟩ : ∃ w', hesitant.grant? .epoch 0 = some w' := ⟨_, rfl⟩
  obtain ⟨t, htasks, hnext, hanswer, -⟩ := grant_answers hw H
  have hpayload : t.message.payload = (Value.object misaddressed).print :=
    congrArg Message.payload (Option.some.inj hnext.symm)
  obtain ⟨r, r', hpub, -, hr', hid, -⟩ := hanswer _ _ haddr hpayload
  exact ⟨hw, haddr, w', t, r, r', H, htasks, hpub, hr', hid⟩

end Worker

end CallGateway
