import CallGateway.Proofs.Deployment.Owed

/-!
# Replies and requests

Nothing on a message says of which kind it is, and a reply can come where requests are expected, as
can a request where replies are. Still neither is taken for the other, and no reply leads to another.
-/

namespace CallGateway

theorem Envelope.exists_error_of_reply (now : Instant) (r : Reply) :
    ∃ err, Envelope.ofBytes now r.toBytes = .error err := by
  have hno := Envelope.ofBytes_reply now r
  cases he : Envelope.ofBytes now r.toBytes with
  | error err => exact ⟨err, rfl⟩
  | ok e => rw [he] at hno; cases hno

theorem Reply.exists_error_of_envelope (e : Envelope) :
    ∃ err, Reply.ofBytes e.toBytes = .error err := by
  have hno := Reply.ofBytes_envelope e
  cases hr : Reply.ofBytes e.toBytes with
  | error err => exact ⟨err, rfl⟩
  | ok r => rw [hr] at hno; cases hno

namespace Worker

variable {w w' : Worker} {now : Instant} {clock : Nat} {m : Message} {r : Reply}

/-- Whichever worker has replied, and whichever gets the reply: it passes it over. -/
theorem grant?_reply (hm : w.next? = some m) (hr : m.payload = r.toBytes)
    (h : w.grant? now clock = some w') :
    ∃ t : Task, w'.tasks = w.tasks ++ [t] ∧ t.message = m ∧ t.Publishes [] := by
  obtain ⟨t, htasks, hnext, hanswer⟩ := grant?_eq_some h
  obtain rfl : t.message = m := Option.some.inj (hnext.symm.trans hm)
  obtain ⟨err, he⟩ := Envelope.exists_error_of_reply now r
  refine ⟨t, htasks, rfl, Task.publishes_none ?_⟩
  rw [hanswer, hr]
  exact answer_of_neither he (Header.ofBytes?_reply r)

end Worker

/-- A listener passes over a request. -/
theorem Gateway.listen?_envelope {g : Gateway} {b b' : Broker} {s : Subscription} {m : Message}
    {e : Envelope} (hr : b.receive? s = some (m, b')) (hm : m.payload = e.toBytes) :
    g.listen? b s = some (g, b') := by
  have htake : g.take m.payload = g := by
    obtain ⟨err, he⟩ := Reply.exists_error_of_envelope e
    rw [Gateway.take, hm, he]
  rw [listen?, hr, Option.map_some]
  exact congrArg (fun g => some (g, b')) htake

/-- Replies are not taken for requests, nor requests for replies. -/
structure KindsApart : Prop where
  no_envelope : ∀ (now : Instant) (r : Reply), ∃ err, Envelope.ofBytes now r.toBytes = .error err
  no_header : ∀ r : Reply, Header.ofBytes? r.toBytes = none
  /-- A worker that gets a reply, its own or that of another, publishes nothing for it. -/
  unanswered : ∀ (w w' : Worker) (now : Instant) (clock : Nat) (m : Message) (r : Reply),
    w.next? = some m → m.payload = r.toBytes → w.grant? now clock = some w' →
      ∃ t : Task, w'.tasks = w.tasks ++ [t] ∧ t.message = m ∧ t.Publishes []
  /-- Whichever topics coincide: if nobody enters calls, a deployment publishes no more messages than
  are owed now, and for replies none are. -/
  no_loop : ∀ (d : Deployment) (moves : List Deployment.Move),
    (d.follow moves).broker.totalPublished + (d.follow moves).owed ≤
      d.broker.totalPublished + d.owed
  no_reply : ∀ e : Envelope, ∃ err, Reply.ofBytes e.toBytes = .error err
  /-- A listener that gets a request leaves its gateway as it is. -/
  discarded : ∀ (g : Gateway) (b b' : Broker) (s : Subscription) (m : Message) (e : Envelope),
    b.receive? s = some (m, b') → m.payload = e.toBytes → g.listen? b s = some (g, b')

theorem kinds_apart : KindsApart where
  no_envelope := Envelope.exists_error_of_reply
  no_header := Header.ofBytes?_reply
  unanswered _ _ _ _ _ _ := Worker.grant?_reply
  no_loop := Deployment.owed_follow_le
  no_reply := Reply.exists_error_of_envelope
  discarded _ _ _ _ _ _ := Gateway.listen?_envelope

/-- A worker that is about to execute a reply of its own, which came back on its request topic. -/
def selfAddressed : Worker where
  config := { service := "client" }
  dispatcher := { catalog := ⟨[⟨"echo", Procedure.echo⟩]⟩ }
  consumers := [⟨⟨"client-procedures", "worker-client", 0⟩, some
    ⟨"client-procedures", "k", Reply.toBytes ⟨⟨7⟩, .success (.string "replyTo")⟩, 3⟩⟩]
  waiting := [⟨"client-procedures", "worker-client", 0⟩]
  free := 1

theorem kinds_apart_selfAddressed : ∃ w' t, selfAddressed.grant? .epoch 0 = some w' ∧
    w'.tasks = [t] ∧ t.message.payload = Reply.toBytes ⟨⟨7⟩, .success (.string "replyTo")⟩ ∧
    t.Publishes [] := by
  obtain ⟨w', H⟩ : ∃ w', selfAddressed.grant? .epoch 0 = some w' := ⟨_, rfl⟩
  obtain ⟨t, htasks, hmessage, hpublishes⟩ := kinds_apart.unanswered _ _ _ _ _ _ rfl rfl H
  exact ⟨w', t, H, htasks, congrArg Message.payload hmessage, hpublishes⟩

end CallGateway
