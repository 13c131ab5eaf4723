import CallGateway.Proofs.Broker.Books

/-!
# What a broker has accepted meanwhile

As long as nobody subscribes, leaves, marks a topic or restores one, a broker changes by the messages
that it accepts and by those that are taken off its queues. What it counts and keeps tells the
former.
-/

namespace CallGateway.Broker

/-- A message as the broker accepts it next. -/
def numbered (b : Broker) (topic key : String) (payload : Bytes) : Message :=
  ⟨topic, key, payload, (b.topic topic).nextOffset⟩

/-- The second broker is the first one after it has accepted these messages, some of which may have
been received. -/
structure Since (b b' : Broker) (added : List Message) : Prop where
  failing : b'.failing = b.failing
  keepHistory : b'.keepHistory = b.keepHistory
  serials : ∀ t g, (b'.group t g).serials = (b.group t g).serials
  nextOffset : ∀ t, (b'.topic t).nextOffset =
    (b.topic t).nextOffset + (onTopic t added).length
  published : ∀ t, b'.published t =
    b.published t ++ if b.keepHistory then onTopic t added else []

namespace Since

variable {b b' b'' : Broker} {added : List Message} {m : Message} {s : Subscription}

theorem refl (b : Broker) : Since b b [] where
  failing := rfl
  keepHistory := rfl
  serials _ _ := rfl
  nextOffset _ := rfl
  published t := by
    cases b.keepHistory <;> exact (List.append_nil _).symm

theorem accept (S : Since b b' added) (m : Message) : Since b (b'.accept m) (added ++ [m]) where
  failing := S.failing
  keepHistory := S.keepHistory
  serials t g := (serials_accept b' m t g).trans (S.serials t g)
  nextOffset t := by
    rw [nextOffset_accept, S.nextOffset, onTopic_concat, List.length_append, ← Nat.add_assoc]
    by_cases h : t = m.topic
    · rw [if_pos h, if_pos h.symm]
      rfl
    · rw [if_neg h, if_neg (Ne.symm h)]
      rfl
  published t := by
    show ((b'.accept m).topic t).history = _
    have hold : (b'.topic t).history = b.published t ++ _ := S.published t
    rw [history_accept, hold, S.keepHistory, onTopic_concat]
    cases b.keepHistory with
    | false => simp
    | true => by_cases h : t = m.topic <;> simp [h, eq_comm]

theorem receive (S : Since b b' added) (h : b'.receive? s = some (m, b'')) :
    Since b b'' added := by
  obtain ⟨hserials, -, hoffset, -, -⟩ := receive?_eq_some h
  have hbooks := sameBooks_receive? h
  have hmarks : b''.failing = b'.failing ∧ b''.keepHistory = b'.keepHistory := by
    rw [receive?] at h
    split at h <;> cases h
    exact ⟨rfl, rfl⟩
  exact {
    failing := hmarks.1.trans S.failing
    keepHistory := hmarks.2.trans S.keepHistory
    serials := fun t g => (hserials t g).trans (S.serials t g)
    nextOffset := fun t => (hoffset t).trans (S.nextOffset t)
    published := fun t => (hbooks.history t).trans (S.published t) }

end Since

end CallGateway.Broker
