import CallGateway.Proofs.Broker.Actions

/-!
# The only member of a group

A subscription that is alone in its group is given every message that is accepted on its topic, in
the order in which they are accepted, as long as nobody else joins the group.
-/

namespace CallGateway.Broker.History

variable {H : History} {r : Record} {held : List Subscription} {s l : Subscription} {a : Action}
  {b : Broker} {n : Nat}

/-- The subscription is alive and alone in its group. Before it came, `n` messages had been accepted
on its topic; all later ones are given to it. -/
structure Sole (H : History) (l : Subscription) (n : Nat) : Prop where
  alive : l ∈ H.held
  alone : ∀ s ∈ H.held, s.isIn l.topic l.group = true → s = l
  since : n ≤ (H.accepted l.topic).length
  handed : H.handed l = (H.accepted l.topic).drop n

/-- A step hands the only member what it accepts on the topic. -/
theorem Sole.step (S : Sole H l n) (L : Ledger H) (E : Effect H r held) :
    n ≤ ((H.push r held).accepted l.topic).length ∧
      (H.push r held).handed l = ((H.push r held).accepted l.topic).drop n := by
  obtain ⟨m, ht, tells, after⟩ | silent := E.accepts_or l.topic
  · -- Some member of the group is handed the message, and there is no other.
    have D := L.tied.distributes tells after
    have hl : l ∈ r.held := tells.held ▸ S.alive
    obtain ⟨s, hs, hin, hands, -⟩ := D.one l.group ⟨l, hl, isIn_iff.2 ⟨ht.symm, rfl⟩⟩
    obtain rfl := S.alone s (tells.held ▸ hs) (ht ▸ hin)
    rw [accepted_push, acceptedOn?_eq tells.accepted, if_pos ht, Option.toList_some, handed_push,
      handed?_of_hands hands, Option.toList_some, S.handed, List.drop_append_of_le_length S.since]
    exact ⟨by rw [List.length_append]; exact Nat.le_add_right_of_le S.since, rfl⟩
  · rw [accepted_push, silent, handed_push, L.tied.handed?_eq_none E silent, Option.toList_none,
      List.append_nil, List.append_nil]
    exact ⟨S.since, S.handed⟩

/-- It stays so, whatever is done, unless it is dropped or another one joins the group. -/
theorem Sole.act (S : Sole H l n) (L : Ledger H) (hdrop : a ≠ .drop l.serial)
    (hjoin : a ≠ .subscribe l.topic l.group) : Sole (H.act a) l n := by
  have hhanded : n ≤ ((H.act a).accepted l.topic).length ∧
      (H.act a).handed l = ((H.act a).accepted l.topic).drop n :=
    act_induction (P := fun H' => n ≤ (H'.accepted l.topic).length ∧
      H'.handed l = (H'.accepted l.topic).drop n) ⟨S.since, S.handed⟩ (fun _ _ => S.step L) a
  refine ⟨mem_held_act S.alive hdrop, fun s hs hin => ?_, hhanded.1, hhanded.2⟩
  obtain hs | rfl := mem_held_of_act hs
  · exact S.alone s hs hin
  · obtain ⟨ht, hg⟩ := isIn_iff.1 hin
    exact absurd (by rw [ht, hg]) hjoin

theorem accepted_act_subscribe {topic group : String}
    (h : H.broker.subscribe topic group = .ok (l, b)) (t : String) :
    (H.act (.subscribe topic group)).accepted t = H.accepted t := by
  rw [act_subscribe h]
  exact accepted_push_of_none rfl t

/-- The first member of a group. -/
theorem Sole.of_subscribe (L : Ledger H) (h : H.broker.subscribe l.topic l.group = .ok (l, b))
    (free : ∀ s ∈ H.held, s.isIn l.topic l.group = false) :
    Sole (H.act (.subscribe l.topic l.group)) l (H.accepted l.topic).length := by
  have hserial : l.serial = H.broker.nextSerial := congrArg Subscription.serial (subscribe_eq_ok h).1
  have hnew : l ∉ H.issued := fun hi => Nat.lt_irrefl _ (hserial ▸ L.tied.fresh l hi)
  have haccepted := accepted_act_subscribe h l.topic
  have hhanded : (H.act (.subscribe l.topic l.group)).handed l = [] := by
    rw [act_subscribe h, handed_push, L.unborn l hnew]
    rfl
  refine ⟨?_, fun s hs hin => ?_, haccepted ▸ Nat.le_refl _, ?_⟩
  · rw [act_subscribe h]
    exact List.mem_append_right _ (.head _)
  · rw [act_subscribe h] at hs
    obtain hs | hs := List.mem_append.1 hs
    · rw [free s hs] at hin
      cases hin
    · exact List.mem_singleton.1 hs
  · rw [hhanded, haccepted, List.drop_length]

end CallGateway.Broker.History
