import CallGateway.Broker

/-!
# What a broker carries

A property of what is published on a topic is a property of every message that waits in a queue of
that topic, whoever joins or leaves, publishes or receives.
-/

namespace CallGateway

namespace Broker

theorem topic_setTopic (b : Broker) (name : String) (t : Topic) (name' : String) :
    (b.setTopic name t).topic name' = if name' = name then t else b.topic name' := by
  rw [topic, setTopic, Keyed.get?_set]
  split <;> rfl

theorem group_setGroup (b : Broker) (topic group : String) (g : Group) (topic' group' : String) :
    (b.setGroup topic group g).group topic' group' =
      if topic' = topic ∧ group' = group then g else b.group topic' group' := by
  rw [Broker.group, setGroup, topic_setTopic]
  by_cases ht : topic' = topic
  · subst ht
    rw [if_pos rfl, Keyed.get?_set]
    by_cases hg : group' = group
    · rw [if_pos hg, if_pos ⟨rfl, hg⟩]; rfl
    · rw [if_neg hg, if_neg fun h => hg h.2]; rfl
  · rw [if_neg ht, if_neg fun h => ht h.1]; rfl

theorem group_accept (b : Broker) (m : Message) (topic group : String) :
    (b.accept m).group topic group =
      if topic = m.topic then (b.group topic group).deliver m else b.group topic group := by
  rw [Broker.group, accept, topic_setTopic]
  by_cases ht : topic = m.topic
  · subst ht
    rw [if_pos rfl, if_pos rfl, Keyed.get?_mapValues, Broker.group]
    cases (b.topic m.topic).groups.get? group <;> rfl
  · rw [if_neg ht, if_neg ht]; rfl

/-- Whatever waits in a queue has the property `P`, together with the topic of the queue. -/
def Carries (P : String → Bytes → Prop) (b : Broker) : Prop :=
  ∀ topic group, ∀ x ∈ (b.group topic group).members, ∀ m ∈ x.queue, P topic m.payload

variable {P Q : String → Bytes → Prop} {b b' : Broker}

theorem Carries.mono (H : b.Carries P) (h : ∀ topic bs, P topic bs → Q topic bs) : b.Carries Q :=
  fun topic group x hx m hm => h _ _ (H topic group x hx m hm)

theorem Carries.setGroup (H : b.Carries P) {topic group : String} {g : Group}
    (h : ∀ x ∈ g.members, ∀ m ∈ x.queue, P topic m.payload) :
    (b.setGroup topic group g).Carries P := by
  intro topic' group' x hx
  rw [group_setGroup] at hx
  split at hx
  · next ht => rw [ht.1]; exact h x hx
  · exact H topic' group' x hx

theorem mem_members_deliver {g : Group} {x : Member} {m : Message}
    (hx : x ∈ (g.deliver m).members) :
    x ∈ g.members ∨ ∃ y ∈ g.members, x = { y with queue := y.queue ++ [m] } := by
  rw [Group.deliver] at hx
  split at hx
  · exact .inl hx
  · obtain ⟨i, hi⟩ := List.mem_iff_getElem?.1 hx
    rw [List.getElem?_modify] at hi
    obtain ⟨y, hy, rfl⟩ := Option.map_eq_some_iff.1 hi
    have hy := List.mem_of_getElem? hy
    split
    · exact .inr ⟨y, hy, rfl⟩
    · exact .inl hy

theorem Carries.accept (H : b.Carries P) {m : Message} (hm : P m.topic m.payload) :
    (b.accept m).Carries P := by
  intro topic group x hx
  rw [group_accept] at hx
  split at hx
  · next ht =>
    rcases mem_members_deliver hx with hx | ⟨y, hy, rfl⟩
    · exact H topic group x hx
    · intro k hk
      rcases List.mem_append.1 hk with hk | hk
      · exact H topic group y hy k hk
      · rw [List.mem_singleton.1 hk, ht]
        exact hm
  · exact H topic group x hx

theorem Carries.publish (H : b.Carries P) {topic key : String} {payload : Bytes} {r : Receipt}
    (h : b.publish topic key payload = .ok (r, b')) (hp : P topic payload) : b'.Carries P := by
  rw [Broker.publish] at h
  split at h
  · cases h
  · split at h
    · cases h
    · cases h
      exact H.accept hp

theorem Carries.subscribe (H : b.Carries P) {topic group : String} {s : Subscription}
    (h : b.subscribe topic group = .ok (s, b')) : b'.Carries P := by
  rw [Broker.subscribe] at h
  split at h
  · cases h
  · cases h
    have : (b.setGroup topic group ((b.group topic group).join b.nextSerial)).Carries P := by
      refine H.setGroup fun x hx m hm => ?_
      rcases List.mem_append.1 hx with hx | hx
      · exact H topic group x hx m hm
      · rw [List.mem_singleton.1 hx] at hm
        cases hm
    exact this

theorem topic_of_subscribe {topic group : String} {s : Subscription}
    (h : b.subscribe topic group = .ok (s, b')) : s.topic = topic := by
  rw [Broker.subscribe] at h
  split at h
  · cases h
  · cases h; rfl

/-- What is received has the property, and what is left still has it. -/
theorem Carries.receive? (H : b.Carries P) {s : Subscription} {m : Message}
    (h : b.receive? s = some (m, b')) : P s.topic m.payload ∧ b'.Carries P := by
  rw [Broker.receive?] at h
  split at h
  · cases h
  · next m ms hq =>
    cases h
    constructor
    · rw [queue] at hq
      split at hq
      · next x hx =>
        exact H _ _ x (List.mem_of_find?_eq_some hx) m (hq ▸ .head _)
      · cases hq
    · refine H.setGroup fun x hx k hk => ?_
      obtain ⟨y, hy, rfl⟩ := List.mem_map.1 hx
      split at hk
      · exact H _ _ y hy k (List.mem_of_mem_tail hk)
      · exact H _ _ y hy k hk

theorem carries_new (b : Broker) (h : b.topics = .empty) : b.Carries P := by
  intro topic group x hx
  rw [Broker.group, Broker.topic, h] at hx
  cases hx

end Broker

end CallGateway
