import CallGateway.Proofs.Broker.Carries

/-!
# Queues of single subscriptions

What each operation of a broker does to the queue of one subscription and to the serial numbers of
the members of one group. Only publishing and receiving touch the queues of those who stay.
-/

namespace CallGateway

namespace Group

/-- The messages that wait for a member. -/
def queue (g : Group) (serial : Nat) : List Message := ((g.member? serial).map (·.queue)).getD []

def serials (g : Group) : List Nat := g.members.map (·.serial)

theorem serials_join (g : Group) (serial : Nat) :
    (g.join serial).serials = g.serials ++ [serial] := by
  rw [serials, join, List.map_append]
  rfl

theorem serials_leave (g : Group) (serial : Nat) :
    (g.leave serial).serials = g.serials.filter (· != serial) := by
  rw [serials, leave, serials, List.filter_map]
  rfl

theorem serials_take (g : Group) (serial : Nat) : (g.take serial).serials = g.serials := by
  rw [serials, take, List.map_map]
  apply List.map_congr_left
  intro x _
  show (if x.serial = serial then { x with queue := x.queue.tail } else x).serial = x.serial
  split <;> rfl

theorem serials_deliver (g : Group) (m : Message) : (g.deliver m).serials = g.serials := by
  rw [deliver]
  split
  · rfl
  · apply List.ext_getElem?
    intro i
    rw [serials, serials, List.getElem?_map, List.getElem?_map, List.getElem?_modify]
    cases g.members[i]? with
    | none => rfl
    | some x =>
      show some (if g.turn = i then { x with queue := x.queue ++ [m] } else x).serial = _
      split <;> rfl

theorem serial_of_member? {g : Group} {x : Member} (h : g.member? serial = some x) :
    x.serial = serial :=
  beq_iff_eq.1 (List.find?_some (p := fun x : Member => x.serial == serial) h)

theorem member?_of_not_mem {g : Group} (h : serial ∉ g.serials) : g.member? serial = none := by
  apply List.find?_eq_none.2
  intro x hx hs
  exact h (List.mem_map.2 ⟨x, hx, beq_iff_eq.1 hs⟩)

theorem queue_of_not_mem {g : Group} (h : serial ∉ g.serials) : g.queue serial = [] := by
  rw [queue, member?_of_not_mem h]
  rfl

/-- A new member starts with an empty queue. -/
theorem queue_join (g : Group) (serial serial' : Nat) :
    (g.join serial).queue serial' = g.queue serial' := by
  rw [queue, queue, member?, member?, join, List.find?_append]
  cases g.members.find? (·.serial == serial') with
  | some x => rfl
  | none =>
    rw [List.find?_singleton, Option.none_or]
    split <;> rfl

theorem queue_leave {g : Group} {serial serial' : Nat} (h : serial' ≠ serial) :
    (g.leave serial).queue serial' = g.queue serial' := by
  have hp : (fun x : Member =>
      decide ((x.serial != serial) = true ∧ (x.serial == serial') = true)) =
        fun x => x.serial == serial' := by
    funext x
    by_cases hx : x.serial = serial'
    · simp [hx, h]
    · simp [hx]
  rw [queue, queue, member?, member?, leave, List.find?_filter, hp]

/-- The queue of one member is changed. -/
theorem queue_map (g : Group) (cursor : UInt64) (serial : Nat)
    {f : List Message → List Message} (hf : f [] = [] ∨ serial ∈ g.serials) (serial' : Nat) :
    (Group.mk (g.members.map fun x =>
      if x.serial = serial then { x with queue := f x.queue } else x) cursor).queue serial' =
        if serial' = serial then f (g.queue serial') else g.queue serial' := by
  have hp : ((fun x : Member => x.serial == serial') ∘
      fun x => if x.serial = serial then { x with queue := f x.queue } else x) =
        fun x => x.serial == serial' := by
    funext x
    simp only [Function.comp]
    split <;> rfl
  rw [queue, member?, List.find?_map, hp, queue, ← member?]
  cases h : g.member? serial' with
  | none =>
    split
    · next hs =>
      have hnil : f [] = [] := by
        apply hf.resolve_right
        intro hmem
        obtain ⟨x, hx, hs'⟩ := List.mem_map.1 hmem
        exact List.find?_eq_none.1 h x hx (beq_iff_eq.2 (hs'.trans hs.symm))
      exact hnil.symm
    · rfl
  | some x =>
    have hx : x.serial = serial' := serial_of_member? h
    simp only [Option.map_some, hx]
    split <;> rfl

theorem queue_take (g : Group) (serial serial' : Nat) : (g.take serial).queue serial' =
    if serial' = serial then (g.queue serial').tail else g.queue serial' :=
  queue_map g g.cursor serial (.inl rfl) serial'

/-- In a group without doubles a position stands for a member. -/
theorem modify_eq_map {xs : List Member} (hn : (xs.map (·.serial)).Nodup) {i : Nat} {x : Member}
    (hx : xs[i]? = some x) (f : Member → Member) :
    xs.modify i f = xs.map fun y => if y.serial = x.serial then f y else y := by
  apply List.ext_getElem?
  intro j
  rw [List.getElem?_modify, List.getElem?_map]
  cases hy : xs[j]? with
  | none => rfl
  | some y =>
    have hiff : i = j ↔ y.serial = x.serial := by
      constructor
      · rintro rfl
        cases hx.symm.trans hy
        rfl
      · intro hs
        obtain ⟨hi, -⟩ := List.getElem?_eq_some_iff.1 hx
        apply (List.getElem?_inj (by rwa [List.length_map]) hn).1
        rw [List.getElem?_map, List.getElem?_map, hx, hy, Option.map_some, Option.map_some, hs]
    simp only [Option.map_eq_map, Option.map_some, hiff]

theorem cursor_deliver {g : Group} (hne : g.serials ≠ []) (m : Message) :
    (g.deliver m).cursor = g.cursor + 1 := by
  rw [deliver, if_neg (by simpa [serials] using hne)]

theorem length_serials (g : Group) : g.serials.length = g.size := List.length_map _

theorem serials_turn {g : Group} (hne : g.serials ≠ []) :
    ∃ serial, g.serials[g.turn]? = some serial := by
  have hlt : g.turn < g.serials.length := by
    rw [turn, ← length_serials]
    exact Nat.mod_lt _ (List.length_pos_iff.2 hne)
  exact ⟨_, List.getElem?_eq_getElem hlt⟩

/-- A message goes to the member whose turn it is. -/
theorem queue_deliver {g : Group} (hn : g.serials.Nodup)
    (hturn : g.serials[g.turn]? = some serial) (m : Message) (serial' : Nat) :
    (g.deliver m).queue serial' =
      if serial' = serial then g.queue serial' ++ [m] else g.queue serial' := by
  rw [serials, List.getElem?_map] at hturn
  obtain ⟨x, hx, rfl⟩ := Option.map_eq_some_iff.1 hturn
  have hmem : x ∈ g.members := List.mem_of_getElem? hx
  rw [deliver, if_neg (by simpa using List.ne_nil_of_mem hmem), modify_eq_map hn hx]
  exact queue_map g _ _ (f := fun q => q ++ [m]) (.inr (List.mem_map_of_mem hmem)) serial'

end Group

namespace Broker

variable {b b' : Broker} {s s' : Subscription}

theorem topic_congr (h : b'.topics = b.topics) (name : String) : b'.topic name = b.topic name := by
  rw [topic, topic, h]

theorem group_congr (h : b'.topics = b.topics) (topic group : String) :
    b'.group topic group = b.group topic group := by
  rw [Broker.group, Broker.group, topic_congr h]

theorem queue_congr (h : b'.topics = b.topics) (s : Subscription) : b'.queue s = b.queue s := by
  rw [queue, queue, group_congr h]

theorem queue_eq (b : Broker) (s : Subscription) :
    b.queue s = (b.group s.topic s.group).queue s.serial := by
  rw [Broker.queue, Group.queue]
  cases (b.group s.topic s.group).member? s.serial <;> rfl

theorem nextOffset_setGroup (b : Broker) (topic group : String) (g : Group) (name : String) :
    ((b.setGroup topic group g).topic name).nextOffset = (b.topic name).nextOffset := by
  rw [setGroup, topic_setTopic]
  split
  · next h => rw [h]
  · rfl

theorem serials_setGroup (b : Broker) (topic group : String) (g : Group) (t h : String) :
    ((b.setGroup topic group g).group t h).serials =
      if t = topic ∧ h = group then g.serials else (b.group t h).serials := by
  rw [group_setGroup]
  split <;> rfl

theorem queue_setGroup (b : Broker) (topic group : String) (g : Group) (s : Subscription) :
    (b.setGroup topic group g).queue s =
      if s.topic = topic ∧ s.group = group then g.queue s.serial else b.queue s := by
  rw [queue_eq, queue_eq, group_setGroup]
  split <;> rfl

/-- Subscribers come without messages, and under serial numbers that nobody had before. -/
theorem subscribe_eq_ok {topic group : String} (H : b.subscribe topic group = .ok (s, b')) :
    s = ⟨topic, group, b.nextSerial⟩ ∧
      (∀ t g, (b'.group t g).serials = if t = topic ∧ g = group then
        (b.group t g).serials ++ [b.nextSerial] else (b.group t g).serials) ∧
      b'.nextSerial = b.nextSerial + 1 ∧
      (∀ t, (b'.topic t).nextOffset = (b.topic t).nextOffset) ∧ ∀ s', b'.queue s' = b.queue s' := by
  rw [subscribe] at H
  split at H
  · cases H
  obtain ⟨rfl, rfl⟩ := Prod.mk.inj (Except.ok.inj H)
  refine ⟨rfl, ?_, rfl, fun t => nextOffset_setGroup b topic group _ t, ?_⟩
  · intro t g
    refine (serials_setGroup b topic group _ t g).trans ?_
    split
    · next h =>
      obtain ⟨rfl, rfl⟩ := h
      exact Group.serials_join _ _
    · rfl
  · intro s'
    refine (queue_setGroup b topic group _ s').trans ?_
    split
    · next h => rw [Group.queue_join, queue_eq, h.1, h.2]
    · rfl

/-- In one group the serial numbers tell subscriptions apart. -/
theorem serial_ne (h : s' ≠ s) (hs : s'.topic = s.topic ∧ s'.group = s.group) :
    s'.serial ≠ s.serial := by
  intro hserial
  apply h
  obtain ⟨t, g, n⟩ := s
  obtain ⟨t', g', n'⟩ := s'
  obtain ⟨rfl, rfl⟩ := hs
  cases hserial
  rfl

theorem serials_unsubscribe (b : Broker) (s : Subscription) (t g : String) :
    ((b.unsubscribe s).group t g).serials = if t = s.topic ∧ g = s.group then
      (b.group t g).serials.filter (· != s.serial) else (b.group t g).serials := by
  rw [unsubscribe, serials_setGroup]
  split
  · next h => rw [h.1, h.2, Group.serials_leave]
  · rfl

theorem queue_unsubscribe (b : Broker) (h : s' ≠ s) : (b.unsubscribe s).queue s' = b.queue s' := by
  rw [unsubscribe, queue_setGroup]
  split
  · next hs =>
    rw [Group.queue_leave (serial_ne h hs), queue_eq, hs.1, hs.2]
  · rfl

/-- The first message is taken off the queue, and the other queues stay as they are. -/
theorem receive?_eq_some {m : Message} (H : b.receive? s = some (m, b')) :
    (∀ t g, (b'.group t g).serials = (b.group t g).serials) ∧ b'.nextSerial = b.nextSerial ∧
      (∀ t, (b'.topic t).nextOffset = (b.topic t).nextOffset) ∧
      b.queue s = m :: b'.queue s ∧ ∀ s' ≠ s, b'.queue s' = b.queue s' := by
  rw [receive?] at H
  split at H
  · cases H
  next m' ms hq =>
  obtain ⟨rfl, rfl⟩ := Prod.mk.inj (Option.some.inj H)
  refine ⟨?_, rfl, nextOffset_setGroup b _ _ _, ?_, ?_⟩
  · intro t g
    rw [serials_setGroup]
    split
    · next h => rw [h.1, h.2, Group.serials_take]
    · rfl
  · rw [queue_setGroup, if_pos ⟨rfl, rfl⟩, Group.queue_take, if_pos rfl, ← queue_eq, hq]
    rfl
  · intro s' hne
    rw [queue_setGroup]
    split
    · next h =>
      rw [Group.queue_take, if_neg (serial_ne hne h), queue_eq, h.1, h.2]
    · rfl

theorem fst_receive? (b : Broker) (s : Subscription) :
    (b.receive? s).map (·.1) = (b.queue s).head? := by
  rw [receive?]
  cases b.queue s <;> rfl

theorem publish_eq_ok {topic key : String} {payload : Bytes} {r : Receipt}
    (H : b.publish topic key payload = .ok (r, b')) :
    r = ⟨topic, 0, (b.topic topic).nextOffset⟩ ∧
      b' = b.accept ⟨topic, key, payload, (b.topic topic).nextOffset⟩ := by
  rw [publish] at H
  split at H
  · cases H
  split at H
  · cases H
  · cases H
    exact ⟨rfl, rfl⟩

theorem serials_accept (b : Broker) (m : Message) (t g : String) :
    ((b.accept m).group t g).serials = (b.group t g).serials := by
  rw [group_accept]
  split
  · exact Group.serials_deliver _ _
  · rfl

theorem nextOffset_accept (b : Broker) (m : Message) (t : String) :
    ((b.accept m).topic t).nextOffset =
      if t = m.topic then (b.topic t).nextOffset + 1 else (b.topic t).nextOffset := by
  rw [accept, topic_setTopic]
  split
  · next h => rw [h]
  · rfl

theorem queue_accept_of_ne {m : Message} (h : s.topic ≠ m.topic) :
    (b.accept m).queue s = b.queue s := by
  rw [queue_eq, queue_eq, group_accept, if_neg h]

/-- In each group an accepted message goes to the member whose turn it is. -/
theorem queue_accept_turn {m : Message} (hn : (b.group s.topic s.group).serials.Nodup)
    (hturn : (b.group s.topic s.group).serials[(b.group s.topic s.group).turn]? = some serial)
    (ht : s.topic = m.topic) : (b.accept m).queue s =
      if s.serial = serial then b.queue s ++ [m] else b.queue s := by
  rw [queue_eq, queue_eq, group_accept, if_pos ht]
  exact Group.queue_deliver hn hturn m s.serial

/-- An accepted message goes to one member of each group that has members. -/
theorem queue_accept {m : Message} {g : String} (hn : (b.group m.topic g).serials.Nodup)
    (hne : (b.group m.topic g).serials ≠ []) : ∃ serial ∈ (b.group m.topic g).serials,
      ∀ s, s.topic = m.topic → s.group = g → (b.accept m).queue s =
        if s.serial = serial then b.queue s ++ [m] else b.queue s := by
  obtain ⟨serial, hturn⟩ := Group.serials_turn hne
  refine ⟨serial, List.mem_of_getElem? hturn, ?_⟩
  rintro s ht rfl
  rw [← ht] at hn hturn
  exact queue_accept_turn hn hturn ht

theorem queue_of_not_mem (h : s.serial ∉ (b.group s.topic s.group).serials) : b.queue s = [] := by
  rw [queue_eq, Group.queue_of_not_mem h]

/-- The only member of a group gets every message of its topic. -/
theorem queue_accept_only {m : Message} (hs : (b.group s.topic s.group).serials = [s.serial])
    (ht : s.topic = m.topic) : (b.accept m).queue s = b.queue s ++ [m] := by
  rw [ht] at hs
  obtain ⟨serial, hserial, hq⟩ := queue_accept (hs ▸ List.pairwise_singleton ..)
    (hs ▸ List.cons_ne_nil _ _)
  rw [hs, List.mem_singleton] at hserial
  rw [hq s ht rfl, if_pos hserial.symm]

/-- A queue stays as it is, or the message stands last in it. -/
theorem queue_accept_cases (hn : (b.group s.topic s.group).serials.Nodup) (m : Message) :
    (b.accept m).queue s = b.queue s ∨
      s.topic = m.topic ∧ (b.accept m).queue s = b.queue s ++ [m] := by
  by_cases ht : s.topic = m.topic
  · rw [ht] at hn
    by_cases hne : (b.group m.topic s.group).serials = []
    · have hs : s.serial ∉ (b.group s.topic s.group).serials := by
        rw [ht, hne]
        exact List.not_mem_nil
      refine .inl ?_
      rw [queue_of_not_mem hs, queue_of_not_mem (serials_accept b m .. ▸ hs)]
    · obtain ⟨serial, -, hq⟩ := queue_accept hn hne
      rw [hq s ht rfl]
      split
      · exact .inr ⟨ht, rfl⟩
      · exact .inl rfl
  · exact .inl (queue_accept_of_ne ht)

theorem mem_queue_accept {m m' : Message} (hn : (b.group s.topic s.group).serials.Nodup)
    (h : m' ∈ (b.accept m).queue s) : m' ∈ b.queue s ∨ m' = m ∧ s.topic = m.topic := by
  obtain hq | ⟨ht, hq⟩ := queue_accept_cases hn m
  · exact .inl (hq ▸ h)
  · rw [hq] at h
    exact (List.mem_append.1 h).imp_right fun h => ⟨List.mem_singleton.1 h, ht⟩

/-- Those of the messages that are of a topic. -/
def onTopic (topic : String) (ms : List Message) : List Message := ms.filter (·.topic == topic)

theorem mem_onTopic {topic : String} {m : Message} {ms : List Message} :
    m ∈ onTopic topic ms ↔ m ∈ ms ∧ m.topic = topic := by
  rw [onTopic, List.mem_filter, beq_iff_eq]

theorem onTopic_concat (topic : String) (ms : List Message) (m : Message) :
    onTopic topic (ms ++ [m]) = onTopic topic ms ++ if m.topic = topic then [m] else [] := by
  rw [onTopic, List.filter_append, onTopic]
  by_cases h : m.topic = topic
  · simp [h]
  · simp [h]

end Broker

end CallGateway
