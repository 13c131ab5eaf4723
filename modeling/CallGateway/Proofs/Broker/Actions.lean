import Mathlib.Data.List.Nodup
import CallGateway.Proofs.Broker.Books

/-!
# What single actions add to a history

Whoever holds a subscription knows what an action does to it. It stays unless it is dropped, its
holder receives nothing unless asked for, and what has been given on it stays given.
-/

namespace CallGateway.Broker.History

variable {H : History} {r : Record} {held : List Subscription} {s s' : Subscription} {a : Action}
  {b : Broker} {m : Message}

theorem Ledger.act (L : Ledger H) (a : Action) : Ledger (H.act a) :=
  act_induction L (fun _ _ => L.step) a

theorem serial_of_subscription? {serial : Nat} (h : H.subscription? serial = some s) :
    s.serial = serial :=
  beq_iff_eq.1 (List.find?_some (p := fun s : Subscription => s.serial == serial) h)

/-- Live subscriptions go by their serial numbers. -/
theorem Tied.subscription?_of_mem (T : Tied H) (hs : s ∈ H.held) :
    H.subscription? s.serial = some s := by
  have distinct : (H.held.map (·.serial)).Nodup := (T.held.map _).nodup T.distinct
  cases h : H.subscription? s.serial with
  | none => exact absurd (beq_self_eq_true _) (List.find?_eq_none.1 h s hs)
  | some s' =>
    exact congrArg some (List.inj_on_of_nodup_map distinct (mem_of_subscription? h) hs
      (serial_of_subscription? h))

theorem handed_act (H : History) (a : Action) (s : Subscription) :
    H.handed s <+: (H.act a).handed s := by
  rw [act]
  split
  · exact List.prefix_refl _
  · rw [handed_push]
    exact List.prefix_append _ _

/-- The subscriptions that are alive stay as they are, or one more comes, or one is dropped. -/
theorem held_act (H : History) (a : Action) : (H.act a).held = H.held ∨
    (∃ s, a = .subscribe s.topic s.group ∧ (H.act a).held = H.held ++ [s]) ∨
      ∃ s ∈ H.held, a = .drop s.serial ∧ (H.act a).held = H.held.filter (· != s) := by
  rw [act]
  cases a with
  | subscribe topic group =>
    simp only [perform?]
    split
    · next s b hs =>
      rw [(subscribe_eq_ok hs).1]
      exact .inr (.inl ⟨_, rfl, rfl⟩)
    · exact .inl rfl
  | drop serial =>
    rw [perform?]
    cases h : H.subscription? serial with
    | none => exact .inl rfl
    | some s =>
      have hs : serial = s.serial := (serial_of_subscription? h).symm
      exact .inr (.inr ⟨s, mem_of_subscription? h, congrArg _ hs, rfl⟩)
  | publish topic key payload =>
    simp only [perform?]
    split <;> exact .inl rfl
  | receive serial =>
    rw [perform?]
    cases H.subscription? serial with
    | none => exact .inl rfl
    | some s =>
      simp only [Option.map_some]
      split <;> exact .inl rfl
  | failTopic topic | restoreTopic topic => exact .inl rfl

/-- A subscription stays alive until it is dropped. -/
theorem mem_held_act (hs : s ∈ H.held) (ha : a ≠ .drop s.serial) : s ∈ (H.act a).held := by
  obtain h | ⟨x, -, h⟩ | ⟨x, -, hx, h⟩ := held_act H a <;> rw [h]
  · exact hs
  · exact List.mem_append_left _ hs
  · exact List.mem_filter.2 ⟨hs, bne_iff_ne.2 fun heq => ha (heq ▸ hx)⟩

/-- A live subscription has been alive before, or this action has asked for it. -/
theorem mem_held_of_act (h : s ∈ (H.act a).held) : s ∈ H.held ∨ a = .subscribe s.topic s.group := by
  obtain hheld | ⟨x, hx, hheld⟩ | ⟨x, -, -, hheld⟩ := held_act H a <;> rw [hheld] at h
  · exact .inl h
  · obtain h | h := List.mem_append.1 h
    · exact .inl h
    · rw [List.mem_singleton.1 h]
      exact .inr hx
  · exact .inl (List.mem_filter.1 h).1

theorem receive_of_received {answer : Answer} {after : Broker} {held : List Subscription}
    (h : H.perform? a = some (answer, after, held)) {got : Option Message}
    (ha : answer = .received s got) : a = .receive s.serial := by
  subst ha
  cases a with
  | subscribe topic group | publish topic key payload =>
    simp only [perform?] at h
    split at h <;> cases h
  | drop serial =>
    obtain ⟨s', -, h⟩ := Option.map_eq_some_iff.1 h
    cases h
  | receive serial =>
    obtain ⟨s', hs, h⟩ := Option.map_eq_some_iff.1 h
    rw [← serial_of_subscription? hs]
    split at h <;> cases h <;> rfl
  | failTopic topic | restoreTopic topic => cases h

/-- Nothing is received for those who do not ask. -/
theorem received_act (H : History) (ha : a ≠ .receive s.serial) :
    (H.act a).received s = H.received s := by
  rw [act]
  cases hp : H.perform? a with
  | none => rfl
  | some x =>
    obtain ⟨answer, after, held⟩ := x
    rw [received_push]
    cases answer with
    | received s' got =>
      have hs : s' ≠ s := fun h => ha (h ▸ receive_of_received hp rfl)
      simp only [Record.received?, if_neg hs, Option.toList_none, List.append_nil]
    | _ => exact List.append_nil _

theorem act_receive (T : Tied H) (hs : s ∈ H.held) (h : H.broker.receive? s = some (m, b)) :
    H.act (.receive s.serial) =
      H.push ⟨.receive s.serial, H.broker, H.held, .received s (some m), b⟩ H.held := by
  rw [act, perform?, T.subscription?_of_mem hs, Option.map_some, h]

theorem received_act_receive (T : Tied H) (hs : s ∈ H.held) :
    (H.act (.receive s.serial)).received s =
      H.received s ++ ((H.broker.receive? s).map (·.1)).toList := by
  rw [act, perform?, T.subscription?_of_mem hs, Option.map_some]
  cases H.broker.receive? s <;> exact (received_push ..).trans (by simp [Record.received?])

theorem act_drop (T : Tied H) (hs : s ∈ H.held) : H.act (.drop s.serial) =
    H.push ⟨.drop s.serial, H.broker, H.held, .dropped, H.broker.unsubscribe s⟩
      (H.held.filter (· != s)) := by
  rw [act, perform?, T.subscription?_of_mem hs, Option.map_some]

theorem act_subscribe {topic group : String} (h : H.broker.subscribe topic group = .ok (s, b)) :
    H.act (.subscribe topic group) =
      H.push ⟨.subscribe topic group, H.broker, H.held, .subscribed s, b⟩ (H.held ++ [s]) := by
  simp only [act, perform?, h]

theorem broker_act_publish (H : History) (topic key : String) (payload : Bytes) :
    (H.act (.publish topic key payload)).broker =
      match H.broker.publish topic key payload with
      | .ok (_, b) => b
      | .error _ => H.broker := by
  simp only [act, perform?]
  cases H.broker.publish topic key payload <;> rfl

theorem actions_act_publish (H : History) (topic key : String) (payload : Bytes) :
    (H.act (.publish topic key payload)).actions =
      H.actions ++ [.publish topic key payload] := by
  simp only [act, perform?, actions, push, List.map_append, List.map_cons, List.map_nil]

/-- No action is forgotten. -/
theorem actions_act (H : History) (a : Action) : H.actions <+: (H.act a).actions := by
  rw [act]
  split
  · exact List.prefix_refl _
  · rw [actions, actions, push, List.map_append]
    exact List.prefix_append _ _

theorem topic_of_accepted {t : String} (h : m ∈ H.accepted t) : m.topic = t := by
  obtain ⟨r, -, hr⟩ := List.mem_filterMap.1 h
  exact beq_iff_eq.1 (Option.filter_eq_some_iff.1 hr).2

theorem Ledger.topic_of_handed (L : Ledger H) (h : m ∈ H.handed s) : m.topic = s.topic :=
  topic_of_accepted ((L.taken s).subset h)

/-- No message is given twice. -/
theorem Ledger.nodup_handed (L : Ledger H) (s : Subscription) : (H.handed s).Nodup := by
  have haccepted : (H.accepted s.topic).Nodup :=
    List.Nodup.of_map (·.offset) (L.tied.offsets s.topic ▸ List.nodup_range)
  exact (L.taken s).nodup haccepted

theorem topic_ne_of_acceptedOn? {t : String} (h : r.accepted? = some m)
    (silent : r.acceptedOn? t = none) : m.topic ≠ t := by
  intro ht
  rw [acceptedOn?_eq h, if_pos ht] at silent
  cases silent

/-- A step accepts a message on a topic, or it does not. -/
theorem Effect.accepts_or (E : Effect H r held) (t : String) :
    (∃ m, m.topic = t ∧ Tells H r none (some m) (fun _ => none) ∧
      r.after = H.broker.accept m) ∨ r.acceptedOn? t = none := by
  cases E with
  | subscribed _ tells | dropped _ _ tells | received _ _ _ tells | quiet tells =>
    exact .inr (acceptedOn?_eq_none tells.accepted t)
  | accepted m tells offset after =>
    by_cases ht : m.topic = t
    · exact .inl ⟨m, ht, tells, after⟩
    · rw [acceptedOn?_eq tells.accepted, if_neg ht]
      exact .inr rfl

/-- Nobody is given a message while none is accepted on the topic. -/
theorem Tied.handed?_eq_none (T : Tied H) (E : Effect H r held)
    (silent : r.acceptedOn? s.topic = none) : r.handed? s = none := by
  cases E with
  | subscribed _ tells | dropped _ _ tells | received _ _ _ tells | quiet tells =>
    exact History.handed?_eq_none tells.accepted s
  | accepted m tells offset after =>
    have ht : s.topic ≠ m.topic := (topic_ne_of_acceptedOn? tells.accepted silent).symm
    exact handed?_of_queue_eq ((T.distributes tells after).untouched s (.inr ht))

/-- What comes of a history for those who hold some subscriptions and do nothing. -/
structure Apart (subs : List Subscription) (H H' : History) : Prop where
  ledger : Ledger H'
  handed : ∀ s, H.handed s <+: H'.handed s
  held : ∀ s ∈ subs, s ∈ H.held → s ∈ H'.held
  received : ∀ s ∈ subs, H'.received s = H.received s
  actions : H.actions <+: H'.actions

theorem Apart.refl (L : Ledger H) (subs : List Subscription) : Apart subs H H :=
  ⟨L, fun _ => List.prefix_refl _, fun _ _ h => h, fun _ _ => rfl, List.prefix_refl _⟩

theorem Apart.trans {subs : List Subscription} {H₁ H₂ : History} (A : Apart subs H H₁)
    (A' : Apart subs H₁ H₂) : Apart subs H H₂ where
  ledger := A'.ledger
  handed s := (A.handed s).trans (A'.handed s)
  held s hs h := A'.held s hs (A.held s hs h)
  received s hs := (A'.received s hs).trans (A.received s hs)
  actions := A.actions.trans A'.actions

theorem Apart.of_act (L : Ledger H) {subs : List Subscription}
    (ha : ∀ s ∈ subs, a ≠ .drop s.serial ∧ a ≠ .receive s.serial) : Apart subs H (H.act a) where
  ledger := L.act a
  handed := handed_act H a
  held s hs h := mem_held_act h (ha s hs).1
  received s hs := received_act H (ha s hs).2
  actions := actions_act H a

end CallGateway.Broker.History
