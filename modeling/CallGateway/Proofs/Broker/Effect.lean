import CallGateway.Proofs.Broker.History
import CallGateway.Proofs.Broker.Queues

/-!
# What a step of a broker does

Every action subscribes, drops, publishes, takes a message off a queue, or moves no message at all.
From this follows what ties the broker to its history: the members of its groups are the
subscriptions that are alive, serial numbers do not come twice, and the messages of a topic are
numbered one by one.
-/

namespace CallGateway.Broker.History

/-- What the record of an action tells: where it has started from, a new subscription, a message
that has been accepted, and the message that has been received on a subscription. -/
structure Tells (H : History) (r : Record) (s : Option Subscription) (m : Option Message)
    (got : Subscription → Option Message) : Prop where
  before : r.before = H.broker
  held : r.held = H.held
  subscribed : r.subscribed? = s
  accepted : r.accepted? = m
  received : ∀ s', r.received? s' = got s'

/-- All that an action can do with the broker of a history. -/
inductive Effect (H : History) (r : Record) (held : List Subscription) : Prop
  | subscribed (s : Subscription) (tells : Tells H r (some s) none fun _ => none)
    (after : H.broker.subscribe s.topic s.group = .ok (s, r.after)) (alive : held = H.held ++ [s])
  | dropped (s : Subscription) (mem : s ∈ H.held) (tells : Tells H r none none fun _ => none)
    (after : r.after = H.broker.unsubscribe s) (alive : held = H.held.filter (· != s))
  | accepted (m : Message) (tells : Tells H r none (some m) fun _ => none)
    (offset : m.offset = (H.broker.topic m.topic).nextOffset) (after : r.after = H.broker.accept m)
    (alive : held = H.held)
  | received (s : Subscription) (m : Message) (mem : s ∈ H.held)
    (tells : Tells H r none none fun s' => if s = s' then some m else none)
    (after : H.broker.receive? s = some (m, r.after)) (alive : held = H.held)
  | quiet (tells : Tells H r none none fun _ => none) (topics : r.after.topics = H.broker.topics)
    (nextSerial : r.after.nextSerial = H.broker.nextSerial) (alive : held = H.held)

theorem mem_of_subscription? {H : History} {serial : Nat} {s : Subscription}
    (h : H.subscription? serial = some s) : s ∈ H.held :=
  List.mem_of_find?_eq_some h

theorem perform?_effect {H : History} {a : Action} {answer : Answer} {after : Broker}
    {held : List Subscription} (h : H.perform? a = some (answer, after, held)) :
    Effect H ⟨a, H.broker, H.held, answer, after⟩ held := by
  cases a with
  | subscribe topic group =>
    simp only [perform?] at h
    split at h
    · next s b hs =>
      cases h
      have hs' : s.topic = topic ∧ s.group = group := by
        rw [(subscribe_eq_ok hs).1]
        exact ⟨rfl, rfl⟩
      refine .subscribed s ⟨rfl, rfl, rfl, rfl, fun _ => rfl⟩ ?_ rfl
      rw [hs'.1, hs'.2]
      exact hs
    · cases h
      exact .quiet ⟨rfl, rfl, rfl, rfl, fun _ => rfl⟩ rfl rfl rfl
  | drop serial =>
    simp only [perform?] at h
    obtain ⟨s, hs, h⟩ := Option.map_eq_some_iff.1 h
    cases h
    exact .dropped s (mem_of_subscription? hs) ⟨rfl, rfl, rfl, rfl, fun _ => rfl⟩ rfl rfl
  | publish topic key payload =>
    simp only [perform?] at h
    split at h
    · next r b hp =>
      cases h
      obtain ⟨rfl, rfl⟩ := publish_eq_ok hp
      exact .accepted _ ⟨rfl, rfl, rfl, rfl, fun _ => rfl⟩ rfl rfl rfl
    · cases h
      exact .quiet ⟨rfl, rfl, rfl, rfl, fun _ => rfl⟩ rfl rfl rfl
  | receive serial =>
    simp only [perform?] at h
    obtain ⟨s, hs, h⟩ := Option.map_eq_some_iff.1 h
    split at h
    · next m b hr =>
      cases h
      exact .received s m (mem_of_subscription? hs) ⟨rfl, rfl, rfl, rfl, fun _ => rfl⟩ hr rfl
    · cases h
      refine .quiet ⟨rfl, rfl, rfl, rfl, fun s' => ?_⟩ rfl rfl rfl
      show (if s = s' then none else none) = none
      split <;> rfl
  | failTopic topic | restoreTopic topic =>
    cases h
    exact .quiet ⟨rfl, rfl, rfl, rfl, fun _ => rfl⟩ rfl rfl rfl

/-- An action goes on with the effect that it has. -/
theorem act_induction {P : History → Prop} {H : History} (h : P H)
    (step : ∀ r held, Effect H r held → P (H.push r held)) (a : Action) : P (H.act a) := by
  rw [act]
  cases hp : H.perform? a with
  | none => exact h
  | some x => exact step _ _ (perform?_effect hp)

/-! ## One more record -/

variable {H : History} {r : Record} {held : List Subscription} {s : Subscription}

theorem filterMap_concat (f : Record → Option α) (rs : List Record) (r : Record) :
    (rs ++ [r]).filterMap f = rs.filterMap f ++ (f r).toList := by
  rw [List.filterMap_append, List.filterMap_cons]
  cases f r <;> rfl

theorem issued_push (H : History) (r : Record) (held : List Subscription) :
    (H.push r held).issued = H.issued ++ r.subscribed?.toList := filterMap_concat ..

theorem issued_push_of_none (h : r.subscribed? = none) :
    (H.push r held).issued = H.issued := by
  rw [issued_push, h]
  exact List.append_nil _

theorem accepted_push (H : History) (r : Record) (held : List Subscription) (topic : String) :
    (H.push r held).accepted topic = H.accepted topic ++ (r.acceptedOn? topic).toList :=
  filterMap_concat ..

theorem handed_push (H : History) (r : Record) (held : List Subscription) (s : Subscription) :
    (H.push r held).handed s = H.handed s ++ (r.handed? s).toList := filterMap_concat ..

theorem received_push (H : History) (r : Record) (held : List Subscription) (s : Subscription) :
    (H.push r held).received s = H.received s ++ (r.received? s).toList := filterMap_concat ..

theorem acceptedOn?_eq_none (h : r.accepted? = none) (topic : String) :
    r.acceptedOn? topic = none := by
  rw [Record.acceptedOn?, h]
  rfl

theorem acceptedOn?_eq {m : Message} (h : r.accepted? = some m) (topic : String) :
    r.acceptedOn? topic = if m.topic = topic then some m else none := by
  rw [Record.acceptedOn?, h, Option.filter_some]
  simp only [beq_iff_eq]

theorem accepted_push_of_none (h : r.accepted? = none) (topic : String) :
    (H.push r held).accepted topic = H.accepted topic := by
  rw [accepted_push, acceptedOn?_eq_none h]
  exact List.append_nil _

/-! ## Broker and history -/

/-- What ties a broker to its history. -/
structure Tied (H : History) : Prop where
  serials : ∀ t g, (H.broker.group t g).serials = (H.held.filter (·.isIn t g)).map (·.serial)
  held : H.held.Sublist H.issued
  distinct : (H.issued.map (·.serial)).Nodup
  fresh : ∀ s ∈ H.issued, s.serial < H.broker.nextSerial
  offsets : ∀ t, (H.accepted t).map (·.offset) = List.range (H.broker.topic t).nextOffset

theorem Tied.start (keepHistory : Bool) : Tied (start keepHistory) where
  serials _ _ := rfl
  held := .slnil
  distinct := .nil
  fresh := nofun
  offsets _ := rfl

theorem isIn_iff {t g : String} : s.isIn t g = true ↔ s.topic = t ∧ s.group = g := by
  rw [Subscription.isIn, Bool.and_eq_true, beq_iff_eq, beq_iff_eq]

namespace Tied

theorem serials_subscribe (T : Tied H) (s : Subscription) (t g : String) :
    ((H.held ++ [s]).filter (·.isIn t g)).map (·.serial) =
      if t = s.topic ∧ g = s.group then (H.broker.group t g).serials ++ [s.serial]
      else (H.broker.group t g).serials := by
  rw [T.serials, List.filter_append, List.map_append]
  split
  · next h =>
    have hin : s.isIn t g = true := isIn_iff.2 ⟨h.1.symm, h.2.symm⟩
    rw [List.filter_cons_of_pos hin]
    rfl
  · next h =>
    have hout : ¬ s.isIn t g = true := fun hin => h ((isIn_iff.1 hin).imp Eq.symm Eq.symm)
    rw [List.filter_cons_of_neg hout]
    exact List.append_nil _

theorem serials_drop (T : Tied H) (s : Subscription) (t g : String) :
    ((H.held.filter (· != s)).filter (·.isIn t g)).map (·.serial) =
      if t = s.topic ∧ g = s.group then (H.broker.group t g).serials.filter (· != s.serial)
      else (H.broker.group t g).serials := by
  rw [T.serials, List.filter_filter]
  split
  · next h =>
    rw [List.filter_map, List.filter_filter]
    apply congrArg
    apply List.filter_congr
    intro s' _
    rw [Bool.eq_iff_iff, Bool.and_eq_true, Bool.and_eq_true, bne_iff_ne, Function.comp, bne_iff_ne]
    constructor
    · rintro ⟨hin, hne⟩
      have hs : s'.topic = s.topic ∧ s'.group = s.group := by rwa [h.1, h.2, isIn_iff] at hin
      exact ⟨serial_ne hne hs, hin⟩
    · rintro ⟨hne, hin⟩
      exact ⟨hin, fun hs => hne (congrArg Subscription.serial hs)⟩
  · next h =>
    apply congrArg
    apply List.filter_congr
    intro s' _
    rw [Bool.eq_iff_iff, Bool.and_eq_true, bne_iff_ne]
    constructor
    · exact And.left
    · intro hin
      refine ⟨hin, ?_⟩
      rintro rfl
      exact h ((isIn_iff.1 hin).imp Eq.symm Eq.symm)

theorem step_of_no_subscription (T : Tied H) (hs : r.subscribed? = none)
    (hserials : ∀ t g, (r.after.group t g).serials = (held.filter (·.isIn t g)).map (·.serial))
    (hheld : held.Sublist H.held) (hnext : r.after.nextSerial = H.broker.nextSerial)
    (hoffsets : ∀ t, ((H.push r held).accepted t).map (·.offset) =
      List.range (r.after.topic t).nextOffset) : Tied (H.push r held) := by
  have hissued : (H.push r held).issued = H.issued := issued_push_of_none hs
  refine ⟨hserials, ?_, ?_, ?_, hoffsets⟩
  · rw [hissued]
    exact hheld.trans T.held
  · rw [hissued]
    exact T.distinct
  · rw [hissued]
    show ∀ s ∈ H.issued, s.serial < r.after.nextSerial
    rw [hnext]
    exact T.fresh

/-- A new member comes under a serial number that nobody has had. -/
theorem step_of_subscription (T : Tied H) (tells : Tells H r (some s) none fun _ => none)
    (after : H.broker.subscribe s.topic s.group = .ok (s, r.after)) :
    Tied (H.push r (H.held ++ [s])) := by
  obtain ⟨hs, hserials, hnext, hoffset, -⟩ := subscribe_eq_ok after
  have hserial : s.serial = H.broker.nextSerial := congrArg Subscription.serial hs
  rw [← hserial] at hserials hnext
  have hissued : (H.push r (H.held ++ [s])).issued = H.issued ++ [s] := by
    rw [issued_push, tells.subscribed, Option.toList_some]
  have hfresh : ∀ s' ∈ H.issued, s'.serial < s.serial := hserial ▸ T.fresh
  refine ⟨fun t g => ?_, ?_, ?_, ?_, fun t => ?_⟩
  · exact (hserials t g).trans (T.serials_subscribe s t g).symm
  · rw [hissued]
    exact T.held.append_right _
  · rw [hissued, List.map_append, List.nodup_append]
    refine ⟨T.distinct, by simp, ?_⟩
    intro n hn n' hn'
    obtain ⟨s', hs', rfl⟩ := List.mem_map.1 hn
    rw [List.mem_singleton.1 hn']
    exact Nat.ne_of_lt (hfresh s' hs')
  · rw [hissued]
    intro s' hs'
    show s'.serial < r.after.nextSerial
    rw [hnext]
    obtain hs' | hs' := List.mem_append.1 hs'
    · exact Nat.lt_succ_of_lt (hfresh s' hs')
    · rw [List.mem_singleton.1 hs']
      exact Nat.lt_succ_self _
  · rw [accepted_push_of_none tells.accepted, T.offsets]
    exact congrArg List.range (hoffset t).symm

theorem step (T : Tied H) (E : Effect H r held) : Tied (H.push r held) := by
  cases E with
  | subscribed s tells after alive =>
    subst alive
    exact T.step_of_subscription tells after
  | dropped s mem tells after alive =>
    subst alive
    refine T.step_of_no_subscription tells.subscribed (fun t g => ?_) List.filter_sublist ?_
      (fun t => ?_)
    · rw [T.serials_drop, after, serials_unsubscribe]
    · rw [after]
      rfl
    · rw [accepted_push_of_none tells.accepted, after, unsubscribe, nextOffset_setGroup]
      exact T.offsets t
  | accepted m tells offset after alive =>
    subst alive
    refine T.step_of_no_subscription tells.subscribed (fun t g => ?_) (.refl _) ?_ (fun t => ?_)
    · rw [after, serials_accept, T.serials]
    · rw [after]
      rfl
    · rw [accepted_push, acceptedOn?_eq tells.accepted, after, nextOffset_accept, List.map_append,
        T.offsets]
      by_cases h : m.topic = t
      · rw [if_pos h, if_pos h.symm, List.range_succ, ← h, ← offset]
        rfl
      · rw [if_neg h, if_neg (Ne.symm h)]
        exact List.append_nil _
  | received s m mem tells after alive =>
    subst alive
    obtain ⟨hserials, hnext, hoffset, -, -⟩ := receive?_eq_some after
    refine T.step_of_no_subscription tells.subscribed (fun t g => ?_) (.refl _) hnext
      (fun t => ?_)
    · rw [hserials, T.serials]
    · rw [accepted_push_of_none tells.accepted, hoffset]
      exact T.offsets t
  | quiet tells topics nextSerial alive =>
    subst alive
    refine T.step_of_no_subscription tells.subscribed (fun t g => ?_) (.refl _) nextSerial
      (fun t => ?_)
    · rw [group_congr topics, T.serials]
    · rw [accepted_push_of_none tells.accepted, topic_congr topics]
      exact T.offsets t

theorem nodup_serials (T : Tied H) (t g : String) : (H.broker.group t g).serials.Nodup := by
  rw [T.serials]
  exact (List.filter_sublist.map _).nodup ((T.held.map _).nodup T.distinct)

/-- The serial numbers of the members of a group are those of the subscriptions that are alive. -/
theorem mem_serials_iff (T : Tied H) :
    s.serial ∈ (H.broker.group s.topic s.group).serials ↔ s ∈ H.held := by
  rw [T.serials, List.mem_map]
  constructor
  · rintro ⟨s', hs', hserial⟩
    obtain ⟨hmem, hin⟩ := List.mem_filter.1 hs'
    have heq : s' = s := Decidable.byContradiction fun hne => serial_ne hne (isIn_iff.1 hin) hserial
    rwa [← heq]
  · intro h
    exact ⟨s, List.mem_filter.2 ⟨h, isIn_iff.2 ⟨rfl, rfl⟩⟩, rfl⟩

end Tied

end CallGateway.Broker.History
