import CallGateway.Proofs.Broker.Effect

/-!
# What a broker owes to its subscribers

A message that is accepted goes to one member of every group of its topic that has members. The
holder of a subscription receives what it has been given, first to last, and no other member of the
group receives any of it. If all members of a group stay, they have between them all messages that
have come since the first of them.
-/

namespace CallGateway.Broker

/-- A message goes to one member of each group of its topic that has live members, and to nobody
else. -/
structure Record.Distributes (r : Record) (m : Message) : Prop where
  one : ∀ g, (∃ s ∈ r.held, s.isIn m.topic g) → ∃ s ∈ r.held, s.isIn m.topic g ∧ r.Hands m s ∧
    ∀ s', s'.isIn m.topic g → s' ≠ s → r.after.queue s' = r.before.queue s'
  untouched : ∀ s, s ∉ r.held ∨ s.topic ≠ m.topic → r.after.queue s = r.before.queue s

namespace History

variable {H : History} {r : Record} {held : List Subscription} {s s' : Subscription} {m : Message}

/-! ## Messages and members -/

theorem handed?_of_hands (h : r.Hands m s) : r.handed? s = some m := by
  rw [Record.handed?, h.1, Option.filter_some, if_pos (decide_eq_true h)]

theorem handed?_eq_none (h : r.accepted? = none) (s : Subscription) : r.handed? s = none := by
  rw [Record.handed?, h]
  rfl

theorem handed?_of_queue_eq (h : r.after.queue s = r.before.queue s) : r.handed? s = none := by
  rw [Record.handed?, Option.filter_eq_none_iff]
  intro m _ hm
  have hq := (of_decide_eq_true hm).2
  rw [h] at hq
  exact List.cons_ne_nil _ _ (List.self_eq_append_right.1 hq)

/-- Every group takes the message as its members do. -/
theorem Tied.distributes (T : Tied H) (tells : Tells H r none (some m) fun _ => none)
    (after : r.after = H.broker.accept m) : r.Distributes m where
  one := by
    rintro g ⟨s₀, hheld, hin⟩
    rw [tells.held] at hheld
    have hmem : s₀.serial ∈ (H.broker.group m.topic g).serials := by
      rw [T.serials]
      exact List.mem_map_of_mem (List.mem_filter.2 ⟨hheld, hin⟩)
    obtain ⟨n, hserial, hq⟩ := queue_accept (T.nodup_serials _ _) (List.ne_nil_of_mem hmem)
    obtain ⟨s, hs, rfl⟩ := List.mem_map.1 (T.serials m.topic g ▸ hserial)
    obtain ⟨hs, hin⟩ := List.mem_filter.1 hs
    obtain ⟨ht, hg⟩ := isIn_iff.1 hin
    refine ⟨s, tells.held ▸ hs, hin, ⟨tells.accepted, ?_⟩, ?_⟩
    · rw [after, tells.before, hq s ht hg, if_pos rfl]
    · intro s' hin' hne
      obtain ⟨ht', hg'⟩ := isIn_iff.1 hin'
      rw [after, tells.before, hq s' ht' hg',
        if_neg (serial_ne hne ⟨ht'.trans ht.symm, hg'.trans hg.symm⟩)]
  untouched := by
    rintro s hs
    rw [after, tells.before]
    by_cases ht : s.topic = m.topic
    · have hmem : s.serial ∉ (H.broker.group s.topic s.group).serials := by
        rw [T.mem_serials_iff, ← tells.held]
        exact hs.resolve_right (not_not_intro ht)
      rw [queue_of_not_mem hmem]
      apply queue_of_not_mem
      rwa [serials_accept]
    · exact queue_accept_of_ne ht

/-- A message is given to a live subscription to its topic, or nothing is. -/
theorem handed_push_cases (D : r.Distributes m) (H : History) (held : List Subscription)
    (s : Subscription) : (s ∈ r.held ∧ s.topic = m.topic ∧ r.Hands m s ∧
        (H.push r held).handed s = H.handed s ++ [m]) ∨
      (r.after.queue s = r.before.queue s ∧ (H.push r held).handed s = H.handed s) := by
  have hkept (hq : r.after.queue s = r.before.queue s) :
      (H.push r held).handed s = H.handed s := by
    rw [handed_push, handed?_of_queue_eq hq, Option.toList_none, List.append_nil]
  by_cases h : s ∈ r.held ∧ s.topic = m.topic
  · have hin : s.isIn m.topic s.group := isIn_iff.2 ⟨h.2, rfl⟩
    obtain ⟨s', -, -, hands, hothers⟩ := D.one s.group ⟨s, h.1, hin⟩
    by_cases hs : s = s'
    · subst hs
      refine .inl ⟨h.1, h.2, hands, ?_⟩
      rw [handed_push, handed?_of_hands hands, Option.toList_some]
    · have hq := hothers s hin hs
      exact .inr ⟨hq, hkept hq⟩
  · have hq := D.untouched s (Decidable.not_and_iff_not_or_not.1 h)
    exact .inr ⟨hq, hkept hq⟩

theorem ne_of_hands (h : r.Hands m s) : r.after.queue s ≠ r.before.queue s := by
  rw [h.2]
  exact fun hq => List.cons_ne_nil _ _ (List.append_right_eq_self.1 hq)

/-- Two members of a group are not both given a message. -/
theorem eq_of_hands (D : r.Distributes m) (hheld : s ∈ r.held) (ht : s.topic = m.topic)
    (hg : s'.isIn s.topic s.group) (h : r.Hands m s) (h' : r.Hands m s') : s' = s := by
  have hin : s.isIn m.topic s.group := isIn_iff.2 ⟨ht, rfl⟩
  obtain ⟨s₀, -, -, -, hothers⟩ := D.one s.group ⟨s, hheld, hin⟩
  have heq (x : Subscription) (hx : x.isIn m.topic s.group) (hands : r.Hands m x) : x = s₀ :=
    Decidable.byContradiction fun hne => ne_of_hands hands (hothers x hx hne)
  exact (heq s' (ht ▸ hg) h').trans (heq s hin h).symm

theorem members_push (H : History) (r : Record) (held : List Subscription) (t g : String) :
    (H.push r held).members t g = H.members t g ++ r.subscribed?.toList.filter (·.isIn t g) := by
  rw [members, issued_push, List.filter_append]
  rfl

/-- A group is opened by its first member. -/
theorem members_eq_nil_iff {t g : String} :
    H.members t g = [] ↔ H.records.dropWhile (fun r => !r.opens t g) = [] := by
  rw [members, issued]
  induction H.records with
  | nil => exact ⟨fun _ => rfl, fun _ => rfl⟩
  | cons r rs ih =>
    cases hs : r.subscribed? with
    | none => simpa [Record.opens, hs] using ih
    | some s =>
      cases hin : s.isIn t g with
      | false => simpa [Record.opens, hs, hin] using ih
      | true => simp [Record.opens, hs, hin]

theorem since_push (hs : r.subscribed? = none) (t g : String) : (H.push r held).since t g =
    if H.members t g = [] then H.since t g else H.since t g ++ (r.acceptedOn? t).toList := by
  have hout : ¬ r.opens t g = true := by
    rw [Record.opens, hs]
    exact Bool.false_ne_true
  rw [since, since, push, List.dropWhile_append]
  simp only [members_eq_nil_iff, List.isEmpty_iff]
  split
  · next h => simp [h, hout]
  · exact filterMap_concat ..

theorem since_push_of_no_message (hm : r.accepted? = none) (t g : String) :
    (H.push r held).since t g = H.since t g := by
  have hnone := acceptedOn?_eq_none hm t
  rw [since, since, push, List.dropWhile_append]
  split
  · next h =>
    rw [List.isEmpty_iff.1 h, List.dropWhile_cons]
    split
    · rfl
    · exact List.filterMap_cons_none hnone
  · rw [filterMap_concat, hnone]
    exact List.append_nil _

theorem members_nodup (T : Tied H) (t g : String) : (H.members t g).Nodup := by
  have hissued : H.issued.Nodup :=
    List.Pairwise.of_map (·.serial) (fun _ _ hne h => hne (h ▸ rfl)) T.distinct
  exact List.filter_sublist.nodup hissued

theorem flatMap_congr {f f' : Subscription → List Message} {xs : List Subscription}
    (h : ∀ s ∈ xs, f s = f' s) : xs.flatMap f = xs.flatMap f' :=
  congrArg List.flatten (List.map_congr_left h)

/-- If one of the members is given a message more, they have this message more between them. -/
theorem flatMap_perm_concat {f f' : Subscription → List Message} {xs : List Subscription}
    (hn : xs.Nodup) (hs : s ∈ xs) (hf : f' s = f s ++ [m]) (ho : ∀ s' ∈ xs, s' ≠ s → f' s' = f s') :
    (xs.flatMap f').Perm (xs.flatMap f ++ [m]) := by
  induction xs with
  | nil => exact absurd hs List.not_mem_nil
  | cons x xs ih =>
    obtain ⟨hx, hn⟩ := List.nodup_cons.1 hn
    rw [List.flatMap_cons, List.flatMap_cons]
    obtain rfl | hs := List.mem_cons.1 hs
    · have hsame : xs.flatMap f' = xs.flatMap f := by
        apply flatMap_congr
        intro s' hs'
        exact ho s' (List.mem_cons_of_mem _ hs') fun h => hx (h ▸ hs')
      rw [hf, hsame, List.append_assoc, List.append_assoc]
      exact List.perm_append_comm.append_left _
    · have hxs : x ≠ s := fun h => hx (h ▸ hs)
      rw [ho x List.mem_cons_self hxs, List.append_assoc]
      exact (ih hn hs fun s' hs' => ho s' (List.mem_cons_of_mem _ hs')).append_left _

/-! ## The ledger -/

/-- What a history says of the messages that subscriptions have been given. -/
structure Ledger (H : History) : Prop where
  tied : Tied H
  distributed : ∀ r ∈ H.records, ∀ m, r.accepted? = some m → r.Distributes m
  waiting : ∀ s ∈ H.held, H.handed s = H.received s ++ H.broker.queue s
  past : ∀ s, H.received s <+: H.handed s
  unborn : ∀ s, s ∉ H.issued → H.handed s = []
  taken : ∀ s, (H.handed s).Sublist (H.accepted s.topic)
  apart : ∀ s s', s'.isIn s.topic s.group → s' ≠ s → ∀ m ∈ H.handed s, m ∉ H.handed s'
  complete : ∀ t g, (∀ s ∈ H.members t g, s ∈ H.held) →
    ((H.members t g).flatMap H.handed).Perm (H.since t g)

namespace Ledger

theorem start (keepHistory : Bool) : Ledger (start keepHistory) where
  tied := .start keepHistory
  distributed _ hr := absurd hr List.not_mem_nil
  waiting _ hs := absurd hs List.not_mem_nil
  past _ := List.prefix_refl _
  unborn _ _ := rfl
  taken _ := .slnil
  apart _ _ _ _ _ hm := absurd hm List.not_mem_nil
  complete _ _ _ := .nil

/-- Nothing has been done with a subscription that is still to come. -/
theorem waiting_of_unborn (L : Ledger H) (h : s ∉ H.issued) :
    H.handed s = H.received s ++ H.broker.queue s := by
  have hreceived : H.received s = [] := List.prefix_nil.1 (L.unborn s h ▸ L.past s)
  have hqueue : H.broker.queue s = [] :=
    queue_of_not_mem fun hs => h (L.tied.held.subset (L.tied.mem_serials_iff.1 hs))
  rw [L.unborn s h, hreceived, hqueue]
  rfl

/-- A step that accepts no message. -/
theorem step_of_no_message (L : Ledger H) (T : Tied (H.push r held)) (hm : r.accepted? = none)
    (hnew : ∀ s, r.subscribed? = some s → s ∉ H.issued)
    (hheld : ∀ s ∈ H.issued, s ∈ held → s ∈ H.held)
    (hgot : ∀ s m, r.received? s = some m → s ∈ held)
    (hwaiting : ∀ s ∈ held,
      H.handed s = H.received s ++ ((r.received? s).toList ++ r.after.queue s)) :
    Ledger (H.push r held) := by
  have hhanded : (H.push r held).handed = H.handed := by
    funext s
    rw [handed_push, handed?_eq_none hm, Option.toList_none, List.append_nil]
  refine ⟨T, ?_, ?_, ?_, ?_, ?_, ?_, ?_⟩
  · intro r' hr' m hm'
    obtain hr' | hr' := List.mem_append.1 hr'
    · exact L.distributed r' hr' m hm'
    · cases List.mem_singleton.1 hr'
      cases hm.symm.trans hm'
  · intro s hs
    rw [hhanded, received_push, List.append_assoc]
    exact hwaiting s hs
  · intro s
    rw [hhanded, received_push]
    cases hr : r.received? s with
    | none => simpa using L.past s
    | some m =>
      rw [hwaiting s (hgot s m hr), hr, ← List.append_assoc]
      exact List.prefix_append _ _
  · intro s hs
    rw [issued_push, List.mem_append] at hs
    rw [hhanded]
    exact L.unborn s fun h => hs (.inl h)
  · intro s
    rw [hhanded, accepted_push_of_none hm]
    exact L.taken s
  · rw [hhanded]
    exact L.apart
  · intro t g hall
    rw [members_push] at hall ⊢
    rw [hhanded, since_push_of_no_message hm, List.flatMap_append]
    have hnone : (r.subscribed?.toList.filter (·.isIn t g)).flatMap H.handed = [] := by
      apply List.flatMap_eq_nil_iff.2
      intro s hs
      exact L.unborn s (hnew s (Option.mem_toList.1 (List.mem_filter.1 hs).1))
    rw [hnone, List.append_nil]
    apply L.complete
    intro s hs
    exact hheld s (List.mem_filter.1 hs).1 (hall s (List.mem_append_left _ hs))

/-- The offset of a new message has not been given to a message of the topic before. -/
theorem not_mem_handed (L : Ledger H) (offset : m.offset = (H.broker.topic m.topic).nextOffset)
    (ht : s.topic = m.topic) : m ∉ H.handed s := by
  intro hmem
  have hoffset := List.mem_map_of_mem (f := (·.offset)) ((L.taken s).subset hmem)
  rw [L.tied.offsets, List.mem_range, ht, ← offset] at hoffset
  exact Nat.lt_irrefl _ hoffset

theorem apart_push (L : Ledger H) (D : r.Distributes m)
    (offset : m.offset = (H.broker.topic m.topic).nextOffset) (hin : s'.isIn s.topic s.group)
    (hne : s' ≠ s) : ∀ x ∈ (H.push r held).handed s, x ∉ (H.push r held).handed s' := by
  intro x hx hx'
  have ht : s'.topic = s.topic := (isIn_iff.1 hin).1
  obtain ⟨hheld, hs, hands, heq⟩ | ⟨-, heq⟩ := handed_push_cases D H held s <;>
    obtain ⟨-, hs', hands', heq'⟩ | ⟨-, heq'⟩ := handed_push_cases D H held s' <;>
      rw [heq] at hx <;> rw [heq'] at hx'
  · exact hne (eq_of_hands D hheld hs hin hands hands')
  · obtain hx | hx := List.mem_append.1 hx
    · exact L.apart s s' hin hne x hx hx'
    · rw [List.mem_singleton.1 hx] at hx'
      exact L.not_mem_handed offset (ht.trans hs) hx'
  · obtain hx' | hx' := List.mem_append.1 hx'
    · exact L.apart s s' hin hne x hx hx'
    · rw [List.mem_singleton.1 hx'] at hx
      exact L.not_mem_handed offset (ht.symm.trans hs') hx
  · exact L.apart s s' hin hne x hx hx'

/-- Of a group with members, one is given the message. -/
theorem flatMap_push (L : Ledger H) (D : r.Distributes m) (hheld : r.held = H.held) {g : String}
    (hne : H.members m.topic g ≠ []) (hall : ∀ s ∈ H.members m.topic g, s ∈ H.held) :
    ((H.members m.topic g).flatMap (H.push r held).handed).Perm
      ((H.members m.topic g).flatMap H.handed ++ [m]) := by
  obtain ⟨s₀, hs₀⟩ := List.exists_mem_of_ne_nil _ hne
  obtain ⟨s, hs, hin, hands, hothers⟩ :=
    D.one g ⟨s₀, hheld ▸ hall s₀ hs₀, (List.mem_filter.1 hs₀).2⟩
  have hmem : s ∈ H.members m.topic g :=
    List.mem_filter.2 ⟨L.tied.held.subset (hheld ▸ hs), hin⟩
  apply flatMap_perm_concat (members_nodup L.tied _ _) hmem
  · rw [handed_push, handed?_of_hands hands, Option.toList_some]
  · intro s' hs' hne'
    rw [handed_push, handed?_of_queue_eq (hothers s' (List.mem_filter.1 hs').2 hne'),
      Option.toList_none, List.append_nil]

/-- A group of another topic is given nothing. -/
theorem flatMap_push_of_ne (D : r.Distributes m) {t g : String} (ht : m.topic ≠ t) :
    (H.members t g).flatMap (H.push r held).handed = (H.members t g).flatMap H.handed := by
  apply flatMap_congr
  intro s hs
  have hs : s.topic ≠ m.topic := by
    rw [(isIn_iff.1 (List.mem_filter.1 hs).2).1]
    exact ht.symm
  rw [handed_push, handed?_of_queue_eq (D.untouched s (.inr hs)), Option.toList_none,
    List.append_nil]

theorem step_of_message (L : Ledger H) (T : Tied (H.push r H.held))
    (tells : Tells H r none (some m) fun _ => none)
    (offset : m.offset = (H.broker.topic m.topic).nextOffset)
    (after : r.after = H.broker.accept m) : Ledger (H.push r H.held) := by
  have D := L.tied.distributes tells after
  have hhanded := handed_push_cases D H H.held
  have hreceived (s : Subscription) : (H.push r H.held).received s = H.received s := by
    rw [received_push, tells.received, Option.toList_none, List.append_nil]
  refine ⟨T, ?_, fun s hs => ?_, fun s => ?_, fun s hs => ?_, fun s => ?_,
    fun _ _ => L.apart_push D offset, fun t g hall => ?_⟩
  · intro r' hr' m' hm'
    obtain hr' | hr' := List.mem_append.1 hr'
    · exact L.distributed r' hr' m' hm'
    · cases List.mem_singleton.1 hr'
      cases tells.accepted.symm.trans hm'
      exact D
  · show _ = _ ++ r.after.queue s
    obtain ⟨-, -, hands, heq⟩ | ⟨hq, heq⟩ := hhanded s
    · rw [heq, hreceived, hands.2, tells.before, L.waiting s hs, List.append_assoc]
    · rw [heq, hreceived, hq, tells.before, L.waiting s hs]
  · rw [hreceived, handed_push]
    exact (L.past s).trans (List.prefix_append _ _)
  · rw [issued_push_of_none tells.subscribed] at hs
    obtain ⟨hheld, -, -, -⟩ | ⟨-, heq⟩ := hhanded s
    · exact absurd (L.tied.held.subset (tells.held ▸ hheld)) hs
    · rw [heq, L.unborn s hs]
  · rw [accepted_push, acceptedOn?_eq tells.accepted]
    obtain ⟨-, ht, -, heq⟩ | ⟨-, heq⟩ := hhanded s
    · rw [heq, if_pos ht.symm]
      exact (L.taken s).append_right _
    · rw [heq]
      exact (L.taken s).trans (List.sublist_append_left _ _)
  · rw [members_push, tells.subscribed, Option.toList_none, List.filter_nil, List.append_nil]
      at hall ⊢
    rw [since_push tells.subscribed, acceptedOn?_eq tells.accepted]
    have hperm := L.complete t g hall
    split
    · next hnil =>
      rw [hnil] at hperm ⊢
      exact hperm
    next hne =>
    split
    · next ht =>
      subst ht
      exact (L.flatMap_push D tells.held hne hall).trans (hperm.append_right _)
    · next ht =>
      rw [flatMap_push_of_ne D ht, Option.toList_none, List.append_nil]
      exact hperm

theorem step_of_subscription (L : Ledger H) (T : Tied (H.push r (H.held ++ [s])))
    (tells : Tells H r (some s) none fun _ => none)
    (after : H.broker.subscribe s.topic s.group = .ok (s, r.after)) :
    Ledger (H.push r (H.held ++ [s])) := by
  obtain ⟨hs, -, -, -, hqueue⟩ := subscribe_eq_ok after
  have hnew : s ∉ H.issued := by
    intro h
    have hlt := L.tied.fresh s h
    rw [hs] at hlt
    exact Nat.lt_irrefl _ hlt
  apply L.step_of_no_message T tells.accepted
  · intro s' hs'
    cases tells.subscribed.symm.trans hs'
    exact hnew
  · intro s' hissued hs'
    obtain hs' | hs' := List.mem_append.1 hs'
    · exact hs'
    · exact absurd (List.mem_singleton.1 hs' ▸ hissued) hnew
  · intro s' m hm
    cases (tells.received s').symm.trans hm
  · intro s' hs'
    rw [tells.received, hqueue]
    obtain hs' | hs' := List.mem_append.1 hs'
    · exact L.waiting s' hs'
    · rw [List.mem_singleton.1 hs']
      exact L.waiting_of_unborn hnew

/-- A step after which no others are alive, with what is received in it. -/
theorem step_of_receipt (L : Ledger H) (T : Tied (H.push r held))
    {got : Subscription → Option Message} (tells : Tells H r none none got)
    (hheld : ∀ s ∈ held, s ∈ H.held) (hgot : ∀ s m, got s = some m → s ∈ held)
    (hqueue : ∀ s ∈ held, H.broker.queue s = (got s).toList ++ r.after.queue s) :
    Ledger (H.push r held) := by
  apply L.step_of_no_message T tells.accepted
  · intro s hs
    cases tells.subscribed.symm.trans hs
  · exact fun s _ => hheld s
  · intro s m hm
    exact hgot s m ((tells.received s).symm.trans hm)
  · intro s hs
    rw [tells.received, ← hqueue s hs]
    exact L.waiting s (hheld s hs)

theorem step (L : Ledger H) (E : Effect H r held) : Ledger (H.push r held) := by
  have T := L.tied.step E
  cases E with
  | subscribed s tells after alive =>
    subst alive
    exact L.step_of_subscription T tells after
  | dropped s mem tells after alive =>
    subst alive
    apply L.step_of_receipt T tells (fun s' hs' => (List.mem_filter.1 hs').1) nofun
    intro s' hs'
    rw [after, queue_unsubscribe _ (bne_iff_ne.1 (List.mem_filter.1 hs').2)]
    rfl
  | accepted m tells offset after alive =>
    subst alive
    exact L.step_of_message T tells offset after
  | received s m mem tells after alive =>
    subst alive
    obtain ⟨-, -, -, hq, hothers⟩ := receive?_eq_some after
    apply L.step_of_receipt T tells (fun _ hs' => hs')
    · intro s' m' hm'
      exact (Option.ite_none_right_eq_some.1 hm').1 ▸ mem
    · intro s' _
      split
      · next h =>
        subst h
        exact hq
      · next h => exact (hothers s' (Ne.symm h)).symm
  | quiet tells topics nextSerial alive =>
    subst alive
    apply L.step_of_receipt T tells (fun _ hs' => hs') nofun
    intro s' _
    rw [queue_congr topics]
    rfl

theorem run (keepHistory : Bool) (actions : List Action) : Ledger (run keepHistory actions) :=
  run_induction (start keepHistory) (fun _ a L => act_induction L (fun _ _ => L.step) a) actions

theorem received_subset (L : Ledger H) (s : Subscription) {m : Message} (h : m ∈ H.received s) :
    m ∈ H.accepted s.topic :=
  (L.taken s).subset ((L.past s).subset h)

/-- A message stands at the place in its topic that its offset tells. -/
theorem getElem?_offset (L : Ledger H) {t : String} (h : m ∈ H.accepted t) :
    (H.accepted t)[m.offset]? = some m := by
  obtain ⟨i, hi⟩ := List.getElem?_of_mem h
  have hoffset : ((H.accepted t).map (·.offset))[i]? = some m.offset := by
    rw [List.getElem?_map, hi, Option.map_some]
  rw [L.tied.offsets] at hoffset
  obtain ⟨hlt, hget⟩ := List.getElem?_eq_some_iff.1 hoffset
  rw [List.getElem_range] at hget
  rwa [← hget]

end Ledger

theorem first_of_perform? {a : Action} {answer : Answer} {after : Broker} {held : List Subscription}
    {got : Option Message} (h : H.perform? a = some (answer, after, held))
    (ha : answer = .received s got) : got = (H.broker.queue s).head? := by
  subst ha
  cases a with
  | receive serial =>
    simp only [perform?] at h
    obtain ⟨s', -, h⟩ := Option.map_eq_some_iff.1 h
    rw [← fst_receive?]
    split at h
    · next m b hr =>
      cases h
      rw [hr]
      rfl
    · next hr =>
      cases h
      rw [hr]
      rfl
  | subscribe topic group | publish topic key payload =>
    simp only [perform?] at h
    split at h <;> cases h
  | drop serial =>
    simp only [perform?] at h
    obtain ⟨s', -, h⟩ := Option.map_eq_some_iff.1 h
    cases h
  | failTopic topic | restoreTopic topic => cases h

/-- Whoever receives is given the first of the messages that wait. -/
theorem run_first (keepHistory : Bool) (actions : List Action) :
    ∀ r ∈ (run keepHistory actions).records, ∀ s got, r.answer = .received s got →
      got = (r.before.queue s).head? := by
  apply run_induction (P := fun H => ∀ r ∈ H.records, ∀ s got, r.answer = .received s got →
    got = (r.before.queue s).head?)
  · exact fun r hr => absurd hr List.not_mem_nil
  · intro H a ih
    rw [act]
    cases h : H.perform? a with
    | none => exact ih
    | some x =>
      intro r hr s got ha
      obtain hr | hr := List.mem_append.1 hr
      · exact ih r hr s got ha
      · cases List.mem_singleton.1 hr
        exact first_of_perform? h ha

/-- What a broker owes to those who use it. -/
structure Contract (H : History) : Prop where
  /-- An accepted message goes to one live member of every group of its topic that has one. -/
  distributed : ∀ r ∈ H.records, ∀ m, r.accepted? = some m → r.Distributes m
  /-- Whoever receives on a subscription gets the first of the messages that wait, if there are
  any. -/
  first : ∀ r ∈ H.records, ∀ s got, r.answer = .received s got → got = (r.before.queue s).head?
  /-- The messages that a subscription is given are received first to last. -/
  inOrder : ∀ s, H.received s <+: H.handed s
  /-- Nothing that a live subscription has been given and has not received is lost. -/
  waiting : ∀ s ∈ H.held, H.handed s = H.received s ++ H.broker.queue s
  /-- The offsets of the messages that are received go up. -/
  increasing : ∀ s, ((H.received s).map (·.offset)).Pairwise (· < ·)
  /-- What is received has been accepted on the topic, with this key and this payload. -/
  unaltered : ∀ s, ∀ m ∈ H.received s, m ∈ H.accepted s.topic
  /-- Two members of a group do not receive the same offset. -/
  apart : ∀ s s', s'.isIn s.topic s.group → s' ≠ s →
    ∀ m ∈ H.received s, ∀ m' ∈ H.received s', m.offset ≠ m'.offset
  /-- If no member of a group has left, what the members have received and what waits for them are
  the messages since the first of them came. -/
  complete : ∀ t g, (∀ s ∈ H.members t g, s ∈ H.held) →
    ((H.members t g).flatMap fun s => H.received s ++ H.broker.queue s).Perm (H.since t g)

/-- Whatever is done with a broker, it keeps its contract. -/
theorem run_contract (keepHistory : Bool) (actions : List Action) :
    (run keepHistory actions).Contract := by
  have L := Ledger.run keepHistory actions
  refine ⟨L.distributed, run_first keepHistory actions, L.past, L.waiting, ?_,
    fun s _ => L.received_subset s, ?_, ?_⟩
  · intro s
    have htaken : ((run keepHistory actions).received s).Sublist
        ((run keepHistory actions).accepted s.topic) := (L.past s).sublist.trans (L.taken s)
    apply List.Pairwise.sublist (htaken.map _)
    rw [L.tied.offsets]
    exact List.pairwise_lt_range
  · intro s s' hin hne m hm m' hm' hoffset
    have hget := L.getElem?_offset (L.received_subset s hm)
    have hget' := L.getElem?_offset (L.received_subset s' hm')
    rw [(isIn_iff.1 hin).1, ← hoffset, hget] at hget'
    cases hget'
    exact L.apart s s' hin hne m ((L.past s).subset hm) ((L.past s').subset hm')
  · intro t g hall
    rw [← flatMap_congr fun s hs => L.waiting s (hall s hs)]
    exact L.complete t g hall

/-- A member takes over from one who has left. -/
example : (run false [.subscribe "calls" "workers", .subscribe "calls" "workers",
    .publish "calls" "a" [1], .publish "calls" "b" [2], .drop 0, .publish "calls" "c" [3],
    .receive 1, .receive 1]).received ⟨"calls", "workers", 1⟩ =
      [⟨"calls", "b", [2], 1⟩, ⟨"calls", "c", [3], 2⟩] := by
  decide

end History

end CallGateway.Broker
