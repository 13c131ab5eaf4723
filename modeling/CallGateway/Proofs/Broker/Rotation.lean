import Mathlib.Data.Int.CardIntervalMod
import CallGateway.Proofs.Broker.Actions

/-!
# How the members of a group take turns

A group counts the messages that it takes, and whose turn it is follows from the count and the
number of members. While nobody joins or leaves, the members take the messages one after the other,
whatever the count has come to before and whatever the members of other groups do.
-/

namespace CallGateway.Broker

/-- The action brings nobody into the group, and takes none of these members out of it. -/
def Action.Spares (topic group : String) (members : List Subscription) : Action → Prop
  | .subscribe t g => ¬ (t = topic ∧ g = group)
  | .drop serial => ∀ s ∈ members, s.serial ≠ serial
  | .publish .. | .receive _ | .failTopic _ | .restoreTopic _ => True

instance {topic group : String} {members : List Subscription} :
    DecidablePred (Action.Spares topic group members)
  | .subscribe .. => inferInstanceAs (Decidable (¬ _))
  | .drop _ => inferInstanceAs (Decidable (∀ s ∈ members, _))
  | .publish .. | .receive _ | .failTopic _ | .restoreTopic _ => .isTrue trivial

section

variable {b b' : Broker} {s : Subscription} {topic group : String}

theorem cursor_setGroup (new : Group) (h : new.cursor = (b.group topic group).cursor)
    (t g : String) : ((b.setGroup topic group new).group t g).cursor = (b.group t g).cursor := by
  rw [group_setGroup]
  split
  · next hin => rw [h, hin.1, hin.2]
  · rfl

theorem cursor_subscribe (h : b.subscribe topic group = .ok (s, b')) (t g : String) :
    (b'.group t g).cursor = (b.group t g).cursor := by
  rw [subscribe] at h
  split at h
  · cases h
  · obtain ⟨-, rfl⟩ := Prod.mk.inj (Except.ok.inj h)
    exact cursor_setGroup ((b.group topic group).join b.nextSerial) rfl t g

theorem cursor_unsubscribe (b : Broker) (s : Subscription) (t g : String) :
    ((b.unsubscribe s).group t g).cursor = (b.group t g).cursor := by
  rw [unsubscribe]
  exact cursor_setGroup ((b.group s.topic s.group).leave s.serial) rfl t g

theorem cursor_receive? {m : Message} (h : b.receive? s = some (m, b')) (t g : String) :
    (b'.group t g).cursor = (b.group t g).cursor := by
  rw [receive?] at h
  split at h
  · cases h
  · obtain ⟨-, rfl⟩ := Prod.mk.inj (Option.some.inj h)
    exact cursor_setGroup ((b.group s.topic s.group).take s.serial) rfl t g

theorem cursor_accept {m : Message} {g : String}
    (hne : (b.group m.topic g).serials ≠ []) :
    ((b.accept m).group m.topic g).cursor = (b.group m.topic g).cursor + 1 := by
  rw [group_accept, if_pos rfl, Group.cursor_deliver hne]

end

/-! ## Dealing messages out -/

/-- Those of the messages whose places in the row are picked. -/
def dealt (picked : Nat → Prop) [DecidablePred picked] (messages : List Message) : List Message :=
  (messages.zipIdx.filter fun x => picked x.2).map (·.1)

section

variable {p q : Nat → Prop} [DecidablePred p] [DecidablePred q] {messages : List Message}

theorem dealt_concat (messages : List Message) (m : Message) :
    dealt p (messages ++ [m]) = dealt p messages ++ if p messages.length then [m] else [] := by
  rw [dealt, List.zipIdx_append, List.filter_append, List.map_append, dealt]
  by_cases h : p messages.length <;> simp [h]

theorem length_dealt (messages : List Message) :
    (dealt p messages).length = messages.length.count p := by
  induction messages using List.reverseRecOn with
  | nil => simp [dealt]
  | append_singleton messages m ih =>
    rw [dealt_concat, List.length_append, ih, List.length_append, List.length_singleton,
      Nat.count_succ]
    split <;> rfl

theorem dealt_congr (h : ∀ j < messages.length, (p j ↔ q j)) :
    dealt p messages = dealt q messages := by
  apply congrArg (List.map _)
  apply List.filter_congr
  intro x hx
  exact decide_eq_decide.2 (h x.2 (List.snd_lt_of_mem_zipIdx hx))

end

/-- Of the first `k` places on a circle of `n`, those at `i` are an `n`th, rounded down or up. -/
theorem count_circle {n i : Nat} (hi : i < n) (c k : Nat) :
    k.count (fun j => (c + j) % n = i) = k / n ∨
      k.count (fun j => (c + j) % n = i) = (k + n - 1) / n := by
  have hn : 0 < n := Nat.zero_lt_of_lt hi
  -- From `i + (n - 1) * c` on, it takes `c` steps to come to `i`.
  have hcircle (j : Nat) : (c + j) % n = i ↔ j ≡ i + (n - 1) * c [MOD n] := by
    have hback : c + (i + (n - 1) * c) = i + n * c := by
      obtain ⟨n, rfl⟩ := Nat.exists_eq_add_one.2 hn
      rw [Nat.add_sub_cancel, Nat.add_one_mul]
      omega
    rw [← Nat.ModEq.add_iff_left (Nat.ModEq.refl c), hback, Nat.ModEq, Nat.add_mul_mod_self_left,
      Nat.mod_eq_of_lt hi]
  simp only [hcircle]
  rw [Nat.count_modEq_card k hn]
  split
  · next h =>
    right
    have hrest : 0 < k % n := Nat.zero_lt_of_lt h
    have hmod : k % n < n := Nat.mod_lt k hn
    have hk : k / n * n + k % n = k := Nat.div_add_mod' k n
    apply (Nat.div_eq_of_lt_le _ _).symm <;> simp only [Nat.add_one_mul] <;> omega
  · exact .inl rfl

namespace History

variable {H H₀ : History} {r : Record} {held : List Subscription} {s : Subscription} {a : Action}
  {m : Message} {t g : String} {messages : List Message} {during : List Action}

/-- The members of a group that are alive. -/
def alive (H : History) (topic group : String) : List Subscription :=
  H.held.filter (·.isIn topic group)

theorem alive_act (h : a.Spares t g (H.alive t g)) : (H.act a).alive t g = H.alive t g := by
  obtain hheld | ⟨s, rfl, hheld⟩ | ⟨s, -, rfl, hheld⟩ := held_act H a <;>
    rw [alive, hheld]
  · rfl
  · have hout : ¬ s.isIn t g = true := fun hin => h (isIn_iff.1 hin)
    rw [List.filter_append, List.filter_cons_of_neg hout]
    exact List.append_nil _
  · rw [List.filter_filter]
    apply List.filter_congr
    intro s' hs'
    rw [Bool.eq_iff_iff, Bool.and_eq_true, bne_iff_ne]
    refine ⟨And.left, fun hin => ⟨hin, fun heq => ?_⟩⟩
    exact h s' (List.mem_filter.2 ⟨hs', hin⟩) (congrArg _ heq)

/-- The member whose turn it is when the group has taken `j` messages more. -/
def turn? (H : History) (topic group : String) (j : Nat) : Option Subscription :=
  (H.alive topic group)[((H.broker.group topic group).cursor + .ofNat j).toNat %
    (H.alive topic group).length]?

/-- An accepted message is given to the member whose turn it is. -/
theorem Tied.handed?_turn (T : Tied H) (tells : Tells H r none (some m) fun _ => none)
    (after : r.after = H.broker.accept m) (hs : s ∈ H.alive m.topic g) :
    r.handed? s = if H.turn? m.topic g 0 = some s then some m else none := by
  obtain ⟨hheld, hin⟩ := List.mem_filter.1 hs
  obtain ⟨ht, rfl⟩ := isIn_iff.1 hin
  rw [← ht] at hs ⊢
  obtain ⟨serial, hturn⟩ := Group.serials_turn (List.ne_nil_of_mem (T.mem_serials_iff.2 hheld))
  have hq := queue_accept_turn (T.nodup_serials _ _) hturn ht
  -- The members of the group stand in the order of the subscriptions that are alive.
  rw [Group.turn, ← Group.length_serials, T.serials, List.length_map, List.getElem?_map] at hturn
  obtain ⟨s₀, hs₀, rfl⟩ := Option.map_eq_some_iff.1 hturn
  have hfirst : H.turn? s.topic s.group 0 = some s₀ := by
    rw [turn?, show UInt64.ofNat 0 = 0 from rfl, UInt64.add_zero]
    exact hs₀
  simp only [hfirst, Option.some_inj]
  split
  · next heq =>
    subst heq
    rw [if_pos rfl] at hq
    exact handed?_of_hands ⟨tells.accepted, by rw [after, tells.before, hq]⟩
  · next hne =>
    have hin₀ := isIn_iff.1 (List.mem_filter.1 (List.mem_of_getElem? hs₀)).2
    rw [if_neg (serial_ne (Ne.symm hne) (hin₀.imp Eq.symm Eq.symm))] at hq
    exact handed?_of_queue_eq (by rw [after, tells.before, hq])

/-- A step in which the group takes no message leaves its count as it is. -/
theorem Effect.cursor_eq (E : Effect H r held) (silent : r.acceptedOn? t = none) (g : String) :
    (r.after.group t g).cursor = (H.broker.group t g).cursor := by
  cases E with
  | subscribed s tells after => exact cursor_subscribe after t g
  | dropped s mem tells after =>
    rw [after]
    exact cursor_unsubscribe _ s t g
  | accepted m tells offset after =>
    rw [after, group_accept, if_neg (topic_ne_of_acceptedOn? tells.accepted silent).symm]
  | received s m mem tells after => exact cursor_receive? after t g
  | quiet tells topics => rw [group_congr topics]

/-! ## Going on -/

/-- What the history comes to by further actions. -/
def goOn (H : History) (actions : List Action) : History := actions.foldl act H

theorem run_append (keepHistory : Bool) (before during : List Action) :
    run keepHistory (before ++ during) = (run keepHistory before).goOn during :=
  List.foldl_append

/-- The messages that have been accepted on a topic since an earlier history. -/
def acceptedSince (H H₀ : History) (topic : String) : List Message :=
  (H.accepted topic).drop (H₀.accepted topic).length

/-- The later history has come from the earlier one in a time in which nobody has joined the group
or left it, and in which the group has taken these messages. -/
structure Turned (H₀ H : History) (t g : String) (messages : List Message) : Prop where
  ledger : Ledger H
  alive : H.alive t g = H₀.alive t g
  accepted : H.accepted t = H₀.accepted t ++ messages
  cursor : (H.broker.group t g).cursor =
    (H₀.broker.group t g).cursor + .ofNat messages.length
  handed : ∀ s ∈ H₀.alive t g,
    H.handed s = H₀.handed s ++ dealt (H₀.turn? t g · = some s) messages

namespace Turned

theorem refl (L : Ledger H) (t g : String) : Turned H H t g [] where
  ledger := L
  alive := rfl
  accepted := (List.append_nil _).symm
  cursor := (UInt64.add_zero _).symm
  handed _ _ := (List.append_nil _).symm

theorem turn?_zero (T : Turned H₀ H t g messages) :
    H.turn? t g 0 = H₀.turn? t g messages.length := by
  rw [turn?, turn?, T.alive, T.cursor, show UInt64.ofNat 0 = 0 from rfl,
    UInt64.add_zero]

theorem step (T : Turned H₀ H t g messages) (populated : H₀.alive t g ≠ []) (E : Effect H r held)
    (steady : (H.push r held).alive t g = H₀.alive t g) :
    ∃ messages, Turned H₀ (H.push r held) t g messages := by
  obtain ⟨m, rfl, tells, after⟩ | silent := E.accepts_or t
  · -- The place of the new message in the row is the number of those before it.
    refine ⟨messages ++ [m], T.ledger.step E, steady, ?_, ?_, fun s hs => ?_⟩
    · rw [accepted_push, acceptedOn?_eq tells.accepted, if_pos rfl, T.accepted, List.append_assoc]
      rfl
    · have hserials : (H.broker.group m.topic g).serials ≠ [] := by
        rw [T.ledger.tied.serials, Ne, List.map_eq_nil_iff]
        exact T.alive.trans_ne populated
      show (r.after.group m.topic g).cursor = _
      rw [after, cursor_accept hserials, T.cursor, List.length_append, List.length_singleton,
        UInt64.ofNat_add, UInt64.add_assoc]
      rfl
    · rw [handed_push, T.handed s hs, dealt_concat,
        T.ledger.tied.handed?_turn tells after (T.alive ▸ hs), T.turn?_zero, List.append_assoc]
      split <;> rfl
  · refine ⟨messages, T.ledger.step E, steady, ?_, ?_, fun s hs => ?_⟩
    · rw [accepted_push, silent, T.accepted]
      exact List.append_nil _
    · exact (E.cursor_eq silent g).trans T.cursor
    · have hs' : r.acceptedOn? s.topic = none := by
        rw [(isIn_iff.1 (List.mem_filter.1 hs).2).1, silent]
      rw [handed_push, T.ledger.tied.handed?_eq_none E hs', T.handed s hs]
      exact List.append_nil _

theorem act (T : Turned H₀ H t g messages) (populated : H₀.alive t g ≠ [])
    (spares : a.Spares t g (H₀.alive t g)) : ∃ messages, Turned H₀ (H.act a) t g messages := by
  have steady : (H.act a).alive t g = H₀.alive t g :=
    (alive_act (T.alive ▸ spares)).trans T.alive
  revert steady
  exact act_induction
    (P := fun H' => H'.alive t g = H₀.alive t g → ∃ messages, Turned H₀ H' t g messages)
    (fun _ => ⟨messages, T⟩) (fun _ _ E => T.step populated E) a

theorem goOn (T : Turned H₀ H t g messages) (populated : H₀.alive t g ≠ [])
    (steady : ∀ a ∈ during, a.Spares t g (H₀.alive t g)) :
    ∃ messages, Turned H₀ (H.goOn during) t g messages := by
  induction during generalizing H messages with
  | nil => exact ⟨messages, T⟩
  | cons a during ih =>
    obtain ⟨hfirst, hrest⟩ := List.forall_mem_cons.1 steady
    obtain ⟨messages', T'⟩ := T.act populated hfirst
    exact ih T' hrest

theorem acceptedSince (T : Turned H₀ H t g messages) : H.acceptedSince H₀ t = messages := by
  rw [History.acceptedSince, T.accepted, List.drop_left]

end Turned

/-! ## Fair shares -/

/-- The members of a group share some messages: the one at the place `j` goes to `taker j`. -/
structure TakesTurns (H₀ H : History) (members : List Subscription) (messages : List Message)
    (taker : Nat → Subscription) : Prop where
  /-- Every message goes to a member. -/
  member : ∀ j < messages.length, taker j ∈ members
  /-- To what a member has received and what waits for it come the messages that go to it. -/
  given : ∀ s ∈ members, H.received s ++ H.broker.queue s =
    H₀.received s ++ H₀.broker.queue s ++ dealt (taker · = s) messages
  /-- As many messages in a row as there are members go to different members. -/
  apart : ∀ i j, i < j → j < i + members.length → j < messages.length → taker i ≠ taker j
  /-- The number of the messages that go to a member is its share, rounded down or up. -/
  share : ∀ s ∈ members, (dealt (taker · = s) messages).length = messages.length / members.length ∨
    (dealt (taker · = s) messages).length = (messages.length + members.length - 1) / members.length

/-- The members one after the other, from a place on and over again. -/
def inTurn (members : List Subscription) (h : members ≠ []) (first j : Nat) : Subscription :=
  members.get ⟨(first + j) % members.length, Nat.mod_lt _ (List.length_pos_iff.2 h)⟩

section

variable {members : List Subscription} {h : members ≠ []} {first i j : Nat}

theorem inTurn_eq_get (hn : members.Nodup) (i : Fin members.length) :
    inTurn members h first j = members.get i ↔ (first + j) % members.length = i := by
  rw [inTurn, hn.get_inj_iff, Fin.ext_iff]

theorem inTurn_ne (hn : members.Nodup) (hlt : i < j) (hnear : j < i + members.length) :
    inTurn members h first i ≠ inTurn members h first j := by
  intro heq
  have hmod := (inTurn_eq_get hn _).1 heq
  have hsub : (first + j - (first + i)) % members.length = 0 :=
    Nat.sub_mod_eq_zero_of_mod_eq hmod.symm
  rw [Nat.add_sub_add_left, Nat.mod_eq_of_lt (Nat.sub_lt_left_of_lt_add hlt.le hnear)] at hsub
  exact Nat.sub_ne_zero_of_lt hlt hsub

theorem count_inTurn (hn : members.Nodup) (hs : s ∈ members) (first k : Nat) :
    k.count (inTurn members h first · = s) = k / members.length ∨
      k.count (inTurn members h first · = s) = (k + members.length - 1) / members.length := by
  obtain ⟨i, rfl⟩ := List.get_of_mem hs
  simp only [inTurn_eq_get hn]
  exact count_circle i.isLt first k

end

theorem Tied.nodup_alive (T : Tied H) (t g : String) : (H.alive t g).Nodup :=
  List.Nodup.of_map _ (T.serials t g ▸ T.nodup_serials t g)

theorem turn?_eq_inTurn (populated : H.alive t g ≠ [])
    (hj : (H.broker.group t g).cursor.toNat + j < 2 ^ 64) : H.turn? t g j =
      some (inTurn (H.alive t g) populated (H.broker.group t g).cursor.toNat j) := by
  have hcount : ((H.broker.group t g).cursor + .ofNat j).toNat =
      (H.broker.group t g).cursor.toNat + j := by
    rw [UInt64.toNat_add, UInt64.toNat_ofNat']
    omega
  rw [turn?, hcount]
  exact List.getElem?_eq_getElem _

theorem Turned.takesTurns (T : Turned H₀ H t g messages) (L₀ : Ledger H₀)
    (populated : H₀.alive t g ≠ [])
    (unwrapped : (H₀.broker.group t g).cursor.toNat + messages.length ≤ 2 ^ 64) :
    TakesTurns H₀ H (H₀.alive t g) messages
      (inTurn (H₀.alive t g) populated (H₀.broker.group t g).cursor.toNat) where
  member _ _ := List.get_mem ..
  given s hs := by
    have hheld : s ∈ H₀.held := (List.mem_filter.1 hs).1
    have hheld' : s ∈ H.held := (List.mem_filter.1 (T.alive.symm ▸ hs)).1
    rw [← T.ledger.waiting s hheld', ← L₀.waiting s hheld, T.handed s hs]
    apply congrArg
    apply dealt_congr
    intro j hj
    rw [turn?_eq_inTurn populated (by omega), Option.some_inj]
  apart _ _ hlt hnear _ := inTurn_ne (L₀.tied.nodup_alive t g) hlt hnear
  share s hs := by
    rw [length_dealt]
    exact count_inTurn (L₀.tied.nodup_alive t g) hs _ _

/-- Whatever has been done with a broker before, the members of a group take turns as long as nobody
joins the group or leaves it and its count does not start again. -/
theorem run_takes_turns (keepHistory : Bool) (before during : List Action) (t g : String)
    (populated : (run keepHistory before).alive t g ≠ [])
    (steady : ∀ a ∈ during, a.Spares t g ((run keepHistory before).alive t g))
    (unwrapped : ((run keepHistory before).broker.group t g).cursor.toNat +
      ((run keepHistory (before ++ during)).acceptedSince (run keepHistory before) t).length ≤
        2 ^ 64) :
    TakesTurns (run keepHistory before) (run keepHistory (before ++ during))
      ((run keepHistory before).alive t g)
      ((run keepHistory (before ++ during)).acceptedSince (run keepHistory before) t)
      (inTurn ((run keepHistory before).alive t g) populated
        ((run keepHistory before).broker.group t g).cursor.toNat) := by
  have L := Ledger.run keepHistory before
  obtain ⟨messages, T⟩ := (Turned.refl L t g).goOn populated steady
  rw [← run_append] at T
  rw [T.acceptedSince] at unwrapped ⊢
  exact T.takesTurns L populated unwrapped

/-- One of two members leaves after the first message, and two others come. -/
def relief : List Action := [.subscribe "calls" "workers", .subscribe "calls" "workers",
  .publish "calls" "a" [1], .subscribe "calls" "audit", .drop 0, .subscribe "calls" "workers",
  .subscribe "calls" "workers"]

/-- Four messages come, while another group loses its member and gets a new one. -/
def rush : List Action := [.publish "calls" "b" [2], .drop 2, .publish "calls" "c" [3],
  .publish "other" "d" [4], .receive 3, .subscribe "calls" "audit", .publish "calls" "e" [5],
  .publish "calls" "f" [6]]

/-- The first message goes to the second of the three members, and so does the fourth. -/
theorem run_takes_turns_relief : ∃ populated,
    TakesTurns (run false relief) (run false (relief ++ rush))
      ((run false relief).alive "calls" "workers")
      ((run false (relief ++ rush)).acceptedSince (run false relief) "calls")
      (inTurn ((run false relief).alive "calls" "workers") populated
        ((run false relief).broker.group "calls" "workers").cursor.toNat) ∧
    (run false (relief ++ rush)).received ⟨"calls", "workers", 3⟩ = [⟨"calls", "b", [2], 1⟩] ∧
    (run false (relief ++ rush)).broker.queue ⟨"calls", "workers", 3⟩ =
      [⟨"calls", "f", [6], 4⟩] := by
  have populated : (run false relief).alive "calls" "workers" ≠ [] := by decide
  exact ⟨populated, run_takes_turns false relief rush "calls" "workers" populated (by decide)
    (by decide), by decide, by decide⟩

end History

end CallGateway.Broker
