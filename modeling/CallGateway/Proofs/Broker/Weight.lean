import Mathlib.Algebra.Order.BigOperators.Group.List
import Mathlib.Algebra.Order.Group.Nat
import CallGateway.Proofs.Broker.Books

/-!
# The weight of what waits

Every message that waits in a queue has a weight. A message that is published adds its weight once
for every group at most, and one that is received takes its weight away.
-/

namespace CallGateway

/-! ## Sums over lists -/

theorem sum_map_modify_le {f : α → Nat} {g : α → α} {c : Nat} (h : ∀ x, f (g x) ≤ f x + c)
    (xs : List α) (i : Nat) : ((xs.modify i g).map f).sum ≤ (xs.map f).sum + c := by
  induction xs generalizing i with
  | nil => simp
  | cons x xs ih =>
    cases i with
    | zero =>
      have := h x
      simp only [List.modify_zero_cons, List.map_cons, List.sum_cons]
      omega
    | succ i =>
      have := ih i
      simp only [List.modify_succ_cons, List.map_cons, List.sum_cons]
      omega

theorem sum_map_add_le {f g : α → Nat} {c : Nat} {x : α} {xs : List α} (h : ∀ y ∈ xs, g y ≤ f y)
    (hx : x ∈ xs) (hc : g x + c ≤ f x) : (xs.map g).sum + c ≤ (xs.map f).sum := by
  induction xs with
  | nil => cases hx
  | cons y ys ih =>
    have hy := h y (.head _)
    have hys (z : α) (hz : z ∈ ys) : g z ≤ f z := h z (.tail _ hz)
    simp only [List.map_cons, List.sum_cons]
    obtain rfl | hx := List.mem_cons.1 hx
    · have := List.sum_le_sum hys
      omega
    · have := ih hys hx
      omega

theorem Keyed.size_set_of_get? [DecidableEq κ] {m : Keyed κ α} {k : κ} {a : α}
    (h : m.get? k = some a) (b : α) : (m.set k b).size = m.size := by
  have hsum := Keyed.sum_set m k b fun _ => 1
  simpa [h, values, size, Function.comp_def] using hsum

/-! ## Groups, topics and brokers -/

section
variable (f : Message → Nat)

def Member.weight (x : Member) : Nat := (x.queue.map f).sum

def Group.weight (g : Group) : Nat := (g.members.map (·.weight f)).sum

def Topic.weight (t : Topic) : Nat := (t.groups.values.map (·.weight f)).sum

def Broker.weight (b : Broker) : Nat := b.tally (·.weight f)

end

def Broker.groupCount (b : Broker) : Nat := b.tally (·.groups.size)

variable {f : Message → Nat}

theorem Group.weight_deliver_le (g : Group) (m : Message) :
    (g.deliver m).weight f ≤ g.weight f + f m := by
  rw [deliver]
  split
  · exact Nat.le_add_right _ _
  · refine sum_map_modify_le (fun x => ?_) g.members g.turn
    simp [Member.weight]

/-- Whoever takes a message takes its weight away. -/
theorem Group.weight_take {g : Group} {serial : Nat} {m : Message} {ms : List Message}
    (h : g.queue serial = m :: ms) : (g.take serial).weight f + f m ≤ g.weight f := by
  rw [queue] at h
  obtain ⟨x, hx, hq⟩ : ∃ x, g.member? serial = some x ∧ x.queue = m :: ms := by
    cases hx : g.member? serial with
    | none => rw [hx] at h; cases h
    | some x => rw [hx] at h; exact ⟨x, rfl, h⟩
  have hserial := serial_of_member? hx
  rw [weight, take, List.map_map]
  refine sum_map_add_le (fun y _ => ?_) (List.mem_of_find?_eq_some hx) ?_
  · rw [Function.comp_apply]
    split
    · rw [Member.weight, Member.weight]
      cases y.queue with
      | nil => exact Nat.le_refl _
      | cons m ms => exact Nat.le_add_left _ _
    · exact Nat.le_refl _
  · rw [Function.comp_apply, if_pos hserial, Member.weight, Member.weight, hq, List.map_cons,
      List.sum_cons, Nat.add_comm]
    exact Nat.le_refl _

/-- Each group of the topic takes the message once. -/
theorem Topic.weight_mapValues_deliver_le (t : Topic) (m : Message) :
    ((t.groups.mapValues (·.deliver m)).values.map (·.weight f)).sum ≤
      t.weight f + t.groups.size * f m := by
  rw [weight, Keyed.values, Keyed.mapValues, Keyed.values, Keyed.size, List.map_map, List.map_map,
    List.map_map]
  induction t.groups.entries with
  | nil => exact Nat.zero_le _
  | cons e es ih =>
    have := e.2.weight_deliver_le (f := f) m
    simp only [List.map_cons, List.sum_cons, List.length_cons, Nat.add_mul, Function.comp_apply]
    simp only [Function.comp_def] at ih ⊢
    omega

namespace Broker

variable {b b' : Broker} {s : Subscription} {m : Message}

/-- No topic has more than there is on the whole. -/
theorem le_tally (b : Broker) (name : String) {f : Topic → Nat} (hf : f {} = 0) :
    f (b.topic name) ≤ b.tally f := by
  have h := tally_setTopic b name {} hf
  rw [hf] at h
  exact Nat.le_of_add_left_le h.le

theorem groupCount_accept (b : Broker) (m : Message) : (b.accept m).groupCount = b.groupCount := by
  have h := tally_accept b m (f := (·.groups.size)) rfl
  have hsize : ((b.accept m).topic m.topic).groups.size = (b.topic m.topic).groups.size := by
    rw [accept, topic_setTopic, if_pos rfl]
    exact List.length_map ..
  rw [hsize] at h
  exact Nat.add_right_cancel h

theorem weight_accept_le (b : Broker) (m : Message) :
    (b.accept m).weight f ≤ b.weight f + b.groupCount * f m := by
  have h : (b.accept m).weight f + (b.topic m.topic).weight f =
      b.weight f + ((b.accept m).topic m.topic).weight f := tally_accept b m rfl
  have htopic : ((b.accept m).topic m.topic).weight f ≤
      (b.topic m.topic).weight f + (b.topic m.topic).groups.size * f m := by
    rw [accept, topic_setTopic, if_pos rfl]
    exact (b.topic m.topic).weight_mapValues_deliver_le m
  have hcount : (b.topic m.topic).groups.size * f m ≤ b.groupCount * f m :=
    Nat.mul_le_mul_right _ (le_tally b m.topic (f := (·.groups.size)) rfl)
  omega

/-- Where a message waits there is a group. -/
theorem group_of_receive? (h : b.receive? s = some (m, b')) : ∃ g ms,
    (b.topic s.topic).groups.get? s.group = some g ∧ g.queue s.serial = m :: ms ∧
      b' = b.setGroup s.topic s.group (g.take s.serial) := by
  rw [receive?, queue_eq, Broker.group] at h
  cases hg : (b.topic s.topic).groups.get? s.group with
  | none =>
    rw [hg] at h
    cases h
  | some g =>
    rw [hg, Option.getD_some] at h
    split at h
    · cases h
    · next hq =>
      cases h
      exact ⟨g, _, rfl, hq, rfl⟩

theorem groupCount_receive? (h : b.receive? s = some (m, b')) : b'.groupCount = b.groupCount := by
  obtain ⟨g, ms, hg, -, rfl⟩ := group_of_receive? h
  have h := tally_setTopic b s.topic { b.topic s.topic with
    groups := (b.topic s.topic).groups.set s.group (g.take s.serial) } (f := (·.groups.size)) rfl
  rw [Keyed.size_set_of_get? hg] at h
  exact Nat.add_right_cancel h

theorem weight_receive?_le (h : b.receive? s = some (m, b')) : b'.weight f + f m ≤ b.weight f := by
  obtain ⟨g, ms, hg, hq, rfl⟩ := group_of_receive? h
  have htake := Group.weight_take (f := f) hq
  let t : Topic := { b.topic s.topic with
    groups := (b.topic s.topic).groups.set s.group (g.take s.serial) }
  have htopic : t.weight f + g.weight f = (b.topic s.topic).weight f + (g.take s.serial).weight f := by
    have hset := Keyed.sum_set (b.topic s.topic).groups s.group (g.take s.serial) (·.weight f)
    rwa [hg, Option.map_some, Option.getD_some] at hset
  have h : (b.setTopic s.topic t).weight f + (b.topic s.topic).weight f =
      b.weight f + t.weight f := tally_setTopic b s.topic t rfl
  show (b.setTopic s.topic t).weight f + f m ≤ b.weight f
  omega

end Broker

end CallGateway
