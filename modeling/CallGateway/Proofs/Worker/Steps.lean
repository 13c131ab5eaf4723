import Mathlib.Data.List.Perm.Basic
import CallGateway.Worker

/-!
# What a worker does in one step

A consumer takes a message and asks for a permit, a permit sets a message going, and an execution
that is at its end replies and returns its permit.
-/

namespace CallGateway

/-- What is left of a broker after the reply, if there is one. -/
def Task.reply (t : Task) (b : Broker) : Broker :=
  match t.answer with
  | some (topic, r) => Worker.reply b topic r
  | none => b

namespace Worker

variable {w w' : Worker} {b b' : Broker} {c : Consumer} {now : Instant} {clock k : Nat}

/-- A replica starts with a consumer for each of its topics and with all of its permits, and its
dispatcher does as the configuration says. -/
theorem of_start {config : WorkerConfig} {catalog : Catalog}
    (h : start config catalog b = (.ok w, b')) : ∃ subs,
    subscribeAll config.consumerGroup [] b config.topics = (.ok subs, b') ∧ w.config = config ∧
      w.dispatcher = ⟨catalog, config.coercer, config.executionTimeout⟩ ∧
      w.consumers = subs.map (fun s => ⟨s, none⟩) ∧ w.waiting = [] ∧
      w.free = config.concurrency.toNat ∧ w.tasks = [] := by
  rw [start] at h
  split at h
  · cases h
  split at h
  · cases h
  split at h
  · cases h
  split at h
  · cases h
  · next subs b₁ hs =>
    cases h
    exact ⟨subs, hs, rfl, rfl, rfl, rfl, rfl, rfl⟩

/-- The consumers of a subscription hold another message, or none. -/
def hold (w : Worker) (s : Subscription) (held : Option Message) : Worker :=
  { w with consumers := w.consumers.map fun c => if c.subscription = s then { c with held } else c }

theorem mem_hold {s : Subscription} {held : Option Message} (h : c ∈ (w.hold s held).consumers) :
    (∃ d ∈ w.consumers, d.subscription = s ∧ c = ⟨s, held⟩) ∨
      c ∈ w.consumers ∧ c.subscription ≠ s := by
  obtain ⟨d, hd, rfl⟩ := List.mem_map.1 h
  by_cases hs : d.subscription = s
  · rw [if_pos hs]
    exact .inl ⟨d, hd, hs, by rw [hs]⟩
  · rw [if_neg hs]
    exact .inr ⟨hd, hs⟩

theorem subscriptions_hold (w : Worker) (s : Subscription) (held : Option Message) :
    (w.hold s held).consumers.map (·.subscription) = w.consumers.map (·.subscription) := by
  rw [hold, List.map_map]
  refine List.map_congr_left fun c _ => ?_
  show (if c.subscription = s then { c with held } else c).subscription = c.subscription
  split <;> rfl

/-- What is answered does not depend on how busy the worker is. -/
theorem answer_congr (h : w'.dispatcher = w.dispatcher) (now : Instant) (clock : Nat)
    (payload : Bytes) : w'.answer now clock payload = w.answer now clock payload := by
  rw [answer, answer, h]

/-- An idle consumer gets the first message that waits for it, and stands last in line. -/
theorem of_take? (h : w.take? b c = some (w', b')) : ∃ m, c.held = none ∧
    b.receive? c.subscription = some (m, b') ∧
    w' = { w.hold c.subscription (some m) with waiting := w.waiting ++ [c.subscription] } := by
  rw [take?] at h
  split at h
  · cases h
  · next hc =>
    obtain ⟨⟨m, b₁⟩, hr, h⟩ := Option.map_eq_some_iff.1 h
    cases h
    exact ⟨m, hc, hr, rfl⟩

/-- The consumer that stands first in line gives its message away for a permit. -/
theorem of_grant? (h : w.grant? now clock = some w') : ∃ c m waiting free,
    c ∈ w.consumers ∧ c.held = some m ∧ w.waiting = c.subscription :: waiting ∧
    w.free = free + 1 ∧ w' = { w.hold c.subscription none with
      waiting
      free
      tasks := w.tasks ++ [⟨m, clock + (w.answer now clock m.payload).elapsed,
        (w.answer now clock m.payload).result⟩] } := by
  rw [grant?] at h
  split at h
  · next free s waiting hfree hwaiting =>
    split at h
    · cases h
    · next m hm =>
      cases h
      obtain ⟨c, hc, held⟩ := Option.bind_eq_some_iff.1 hm
      obtain rfl : c.subscription = s := by simpa using List.find?_some hc
      exact ⟨c, m, waiting, free, List.mem_of_find?_eq_some hc, held, hwaiting, hfree, rfl⟩
  · cases h

/-- An execution that is at its end, and the others. -/
theorem perm_eraseIdx {ts : List Task} {t : Task} (h : ts[k]? = some t) :
    (t :: ts.eraseIdx k).Perm ts := by
  obtain ⟨hk, rfl⟩ := List.getElem?_eq_some_iff.1 h
  exact List.getElem_cons_eraseIdx_perm hk

theorem finish?_eq_some {t : Task} (hk : w.tasks[k]? = some t) (hc : t.finish ≤ clock) :
    w.finish? b clock k =
      some ({ w with free := w.free + 1, tasks := w.tasks.eraseIdx k }, t.reply b) := by
  simp only [finish?, hk, if_pos hc]
  rfl

theorem of_finish? (h : w.finish? b clock k = some (w', b')) : ∃ t, w.tasks[k]? = some t ∧
    t.finish ≤ clock ∧ w' = { w with free := w.free + 1, tasks := w.tasks.eraseIdx k } ∧
    b' = t.reply b := by
  cases hk : w.tasks[k]? with
  | none => simp only [finish?, hk, reduceCtorEq] at h
  | some t =>
    by_cases hc : t.finish ≤ clock
    · rw [finish?_eq_some hk hc] at h
      cases h
      exact ⟨t, rfl, hc, rfl, rfl⟩
    · simp only [finish?, hk, if_neg hc, reduceCtorEq] at h

end Worker

end CallGateway
