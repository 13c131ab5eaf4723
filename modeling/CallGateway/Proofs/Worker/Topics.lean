import Mathlib.Data.List.Nodup
import CallGateway.Worker.Config

/-!
# The topics of a pool

A pool consumes the topic to which gateways send, and then the others that it has been given, each
of them once and in the order in which they are named first.
-/

namespace CallGateway.WorkerConfig

theorem mem_distinct {seen xs : List String} {y : String} :
    y ∈ distinct seen xs ↔ y ∈ xs ∧ y ∉ seen := by
  induction xs generalizing seen with
  | nil => exact iff_of_false List.not_mem_nil fun h => List.not_mem_nil h.1
  | cons x xs ih =>
    rw [distinct]
    split
    · next hx =>
      have hx : x ∈ seen := by simpa using hx
      rw [ih, List.mem_cons]
      exact and_congr_left fun hy => (or_iff_right fun h : y = x => hy (h ▸ hx)).symm
    · next hx =>
      have hx : x ∉ seen := by simpa using hx
      rw [List.mem_cons, ih, List.mem_cons, List.mem_append, List.mem_singleton]
      by_cases h : y = x
      · exact iff_of_true (.inl h) ⟨.inl h, h ▸ hx⟩
      · simp only [h, or_false, false_or]

/-- What is named first comes first. -/
theorem pairwise_distinct (seen xs : List String) :
    (distinct seen xs).Pairwise fun y z => xs.idxOf y < xs.idxOf z := by
  induction xs generalizing seen with
  | nil => exact .nil
  | cons x xs ih =>
    have later {seen : List String} (hx : x ∈ seen) {y : String} (hy : y ∈ distinct seen xs) :
        (x :: xs).idxOf y = xs.idxOf y + 1 :=
      List.idxOf_cons_ne _ fun h => (mem_distinct.1 hy).2 (h ▸ hx)
    have shifted {seen : List String} (hx : x ∈ seen) :
        (distinct seen xs).Pairwise fun y z => (x :: xs).idxOf y < (x :: xs).idxOf z := by
      refine (ih seen).imp_of_mem fun hy hz h => ?_
      rw [later hx hy, later hx hz]
      exact Nat.succ_lt_succ h
    rw [distinct]
    split
    · next hx => exact shifted (by simpa using hx)
    · have hx : x ∈ seen ++ [x] := List.mem_append_right _ (.head _)
      refine List.pairwise_cons.2 ⟨fun z hz => ?_, shifted hx⟩
      rw [List.idxOf_cons_self, later hx hz]
      exact Nat.succ_pos _

variable (c : WorkerConfig)

theorem head?_topics : c.topics.head? = some (requestTopic c.service c.topicSuffix) := rfl

theorem mem_topics {topic : String} : topic ∈ c.topics ↔
    topic = requestTopic c.service c.topicSuffix ∨ topic ∈ c.extraTopics := by
  rw [topics, mem_distinct, List.mem_cons]
  exact and_iff_left List.not_mem_nil

theorem pairwise_topics : c.topics.Pairwise fun s t =>
    (requestTopic c.service c.topicSuffix :: c.extraTopics).idxOf s <
      (requestTopic c.service c.topicSuffix :: c.extraTopics).idxOf t :=
  pairwise_distinct ..

theorem nodup_topics : c.topics.Nodup := by
  refine c.pairwise_topics.imp ?_
  rintro s t h rfl
  exact Nat.lt_irrefl _ h

end CallGateway.WorkerConfig
