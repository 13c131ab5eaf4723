import CallGateway.Directory.Timeline
import CallGateway.Gateway
import CallGateway.Proofs.ServiceName
import CallGateway.Proofs.Worker.Topics

/-!
# Where calls go

Callers, the directory and workers derive the name of a service on their own. The directory is asked
under a name that has been derived before, so a caller reaches the pool if the name stands for
itself, which is so exactly if the client type has no dotted capital I.
-/

namespace CallGateway

/-! ## The directory -/

namespace Directory

variable {d d₁ : Directory} {id : Uuid}

theorem under_set (name m : String) (ids : List Uuid) :
    under { d with services := d.services.set name ids } m =
      if m = name then ids else d.under m := by
  rw [under, Keyed.get?_set]
  split <;> rfl

theorem under_erase (name m : String) :
    under { d with services := d.services.erase name } m = if m = name then [] else d.under m := by
  rw [under, Keyed.get?_erase]
  split <;> rfl

theorem register_eq (d : Directory) (s : String) (id : Uuid) :
    d.register s id =
      if serviceName s = "" then .error (.invalidServiceName s)
      else if id ∈ d.under (serviceName s) then .error (.instanceAlreadyExists id)
      else .ok { d with
        services := d.services.set (serviceName s) (d.under (serviceName s) ++ [id]) } := by
  simp only [register, normalName, String.isEmpty_iff, List.contains_iff_mem]
  split <;> rfl

theorem deregister_eq (d : Directory) (s : String) (id : Uuid) :
    d.deregister s id =
      if serviceName s = "" then .error (.invalidServiceName s)
      else if id ∈ d.under (serviceName s) then
        let left := (d.under (serviceName s)).erase id
        .ok { d with
          services :=
            if left.isEmpty then d.services.erase (serviceName s)
            else d.services.set (serviceName s) left }
      else .error (.instanceNotFound id) := by
  simp only [deregister, normalName, String.isEmpty_iff, List.contains_iff_mem]
  split <;> rfl

theorem register_eq_ok (h : d.register s id = .ok d₁) : serviceName s ≠ "" ∧ ∀ m, d₁.under m =
    if m = serviceName s then d.under (serviceName s) ++ [id] else d.under m := by
  rw [register_eq] at h
  split at h
  · cases h
  · next hne =>
    split at h
    · cases h
    · cases h
      exact ⟨hne, fun m => under_set ..⟩

/-- The only instance of a directory. -/
theorem register_new (named : serviceName s ≠ "") (id : Uuid) :
    ∃ d₁, register {} s id = .ok d₁ ∧ d₁.available = true ∧
      ∀ m, d₁.under m = if m = serviceName s then [id] else [] := by
  have new (m : String) : under {} m = [] := rfl
  refine ⟨{ services := Keyed.set .empty (serviceName s) [id] }, ?_, rfl, fun m => ?_⟩
  · rw [register_eq, if_neg named, new, if_neg List.not_mem_nil]; rfl
  · exact under_set (d := {}) ..

theorem deregister_eq_ok (h : d.deregister s id = .ok d₁) (m : String) : d₁.under m =
    if m = serviceName s then (d.under (serviceName s)).erase id else d.under m := by
  rw [deregister_eq] at h
  split at h
  · cases h
  · split at h
    · cases h
      by_cases he : ((d.under (serviceName s)).erase id).isEmpty
      · rw [if_pos he, under_erase, List.isEmpty_iff.1 he]
      · rw [if_neg he]
        exact under_set ..
    · cases h

end Directory

/-- The change takes an instance away from a name. -/
def DirectoryChange.TakesAway (name : String) (id : Uuid) : DirectoryChange → Prop
  | .deregister service i => serviceName service = name ∧ i = id
  | _ => False

namespace Directory

variable {d d₁ : Directory} {id : Uuid}

/-- One change after the other. -/
def changes (d : Directory) (xs : List DirectoryChange) : Directory := xs.foldl change d

/-- An instance stays until it is taken away. -/
theorem mem_under_change (h : id ∈ d.under name) (hx : ¬ x.TakesAway name id) :
    id ∈ (d.change x).under name := by
  rw [change]
  split
  · next d₁ hx' =>
    cases x with
    | register s i =>
      rw [(register_eq_ok hx').2]
      split
      · next hs => exact List.mem_append_left _ (hs ▸ h)
      · exact h
    | deregister s i =>
      rw [deregister_eq_ok hx']
      split
      · next hs =>
        have hi : id ≠ i := fun hi => hx ⟨hs.symm, hi.symm⟩
        exact (List.mem_erase_of_ne hi).2 (hs ▸ h)
      · exact h
    | setAvailable a => cases hx'; exact h
  · exact h

theorem mem_under_changes (h : id ∈ d.under name) (hxs : ∀ x ∈ xs, ¬ x.TakesAway name id) :
    id ∈ (d.changes xs).under name := by
  induction xs generalizing d with
  | nil => exact h
  | cons x xs ih =>
    exact ih (mem_under_change h (hxs x (.head _))) fun y hy => hxs y (.tail _ hy)

end Directory

/-! ## Resolution -/

/-- The directory derives a name once more from the name for which it is asked. -/
theorem resolveTopic_eq {d : Directory} (available : d.available = true) (suffix c : String) :
    resolveTopic d suffix c =
      if serviceName c = "" then .error (.unnamedService c)
      else if d.under (serviceName (serviceName c)) = [] then
        .error (.serviceNotFound (serviceName c) d.known)
      else .ok (requestTopic c suffix) := by
  simp only [resolveTopic, String.isEmpty_iff, Directory.serves, Directory.hasInstances, available,
    if_true, Directory.instances, Bool.not_eq_true', List.isEmpty_eq_false_iff]
  grind

/-- Whoever calls `c` reaches the pool that has registered as `s`: from then on, for as long as the
instance is not taken away and the directory answers, the topic to which calls go is the one that
workers of the pool consume first. -/
def Reaches (s c suffix : String) : Prop :=
  ∀ (d d₁ : Directory) (id : Uuid) (xs : List DirectoryChange),
    d.register s id = .ok d₁ → (∀ x ∈ xs, ¬ x.TakesAway (serviceName s) id) →
    (d₁.changes xs).available = true →
    ∀ w : WorkerConfig, w.service = s → w.topicSuffix = suffix →
      ∃ topic, resolveTopic (d₁.changes xs) suffix c = .ok topic ∧ w.topics.head? = some topic

/-- Callers and pools with one name reach each other exactly if the name stands for itself. -/
theorem reaches_iff {s c : String} (same : serviceName s = serviceName c) (named : serviceName c ≠ "")
    (suffix : String) : Reaches s c suffix ↔ 'İ' ∉ c.toList := by
  rw [← serviceName_serviceName_iff]
  constructor
  · intro h
    -- A directory that knows this one instance only.
    obtain ⟨d₁, hr, available, hu⟩ := Directory.register_new (same ▸ named) ⟨0⟩
    obtain ⟨topic, ht, -⟩ := h {} d₁ ⟨0⟩ [] hr nofun available
      { service := s, topicSuffix := suffix } rfl rfl
    rw [Directory.changes, List.foldl_nil, resolveTopic_eq available, if_neg named, hu] at ht
    refine Classical.byContradiction fun hne => ?_
    rw [same, if_neg hne, if_pos rfl] at ht
    cases ht
  · intro h d d₁ id xs hr hxs available w hs hsuffix
    have hid : id ∈ (d₁.changes xs).under (serviceName s) := by
      refine Directory.mem_under_changes ?_ hxs
      rw [(Directory.register_eq_ok hr).2, if_pos rfl]
      exact List.mem_append_right _ (.head _)
    refine ⟨requestTopic c suffix, ?_, ?_⟩
    · rw [resolveTopic_eq available, if_neg named, h, ← same, if_neg (List.ne_nil_of_mem hid)]
    · rw [w.head?_topics, hs, hsuffix, requestTopic, same]; rfl

theorem reaches_client_1 : serviceName "CLIENT_1" = serviceName "client 1" ∧
    serviceName "client 1" ≠ "" ∧ Reaches "CLIENT_1" "client 1" defaultTopicSuffix :=
  have same : serviceName "CLIENT_1" = serviceName "client 1" := by decide
  have named : serviceName "client 1" ≠ "" := by decide
  ⟨same, named, (reaches_iff same named defaultTopicSuffix).2 (by decide)⟩

/-- The pool of the dotted capital I is registered, but a call for it finds no service. -/
theorem dottedI_not_found : ∃ d₁ : Directory, Directory.register {} "İ" ⟨0⟩ = .ok d₁ ∧
    d₁.available = true ∧ serviceName "İ" ≠ "" ∧
    resolveTopic d₁ defaultTopicSuffix "İ" = .error (.serviceNotFound "i̇" d₁.known) := by
  have hn : serviceName "İ" = "i̇" := by decide
  have named : serviceName "İ" ≠ "" := by rw [hn]; decide
  obtain ⟨d₁, hr, available, hu⟩ := Directory.register_new named ⟨0⟩
  refine ⟨d₁, hr, available, named, ?_⟩
  have other : serviceName "i̇" ≠ "i̇" := by decide
  rw [resolveTopic_eq available, if_neg named, hu, hn, if_neg other, if_pos rfl]

end CallGateway
