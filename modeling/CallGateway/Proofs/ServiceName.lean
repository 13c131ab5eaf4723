import CallGateway.Proofs.Text.Lowercase
import CallGateway.ServiceName

/-!
# Names of services

The name of a name is that name again, unless the client type has a dotted capital I: that leaves
behind a combining dot, at which the name would be cut.
-/

namespace CallGateway

open Text

/-! ## Segments -/

/-- The cut is that of lists in general, at everything that is not alphanumeric. -/
theorem cutSegments_eq_splitOnP (cs : List Char) :
    cutSegments cs = cs.splitOnP fun c => !isAlphanumeric c := by
  induction cs with
  | nil => rfl
  | cons c cs ih =>
    rw [cutSegments, List.splitOnP_cons_eq_if_modifyHead, ih]
    cases isAlphanumeric c with
    | false => rfl
    | true =>
      obtain ⟨s, ss, h⟩ := List.exists_cons_of_ne_nil
        (List.splitOnP_ne_nil (fun c => !isAlphanumeric c) cs)
      rw [h]
      rfl

/-- An alphanumeric character goes to the piece that is open. -/
theorem exists_cutSegments_cons (h : isAlphanumeric c) (cs : List Char) :
    ∃ s ss, cutSegments cs = s :: ss ∧ cutSegments (c :: cs) = (c :: s) :: ss := by
  have some : cutSegments cs ≠ [] := by
    rw [cutSegments_eq_splitOnP]
    exact List.splitOnP_ne_nil _ _
  obtain ⟨s, ss, hcut⟩ := List.exists_cons_of_ne_nil some
  refine ⟨s, ss, hcut, ?_⟩
  rw [cutSegments, if_pos h, hcut]

theorem cutSegments_of_alphanumeric (h : ∀ c ∈ cs, isAlphanumeric c) : cutSegments cs = [cs] := by
  rw [cutSegments_eq_splitOnP, List.splitOnP_eq_singleton fun c hc => by rw [h c hc]; rfl]

theorem cutSegments_append_cons (hc : isAlphanumeric c = false) (xs ys : List Char) :
    cutSegments (xs ++ c :: ys) = cutSegments xs ++ cutSegments ys := by
  simp only [cutSegments_eq_splitOnP]
  exact List.splitOnP_append_cons xs ys (by rw [hc]; rfl)

theorem cutSegments_intercalate (hss : ss ≠ []) (h : ∀ s ∈ ss, ∀ c ∈ s, isAlphanumeric c) :
    cutSegments (['-'].intercalate ss) = ss := by
  induction ss with
  | nil => exact absurd rfl hss
  | cons s ss ih =>
    cases ss with
    | nil => rw [List.intercalate_singleton, cutSegments_of_alphanumeric (h s (.head _))]
    | cons s' ss =>
      rw [List.intercalate_cons_cons, List.append_assoc, List.singleton_append,
        cutSegments_append_cons not_isAlphanumeric_hyphen,
        cutSegments_of_alphanumeric (h s (.head _)),
        ih (List.cons_ne_nil _ _) fun x hx => h x (.tail _ hx), List.singleton_append]

/-- Segments which are joined come apart again. -/
theorem segments_intercalate (hne : ∀ s ∈ ss, s ≠ []) (h : ∀ s ∈ ss, ∀ c ∈ s, isAlphanumeric c) :
    segments (['-'].intercalate ss) = ss := by
  cases ss with
  | nil => rfl
  | cons s ss =>
    rw [segments, cutSegments_intercalate (List.cons_ne_nil _ _) h, List.filter_eq_self]
    intro t ht
    simpa using hne t ht

theorem ne_nil_of_mem_segments (h : s ∈ segments cs) : s ≠ [] := by
  have := (List.mem_filter.1 h).2
  simpa using this

theorem mem_cutSegments (hs : s ∈ cutSegments cs) (hc : c ∈ s) : isAlphanumeric c ∧ c ∈ cs := by
  induction cs generalizing s with
  | nil =>
    cases List.mem_singleton.1 hs
    cases hc
  | cons d cs ih =>
    by_cases hd : isAlphanumeric d
    · obtain ⟨t, ts, ht, h⟩ := exists_cutSegments_cons hd cs
      rw [h] at hs
      rw [ht] at ih
      rcases List.mem_cons.1 hs with rfl | hs
      · rcases List.mem_cons.1 hc with rfl | hc
        · exact ⟨hd, .head _⟩
        · exact (ih (.head _) hc).imp_right (.tail _)
      · exact (ih (.tail _ hs) hc).imp_right (.tail _)
    · rw [cutSegments, if_neg hd] at hs
      rcases List.mem_cons.1 hs with rfl | hs
      · cases hc
      · exact (ih hs hc).imp_right (.tail _)

theorem exists_mem_cutSegments (hc : c ∈ cs) (ha : isAlphanumeric c) :
    ∃ s ∈ cutSegments cs, c ∈ s := by
  induction cs with
  | nil => cases hc
  | cons d cs ih =>
    by_cases hd : isAlphanumeric d
    · obtain ⟨t, ts, ht, h⟩ := exists_cutSegments_cons hd cs
      rw [h]
      rw [ht] at ih
      rcases List.mem_cons.1 hc with rfl | hc
      · exact ⟨_, .head _, .head _⟩
      · obtain ⟨s, hs, hc⟩ := ih hc
        rcases List.mem_cons.1 hs with rfl | hs
        · exact ⟨_, .head _, .tail _ hc⟩
        · exact ⟨s, .tail _ hs, hc⟩
    · rw [cutSegments, if_neg hd]
      rcases List.mem_cons.1 hc with rfl | hc
      · exact absurd ha hd
      · obtain ⟨s, hs, hc⟩ := ih hc
        exact ⟨s, .tail _ hs, hc⟩

theorem mem_segments (hs : s ∈ segments cs) (hc : c ∈ s) : isAlphanumeric c ∧ c ∈ cs :=
  mem_cutSegments (List.mem_filter.1 hs).1 hc

theorem exists_mem_segments (hc : c ∈ cs) (ha : isAlphanumeric c) : ∃ s ∈ segments cs, c ∈ s := by
  obtain ⟨s, hs, h⟩ := exists_mem_cutSegments hc ha
  exact ⟨s, List.mem_filter.2 ⟨hs, by simpa using List.ne_nil_of_mem h⟩, h⟩

/-! ## Names -/

theorem mem_intercalate (h : c ∈ ['-'].intercalate ss) : c = '-' ∨ ∃ s ∈ ss, c ∈ s := by
  induction ss with
  | nil => cases h
  | cons s ss ih =>
    cases ss with
    | nil => rw [List.intercalate_singleton] at h; exact .inr ⟨s, .head _, h⟩
    | cons s' ss =>
      rw [List.intercalate_cons_cons, List.append_assoc, List.singleton_append, List.mem_append,
        List.mem_cons] at h
      rcases h with h | h | h
      · exact .inr ⟨s, .head _, h⟩
      · exact .inl h
      · exact (ih h).imp_right fun ⟨t, ht, h⟩ => ⟨t, .tail _ ht, h⟩

theorem mem_intercalate_of_mem (hs : s ∈ ss) (hc : c ∈ s) : c ∈ ['-'].intercalate ss := by
  induction ss with
  | nil => cases hs
  | cons t ss ih =>
    cases ss with
    | nil =>
      cases List.mem_singleton.1 hs
      rwa [List.intercalate_singleton]
    | cons t' ss =>
      rw [List.intercalate_cons_cons, List.append_assoc, List.mem_append]
      rcases List.mem_cons.1 hs with rfl | hs
      · exact .inl hc
      · exact .inr (List.mem_append_right _ (ih hs))

theorem toList_serviceName (c : String) :
    (serviceName c).toList = ['-'].intercalate ((segments c.toList).map lowerCase) :=
  String.toList_ofList

/-- A name consists of hyphens, of small alphanumeric characters, and of the dots that dotted
capital I's have left behind. -/
theorem mem_serviceName {c : String} (hd : d ∈ (serviceName c).toList) :
    d = '-' ∨ isSmall d ∧ (isAlphanumeric d ∨ d = dotAbove ∧ 'İ' ∈ c.toList) := by
  rw [toList_serviceName] at hd
  rcases mem_intercalate hd with hd | ⟨t, ht, hd⟩
  · exact .inl hd
  · obtain ⟨s, hs, rfl⟩ := List.mem_map.1 ht
    obtain ⟨h1, h2⟩ := mem_lowerFrom (fun x hx => (mem_segments hs hx).1) hd
    exact .inr ⟨h1, h2.imp_right fun h => ⟨h.1, (mem_segments hs h.2).2⟩⟩

theorem dottedI_not_mem_serviceName (c : String) : 'İ' ∉ (serviceName c).toList := by
  intro h
  rcases mem_serviceName h with h | ⟨h, -⟩
  · revert h; decide
  · revert h; decide

theorem dotAbove_mem_serviceName_iff {c : String} :
    dotAbove ∈ (serviceName c).toList ↔ 'İ' ∈ c.toList := by
  constructor
  · intro h
    rcases mem_serviceName h with h | ⟨-, h | h⟩
    · exact absurd h (by decide)
    · rw [not_isAlphanumeric_dotAbove] at h; cases h
    · exact h.2
  · intro h
    obtain ⟨s, hs, hi⟩ := exists_mem_segments h (by decide)
    rw [toList_serviceName]
    exact mem_intercalate_of_mem (List.mem_map_of_mem hs) (dotAbove_mem_lowerFrom [] hi)

theorem segments_serviceName {c : String} (h : 'İ' ∉ c.toList) :
    segments (serviceName c).toList = (segments c.toList).map lowerCase := by
  rw [toList_serviceName]
  refine segments_intercalate (fun t ht => ?_) (fun t ht d hd => ?_)
  · obtain ⟨s, hs, rfl⟩ := List.mem_map.1 ht
    exact lowerFrom_ne_nil [] (ne_nil_of_mem_segments hs)
  · obtain ⟨s, hs, rfl⟩ := List.mem_map.1 ht
    obtain ⟨-, h' | h'⟩ := mem_lowerFrom (fun x hx => (mem_segments hs hx).1) hd
    · exact h'
    · exact absurd (mem_segments hs h'.2).2 h

/-- The names that stand for themselves. -/
theorem serviceName_serviceName_iff {c : String} :
    serviceName (serviceName c) = serviceName c ↔ 'İ' ∉ c.toList := by
  constructor
  · intro h hi
    have hd := dotAbove_mem_serviceName_iff.2 hi
    rw [← h, dotAbove_mem_serviceName_iff] at hd
    exact dottedI_not_mem_serviceName c hd
  · intro h
    have hm :
        (segments (serviceName c).toList).map lowerCase = (segments c.toList).map lowerCase := by
      rw [segments_serviceName h, List.map_map]
      refine List.map_congr_left fun s hs => ?_
      exact lowerFrom_of_isSmall [] fun d hd =>
        (mem_lowerFrom (fun x hx => (mem_segments hs hx).1) hd).1
    rw [serviceName, hm, serviceName]

end CallGateway
