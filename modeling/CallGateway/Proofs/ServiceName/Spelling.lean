import CallGateway.Proofs.ServiceName

/-!
# Spellings of a name

A text comes apart at everything that is not alphanumeric, so its name is that of its segments:
what stands between two segments does not show in the name, nor does what stands in front of the
first and behind the last. In the name the segments stand between single hyphens, and cutting it at
the hyphens gives them back in lower case.
-/

namespace CallGateway

open Text

/-- Text in which nothing is alphanumeric. -/
def IsGap (cs : List Char) : Prop := ∀ c ∈ cs, isAlphanumeric c = false

instance : DecidablePred IsGap := List.decidableBAll fun c => isAlphanumeric c = false

/-! ## Segments and gaps -/

theorem segments_append_cons (hc : isAlphanumeric c = false) (xs ys : List Char) :
    segments (xs ++ c :: ys) = segments xs ++ segments ys := by
  rw [segments, cutSegments_append_cons hc, List.filter_append, segments, segments]

theorem segments_eq_nil_iff : segments cs = [] ↔ IsGap cs := by
  constructor
  · intro h c hc
    refine Bool.eq_false_iff.2 fun ha => ?_
    obtain ⟨s, hs, -⟩ := exists_mem_segments hc ha
    exact List.ne_nil_of_mem hs h
  · intro h
    refine List.eq_nil_iff_forall_not_mem.2 fun s hs => ?_
    obtain ⟨c, hc⟩ := List.exists_mem_of_ne_nil s (ne_nil_of_mem_segments hs)
    obtain ⟨ha, hc⟩ := mem_segments hs hc
    exact Bool.false_ne_true ((h c hc).symm.trans ha)

theorem segments_gap_append (h : IsGap gap) (cs : List Char) :
    segments (gap ++ cs) = segments cs := by
  induction gap with
  | nil => rfl
  | cons c gap ih =>
    have cut := segments_append_cons (h c (.head _)) [] (gap ++ cs)
    exact cut.trans (ih fun d hd => h d (.tail _ hd))

theorem segments_append_gap (h : IsGap gap) (cs : List Char) :
    segments (cs ++ gap) = segments cs := by
  cases gap with
  | nil => rw [List.append_nil]
  | cons c gap =>
    have rest : segments gap = [] := segments_eq_nil_iff.2 fun d hd => h d (.tail _ hd)
    rw [segments_append_cons (h c (.head _)), rest, List.append_nil]

/-- The segments on the two sides of a gap have nothing to do with each other. -/
theorem segments_append_gap_append (h : IsGap gap) (hne : gap ≠ []) (xs ys : List Char) :
    segments (xs ++ gap ++ ys) = segments xs ++ segments ys := by
  cases gap with
  | nil => exact absurd rfl hne
  | cons c gap =>
    rw [List.append_assoc, List.cons_append, segments_append_cons (h c (.head _)),
      segments_gap_append fun d hd => h d (.tail _ hd)]

/-! ## Names and gaps -/

theorem serviceName_congr (h : segments s.toList = segments t.toList) :
    serviceName s = serviceName t := by
  rw [serviceName, h, serviceName]

theorem lowerCase_ne_nil_of_mem (hs : s ∈ segments cs) : lowerCase s ≠ [] :=
  lowerFrom_ne_nil [] (ne_nil_of_mem_segments hs)

theorem serviceName_eq_empty_iff : serviceName s = "" ↔ IsGap s.toList := by
  rw [← segments_eq_nil_iff, ← String.toList_eq_nil_iff, toList_serviceName]
  constructor
  · intro h
    refine List.eq_nil_iff_forall_not_mem.2 fun t ht => ?_
    obtain ⟨c, hc⟩ := List.exists_mem_of_ne_nil _ (lowerCase_ne_nil_of_mem ht)
    exact List.ne_nil_of_mem (mem_intercalate_of_mem (List.mem_map_of_mem ht) hc) h
  · intro h
    rw [h]
    rfl

theorem serviceName_respaced (h : IsGap gap.toList) (hne : gap ≠ "") (h' : IsGap gap'.toList)
    (hne' : gap' ≠ "") (front back : String) :
    serviceName (front ++ gap ++ back) = serviceName (front ++ gap' ++ back) := by
  refine serviceName_congr ?_
  simp only [String.toList_append]
  rw [segments_append_gap_append h (mt String.toList_eq_nil_iff.1 hne),
    segments_append_gap_append h' (mt String.toList_eq_nil_iff.1 hne')]

theorem serviceName_surrounded (hf : IsGap front.toList) (hb : IsGap back.toList) (s : String) :
    serviceName (front ++ s ++ back) = serviceName s := by
  refine serviceName_congr ?_
  simp only [String.toList_append]
  rw [segments_append_gap hb, segments_gap_append hf]

/-! ## Hyphens -/

theorem hyphen_not_mem_lowerCase (hs : s ∈ segments cs) : '-' ∉ lowerCase s := by
  intro h
  rcases (mem_lowerFrom (fun c hc => (mem_segments hs hc).1) h).2 with ha | ⟨hd, -⟩
  · exact Bool.false_ne_true (not_isAlphanumeric_hyphen.symm.trans ha)
  · revert hd
    decide

/-- The hyphens of a name are those that join its segments. -/
theorem splitOn_serviceName (named : serviceName s ≠ "") :
    (serviceName s).toList.splitOn '-' = (segments s.toList).map lowerCase := by
  have some : (segments s.toList).map lowerCase ≠ [] := fun h =>
    named (serviceName_eq_empty_iff.2 (segments_eq_nil_iff.1 (List.map_eq_nil_iff.1 h)))
  rw [toList_serviceName]
  refine List.splitOn_intercalate '-' (fun t ht => ?_) some
  obtain ⟨r, hr, rfl⟩ := List.mem_map.1 ht
  exact hyphen_not_mem_lowerCase hr

/-- No hyphen of a name has an empty piece beside it. -/
theorem nil_not_mem_splitOn (h : (serviceName s).toList = xs ++ '-' :: ys) :
    [] ∉ xs.splitOn '-' ∧ [] ∉ ys.splitOn '-' := by
  have named : serviceName s ≠ "" := fun hs => by
    rw [hs, String.toList_empty] at h
    exact List.append_ne_nil_of_right_ne_nil xs (List.cons_ne_nil _ _) h.symm
  have pieces := splitOn_serviceName named
  rw [h, List.splitOn_append_cons_self] at pieces
  have filled : ∀ t ∈ xs.splitOn '-' ++ ys.splitOn '-', t ≠ [] := by
    intro t ht
    rw [pieces] at ht
    obtain ⟨r, hr, rfl⟩ := List.mem_map.1 ht
    exact lowerCase_ne_nil_of_mem hr
  exact ⟨fun hx => filled [] (List.mem_append_left _ hx) rfl,
    fun hy => filled [] (List.mem_append_right _ hy) rfl⟩

theorem serviceName_ne_hyphen_append (s t : String) : serviceName s ≠ "-" ++ t := by
  intro h
  have cut : (serviceName s).toList = [] ++ '-' :: t.toList := by
    rw [h, String.toList_append]
    rfl
  exact (nil_not_mem_splitOn cut).1 (.head _)

theorem serviceName_ne_append_hyphen (s t : String) : serviceName s ≠ t ++ "-" := by
  intro h
  have cut : (serviceName s).toList = t.toList ++ '-' :: [] := by
    rw [h, String.toList_append]
    rfl
  exact (nil_not_mem_splitOn cut).2 (.head _)

theorem serviceName_ne_append_hyphens (s t u : String) : serviceName s ≠ t ++ "--" ++ u := by
  intro h
  have cut : (serviceName s).toList = t.toList ++ '-' :: '-' :: u.toList := by
    rw [h, String.toList_append, String.toList_append, List.append_assoc]
    rfl
  refine (nil_not_mem_splitOn cut).2 ?_
  rw [List.splitOn_cons_eq_if_modifyHead, if_pos (beq_self_eq_true _)]
  exact .head _

/-! ## Small letters -/

theorem lowerCase_serviceName (s : String) :
    lowerCase (serviceName s).toList = (serviceName s).toList := by
  refine lowerCase_of_isSmall fun d hd => ?_
  rcases mem_serviceName hd with rfl | ⟨small, -⟩
  · decide
  · exact small

/-- The characters of a name are hyphens and alphanumeric characters, but for the dot that a dotted
capital I leaves behind. -/
theorem forall_mem_serviceName_iff :
    (∀ d ∈ (serviceName s).toList, d = '-' ∨ isAlphanumeric d) ↔ 'İ' ∉ s.toList := by
  constructor
  · intro h hi
    rcases h dotAbove (dotAbove_mem_serviceName_iff.2 hi) with h | h
    · revert h
      decide
    · exact Bool.false_ne_true (not_isAlphanumeric_dotAbove.symm.trans h)
  · intro hi d hd
    exact (mem_serviceName hd).imp_right fun h => h.2.resolve_right fun h => hi h.2

/-- How a text and its name belong together. -/
structure NamedBySegments (s : String) : Prop where
  /-- Exactly the texts with something alphanumeric have a name. -/
  unnamed : serviceName s = "" ↔ ∀ c ∈ s.toList, isAlphanumeric c = false
  no_leading_hyphen : ∀ t, serviceName s ≠ "-" ++ t
  no_trailing_hyphen : ∀ t, serviceName s ≠ t ++ "-"
  no_double_hyphen : ∀ t u, serviceName s ≠ t ++ "--" ++ u
  /-- A gap, wherever it is, can be filled in any other way as long as it is not closed. -/
  respaced : ∀ front gap back, s = front ++ gap ++ back → gap ≠ "" → IsGap gap.toList →
    ∀ gap', gap' ≠ "" → IsGap gap'.toList → serviceName (front ++ gap' ++ back) = serviceName s
  /-- A gap can be put in front and behind, and so it can be taken away there. -/
  surrounded : ∀ front back, IsGap front.toList → IsGap back.toList →
    serviceName (front ++ s ++ back) = serviceName s
  /-- There is nothing in a name to be made smaller. -/
  small : lowerCase (serviceName s).toList = (serviceName s).toList
  /-- Names have nothing but hyphens and alphanumeric characters, dotted capital I apart. -/
  characters : (∀ d ∈ (serviceName s).toList, d = '-' ∨ isAlphanumeric d) ↔ 'İ' ∉ s.toList
  /-- The name of a name is that name, dotted capital I apart. -/
  stable : serviceName (serviceName s) = serviceName s ↔ 'İ' ∉ s.toList

theorem namedBySegments (s : String) : NamedBySegments s where
  unnamed := serviceName_eq_empty_iff
  no_leading_hyphen := serviceName_ne_hyphen_append s
  no_trailing_hyphen := serviceName_ne_append_hyphen s
  no_double_hyphen := serviceName_ne_append_hyphens s
  respaced := by
    rintro front gap back rfl hne h gap' hne' h'
    exact serviceName_respaced h' hne' h hne front back
  surrounded _ _ hf hb := serviceName_surrounded hf hb s
  small := lowerCase_serviceName s
  characters := forall_mem_serviceName_iff
  stable := serviceName_serviceName_iff

/-- The capital sigma at the end of the first word is a final one in every spelling. -/
theorem namedBySegments_odos : serviceName "ΟΔΟΣ ΝΕΑ" = "οδος-νεα" ∧
    serviceName ("ΟΔΟΣ" ++ "_._" ++ "ΝΕΑ") = "οδος-νεα" ∧
    serviceName ("(" ++ "ΟΔΟΣ ΝΕΑ" ++ ")") = "οδος-νεα" ∧
    serviceName "οδος-νεα" = "οδος-νεα" := by
  have laws := namedBySegments "ΟΔΟΣ ΝΕΑ"
  have name : serviceName "ΟΔΟΣ ΝΕΑ" = "οδος-νεα" := by decide
  refine ⟨name, ?_, ?_, ?_⟩
  · have respaced := laws.respaced "ΟΔΟΣ" " " "ΝΕΑ" rfl (by decide) (by decide)
    rw [respaced "_._" (by decide) (by decide), name]
  · rw [laws.surrounded "(" ")" (by decide) (by decide), name]
  · have stable := laws.stable.2 (by decide)
    rwa [name] at stable

end CallGateway
