import CallGateway.Proofs.Json.Range
import CallGateway.Proofs.Json.Record
import CallGateway.Proofs.Json.Value

/-!
# How deep values are

A printed value is decoded if it is nested within the limit, whatever numbers it has, and what has
been decoded is nested within the limit.
-/

namespace CallGateway.Json

open Value

/-! ## Parts of containers -/

theorem mem_of_values {ts : List Tree} {vs : List Value} (H : Decoder.values ts = .ok vs) :
    ∀ v ∈ vs, ∃ t ∈ ts, Decoder.value t = .ok v := by
  induction ts generalizing vs with
  | nil =>
    cases H
    exact nofun
  | cons t ts ih =>
    simp only [Decoder.values, bind, Except.bind] at H
    split at H
    · cases H
    · next w hw =>
      split at H
      · cases H
      · next ws hws =>
        cases H
        intro v hv
        obtain rfl | hv := List.mem_cons.1 hv
        · exact ⟨t, .head _, hw⟩
        · obtain ⟨t', ht', h⟩ := ih hws v hv
          exact ⟨t', .tail _ ht', h⟩

theorem mem_of_fieldValues {ms : List (Option String × Tree)} {fs : List (String × Value)}
    (H : Decoder.fieldValues ms = .ok fs) :
    ∀ f ∈ fs, ∃ m ∈ ms, Decoder.value m.2 = .ok f.2 := by
  induction ms generalizing fs with
  | nil =>
    cases H
    exact nofun
  | cons m ms ih =>
    obtain ⟨name, t⟩ := m
    cases name with
    | none => cases H
    | some k =>
      simp only [Decoder.fieldValues, bind, Except.bind] at H
      split at H
      · cases H
      · next w hw =>
        split at H
        · cases H
        · next gs hgs =>
          cases H
          intro f hf
          obtain rfl | hf := List.mem_cons.1 hf
          · exact ⟨_, .head _, hw⟩
          · obtain ⟨m, hm, h⟩ := ih hgs f hf
            exact ⟨m, .tail _ hm, h⟩

theorem exists_values {ts : List Tree} (H : ∀ t ∈ ts, ∃ v, Decoder.value t = .ok v) :
    ∃ vs, Decoder.values ts = .ok vs := by
  induction ts with
  | nil => exact ⟨_, rfl⟩
  | cons t ts ih =>
    obtain ⟨v, hv⟩ := H t (.head _)
    obtain ⟨vs, hvs⟩ := ih fun t ht => H t (.tail _ ht)
    exact ⟨v :: vs, by rw [Decoder.values, hv, hvs]; rfl⟩

theorem exists_fieldValues {ms : List (Option String × Tree)}
    (H : ∀ m ∈ ms, m.1.isSome = true ∧ ∃ v, Decoder.value m.2 = .ok v) :
    ∃ fs, Decoder.fieldValues ms = .ok fs := by
  induction ms with
  | nil => exact ⟨_, rfl⟩
  | cons m ms ih =>
    obtain ⟨name, t⟩ := m
    obtain ⟨hname, v, hv⟩ := H _ (.head _)
    obtain ⟨k, rfl⟩ := Option.isSome_iff_exists.1 hname
    obtain ⟨fs, hfs⟩ := ih fun m hm => H m (.tail _ hm)
    exact ⟨(k, v) :: fs, by rw [Decoder.fieldValues, hv, hfs]; rfl⟩

namespace Value

/-! ## Decoded values -/

/-- A value within the nesting limit is decoded from its text, though its numbers may differ. -/
theorem exists_value_readBack (v : Value) {level : Nat} (H : level + v.nesting ≤ nestingLimit) :
    ∃ w, Decoder.value (v.readBack level) = .ok w := by
  induction v using ind generalizing level with
  | null | bool | string => exact ⟨_, rfl⟩
  | number n =>
    obtain ⟨m, hm⟩ := n.exists_reread
    exact ⟨.number m, by rw [readBack, hm]; rfl⟩
  | array items ih =>
    rw [nesting] at H
    have hitems : ∀ t ∈ readBackItems (level + 1) items, ∃ w, Decoder.value t = .ok w := by
      intro t ht
      rw [readBackItems_eq_map] at ht
      obtain ⟨v, hv, rfl⟩ := List.mem_map.1 ht
      have hle := nestingItems_le_iff.1 (Nat.le_refl _) v hv
      exact ih v hv (by omega)
    obtain ⟨vs, hvs⟩ := exists_values hitems
    have hdeep : ¬ nestingLimit ≤ level := by omega
    refine ⟨.array vs, ?_⟩
    rw [readBack, decide_eq_false hdeep, Decoder.value, hvs]
    rfl
  | object fields ih =>
    rw [nesting] at H
    have hfields : ∀ m ∈ readBackFields (level + 1) fields,
        m.1.isSome = true ∧ ∃ w, Decoder.value m.2 = .ok w := by
      intro m hm
      rw [readBackFields_eq_map] at hm
      obtain ⟨f, hf, rfl⟩ := List.mem_map.1 hm
      have hle := nestingFields_le_iff.1 (Nat.le_refl _) f hf
      exact ⟨rfl, ih f hf (by omega)⟩
    obtain ⟨fs, hfs⟩ := exists_fieldValues hfields
    have hdeep : ¬ nestingLimit ≤ level := by omega
    refine ⟨.object (sortFields fs), ?_⟩
    rw [readBack, decide_eq_false hdeep, Decoder.value, hfs]
    rfl

theorem nesting_sortFields_le {fields : List (String × Value)} (H : ∀ f ∈ fields, f.2.nesting ≤ n) :
    nestingFields (sortFields fields) ≤ n :=
  nestingFields_le_iff.2 fun f hf => H f (mem_sortFields hf)

/-- What has been decoded from a text lies within the nesting limit. -/
theorem nesting_of_value_readBack (v : Value) {level : Nat} {w : Value}
    (hl : level ≤ nestingLimit) (H : Decoder.value (v.readBack level) = .ok w) :
    level + w.nesting ≤ nestingLimit := by
  induction v using ind generalizing level w with
  | null | bool | string =>
    cases H
    exact hl
  | number n =>
    obtain ⟨m, hm⟩ := n.exists_reread
    rw [readBack, hm] at H
    cases H
    exact hl
  | array items ih =>
    rw [readBack, Decoder.value] at H
    split at H
    · cases H
    next hdeep =>
    obtain ⟨vs, hvs, rfl⟩ := Except.map_eq_ok.1 H
    have hlevel : level < nestingLimit := by simpa using hdeep
    have hitems : nestingItems vs ≤ nestingLimit - (level + 1) := by
      apply nestingItems_le_iff.2
      intro w hw
      obtain ⟨t, ht, h⟩ := mem_of_values hvs w hw
      rw [readBackItems_eq_map] at ht
      obtain ⟨v, hv, rfl⟩ := List.mem_map.1 ht
      have hle := ih v hv hlevel h
      omega
    rw [nesting]
    omega
  | object fields ih =>
    rw [readBack, Decoder.value] at H
    split at H
    · cases H
    next hdeep =>
    obtain ⟨fs, hfs, rfl⟩ := Except.map_eq_ok.1 H
    have hlevel : level < nestingLimit := by simpa using hdeep
    have hfields : nestingFields (sortFields fs) ≤ nestingLimit - (level + 1) := by
      apply nesting_sortFields_le
      intro f hf
      obtain ⟨m, hm, h⟩ := mem_of_fieldValues hfs f hf
      rw [readBackFields_eq_map] at hm
      obtain ⟨g, hg, rfl⟩ := List.mem_map.1 hm
      have hle := ih g hg hlevel h
      omega
    rw [nesting]
    omega

/-- The normal form of a value is no deeper. -/
theorem nesting_normal_le (v : Value) : v.normal.nesting ≤ v.nesting := by
  induction v using ind with
  | null | bool | number | string => exact Nat.le_refl _
  | array items ih =>
    rw [normal, nesting, nesting, normalItems_eq_map]
    apply Nat.succ_le_succ
    apply nestingItems_le_iff.2
    intro w hw
    obtain ⟨v, hv, rfl⟩ := List.mem_map.1 hw
    exact Nat.le_trans (ih v hv) (nestingItems_le_iff.1 (Nat.le_refl _) v hv)
  | object fields ih =>
    rw [normal, nesting, nesting, normalFields_eq_map]
    apply Nat.succ_le_succ
    apply nesting_sortFields_le
    intro g hg
    obtain ⟨f, hf, rfl⟩ := List.mem_map.1 hg
    exact Nat.le_trans (ih f hf) (nestingFields_le_iff.1 (Nat.le_refl _) f hf)

end Value

end CallGateway.Json
