import CallGateway.Proofs.Json.Record

/-!
# What is accepted is intact

A document of which a decoder makes something has the form of JSON to its end: what the decoder
reads it reads to the end, and what it passes over it looks through. Two decoders that agree on what
they read therefore accept the same documents, whatever else one of them has to read.
-/

namespace CallGateway.Json

namespace Tree

theorem intactItems_iff {ts : List Tree} :
    intactItems ts = true ↔ ∀ t ∈ ts, t.intact = true := by
  induction ts with
  | nil => simp [intactItems]
  | cons t ts ih => simp [intactItems, ih]

theorem intactMembers_iff {ms : List (Option String × Tree)} :
    intactMembers ms = true ↔ ∀ m ∈ ms, m.2.intact = true := by
  induction ms with
  | nil => simp [intactMembers]
  | cons m ms ih =>
    rw [List.forall_mem_cons, ← ih]
    obtain ⟨n, t⟩ := m
    rw [intactMembers, Bool.and_eq_true]

end Tree

namespace Decoder

variable {d : Decoder α}

/-- The decoder accepts nothing that breaks off. -/
def Whole (d : Decoder α) : Prop := ∀ t a, d t = .ok a → t.intact = true

theorem string_whole : string.Whole := by
  intro t a h
  cases t with
  | broken | array | object => cases h
  | null | bool | number | string => rfl

theorem parsed_whole (expected complaint : String) (read : String → Option α) :
    (parsed expected complaint read).Whole := by
  intro t a h
  cases t with
  | broken | array | object => cases h
  | null | bool | number | string => rfl

theorem Whole.option (H : d.Whole) : d.option.Whole := by
  intro t a h
  cases t with
  | null => rfl
  | _ =>
    obtain ⟨b, hb, -⟩ := Except.map_eq_ok.1 h
    exact H _ _ hb

theorem Whole.map_go (H : d.Whole) {ms : List (Option String × Tree)} {fs : List (String × α)}
    (h : map.go d ms = .ok fs) : ∀ m ∈ ms, m.2.intact = true := by
  induction ms generalizing fs with
  | nil => exact nofun
  | cons m ms ih =>
    obtain ⟨name, t⟩ := m
    cases name with
    | none => cases h
    | some k =>
      simp only [map.go, bind, Except.bind] at h
      split at h
      · cases h
      · next ha =>
        split at h
        · cases h
        · next has =>
          exact List.forall_mem_cons.2 ⟨H _ _ (Except.mapError_eq_ok.1 ha), ih has⟩

theorem Whole.map (H : d.Whole) : d.map.Whole := by
  intro t a h
  cases t with
  | object deep ms =>
    rw [Decoder.map] at h
    split at h
    · cases h
    · obtain ⟨fs, hfs, -⟩ := Except.map_eq_ok.1 h
      exact Tree.intactMembers_iff.2 (H.map_go hfs)
  | broken | array => cases h
  | null | bool | number | string => rfl

mutual

theorem intact_of_value {v : Value} : ∀ {t : Tree}, value t = .ok v → t.intact = true
  | .broken, h => by cases h
  | .null, _ | .bool _, _ | .number _, _ | .string _, _ => rfl
  | .array deep items, h => by
    rw [value] at h
    split at h
    · cases h
    · obtain ⟨vs, hvs, -⟩ := Except.map_eq_ok.1 h
      exact intact_of_values hvs
  | .object deep members, h => by
    rw [value] at h
    split at h
    · cases h
    · obtain ⟨fs, hfs, -⟩ := Except.map_eq_ok.1 h
      exact intact_of_fieldValues hfs

theorem intact_of_values : ∀ {ts : List Tree} {vs : List Value},
    values ts = .ok vs → Tree.intactItems ts = true
  | [], _, _ => rfl
  | t :: ts, _, h => by
    simp only [values, bind, Except.bind] at h
    split at h
    · cases h
    · next hv =>
      split at h
      · cases h
      · next hvs => rw [Tree.intactItems, intact_of_value hv, intact_of_values hvs]; rfl

theorem intact_of_fieldValues : ∀ {ms : List (Option String × Tree)} {fs : List (String × Value)},
    fieldValues ms = .ok fs → Tree.intactMembers ms = true
  | [], _, _ => rfl
  | (none, _) :: _, _, h => by cases h
  | (some k, t) :: ms, _, h => by
    simp only [fieldValues, bind, Except.bind] at h
    split at h
    · cases h
    · next hv =>
      split at h
      · cases h
      · next hfs => rw [Tree.intactMembers, intact_of_value hv, intact_of_fieldValues hfs]; rfl

end

theorem value_whole : value.Whole := fun _ _ => intact_of_value

end Decoder

namespace Fields

variable {ms : List (Option String × Tree)} {names : List String} {name : String}

/-- Of the members that these fields claim, or of the items, none breaks off. -/
structure Whole (f : Fields α) : Prop where
  ofMembers : ∀ {ms a}, f.ofMembers ms = .ok a →
    ∀ name ∈ f.names, ∀ t, (some name, t) ∈ ms → t.intact = true
  ofItems : ∀ {expected i items a}, f.ofItems expected i items = .ok a →
    ∀ t ∈ items.take f.names.length, t.intact = true

theorem pure_whole (a : α) : (pure a : Fields α).Whole where
  ofMembers _ _ h := nomatch h
  ofItems _ _ h := nomatch h

theorem ofItems_seq {f : Fields (α → β)} {x : Fields α} {expected : String} {i : Nat}
    {items : List Tree} {b : β} (h : (f <*> x).ofItems expected i items = .ok b) :
    (∃ g, f.ofItems expected i items = .ok g) ∧
      ∃ a, x.ofItems expected (i + f.names.length) (items.drop f.names.length) = .ok a := by
  obtain ⟨⟨g, a⟩, h, -⟩ := Except.map_eq_ok.1 h
  obtain ⟨hg, ha⟩ := Met.both_eq_ok.1 h
  exact ⟨⟨g, hg⟩, a, ha⟩

theorem Whole.seq {f : Fields (α → β)} {x : Fields α} (F : f.Whole) (X : x.Whole) :
    (f <*> x).Whole where
  ofMembers h name hn t ht := by
    obtain ⟨g, a, hg, ha, -⟩ := ofMembers_seq.1 h
    rcases List.mem_append.1 hn with hn | hn
    · exact F.ofMembers hg name hn t ht
    · exact X.ofMembers ha name hn t ht
  ofItems h t ht := by
    obtain ⟨⟨g, hg⟩, a, ha⟩ := ofItems_seq h
    rw [show (f <*> x).names = f.names ++ x.names from rfl, List.length_append, List.take_add] at ht
    rcases List.mem_append.1 ht with ht | ht
    · exact F.ofItems hg t ht
    · exact X.ofItems ha t ht

theorem Whole.map {x : Fields α} (X : x.Whole) (g : α → β) : (g <$> x).Whole :=
  (pure_whole g).seq X

theorem mem_occurrences {t : Tree} (h : (some name, t) ∈ ms) : ∃ i, (i, t) ∈ occurrences name ms := by
  obtain ⟨i, hi⟩ := List.mem_iff_getElem?.1 h
  refine ⟨i, List.mem_filterMap.2 ⟨((some name, t), i), List.mk_mem_zipIdx_iff_getElem?.2 hi, ?_⟩⟩
  exact if_pos rfl

theorem field_whole {d : Decoder α} (D : d.Whole) (name : String) (absent : Option α) :
    (field name d absent).Whole where
  ofMembers {ms a} h n hn t ht := by
    obtain rfl := List.mem_singleton.1 hn
    obtain ⟨i, hi⟩ := mem_occurrences ht
    simp only [field] at h
    cases hocc : occurrences n ms with
    | nil => rw [hocc] at hi; cases hi
    | cons o more =>
      rw [hocc] at h hi
      cases hd : d o.2 with
      | error p => simp only [hd] at h; cases h
      | ok b =>
        cases more with
        | nil =>
          obtain rfl := List.mem_singleton.1 hi
          exact D _ _ hd
        | cons o' more => simp only [hd] at h; cases h
  ofItems {expected i items a} h t ht := by
    cases items with
    | nil => cases ht
    | cons t' items =>
      obtain rfl := List.mem_singleton.1 ht
      exact D _ _ (Except.mapError_eq_ok.1 h)

theorem mem_of_stray (h : stray names ms = .ok ()) :
    ∀ m ∈ ms, ∃ n, m.1 = some n ∧ (n ∈ names ∨ m.2.intact = true) := by
  intro m hm
  obtain ⟨i, hi⟩ := List.mem_iff_getElem?.1 hm
  rw [stray] at h
  split at h
  · cases h
  · next hnone =>
    have hm := List.find?_eq_none.1 hnone _ (List.mk_mem_zipIdx_iff_getElem?.2 hi)
    obtain ⟨name?, t⟩ := m
    cases name? with
    | none => exact absurd rfl hm
    | some n =>
      refine ⟨n, rfl, ?_⟩
      simpa [Decidable.or_iff_not_imp_left] using hm

/-- Every member of an object that is accepted has a name and does not break off. -/
theorem Whole.members {fields : Fields α} {a : α} (H : fields.Whole)
    (h : decoder name fields (.object deep ms) = .ok a) :
    ∀ m ∈ ms, m.1.isSome = true ∧ m.2.intact = true := by
  rw [decoder] at h
  split at h
  · cases h
  split at h
  · next hb =>
    obtain ⟨hf, hs⟩ := Met.both_eq_ok.1 hb
    intro m hm
    obtain ⟨n, hn, hin⟩ := mem_of_stray hs m hm
    refine ⟨by rw [hn]; rfl, hin.elim (fun hin => ?_) id⟩
    exact H.ofMembers hf n hin m.2 (hn ▸ hm)
  · cases h

theorem Whole.decoder {fields : Fields α} (H : fields.Whole) (name : String) :
    (decoder name fields).Whole := by
  intro t a h
  cases t with
  | object deep ms => exact Tree.intactMembers_iff.2 fun m hm => (H.members h m hm).2
  | array deep items =>
    rw [Fields.decoder] at h
    split at h
    · cases h
    split at h
    · next hi =>
      split at h
      · cases h
      · next hle =>
        have hall := H.ofItems hi
        rw [List.take_of_length_le (Nat.le_of_not_lt hle)] at hall
        exact Tree.intactItems_iff.2 hall
    · cases h
  | broken => cases h
  | null | bool | number | string => rfl

end Fields

end CallGateway.Json
