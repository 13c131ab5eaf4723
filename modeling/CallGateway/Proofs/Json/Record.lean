import CallGateway.Json.Record
import CallGateway.Proofs.Json.Printed

/-!
# Records in JSON text

A record that has been decoded from a printed object has each of its fields from the member of that
name. Conversely a record is decoded where every field has one member that suits it, or none and
something that stands for it.
-/

namespace CallGateway.Json

theorem Except.mapError_eq_ok {x : Except ε α} {f : ε → ε'} {a : α} :
    x.mapError f = .ok a ↔ x = .ok a := by
  cases x with
  | error e => exact ⟨nofun, nofun⟩
  | ok b => exact ⟨fun h => by cases h; rfl, fun h => by cases h; rfl⟩

theorem Except.map_eq_ok {x : Except ε α} {f : α → β} {b : β} :
    x.map f = .ok b ↔ ∃ a, x = .ok a ∧ f a = b := by
  cases x with
  | error e => exact ⟨nofun, fun ⟨_, h, _⟩ => nomatch h⟩
  | ok a =>
    constructor
    · intro h
      cases h
      exact ⟨a, rfl, rfl⟩
    · rintro ⟨_, h, rfl⟩
      cases h
      rfl

theorem Met.both_eq_ok {x : Met α} {y : Met β} {a : α} {b : β} :
    x.both y = .ok (a, b) ↔ x = .ok a ∧ y = .ok b := by
  cases x with
  | error e => cases y <;> exact ⟨nofun, fun h => nomatch h.1⟩
  | ok a' =>
    cases y with
    | error e => exact ⟨nofun, fun h => nomatch h.2⟩
    | ok b' =>
      constructor
      · intro h
        cases h
        exact ⟨rfl, rfl⟩
      · rintro ⟨ha, hb⟩
        cases ha
        cases hb
        rfl

namespace Fields

variable {ms : List (Option String × Tree)}

theorem ofMembers_seq {f : Fields (α → β)} {x : Fields α} {b : β} :
    (f <*> x).ofMembers ms = .ok b ↔
      ∃ g a, f.ofMembers ms = .ok g ∧ x.ofMembers ms = .ok a ∧ g a = b := by
  show ((f.ofMembers ms).both (x.ofMembers ms)).map _ = .ok b ↔ _
  rw [Except.map_eq_ok]
  constructor
  · rintro ⟨⟨g, a⟩, h, hb⟩
    obtain ⟨hg, ha⟩ := Met.both_eq_ok.1 h
    exact ⟨g, a, hg, ha, hb⟩
  · rintro ⟨g, a, hg, ha, hb⟩
    exact ⟨(g, a), Met.both_eq_ok.2 ⟨hg, ha⟩, hb⟩

theorem ofMembers_map {g : α → β} {x : Fields α} {b : β} :
    (g <$> x).ofMembers ms = .ok b ↔ ∃ a, x.ofMembers ms = .ok a ∧ g a = b := by
  show (Seq.seq (pure g) fun _ => x).ofMembers ms = .ok b ↔ _
  rw [ofMembers_seq]
  constructor
  · rintro ⟨_, a, h, ha, hb⟩
    cases h
    exact ⟨a, ha, hb⟩
  · rintro ⟨a, ha, hb⟩
    exact ⟨g, a, rfl, ha, hb⟩

/-! ## Members by name -/

theorem head?_occurrences (ms : List (Option String × Tree)) (name : String) (i : Nat) :
    ((ms.zipIdx i).filterMap fun ((n, t), i) =>
      if n = some name then some (i, t) else none).head?.map (·.2) = ms.lookup (some name) := by
  induction ms generalizing i with
  | nil => rfl
  | cons m ms ih =>
    obtain ⟨n, t⟩ := m
    rw [List.zipIdx_cons, List.lookup_cons]
    by_cases hn : n = some name
    · subst hn
      simp
    · have : (some name == n) = false := beq_eq_false_iff_ne.2 (Ne.symm hn)
      rw [List.filterMap_cons]
      dsimp only
      rw [if_neg hn, this]
      exact ih (i + 1)

theorem field_of_lookup {name : String} {d : Decoder α} {absent : Option α} {t : Tree} {a : α}
    (H : (field name d absent).ofMembers ms = .ok a) (h : ms.lookup (some name) = some t) :
    d t = .ok a := by
  have ho := head?_occurrences ms name 0
  rw [h] at ho
  simp only [field] at H
  rw [← occurrences] at ho
  cases hocc : occurrences name ms with
  | nil => rw [hocc] at ho; cases ho
  | cons o more =>
    obtain ⟨i, t'⟩ := o
    rw [hocc] at ho H
    obtain rfl : t' = t := Option.some.inj ho
    dsimp only at H
    cases hd : d t' with
    | error p => rw [hd] at H; cases H
    | ok b =>
      rw [hd] at H
      cases more with
      | nil => cases H; rfl
      | cons o more => cases H

theorem field_of_absent {name : String} {d : Decoder α} {absent : Option α} {a : α}
    (H : (field name d absent).ofMembers ms = .ok a) (h : ms.lookup (some name) = none) :
    absent = some a := by
  have ho := head?_occurrences ms name 0
  rw [h, Option.map_eq_none_iff, List.head?_eq_none_iff, ← occurrences] at ho
  simp only [field, ho] at H
  cases absent with
  | none => cases H
  | some b => cases H; rfl

theorem length_occurrences (ms : List (Option String × Tree)) (name : String) (i : Nat) :
    ((ms.zipIdx i).filterMap fun ((n, t), i) =>
      if n = some name then some (i, t) else none).length =
        (ms.map (·.1)).count (some name) := by
  induction ms generalizing i with
  | nil => rfl
  | cons m ms ih =>
    obtain ⟨n, t⟩ := m
    rw [List.zipIdx_cons, List.filterMap_cons, List.map_cons, List.count_cons]
    by_cases hn : n = some name
    · simp [hn, ih (i + 1)]
    · simp [hn, ih (i + 1)]

/-- A field that has one member is what is decoded from it. -/
theorem field_of_once {name : String} {d : Decoder α} {absent : Option α} {t : Tree} {a : α}
    (h : ms.lookup (some name) = some t) (hc : (ms.map (·.1)).count (some name) ≤ 1)
    (hd : d t = .ok a) : (field name d absent).ofMembers ms = .ok a := by
  have ho := head?_occurrences ms name 0
  have hl := length_occurrences ms name 0
  rw [← occurrences] at ho hl
  rw [h] at ho
  cases hocc : occurrences name ms with
  | nil => rw [hocc] at ho; cases ho
  | cons o more =>
    obtain ⟨i, t'⟩ := o
    rw [hocc] at ho hl
    obtain rfl : t' = t := Option.some.inj ho
    obtain rfl : more = [] := by
      rw [List.length_cons] at hl
      exact List.eq_nil_of_length_eq_zero (by omega)
    simp only [field, hocc, hd]

theorem optional_of_absent {name : String} {d : Decoder α} {a : α}
    (h : ms.lookup (some name) = none) : (optional name d a).ofMembers ms = .ok a := by
  have ho := head?_occurrences ms name 0
  rw [h, Option.map_eq_none_iff, List.head?_eq_none_iff, ← occurrences] at ho
  simp only [optional, field, ho]

theorem stray_of_intact (names : List String)
    (H : ∀ m ∈ ms, m.1.isSome = true ∧ m.2.intact = true) : stray names ms = .ok () := by
  rw [stray]
  split
  · next m i h =>
    obtain ⟨n, t⟩ := m
    have hm := H _ (List.fst_mem_of_mem_zipIdx (List.mem_of_find?_eq_some h))
    have hp := List.find?_some h
    obtain ⟨name, rfl⟩ := Option.isSome_iff_exists.1 hm.1
    simp [show t.intact = true from hm.2] at hp
  · rfl

theorem decoder_of_members {name : String} {fields : Fields α} {a : α}
    (H : ∀ m ∈ ms, m.1.isSome = true ∧ m.2.intact = true) (h : fields.ofMembers ms = .ok a) :
    decoder name fields (.object false ms) = .ok a := by
  rw [decoder, if_neg Bool.false_ne_true, h, stray_of_intact fields.names H]
  rfl

theorem decoder_object {name : String} {fields : Fields α} {a : α}
    (H : decoder name fields (.object deep ms) = .ok a) : fields.ofMembers ms = .ok a := by
  rw [decoder] at H
  split at H
  · cases H
  · split at H
    · next h => cases H; exact (Met.both_eq_ok.1 h).1
    · cases H

/-! ## Fields of printed objects -/

theorem lookup_readBackFields (level : Nat) (fs : List (String × Value)) (name : String) :
    (Value.readBackFields level fs).lookup (some name) =
      (fs.lookup name).map (Value.readBack level) := by
  induction fs with
  | nil => rfl
  | cons f fs ih =>
    obtain ⟨k, v⟩ := f
    rw [Value.readBackFields, List.lookup_cons, List.lookup_cons, ih]
    show (match name == k with | true => _ | false => _) = _
    cases name == k <;> rfl

section
variable {fs : List (String × Value)} {level : Nat} {name : String}

theorem count_readBackFields (H : (fs.map (·.1)).Nodup) (name : String) :
    ((Value.readBackFields level fs).map (·.1)).count (some name) ≤ 1 := by
  have h : (Value.readBackFields level fs).map (·.1) = (fs.map (·.1)).map some := by
    rw [Value.readBackFields_eq_map, List.map_map, List.map_map]
    rfl
  have hn : ((fs.map (·.1)).map some).Nodup :=
    List.pairwise_map.2 (H.imp fun hne h => hne (Option.some.inj h))
  rw [h]
  exact List.nodup_iff_count.1 hn (some name)

/-- A field of a printed object with distinct names is what its member is decoded to. -/
theorem field_written {d : Decoder α} {absent : Option α} {v : Value} (H : (fs.map (·.1)).Nodup)
    (h : fs.lookup name = some v) (hd : d (v.readBack level) = .ok a) :
    (field name d absent).ofMembers (Value.readBackFields level fs) = .ok a := by
  apply field_of_once _ (count_readBackFields H name) hd
  rw [lookup_readBackFields, h]
  rfl

theorem optional_unwritten {d : Decoder α} (h : fs.lookup name = none) :
    (optional name d a).ofMembers (Value.readBackFields level fs) = .ok a := by
  apply optional_of_absent
  rw [lookup_readBackFields, h]
  rfl

/-- A text that is left out if there is none. -/
theorem text_written {s : Option String} (H : (fs.map (·.1)).Nodup)
    (h : fs.lookup name = s.map .string) :
    (optional name (.option .string) none).ofMembers (Value.readBackFields level fs) = .ok s := by
  cases s with
  | none => exact optional_unwritten h
  | some s => exact field_written H h rfl

theorem readBackFields_intact (level : Nat) (fs : List (String × Value)) :
    ∀ m ∈ Value.readBackFields level fs, m.1.isSome = true ∧ m.2.intact = true := by
  intro m hm
  rw [Value.readBackFields_eq_map] at hm
  obtain ⟨f, -, rfl⟩ := List.mem_map.1 hm
  exact ⟨rfl, (Value.isValue_print level f.2).intact⟩

/-- A record is decoded from a printed object within the nesting limit, whatever else the object
has. -/
theorem decoder_written {fields : Fields α} (hl : level < nestingLimit)
    (h : fields.ofMembers (Value.readBackFields (level + 1) fs) = .ok a) :
    Fields.decoder name fields ((Value.object fs).readBack level) = .ok a := by
  rw [Value.readBack, decide_eq_false (Nat.not_le_of_lt hl)]
  exact decoder_of_members (readBackFields_intact _ fs) h

end

end Fields

/-- What has been decoded from a printed object is made of its members. -/
theorem decode_object {name : String} {fields : Fields α} {fs : List (String × Value)} {a : α}
    (H : decode (Fields.decoder name fields) (Value.object fs).print = .ok a) :
    fields.ofMembers (Value.readBackFields 1 fs) = .ok a := by
  rw [Value.decode_print, Except.mapError_eq_ok] at H
  exact Fields.decoder_object H

end CallGateway.Json
