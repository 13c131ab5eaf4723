import Mathlib.Data.List.Nodup
import CallGateway.Proofs.Json.Value
import CallGateway.Proofs.Text.Lowercase
import CallGateway.Settings.Load

/-!
# Trees laid over each other

A table that is laid over another one adds its fields to those of the other; what is no table takes
the place of what is below it. So of a file that has all settings, each arrives as it stands there,
whatever the defaults are.
-/

namespace CallGateway

/-! ## Fields in order -/

namespace Json

theorem lookup_insertField (key : String) (a : α) (fields : List (String × α)) (name : String) :
    (insertField key a fields).lookup name =
      if name = key then some a else fields.lookup name := by
  induction fields with
  | nil => grind [insertField]
  | cons f fields ih => grind [insertField]

theorem insertField_perm {key : String} (a : α) {fields : List (String × α)}
    (new : key ∉ fields.map (·.1)) : (insertField key a fields).Perm ((key, a) :: fields) := by
  induction fields with
  | nil => exact .refl _
  | cons f fields ih =>
    rw [List.map_cons, List.mem_cons, not_or] at new
    rw [insertField]
    split
    · exact .refl _
    · rw [if_neg new.1]
      exact ((ih new.2).cons f).trans (.swap ..)

theorem foldl_insertField_perm {sorted fields : List (String × α)}
    (H : ((sorted ++ fields).map (·.1)).Nodup) :
    (fields.foldl (fun sorted f => insertField f.1 f.2 sorted) sorted).Perm (sorted ++ fields) := by
  induction fields generalizing sorted with
  | nil => rw [List.append_nil]; exact .refl _
  | cons f fields ih =>
    have moved : (sorted ++ f :: fields).Perm (f :: sorted ++ fields) := List.perm_middle
    have nodup := (moved.map (·.1)).nodup_iff.1 H
    have new : f.1 ∉ sorted.map (·.1) := by
      rw [List.cons_append, List.map_cons, List.nodup_cons, List.map_append] at nodup
      exact fun h => nodup.1 (List.mem_append_left _ h)
    have inserted := insertField_perm f.2 new
    refine (ih ?_).trans ((inserted.append_right fields).trans moved.symm)
    exact ((inserted.append_right fields).map (·.1)).nodup_iff.2 nodup

/-- Fields with distinct names are sorted, and none is lost. -/
theorem sortFields_perm {fields : List (String × α)} (H : (fields.map (·.1)).Nodup) :
    (sortFields fields).Perm fields :=
  foldl_insertField_perm H

theorem lookup_eq_some_iff {fields : List (String × α)} (H : (fields.map (·.1)).Nodup)
    {name : String} {a : α} : fields.lookup name = some a ↔ (name, a) ∈ fields := by
  induction fields with
  | nil => exact iff_of_false nofun List.not_mem_nil
  | cons f fields ih =>
    obtain ⟨k, b⟩ := f
    rw [List.map_cons, List.nodup_cons] at H
    rw [List.lookup_cons, List.mem_cons, Prod.mk.injEq, ← ih H.2]
    by_cases hk : name = k
    · subst hk
      have absent : fields.lookup name ≠ some a := fun h => by
        have hmem := List.mem_map_of_mem (f := (·.1)) ((ih H.2).1 h)
        exact H.1 hmem
      simp [absent, eq_comm]
    · simp [hk, beq_eq_false_iff_ne.2 hk]

theorem lookup_sortFields {fields : List (String × α)} (H : (fields.map (·.1)).Nodup)
    {name : String} {a : α} (h : fields.lookup name = some a) :
    (sortFields fields).lookup name = some a := by
  have perm := sortFields_perm H
  rw [lookup_eq_some_iff ((perm.map (·.1)).nodup_iff.2 H), perm.mem_iff]
  exact (lookup_eq_some_iff H).1 h

end Json

namespace Settings.Node

open Json (Value sortFields)

/-! ## Layers -/

theorem canonical_eq_self {name : String} (h : ∀ c ∈ name.toList, Text.isSmall c) :
    canonical name = name := by
  rw [canonical, Text.lowerCase_of_isSmall h, String.ofList_toList]

/-- The name is short of capitals: it has neither those from A to Z nor any beyond ASCII. -/
def IsPlain (name : String) : Prop :=
  ∀ c ∈ name.toList, c.toNat < 0xc0 ∧ (c.toNat < 0x41 ∨ 0x5a < c.toNat)

instance (name : String) : Decidable (IsPlain name) := List.decidableBAll _ _

theorem IsPlain.canonical {name : String} (h : IsPlain name) : canonical name = name :=
  canonical_eq_self fun c hc => Text.isSmall_of_lt (h c hc).1 (h c hc).2

/-- The names are distinct and in the form in which settings have them. -/
structure Canonical (names : List String) : Prop where
  nodup : names.Nodup
  canonical : ∀ name ∈ names, canonical name = name

theorem canonical_of_plain {names : List String} (nodup : names.Nodup)
    (plain : ∀ name ∈ names, IsPlain name) : Canonical names :=
  ⟨nodup, fun name hn => (plain name hn).canonical⟩

theorem Canonical.perm {names names' : List String} (C : Canonical names)
    (h : names'.Perm names) : Canonical names' :=
  ⟨h.nodup_iff.2 C.nodup, fun name hn => C.canonical name (h.mem_iff.1 hn)⟩

theorem Canonical.tail {name : String} {names : List String} (C : Canonical (name :: names)) :
    Canonical names :=
  ⟨(List.nodup_cons.1 C.nodup).2, (List.forall_mem_cons.1 C.canonical).2⟩

theorem fieldsOnto_cons {k : String} (h : canonical k = k) (below fs : List (String × Node))
    (n : Node) : fieldsOnto below ((k, n) :: fs) =
      fieldsOnto (Json.insertField k (onto (below.lookup k) n) below) fs := by
  rw [fieldsOnto, h]

theorem lookup_fieldsOnto_absent {fs below : List (String × Node)} {name : String}
    (C : Canonical (fs.map (·.1))) (h : name ∉ fs.map (·.1)) :
    (fieldsOnto below fs).lookup name = below.lookup name := by
  induction fs generalizing below with
  | nil => rw [fieldsOnto]
  | cons f fs ih =>
    obtain ⟨k, m⟩ := f
    rw [List.map_cons, List.mem_cons, not_or] at h
    rw [fieldsOnto_cons (C.canonical k (.head _)), ih C.tail h.2, Json.lookup_insertField,
      if_neg h.1]

/-- What a layer has of a name is laid over what was there. -/
theorem lookup_fieldsOnto {fs below : List (String × Node)} {name : String} {n : Node}
    (C : Canonical (fs.map (·.1))) (h : fs.lookup name = some n) :
    (fieldsOnto below fs).lookup name = some (onto (below.lookup name) n) := by
  induction fs generalizing below with
  | nil => cases h
  | cons f fs ih =>
    obtain ⟨k, m⟩ := f
    rw [fieldsOnto_cons (C.canonical k (.head _))]
    by_cases hk : name = k
    · subst hk
      have new := (List.nodup_cons.1 C.nodup).1
      rw [List.lookup_cons_self] at h
      rw [lookup_fieldsOnto_absent C.tail new, Json.lookup_insertField, if_pos rfl,
        Option.some.inj h]
    · rw [List.lookup_cons, beq_eq_false_iff_ne.2 hk] at h
      rw [ih C.tail h, Json.lookup_insertField, if_neg hk]

theorem fieldsOnto_append (below fs gs : List (String × Node)) :
    fieldsOnto below (fs ++ gs) = fieldsOnto (fieldsOnto below fs) gs := by
  induction fs generalizing below with
  | nil => rw [fieldsOnto, List.nil_append]
  | cons f fs ih => rw [List.cons_append, fieldsOnto, ih, fieldsOnto]

/-- Keys that are plain names lay their settings over the topmost table. -/
theorem layOver?_eq {layer : List (String × Node)} (below : List (String × Node))
    (plain : ∀ f ∈ layer, Path.ofKey f.1 = ⟨f.1, []⟩) :
    layOver? (.table below) layer = some (.table (fieldsOnto below layer)) := by
  induction layer generalizing below with
  | nil => rw [fieldsOnto]; rfl
  | cons f layer ih =>
    obtain ⟨k, n⟩ := f
    obtain ⟨hk, hlayer⟩ := List.forall_mem_cons.1 plain
    rw [layOver?, List.foldlM_cons]
    simp only [hk]
    rw [putAt?, Option.bind_eq_bind, Option.bind_some]
    refine (ih _ hlayer).trans ?_
    rw [← fieldsOnto_append]
    rfl

/-! ## Records -/

theorem lookup_ofFields (fs : List (String × Value)) (name : String) :
    (ofFields fs).lookup name = (fs.lookup name).map ofJson := by
  induction fs with
  | nil => rfl
  | cons f fs ih =>
    obtain ⟨k, v⟩ := f
    rw [ofFields, List.lookup_cons, List.lookup_cons, ih]
    split <;> rfl

theorem map_fst_ofFields (fs : List (String × Value)) :
    (ofFields fs).map (·.1) = fs.map (·.1) := by
  induction fs with
  | nil => rfl
  | cons f fs ih => rw [ofFields, List.map_cons, List.map_cons, ih]

/-- The fields of a printed object as a tree has them. -/
def layer (fs : List (String × Value)) : List (String × Node) :=
  ofFields (sortFields (Value.normalFields fs))

theorem ofJson_normal_object (fs : List (String × Value)) :
    ofJson (Value.object fs).normal = .table (layer fs) := by
  rw [Value.normal, ofJson, layer]

theorem map_fst_normalFields (fs : List (String × Value)) :
    (Value.normalFields fs).map (·.1) = fs.map (·.1) := by
  rw [Value.normalFields_eq_map, List.map_map]
  rfl

theorem lookup_normalFields (fs : List (String × Value)) (name : String) :
    (Value.normalFields fs).lookup name = (fs.lookup name).map Value.normal := by
  induction fs with
  | nil => rfl
  | cons f fs ih =>
    obtain ⟨k, v⟩ := f
    rw [Value.normalFields, List.lookup_cons, List.lookup_cons, ih]
    split <;> rfl

section
variable {fs : List (String × Value)} {name : String} {v : Value}

theorem names_layer (H : (fs.map (·.1)).Nodup) :
    ((layer fs).map (·.1)).Perm (fs.map (·.1)) := by
  rw [← map_fst_normalFields] at H ⊢
  rw [layer, map_fst_ofFields]
  exact (Json.sortFields_perm H).map _

theorem lookup_layer (H : (fs.map (·.1)).Nodup) (h : fs.lookup name = some v) :
    (layer fs).lookup name = some (ofJson v.normal) := by
  have h' : (Value.normalFields fs).lookup name = some v.normal := by
    rw [lookup_normalFields, h]; rfl
  rw [layer, lookup_ofFields, Json.lookup_sortFields ((map_fst_normalFields fs).symm ▸ H) h']
  rfl

/-- What a printed object has of a name is laid over what was there. -/
theorem lookup_laid (C : Canonical (fs.map (·.1))) (h : fs.lookup name = some v)
    (below : List (String × Node)) : (fieldsOnto below (layer fs)).lookup name =
      some (onto (below.lookup name) (ofJson v.normal)) :=
  lookup_fieldsOnto (C.perm (names_layer C.nodup)) (lookup_layer C.nodup h)

end

/-- The tree has the fields of a printed record, and each of them as it is there. -/
def Holds (n : Node) (fs : List (String × Value)) : Prop :=
  ∃ gs, n = .table gs ∧ ∀ name v, fs.lookup name = some v → gs.lookup name = some (ofJson v.normal)

/-- Nothing shows through. -/
def Solid (n : Node) : Prop := ∀ below, onto below n = n

theorem holds_ofJson {fs : List (String × Value)} (H : (fs.map (·.1)).Nodup) :
    Holds (ofJson (Value.object fs).normal) fs :=
  ⟨_, ofJson_normal_object fs, fun _ _ => lookup_layer H⟩

/-- A table that has a field lays its fields over whatever is below it. -/
theorem exists_onto_table (below : Option Node) {fs : List (String × Node)} (h : fs ≠ []) :
    ∃ gs, onto below (.table fs) = .table (fieldsOnto gs fs) := by
  have hfs : fs.isEmpty = false := List.isEmpty_eq_false_iff.2 h
  cases below with
  | none => exact ⟨[], by simp only [onto]⟩
  | some n => exact ⟨n.fields, by simp only [onto, hfs, Bool.false_eq_true, if_false]⟩

/-- A record of which nothing is left out hides the one that is below it. -/
theorem holds_onto {fs : List (String × Value)} (C : Canonical (fs.map (·.1))) (hfs : fs ≠ [])
    (solid : ∀ f ∈ fs, Solid (ofJson f.2.normal)) (below : Option Node) :
    Holds (onto below (ofJson (Value.object fs).normal)) fs := by
  have hlayer : layer fs ≠ [] := by
    intro h
    have names := names_layer C.nodup
    rw [h] at names
    exact hfs (List.map_eq_nil_iff.1 names.nil_eq.symm)
  obtain ⟨gs, h⟩ := exists_onto_table below hlayer
  rw [ofJson_normal_object, h]
  refine ⟨_, rfl, fun name v hv => ?_⟩
  rw [lookup_laid C hv, solid _ ((Json.lookup_eq_some_iff C.nodup).1 hv)]

end Settings.Node

/-! ## Loading -/

namespace Settings

/-- Settings are what is read from the tree to which the layers come. -/
theorem load_eq_ok {file : Option Bytes} {environment : List (String × String)}
    {layer : List (String × Node)} {tree : Node} {s : Settings}
    (hfile : file = none ∧ layer = [] ∨ ∃ bs, file = some bs ∧ ofFile? bs = some layer)
    (htree : layOver? (.table []) (layers layer (ofEnvironment environment)) = some tree)
    (hs : Reader.settings tree = some s) : load file environment = .ok s := by
  rcases hfile with ⟨rfl, rfl⟩ | ⟨bs, rfl, hbs⟩
  · rw [load, Option.map_none]
    dsimp only [bind, Except.bind]
    rw [htree]
    dsimp only
    rw [hs]
  · rw [load, Option.map_some, hbs]
    dsimp only [bind, Except.bind]
    rw [htree]
    dsimp only
    rw [hs]

end Settings

end CallGateway
