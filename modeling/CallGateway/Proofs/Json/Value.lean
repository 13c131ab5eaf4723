import CallGateway.Proofs.Json.Printed

/-!
# Values that survive the wire

A value is decoded from its own tree as it is, with the fields of its objects in ascending order and
the last of each name. A printed value is read back as its own tree if it is nested within the limit
and its floating-point numbers are read back.
-/

namespace CallGateway.Json

/-! ## Fields in ascending order -/

/-- Each name stands behind the lesser ones and occurs once. -/
def Ascending (fields : List (String × α)) : Prop := (fields.map (·.1)).Pairwise (· < ·)

instance {fields : List (String × α)} : Decidable (Ascending fields) :=
  inferInstanceAs (Decidable (List.Pairwise ..))

theorem insertField_of_forall_lt {key : String} {fields : List (String × α)} (a : α)
    (H : ∀ f ∈ fields, f.1 < key) : insertField key a fields = fields ++ [(key, a)] := by
  induction fields with
  | nil => rfl
  | cons f fields ih =>
    have hf : f.1 < key := H f (.head _)
    have hne : key ≠ f.1 := by
      intro h
      exact String.lt_irrefl _ (h ▸ hf)
    rw [insertField, if_neg (String.lt_asymm hf), if_neg hne, ih fun g hg => H g (.tail _ hg)]
    rfl

theorem foldl_insertField (sorted fields : List (String × α)) (H : Ascending (sorted ++ fields)) :
    fields.foldl (fun sorted f => insertField f.1 f.2 sorted) sorted = sorted ++ fields := by
  induction fields generalizing sorted with
  | nil => simp
  | cons f fields ih =>
    have hlt : ∀ g ∈ sorted, g.1 < f.1 := by
      intro g hg
      rw [Ascending, List.map_append, List.pairwise_append] at H
      exact H.2.2 _ (List.mem_map_of_mem hg) _ (.head _)
    have h : sorted ++ f :: fields = (sorted ++ [(f.1, f.2)]) ++ fields := by simp
    rw [h] at H ⊢
    rw [List.foldl_cons, insertField_of_forall_lt f.2 hlt, ih _ H]

theorem sortFields_of_ascending {fields : List (String × α)} (H : Ascending fields) :
    sortFields fields = fields :=
  foldl_insertField [] fields H

theorem mem_insertField {key : String} {a : α} {fields : List (String × α)} {f : String × α}
    (H : f ∈ insertField key a fields) : f = (key, a) ∨ f ∈ fields := by
  induction fields with
  | nil => exact .inl (List.mem_singleton.1 H)
  | cons g fields ih =>
    rw [insertField] at H
    grind

/-- Sorting makes up no fields. -/
theorem mem_sortFields {fields : List (String × α)} {f : String × α} (H : f ∈ sortFields fields) :
    f ∈ fields := by
  have h : ∀ sorted, f ∈ fields.foldl (fun sorted f => insertField f.1 f.2 sorted) sorted →
      f ∈ sorted ∨ f ∈ fields := by
    clear H
    induction fields with
    | nil => intro sorted h; exact .inl h
    | cons g fields ih =>
      intro sorted h
      obtain h | h := ih _ h
      · obtain rfl | h := mem_insertField h
        · exact .inr (.head _)
        · exact .inl h
      · exact .inr (.tail _ h)
  obtain h | h := h [] H
  · cases h
  · exact h

namespace Value

/-- What holds of the leaves, and of a container once it holds of its parts, holds of all values. -/
theorem ind {P : Value → Prop} (null : P .null) (bool : ∀ b, P (.bool b))
    (number : ∀ n, P (.number n)) (string : ∀ s, P (.string s))
    (array : ∀ items, (∀ v ∈ items, P v) → P (.array items))
    (object : ∀ fields, (∀ f ∈ fields, P f.2) → P (.object fields)) (v : Value) : P v := by
  refine @Value.rec P (fun items => ∀ v ∈ items, P v) (fun fields => ∀ f ∈ fields, P f.2)
    (fun f => P f.2) null bool number string array object ?_ ?_ ?_ ?_ ?_ v
  · simp
  · simp +contextual
  · simp
  · simp +contextual
  · simp

mutual

/-- How many arrays and objects are nested in each other. -/
def nesting : Value → Nat
  | .array items => nestingItems items + 1
  | .object fields => nestingFields fields + 1
  | _ => 0

def nestingItems : List Value → Nat
  | [] => 0
  | v :: vs => max (nesting v) (nestingItems vs)

def nestingFields : List (String × Value) → Nat
  | [] => 0
  | (_, v) :: fs => max (nesting v) (nestingFields fs)

end

mutual

/-- The floating-point numbers in a value. -/
def floats : Value → List Binary64
  | .number (.float x) => [x]
  | .array items => floatsItems items
  | .object fields => floatsFields fields
  | _ => []

def floatsItems : List Value → List Binary64
  | [] => []
  | v :: vs => floats v ++ floatsItems vs

def floatsFields : List (String × Value) → List Binary64
  | [] => []
  | (_, v) :: fs => floats v ++ floatsFields fs

end

mutual

/-- Every object is a map, with its names in ascending order. -/
def Ordered : Value → Prop
  | .array items => OrderedItems items
  | .object fields => Ascending fields ∧ OrderedFields fields
  | _ => True

def OrderedItems : List Value → Prop
  | [] => True
  | v :: vs => Ordered v ∧ OrderedItems vs

def OrderedFields : List (String × Value) → Prop
  | [] => True
  | (_, v) :: fs => Ordered v ∧ OrderedFields fs

end

mutual

/-- The value with every object as a map: in ascending order, the last field of each name. -/
def normal : Value → Value
  | .array items => .array (normalItems items)
  | .object fields => .object (sortFields (normalFields fields))
  | v => v

def normalItems : List Value → List Value
  | [] => []
  | v :: vs => normal v :: normalItems vs

def normalFields : List (String × Value) → List (String × Value)
  | [] => []
  | (k, v) :: fs => (k, normal v) :: normalFields fs

end

/-! ## Parts of containers -/

theorem nestingItems_le_iff {items : List Value} :
    nestingItems items ≤ n ↔ ∀ v ∈ items, v.nesting ≤ n := by
  induction items with
  | nil => simp [nestingItems]
  | cons v vs ih => rw [nestingItems, Nat.max_le, ih, List.forall_mem_cons]

theorem nestingFields_le_iff {fields : List (String × Value)} :
    nestingFields fields ≤ n ↔ ∀ f ∈ fields, f.2.nesting ≤ n := by
  induction fields with
  | nil => simp [nestingFields]
  | cons f fs ih => rw [nestingFields, Nat.max_le, ih, List.forall_mem_cons]

theorem mem_floatsItems {items : List Value} :
    x ∈ floatsItems items ↔ ∃ v ∈ items, x ∈ v.floats := by
  induction items with
  | nil => simp [floatsItems]
  | cons v vs ih => simp [floatsItems, ih]

theorem mem_floatsFields {fields : List (String × Value)} :
    x ∈ floatsFields fields ↔ ∃ f ∈ fields, x ∈ f.2.floats := by
  induction fields with
  | nil => simp [floatsFields]
  | cons f fs ih => simp [floatsFields, ih]

theorem orderedItems_iff {items : List Value} : OrderedItems items ↔ ∀ v ∈ items, v.Ordered := by
  induction items with
  | nil => simp [OrderedItems]
  | cons v vs ih => simp [OrderedItems, ih]

theorem orderedFields_iff {fields : List (String × Value)} :
    OrderedFields fields ↔ ∀ f ∈ fields, f.2.Ordered := by
  induction fields with
  | nil => simp [OrderedFields]
  | cons f fs ih => simp [OrderedFields, ih]

theorem normalItems_eq_map (items : List Value) : normalItems items = items.map normal := by
  induction items with
  | nil => rfl
  | cons v vs ih => rw [normalItems, ih, List.map_cons]

theorem normalFields_eq_map (fields : List (String × Value)) :
    normalFields fields = fields.map fun f => (f.1, f.2.normal) := by
  induction fields with
  | nil => rfl
  | cons f fs ih => rw [normalFields, ih, List.map_cons]

/-- A value whose objects are maps is in its normal form. -/
theorem normal_of_ordered (v : Value) (H : v.Ordered) : v.normal = v := by
  induction v using ind with
  | array items ih =>
    have H := orderedItems_iff.1 H
    rw [normal, normalItems_eq_map, List.map_congr_left fun v hv => ih v hv (H v hv), List.map_id']
  | object fields ih =>
    have H' := orderedFields_iff.1 H.2
    have hfields : ∀ f ∈ fields, (f.1, f.2.normal) = f := by
      intro f hf
      rw [ih f hf (H' f hf)]
    rw [normal, normalFields_eq_map, List.map_congr_left hfields, List.map_id',
      sortFields_of_ascending H.1]
  | _ => rfl

/-! ## Decoding -/

mutual

/-- The tree of a value is decoded to the value in its normal form. -/
theorem value_tree : (v : Value) → Decoder.value v.tree = .ok v.normal
  | .null | .bool _ | .number _ | .string _ => rfl
  | .array items => by
    simp only [tree, Decoder.value, values_trees items, normal]
    rfl
  | .object fields => by
    simp only [tree, Decoder.value, fieldValues_memberTrees fields, normal]
    rfl

theorem values_trees : (items : List Value) → Decoder.values (trees items) = .ok (normalItems items)
  | [] => rfl
  | v :: vs => by
    simp only [trees, Decoder.values, value_tree v, values_trees vs, normalItems]
    rfl

theorem fieldValues_memberTrees : (fields : List (String × Value)) →
    Decoder.fieldValues (memberTrees fields) = .ok (normalFields fields)
  | [] => rfl
  | (k, v) :: fs => by
    simp only [memberTrees, Decoder.fieldValues, value_tree v, fieldValues_memberTrees fs,
      normalFields]
    rfl

end

/-! ## Reading back -/

theorem trees_eq_map (items : List Value) : trees items = items.map tree := by
  induction items with
  | nil => rfl
  | cons v vs ih => rw [trees, ih, List.map_cons]

theorem memberTrees_eq_map (fields : List (String × Value)) :
    memberTrees fields = fields.map fun f => (some f.1, f.2.tree) := by
  induction fields with
  | nil => rfl
  | cons f fs ih => rw [memberTrees, ih, List.map_cons]

/-- The number survives being printed. -/
def Survives (x : Binary64) : Prop := (Number.float x).reread = some (.float x)

instance : Decidable (Survives x) := inferInstanceAs (Decidable (_ = _))

theorem readBack_eq_tree (v : Value) {level : Nat} (hn : level + v.nesting ≤ nestingLimit)
    (hf : ∀ x ∈ v.floats, Survives x) : v.readBack level = v.tree := by
  induction v using ind generalizing level with
  | null | bool | string => rfl
  | number n =>
    cases n with
    | int n h => rw [readBack, tree, Number.reread_int]
    | float x => rw [readBack, tree, hf x (.head _)]
  | array items ih =>
    have hitems : ∀ v ∈ items, v.readBack (level + 1) = v.tree := by
      intro v hv
      have hle := nestingItems_le_iff.1 (Nat.le_refl _) v hv
      apply ih v hv
      · rw [nesting] at hn
        omega
      · exact fun x hx => hf x (mem_floatsItems.2 ⟨v, hv, hx⟩)
    have hdeep : ¬ nestingLimit ≤ level := by
      rw [nesting] at hn
      omega
    rw [readBack, tree, readBackItems_eq_map, trees_eq_map, List.map_congr_left hitems,
      decide_eq_false hdeep]
  | object fields ih =>
    have hfields : ∀ f ∈ fields, (some f.1, f.2.readBack (level + 1)) = (some f.1, f.2.tree) := by
      intro f hmem
      have hle := nestingFields_le_iff.1 (Nat.le_refl _) f hmem
      congr 1
      apply ih f hmem
      · rw [nesting] at hn
        omega
      · exact fun x hx => hf x (mem_floatsFields.2 ⟨f, hmem, hx⟩)
    have hdeep : ¬ nestingLimit ≤ level := by
      rw [nesting] at hn
      omega
    rw [readBack, tree, readBackFields_eq_map, memberTrees_eq_map, List.map_congr_left hfields,
      decide_eq_false hdeep]

/-- What a value on the wire needs to arrive as it is, inside `level` containers. -/
structure Faithful (level : Nat) (v : Value) : Prop where
  ordered : v.Ordered
  nesting_le : level + v.nesting ≤ nestingLimit
  survives : ∀ x ∈ v.floats, Survives x

theorem Faithful.value_readBack (H : Faithful level v) :
    Decoder.value (v.readBack level) = .ok v := by
  rw [readBack_eq_tree v H.nesting_le H.survives, value_tree, normal_of_ordered v H.ordered]

end Value

end CallGateway.Json
