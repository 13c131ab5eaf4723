import CallGateway.Basic

/-! Finite maps, kept as lists of keys with their values in the order in which the keys came. -/

namespace CallGateway

structure Keyed (κ α : Type) where
  entries : List (κ × α)
  /-- No key occurs twice. -/
  nodup : (entries.map (·.1)).Nodup

namespace Keyed

def empty : Keyed κ α := ⟨[], .nil⟩

instance : Inhabited (Keyed κ α) := ⟨empty⟩

def keys (m : Keyed κ α) : List κ := m.entries.map (·.1)

def values (m : Keyed κ α) : List α := m.entries.map (·.2)

def size (m : Keyed κ α) : Nat := m.entries.length

def mapValues (f : α → β) (m : Keyed κ α) : Keyed κ β :=
  ⟨m.entries.map fun (k, a) => (k, f a), by
    have : (m.entries.map fun (k, a) => (k, f a)).map (·.1) = m.entries.map (·.1) := by
      simp [Function.comp_def]
    rw [this]; exact m.nodup⟩

variable [DecidableEq κ]

def get? (m : Keyed κ α) (k : κ) : Option α := m.entries.lookup k

def contains (m : Keyed κ α) (k : κ) : Bool := (m.get? k).isSome

/-- Put a value in the place of the one that the key has, or else behind all others. -/
def setEntry (k : κ) (a : α) : List (κ × α) → List (κ × α)
  | [] => [(k, a)]
  | (l, b) :: rest => if l = k then (l, a) :: rest else (l, b) :: setEntry k a rest

theorem mem_keys_setEntry {k l : κ} {a : α} {es : List (κ × α)} :
    l ∈ (setEntry k a es).map (·.1) ↔ l = k ∨ l ∈ es.map (·.1) := by
  induction es with
  | nil => simp [setEntry]
  | cons e es ih => grind [setEntry]

theorem nodup_setEntry (k : κ) (a : α) {es : List (κ × α)} (H : (es.map (·.1)).Nodup) :
    ((setEntry k a es).map (·.1)).Nodup := by
  induction es with
  | nil => simp [setEntry]
  | cons e es ih =>
    obtain ⟨l, b⟩ := e
    simp only [List.map_cons, List.nodup_cons] at H
    simp only [setEntry]
    split
    · simpa using H
    · simp only [List.map_cons, List.nodup_cons, mem_keys_setEntry]
      grind

def set (m : Keyed κ α) (k : κ) (a : α) : Keyed κ α :=
  ⟨setEntry k a m.entries, nodup_setEntry k a m.nodup⟩

def erase (m : Keyed κ α) (k : κ) : Keyed κ α :=
  ⟨m.entries.filter fun e => e.1 ≠ k,
    m.nodup.sublist (List.filter_sublist.map _)⟩

/-- Change the value of a key that is present. -/
def modify (m : Keyed κ α) (k : κ) (f : α → α) : Keyed κ α :=
  match m.get? k with
  | some a => m.set k (f a)
  | none => m

theorem lookup_setEntry (k l : κ) (a : α) (es : List (κ × α)) :
    (setEntry k a es).lookup l = if l = k then some a else es.lookup l := by
  induction es with
  | nil => grind [setEntry]
  | cons e es ih => grind [setEntry]

theorem lookup_filter (k l : κ) (es : List (κ × α)) :
    (es.filter fun e => e.1 ≠ k).lookup l = if l = k then none else es.lookup l := by
  induction es with
  | nil => simp
  | cons e es ih => grind

theorem get?_set (m : Keyed κ α) (k l : κ) (a : α) :
    (m.set k a).get? l = if l = k then some a else m.get? l := lookup_setEntry ..

theorem get?_erase (m : Keyed κ α) (k l : κ) :
    (m.erase k).get? l = if l = k then none else m.get? l := lookup_filter ..

theorem get?_of_get?_erase {m : Keyed κ α} {k l : κ} {a : α} (H : (m.erase k).get? l = some a) :
    m.get? l = some a := by
  rw [get?_erase] at H
  split at H
  · cases H
  · exact H

theorem lookup_eq_none {k : κ} {es : List (κ × α)} :
    es.lookup k = none ↔ k ∉ es.map (·.1) := by
  induction es with
  | nil => simp
  | cons e es ih => grind

theorem erase_of_get?_eq_none {m : Keyed κ α} {k : κ} (H : m.get? k = none) : m.erase k = m := by
  have hk : k ∉ m.entries.map (·.1) := lookup_eq_none.1 H
  have : m.entries.filter (fun e => e.1 ≠ k) = m.entries := by
    refine List.filter_eq_self.2 fun e he => ?_
    have : e.1 ≠ k := fun h => hk (h ▸ List.mem_map_of_mem he)
    simpa using this
  cases m
  simpa only [erase, mk.injEq] using this

theorem get?_modify (m : Keyed κ α) (k l : κ) (f : α → α) :
    (m.modify k f).get? l = if l = k then (m.get? l).map f else m.get? l := by
  grind [modify, get?_set]

theorem get?_mapValues (f : α → β) (m : Keyed κ α) (k : κ) :
    (m.mapValues f).get? k = (m.get? k).map f := by
  simp only [get?, mapValues]
  induction m.entries with
  | nil => rfl
  | cons e es ih => grind

theorem length_setEntry {k : κ} (a : α) {es : List (κ × α)} (H : es.lookup k = none) :
    (setEntry k a es).length = es.length + 1 := by
  induction es with
  | nil => rfl
  | cons e es ih => grind [setEntry]

theorem size_set {m : Keyed κ α} {k : κ} (a : α) (H : m.get? k = none) :
    (m.set k a).size = m.size + 1 := length_setEntry a H

theorem length_filter {k : κ} {a : α} {es : List (κ × α)} (hn : (es.map (·.1)).Nodup)
    (H : es.lookup k = some a) : (es.filter fun e => e.1 ≠ k).length + 1 = es.length := by
  induction es with
  | nil => cases H
  | cons e es ih =>
    obtain ⟨l, b⟩ := e
    simp only [List.map_cons, List.nodup_cons] at hn
    by_cases hl : l = k
    · -- The key occurs here and nowhere else, so nothing further goes.
      subst hl
      have : es.filter (fun e => e.1 ≠ l) = es := by
        refine List.filter_eq_self.2 fun e he => ?_
        have : e.1 ≠ l := fun h => hn.1 (h ▸ List.mem_map_of_mem he)
        simpa using this
      rw [List.filter_cons_of_neg (by simp), this]; rfl
    · have hr : es.lookup k = some a := by
        rw [List.lookup_cons] at H
        simpa [beq_eq_false_iff_ne.2 (Ne.symm hl)] using H
      simpa [List.filter_cons, hl] using ih hn.2 hr

theorem size_erase {m : Keyed κ α} {k : κ} {a : α} (H : m.get? k = some a) :
    (m.erase k).size + 1 = m.size := length_filter m.nodup H

theorem sum_setEntry (k : κ) (a : α) (f : α → Nat) (es : List (κ × α)) :
    ((setEntry k a es).map fun e => f e.2).sum + ((es.lookup k).map f).getD 0 =
      (es.map fun e => f e.2).sum + f a := by
  induction es with
  | nil => simp [setEntry]
  | cons e es ih => grind [setEntry]

/-- A total over all values changes by the value that comes and by the one that goes. -/
theorem sum_set (m : Keyed κ α) (k : κ) (a : α) (f : α → Nat) :
    ((m.set k a).values.map f).sum + ((m.get? k).map f).getD 0 = (m.values.map f).sum + f a := by
  rw [values, values, List.map_map, List.map_map]
  exact sum_setEntry k a f m.entries

end Keyed

end CallGateway
