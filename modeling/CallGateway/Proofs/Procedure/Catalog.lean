import Mathlib.Data.List.Sort
import Mathlib.Data.String.Basic
import CallGateway.Proofs.Procedure.Registry

/-!
# What becomes of registrations

If every registration can stand beside those before it, the catalog has exactly the procedures that
have been registered, each under its exact name, and shows them in ascending order. Otherwise the
first registration that cannot is reported, whatever comes after it.
-/

namespace CallGateway.Catalog

variable {regs : List Registration} {c : Catalog} {name : String} {err : CatalogError}

/-! ## The first error -/

/-- The registrations up to the first one that is refused, and why it is. -/
def FirstRefused (regs : List Registration) (err : CatalogError) : Prop :=
  ∃ before r later, regs = before ++ r :: later ∧ Registrable (before.map (·.name)) ∧
    Refuses (before.map (·.name)) r.name err

/-- Errors that have been left behind stay. -/
theorem Builder.errors_register (b : Builder) (name : String) (p : Procedure) :
    b.errors <+: (b.register name p).errors := by
  rcases b.register_cases name p with ⟨err, -, h⟩ | ⟨-, h⟩
  · exact h ▸ List.prefix_append _ _
  · exact h ▸ List.prefix_refl _

theorem errors_registered_append (regs later : List Registration) :
    (registered regs).errors <+: (registered (regs ++ later)).errors := by
  induction later using List.reverseRecOn with
  | nil => exact (List.append_nil regs).symm ▸ List.prefix_refl _
  | append_singleton later r ih =>
    rw [← List.append_assoc, registered_concat]
    exact ih.trans (Builder.errors_register ..)

theorem head?_of_prefix {xs ys : List CatalogError} (h : xs <+: ys) (hx : xs.head? = some err) :
    ys.head? = some err := by
  obtain ⟨zs, rfl⟩ := h
  rw [List.head?_append, hx, Option.some_or]

/-- As long as nothing has been refused, the names that are taken are those of the registrations. -/
theorem names_registered (h : (registered regs).errors = []) :
    (registered regs).entries.map (·.name) = regs.map (·.name) := by
  rw [(registered_spec regs).2 h, List.map_map]
  rfl

theorem FirstRefused.head?_errors (H : FirstRefused regs err) :
    (registered regs).errors.head? = some err := by
  obtain ⟨before, r, later, rfl, registrable, refused⟩ := H
  have herrors := (registered_spec before).1.2 registrable
  have hr : (registered (before ++ [r])).errors = [err] := by
    rw [registered_concat]
    rcases (registered before).register_cases r.name r.procedure with
      ⟨err', refused', h⟩ | ⟨⟨named, new⟩, -⟩
    · rw [names_registered herrors] at refused'
      rw [h, Builder.fails, herrors, refused.unique refused']
      rfl
    · rw [names_registered herrors] at new
      exact absurd (registrable_concat.2 ⟨registrable, named, new⟩) refused.not_registrable
  have hlater := errors_registered_append (before ++ [r]) later
  rw [List.append_assoc, List.singleton_append] at hlater
  exact head?_of_prefix hlater (by rw [hr]; rfl)

theorem firstRefused_of_head?_errors (H : (registered regs).errors.head? = some err) :
    FirstRefused regs err := by
  induction regs using List.reverseRecOn with
  | nil => cases H
  | append_singleton regs r ih =>
    cases herrors : (registered regs).errors with
    | cons err' errs =>
      -- the error has been there before
      have hhead : (registered regs).errors.head? = some err' := by rw [herrors]; rfl
      have hlater := head?_of_prefix (errors_registered_append regs [r]) hhead
      obtain rfl := Option.some.inj (hlater.symm.trans H)
      obtain ⟨before, r', later, rfl, registrable, refused⟩ := ih hhead
      exact ⟨before, r', later ++ [r], by simp, registrable, refused⟩
    | nil =>
      rw [registered_concat] at H
      rcases (registered regs).register_cases r.name r.procedure with ⟨err', refused, h⟩ | ⟨-, h⟩
      · rw [h, Builder.fails, herrors] at H
        obtain rfl := Option.some.inj H
        rw [names_registered herrors] at refused
        exact ⟨regs, r, [], rfl, (registered_spec regs).1.1 herrors, refused⟩
      · rw [h] at H
        dsimp only at H
        rw [herrors] at H
        cases H

theorem ofRegistrations_eq_error_iff :
    ofRegistrations regs = .error err ↔ FirstRefused regs err := by
  have hhead : ofRegistrations regs = .error err ↔ (registered regs).errors.head? = some err := by
    rw [ofRegistrations, Builder.build]
    cases (registered regs).errors with
    | nil => constructor <;> intro h <;> cases h
    | cons =>
      constructor
      · exact fun h => congrArg some (Except.error.inj h)
      · exact fun h => congrArg _ (Option.some.inj h)
  exact hhead.trans ⟨firstRefused_of_head?_errors, FirstRefused.head?_errors⟩

/-! ## How a catalog shows what it has -/

theorem names_eq (c : Catalog) :
    c.names = (c.entries.map (·.name)).mergeSort fun a b => decide (a ≤ b) :=
  List.map_mergeSort fun _ _ _ _ => rfl

theorem sortedLT_names (H : ofRegistrations regs = .ok c) : c.names.SortedLT := by
  obtain ⟨registrable, rfl⟩ := ofRegistrations_eq_ok_iff.1 H
  have nodup : ((regs.map (·.entry)).map (·.name)).Nodup := by
    rw [List.map_map]
    exact registrable.2
  rw [names_eq]
  exact List.sortedLE_mergeSort.sortedLT_of_nodup ((List.mergeSort_perm ..).nodup_iff.2 nodup)

theorem perm_names (H : ofRegistrations regs = .ok c) : c.names.Perm (regs.map (·.name)) := by
  obtain ⟨-, rfl⟩ := ofRegistrations_eq_ok_iff.1 H
  rw [names_eq, List.map_map]
  exact List.mergeSort_perm ..

theorem map_fst_descriptors (c : Catalog) : c.descriptors.map (·.1) = c.names := by
  rw [descriptors, names, List.map_map]
  rfl

theorem perm_descriptors (H : ofRegistrations regs = .ok c) :
    c.descriptors.Perm (regs.map fun r => (r.name, r.shape)) := by
  obtain ⟨-, rfl⟩ := ofRegistrations_eq_ok_iff.1 H
  have h := (List.mergeSort_perm (regs.map (·.entry)) fun a b => decide (a.name ≤ b.name)).map
    fun e => (e.name, e.procedure.shape)
  rwa [List.map_map] at h

theorem isSome_find?_iff (H : ofRegistrations regs = .ok c) :
    (c.find? name).isSome ↔ name ∈ regs.map (·.name) := by
  rw [Option.isSome_iff_exists, List.mem_map]
  constructor
  · rintro ⟨entry, h⟩
    obtain ⟨r, hr, hname, -⟩ := (find?_eq_some_iff H).1 h
    exact ⟨r, hr, hname⟩
  · rintro ⟨r, hr, hname⟩
    exact ⟨r.entry, (find?_eq_some_iff H).2 ⟨r, hr, hname, rfl⟩⟩

/-- A catalog has what has been registered, and nothing else. -/
structure Holds (c : Catalog) (regs : List Registration) : Prop where
  /-- The names are those of the registrations, in strictly ascending order. -/
  names : c.names.Pairwise (· < ·) ∧ c.names.Perm (regs.map (·.name))
  /-- Each name is described, in the same order, with the shape of its own procedure. -/
  descriptors : c.descriptors.map (·.1) = c.names ∧
    ∀ name shape, (name, shape) ∈ c.descriptors ↔ ∃ r ∈ regs, r.name = name ∧ r.shape = shape
  /-- Exactly the registered names are found. -/
  found : ∀ name, (c.find? name).isSome ↔ name ∈ regs.map (·.name)
  /-- What is found under a name is the procedure that has been registered under it. -/
  entry : ∀ name e, c.find? name = some e ↔
    ∃ r ∈ regs, r.name = name ∧ e.name = name ∧ e.procedure = r.procedure

theorem holds_of_ok (H : ofRegistrations regs = .ok c) : Holds c regs where
  names := ⟨(sortedLT_names H).pairwise, perm_names H⟩
  descriptors := by
    refine ⟨map_fst_descriptors c, fun name shape => ?_⟩
    rw [(perm_descriptors H).mem_iff, List.mem_map]
    simp only [Prod.mk.injEq]
  found _ := isSome_find?_iff H
  entry name e := by
    rw [find?_eq_some_iff H]
    constructor
    · rintro ⟨r, hr, rfl, rfl⟩
      exact ⟨r, hr, rfl, rfl, rfl⟩
    · rintro ⟨r, hr, rfl, hname, hprocedure⟩
      obtain ⟨_, _⟩ := e
      cases hname
      cases hprocedure
      exact ⟨r, hr, rfl, rfl⟩

/-- What comes of some registrations. -/
structure Builds (regs : List Registration) : Prop where
  /-- There is a catalog exactly if no name is blank and all names differ. -/
  succeeds : (∃ c, ofRegistrations regs = .ok c) ↔
    (∀ r ∈ regs, Text.trim r.name.toList ≠ []) ∧ (regs.map (·.name)).Nodup
  /-- Otherwise the first registration that is refused tells the error. -/
  fails : ∀ err, ofRegistrations regs = .error err ↔ FirstRefused regs err
  holds : ∀ c, ofRegistrations regs = .ok c → Holds c regs

/-- Whatever is registered, in whatever order. -/
theorem builds (regs : List Registration) : Builds regs where
  succeeds := by
    have hnamed : (∀ name ∈ regs.map (·.name), Text.isBlank name = false) ↔
        ∀ r ∈ regs, Text.trim r.name.toList ≠ [] := by
      simp only [List.forall_mem_map, ne_eq, ← Text.isBlank_iff, Bool.not_eq_true]
    rw [← hnamed]
    constructor
    · rintro ⟨c, H⟩
      exact (ofRegistrations_eq_ok_iff.1 H).1
    · exact fun registrable => ⟨_, ofRegistrations_eq_ok_iff.2 ⟨registrable, rfl⟩⟩
  fails _ := ofRegistrations_eq_error_iff
  holds _ := holds_of_ok

end CallGateway.Catalog
