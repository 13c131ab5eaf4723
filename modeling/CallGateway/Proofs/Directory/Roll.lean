import Mathlib.Data.Finset.Basic
import Mathlib.Data.List.Sort
import Mathlib.Data.String.Basic
import CallGateway.Proofs.Resolution

/-!
# The roll that a directory keeps

To its users a directory is a set of pairs, each of a normal name and an instance. How the instances
are kept under their names does not show: no name is left behind without an instance, so a service
is listed exactly if it has a pair in the set. An outage hides the set and does not touch it.
-/

namespace CallGateway

structure Roll where
  pairs : Finset (String × Uuid) := ∅
  available : Bool := true

namespace Roll

def register (R : Roll) (service : String) (id : Uuid) : Except DirectoryError Roll :=
  if serviceName service = "" then .error (.invalidServiceName service)
  else if (serviceName service, id) ∈ R.pairs then .error (.instanceAlreadyExists id)
  else .ok { R with pairs := insert (serviceName service, id) R.pairs }

def deregister (R : Roll) (service : String) (id : Uuid) : Except DirectoryError Roll :=
  if serviceName service = "" then .error (.invalidServiceName service)
  else if (serviceName service, id) ∉ R.pairs then .error (.instanceNotFound id)
  else .ok { R with pairs := R.pairs.erase (serviceName service, id) }

def change? (R : Roll) : DirectoryChange → Except DirectoryError Roll
  | .register service id => R.register service id
  | .deregister service id => R.deregister service id
  | .setAvailable available => .ok { R with available }

/-- A change that is refused changes nothing. -/
def change (R : Roll) (c : DirectoryChange) : Roll :=
  match R.change? c with
  | .ok R => R
  | .error _ => R

theorem change_of_error {R : Roll} {x : DirectoryChange} {e : DirectoryError}
    (h : R.change? x = .error e) : R.change x = R := by
  rw [change, h]

/-- A registration that is refused would not have changed the pairs, unless there is no name. -/
theorem change_register (R : Roll) (service : String) (id : Uuid) :
    R.change (.register service id) =
      if serviceName service = "" then R
      else { R with pairs := insert (serviceName service, id) R.pairs } := by
  rw [change, change?, register]
  split_ifs with hname hmem
  · rfl
  · rw [Finset.insert_eq_of_mem hmem]
  · rfl

theorem change_deregister (R : Roll) (service : String) (id : Uuid) :
    R.change (.deregister service id) =
      if serviceName service = "" then R
      else { R with pairs := R.pairs.erase (serviceName service, id) } := by
  rw [change, change?, deregister]
  split_ifs with hname hmem
  · rfl
  · rfl
  · rw [Finset.erase_eq_of_notMem hmem]

/-- One change after the other. -/
def changes (R : Roll) (xs : List DirectoryChange) : Roll := xs.foldl change R

end Roll

namespace Directory

variable {d : Directory} {R : Roll} {name : String} {id : Uuid}

/-- A directory keeps a roll: the instances under each name are those that are paired with it, and
none is there twice. A name that is kept has an instance. -/
structure Keeps (d : Directory) (R : Roll) : Prop where
  mem : ∀ name id, id ∈ d.under name ↔ (name, id) ∈ R.pairs
  nodup : ∀ name, (d.under name).Nodup
  served : ∀ name, d.services.get? name ≠ some []
  available : d.available = R.available

theorem Keeps.empty : Keeps {} {} where
  mem _ _ := iff_of_false List.not_mem_nil (Finset.notMem_empty _)
  nodup _ := .nil
  served _ := nofun
  available := rfl

theorem served_set {ids : List Uuid} (h : ∀ name, d.services.get? name ≠ some [])
    (hids : ids ≠ []) (m : String) : (d.services.set name ids).get? m ≠ some [] := by
  rw [Keyed.get?_set]
  split
  · exact fun he => hids (Option.some.inj he)
  · exact h m

theorem served_erase (h : ∀ name, d.services.get? name ≠ some []) (m : String) :
    (d.services.erase name).get? m ≠ some [] := by
  rw [Keyed.get?_erase]
  split
  · exact (Option.some_ne_none _).symm
  · exact h m

/-- An instance that is new to a name joins the others. -/
theorem Keeps.insert (K : Keeps d R) (new : id ∉ d.under name) :
    Keeps { d with services := d.services.set name (d.under name ++ [id]) }
      { R with pairs := Insert.insert (name, id) R.pairs } where
  mem m i := by
    rw [under_set, Finset.mem_insert, ← K.mem, Prod.mk.injEq]
    split
    · next h => simp [h, or_comm]
    · next h => simp [h]
  nodup m := by
    rw [under_set]
    split
    · exact List.nodup_append.2
        ⟨K.nodup name, List.nodup_singleton id, by grind⟩
    · exact K.nodup m
  served := served_set K.served (List.append_ne_nil_of_right_ne_nil _ (List.cons_ne_nil _ _))
  available := K.available

/-- A name goes with its last instance. -/
theorem Keeps.erase (K : Keeps d R) {left : List Uuid} (hleft : left = (d.under name).erase id) :
    Keeps { d with
        services := if left.isEmpty then d.services.erase name else d.services.set name left }
      { R with pairs := R.pairs.erase (name, id) } := by
  have hunder (m : String) : under { d with
      services := if left.isEmpty then d.services.erase name else d.services.set name left } m =
        if m = name then left else d.under m := by
    split
    · next he => rw [under_erase, List.isEmpty_iff.1 he]
    · exact under_set ..
  refine ⟨fun m i => ?_, fun m => ?_, ?_, K.available⟩
  · rw [hunder, Finset.mem_erase, ← K.mem, ne_eq, Prod.mk.injEq]
    split
    · next h => rw [hleft, (K.nodup name).mem_erase_iff, h]; simp
    · next h => simp [h]
  · rw [hunder, hleft]
    split
    · exact (K.nodup name).erase id
    · exact K.nodup m
  · show ∀ m, Keyed.get? (if left.isEmpty then d.services.erase name
      else d.services.set name left) m ≠ some []
    split
    · exact served_erase K.served
    · next he => exact served_set K.served fun h => he (List.isEmpty_iff.2 h)

/-- A change is refused for the same reason on both sides, or it is made on both. -/
theorem Keeps.change? (K : Keeps d R) (x : DirectoryChange) :
    (∃ e, d.change? x = .error e ∧ R.change? x = .error e) ∨
      ∃ d₁ R₁, d.change? x = .ok d₁ ∧ R.change? x = .ok R₁ ∧ Keeps d₁ R₁ := by
  cases x with
  | register s id =>
    simp only [Directory.change?, Roll.change?, register_eq, Roll.register, ← K.mem]
    split
    · exact .inl ⟨_, rfl, rfl⟩
    · split
      · exact .inl ⟨_, rfl, rfl⟩
      · next new => exact .inr ⟨_, _, rfl, rfl, K.insert new⟩
  | deregister s id =>
    simp only [Directory.change?, Roll.change?, deregister_eq, Roll.deregister, ← K.mem, ite_not]
    split
    · exact .inl ⟨_, rfl, rfl⟩
    · split
      · exact .inr ⟨_, _, rfl, rfl, K.erase rfl⟩
      · exact .inl ⟨_, rfl, rfl⟩
  | setAvailable a =>
    exact .inr ⟨d.setAvailable a, { R with available := a }, rfl, rfl,
      ⟨K.mem, K.nodup, K.served, rfl⟩⟩

theorem change_of_error {x : DirectoryChange} {e : DirectoryError} (h : d.change? x = .error e) :
    d.change x = d := by
  rw [change, h]

theorem Keeps.change (K : Keeps d R) (x : DirectoryChange) :
    Keeps (d.change x) (R.change x) := by
  obtain ⟨e, hd, hR⟩ | ⟨d₁, R₁, hd, hR, K₁⟩ := K.change? x
  · rw [change_of_error hd, Roll.change_of_error hR]
    exact K
  · rw [Directory.change, hd, Roll.change, hR]
    exact K₁

theorem Keeps.register (K : Keeps d R) {service : String} (h : d.register service id = .ok d₁) :
    Keeps d₁ (R.change (.register service id)) := by
  have K₁ := K.change (.register service id)
  rwa [Directory.change, Directory.change?, h] at K₁

theorem Keeps.changes (K : Keeps d R) (xs : List DirectoryChange) :
    Keeps (d.changes xs) (R.changes xs) := by
  induction xs generalizing d R with
  | nil => exact K
  | cons x xs ih => exact ih (K.change x)

/-! ## Queries -/

theorem Keeps.mem_keys (K : Keeps d R) :
    name ∈ d.services.keys ↔ ∃ id, (name, id) ∈ R.pairs := by
  have served := K.served name
  have absent : d.services.get? name = none ↔ name ∉ d.services.keys := Keyed.lookup_eq_none
  simp only [← K.mem, under]
  cases h : d.services.get? name with
  | none => exact iff_of_false (absent.1 h) fun hid => List.not_mem_nil hid.choose_spec
  | some ids =>
    rw [h] at absent served
    refine iff_of_true (Classical.not_not.1 (mt absent.2 (Option.some_ne_none ids))) ?_
    exact List.exists_mem_of_ne_nil ids fun he => served (congrArg some he)

/-- The names that have a pair are listed in ascending order, each once, and they are those that
have instances. -/
def Shows (d : Directory) (pairs : Finset (String × Uuid)) : Prop :=
  ∃ names, d.list = .ok names ∧ names.Pairwise (· < ·) ∧
    (∀ name, name ∈ names ↔ ∃ id, (name, id) ∈ pairs) ∧
    ∀ s, ∃ b, d.hasInstances s = .ok b ∧ (b = true ↔ serviceName s ∈ names)

/-- The names of a directory in ascending order, each once. -/
theorem pairwise_sorted_keys (d : Directory) :
    (d.services.keys.mergeSort fun a b => decide (a ≤ b)).Pairwise (· < ·) := by
  have nodup := (List.mergeSort_perm d.services.keys fun a b => decide (a ≤ b)).nodup_iff.2
    d.services.nodup
  exact (List.sortedLE_mergeSort.sortedLT_of_nodup nodup).pairwise

theorem Keeps.shows (K : Keeps d R) (available : d.available = true) : Shows d R.pairs := by
  have hmem (name : String) : name ∈ d.services.keys.mergeSort (fun a b => decide (a ≤ b)) ↔
      ∃ id, (name, id) ∈ R.pairs := List.mem_mergeSort.trans K.mem_keys
  refine ⟨_, by rw [list, if_pos available], d.pairwise_sorted_keys, hmem, fun s => ?_⟩
  refine ⟨_, by rw [hasInstances, if_pos available], ?_⟩
  rw [hmem, Bool.not_eq_true', List.isEmpty_eq_false_iff_exists_mem]
  exact exists_congr fun id => K.mem ..

/-- A directory answers as its roll tells. -/
structure Refines (d : Directory) (R : Roll) : Prop where
  /-- A change is refused exactly if the roll refuses it, for the same reason. -/
  refused : ∀ x e, d.change? x = .error e ↔ R.change? x = .error e
  unchanged : ∀ x e, d.change? x = .error e → d.change x = d ∧ R.change x = R
  instances : ∀ s, (d.instances s).Nodup ∧
    ∀ id, id ∈ d.instances s ↔ (serviceName s, id) ∈ R.pairs
  available : R.available = true → Shows d R.pairs
  unavailable : R.available = false →
    d.list = .error .marked ∧ ∀ s, d.hasInstances s = .error .marked
  /-- The end of an outage shows what has been changed meanwhile. -/
  cleared : Shows (d.setAvailable true) R.pairs

theorem Keeps.refines (K : Keeps d R) : Refines d R where
  refused x e := by
    obtain ⟨e', hd, hR⟩ | ⟨d₁, R₁, hd, hR, -⟩ := K.change? x
    · rw [hd, hR, Except.error.injEq, Except.error.injEq]
    · exact iff_of_false (hd ▸ nofun) (hR ▸ nofun)
  unchanged x e h := by
    obtain ⟨e', hd, hR⟩ | ⟨d₁, R₁, hd, hR, -⟩ := K.change? x
    · exact ⟨change_of_error hd, Roll.change_of_error hR⟩
    · cases h.symm.trans hd
  instances s := ⟨K.nodup _, K.mem _⟩
  available h := K.shows (K.available.trans h)
  unavailable h := by
    have hd : ¬ d.available = true := by rw [K.available, h]; nofun
    exact ⟨if_neg hd, fun _ => if_neg hd⟩
  cleared := Keeps.shows (d := d.setAvailable true) (R := { R with available := true })
    ⟨K.mem, K.nodup, K.served, rfl⟩ rfl

/-- Whatever is registered, deregistered and marked: what a directory answers is told by the set of
pairs that come and go with it. -/
theorem refines_changes (xs : List DirectoryChange) :
    Refines (changes {} xs) (Roll.changes {} xs) :=
  (Keeps.empty.changes xs).refines

end Directory

end CallGateway
