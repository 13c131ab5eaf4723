import Mathlib.Data.List.Induction
import Mathlib.Data.List.Nodup
import CallGateway.Procedure.Dispatch
import CallGateway.Text.CodePoints

/-!
# What a pool hosts

Procedures are registered one by one, each with a decoder for its parameters and with logic of its
own. The catalog that comes of it has every one of them under its exact name, so what a dispatcher
does with an envelope depends on the one procedure of that name, and on its logic only if the
parameters come that far.
-/

namespace CallGateway

open Json

/-- A procedure as it is registered. -/
structure Registration where
  name : String
  /-- The name of the kind of parameters. -/
  shape : String
  {Params : Type}
  decoder : Decoder Params
  execute : Params → Context → Run

namespace Registration

def procedure (r : Registration) : Procedure := .typed r.shape r.decoder r.execute

def entry (r : Registration) : Entry := ⟨r.name, r.procedure⟩

/-- The same registration with other logic. -/
def withLogic (f : (r : Registration) → r.Params → Context → Run) (r : Registration) :
    Registration :=
  { r with execute := f r }

end Registration

namespace Catalog

variable {regs : List Registration} {c : Catalog} {name : String}

/-- Why a procedure is refused when others have been registered under these names before. -/
inductive Refuses (taken : List String) (name : String) : CatalogError → Prop
  | blank (h : Text.trim name.toList = []) : Refuses taken name .emptyName
  | taken (named : Text.trim name.toList ≠ []) (h : name ∈ taken) :
    Refuses taken name (.duplicateProcedure name)

theorem Refuses.unique {taken : List String} {err err' : CatalogError} (H : Refuses taken name err)
    (H' : Refuses taken name err') : err = err' := by
  cases H with
  | blank blank =>
    cases H' with
    | blank => rfl
    | taken named => exact absurd blank named
  | taken named =>
    cases H' with
    | blank blank => exact absurd blank named
    | taken => rfl

/-- A registration is refused, or it adds an entry. -/
theorem Builder.register_cases (b : Builder) (name : String) (p : Procedure) :
    (∃ err, Refuses (b.entries.map (·.name)) name err ∧ b.register name p = b.fails err) ∨
      (Text.isBlank name = false ∧ name ∉ b.entries.map (·.name)) ∧
        b.register name p = { b with entries := b.entries ++ [⟨name, p⟩] } := by
  have known : b.entries.any (·.name == name) = true ↔ name ∈ b.entries.map (·.name) := by
    simp [List.any_eq_true, List.mem_map]
  rw [register]
  split
  · next blank => exact .inl ⟨_, .blank (Text.isBlank_iff.1 blank), rfl⟩
  · next named =>
    split
    · next dup => exact .inl ⟨_, .taken (mt Text.isBlank_iff.2 named) (known.1 dup), rfl⟩
    · next new => exact .inr ⟨⟨Bool.not_eq_true _ ▸ named, mt known.2 new⟩, rfl⟩

/-- The builder after some registrations. -/
def registered (regs : List Registration) : Builder :=
  regs.foldl (fun b r => b.register r.name r.procedure) {}

/-- The catalog of some registrations, or the error of the first one that is refused. -/
def ofRegistrations (regs : List Registration) : Except CatalogError Catalog :=
  (registered regs).build

/-- Names under which procedures can be registered side by side. -/
def Registrable (names : List String) : Prop :=
  (∀ name ∈ names, Text.isBlank name = false) ∧ names.Nodup

theorem registrable_concat {names : List String} : Registrable (names ++ [name]) ↔
    Registrable names ∧ Text.isBlank name = false ∧ name ∉ names := by
  simp only [Registrable, List.forall_mem_append, List.nodup_append, List.nodup_singleton,
    List.mem_singleton, forall_eq, true_and]
  constructor
  · rintro ⟨⟨hn, h⟩, hd, hne⟩
    exact ⟨⟨hn, hd⟩, h, fun hm => hne _ hm rfl⟩
  · rintro ⟨⟨hn, hd⟩, h, hm⟩
    exact ⟨⟨hn, h⟩, hd, fun a ha haname => hm (haname ▸ ha)⟩

theorem Refuses.not_registrable {names : List String} {err : CatalogError}
    (H : Refuses names name err) : ¬ Registrable (names ++ [name]) := by
  rw [registrable_concat]
  rintro ⟨-, named, new⟩
  cases H with
  | blank h =>
    rw [Text.isBlank_iff.2 h] at named
    exact Bool.noConfusion named
  | taken _ h => exact new h

theorem registered_concat (regs : List Registration) (r : Registration) :
    registered (regs ++ [r]) = (registered regs).register r.name r.procedure := by
  simp only [registered, List.foldl_append, List.foldl_cons, List.foldl_nil]

/-- The errors tell whether the names can stand side by side; if so, the entries are complete. -/
theorem registered_spec (regs : List Registration) :
    ((registered regs).errors = [] ↔ Registrable (regs.map (·.name))) ∧
      ((registered regs).errors = [] → (registered regs).entries = regs.map (·.entry)) := by
  induction regs using List.reverseRecOn with
  | nil => exact ⟨iff_of_true rfl ⟨nofun, .nil⟩, fun _ => rfl⟩
  | append_singleton regs r ih =>
    obtain ⟨herrors, hentries⟩ := ih
    have hnames (h : (registered regs).errors = []) :
        (registered regs).entries.map (·.name) = regs.map (·.name) := by
      rw [hentries h, List.map_map]
      rfl
    rw [registered_concat, List.map_append, List.map_append, List.map_singleton,
      List.map_singleton]
    rcases (registered regs).register_cases r.name r.procedure with
      ⟨err, refused, h⟩ | ⟨⟨named, new⟩, h⟩
    · have failed : ((registered regs).fails err).errors ≠ [] :=
        List.append_ne_nil_of_right_ne_nil _ (List.cons_ne_nil _ _)
      rw [h]
      refine ⟨iff_of_false failed fun hr => ?_, fun h => absurd h failed⟩
      rw [hnames (herrors.2 (registrable_concat.1 hr).1)] at refused
      exact refused.not_registrable hr
    · rw [h, registrable_concat]
      refine ⟨herrors.trans ⟨fun hr => ⟨hr, named, ?_⟩, fun hr => hr.1⟩, fun h => ?_⟩
      · rwa [hnames (herrors.2 hr)] at new
      · exact congrArg (· ++ [r.entry]) (hentries h)

theorem ofRegistrations_eq_ok_iff :
    ofRegistrations regs = .ok c ↔ Registrable (regs.map (·.name)) ∧ c = ⟨regs.map (·.entry)⟩ := by
  obtain ⟨herrors, hentries⟩ := registered_spec regs
  rw [← herrors, ofRegistrations, Builder.build]
  cases he : (registered regs).errors with
  | nil =>
    rw [hentries he]
    exact ⟨fun h => ⟨rfl, (Except.ok.inj h).symm⟩, fun h => h.2 ▸ rfl⟩
  | cons err errs => exact ⟨nofun, fun h => nomatch h.1⟩

theorem eq_of_name (H : ofRegistrations regs = .ok c) {r r' : Registration} (hr : r ∈ regs)
    (hr' : r' ∈ regs) (h : r.name = r'.name) : r = r' :=
  List.inj_on_of_nodup_map (ofRegistrations_eq_ok_iff.1 H).1.2 hr hr' h

/-- Every procedure is found under its name, and nothing else is found. -/
theorem find?_eq_some_iff (H : ofRegistrations regs = .ok c) {entry : Entry} :
    c.find? name = some entry ↔ ∃ r ∈ regs, r.name = name ∧ r.entry = entry := by
  obtain ⟨-, rfl⟩ := ofRegistrations_eq_ok_iff.1 H
  have found {e : Entry} (h : find? ⟨regs.map (·.entry)⟩ name = some e) :
      ∃ r ∈ regs, r.name = name ∧ r.entry = e := by
    obtain ⟨r, hr, rfl⟩ := List.mem_map.1 (List.mem_of_find?_eq_some h)
    have hname := List.find?_some (p := fun e : Entry => e.name == name) h
    exact ⟨r, hr, beq_iff_eq.1 hname, rfl⟩
  refine ⟨found, ?_⟩
  rintro ⟨r, hr, rfl, rfl⟩
  cases h : find? ⟨regs.map (·.entry)⟩ r.name with
  | none =>
    have hne := List.find?_eq_none.1 h r.entry (List.mem_map_of_mem hr)
    exact absurd (beq_self_eq_true r.name) hne
  | some e =>
    obtain ⟨r', hr', hname, rfl⟩ := found h
    rw [eq_of_name H hr' hr hname]

theorem find?_eq_none_iff (H : ofRegistrations regs = .ok c) :
    c.find? name = none ↔ ∀ r ∈ regs, r.name ≠ name := by
  obtain ⟨-, rfl⟩ := ofRegistrations_eq_ok_iff.1 H
  simp [find?, Registration.entry]

/-- Whether a catalog can be built does not depend on the logic of the procedures. -/
theorem ofRegistrations_withLogic (H : ofRegistrations regs = .ok c)
    (f : (r : Registration) → r.Params → Context → Run) :
    ofRegistrations (regs.map (.withLogic f)) = .ok ⟨regs.map (·.withLogic f |>.entry)⟩ := by
  obtain ⟨registrable, -⟩ := ofRegistrations_eq_ok_iff.1 H
  rw [ofRegistrations_eq_ok_iff, List.map_map, List.map_map]
  exact ⟨registrable, rfl⟩

end Catalog

/-! ## How far an envelope comes -/

theorem Coercer.decode_map (c : Coercer) (d : Decoder α) (f : α → β) (v : Value) :
    c.decode (fun t => (d t).map f) v = (c.decode d v).map f := by
  simp only [decode]
  cases d v.tree with
  | ok a => rfl
  | error p =>
    dsimp only [Except.map]
    split
    · cases d (Value.object []).tree <;> rfl
    · rfl

namespace Registration

variable (r : Registration) (c : Coercer) (regs : List Registration) (e : Envelope)

/-- This is the procedure that is called, and the parameters do not suit it. -/
structure Refused (p : Problem) : Prop where
  hosted : r ∈ regs
  named : r.name = e.procedureName
  refused : c.decode r.decoder e.parameters = .error p

/-- This is the procedure that is called, and the parameters come to its logic. -/
structure Reached (a : r.Params) : Prop where
  hosted : r ∈ regs
  named : r.name = e.procedureName
  coerced : c.decode r.decoder e.parameters = .ok a

theorem absent_or_refused_or_reached : (∀ r ∈ regs, r.name ≠ e.procedureName) ∨
    (∃ (r : Registration) (p : Problem), r.Refused c regs e p) ∨
      ∃ (r : Registration) (a : r.Params), r.Reached c regs e a := by
  by_cases hosted : ∃ r ∈ regs, r.name = e.procedureName
  · obtain ⟨r, hr, named⟩ := hosted
    cases h : c.decode r.decoder e.parameters with
    | error p => exact .inr (.inl ⟨r, p, hr, named, h⟩)
    | ok a => exact .inr (.inr ⟨r, a, hr, named, h⟩)
  · exact .inl fun r hr named => hosted ⟨r, hr, named⟩

end Registration

namespace Dispatcher

variable {d : Dispatcher} {regs : List Registration} {e : Envelope} {r : Registration}

/-- What takes no time keeps within a budget that is not empty. -/
theorem bounded_at_once {budget : Option UInt64} (hb : budget ≠ some 0) (procedure : String)
    (r : Except DispatchError Value) : bounded budget procedure ⟨0, r⟩ = ⟨0, r⟩ := by
  cases budget with
  | none => rfl
  | some b =>
    refine if_neg fun hle => hb (congrArg some ?_)
    exact UInt64.toNat_inj.1 (Nat.le_zero.1 hle)

theorem bounded_in_time {budget : Option UInt64} {t : Timed (Except DispatchError Value)}
    (h : ∀ b, budget = some b → t.elapsed < b.toNat) (procedure : String) :
    bounded budget procedure t = t := by
  cases budget with
  | none => rfl
  | some b => exact if_neg (Nat.not_le_of_lt (h b rfl))

theorem run_of_absent (H : Catalog.ofRegistrations regs = .ok d.catalog)
    (absent : ∀ r ∈ regs, r.name ≠ e.procedureName) (now : Instant) (clock : Nat) :
    d.run e now clock = ⟨0, .error (.procedureNotFound e.procedureName)⟩ := by
  rw [run, (Catalog.find?_eq_none_iff H).2 absent]

theorem start_of_error {entry : Entry} {v : Value} {context : Context} {err : CoercionError}
    (h : d.coercer.coerce entry.procedure.prepare context.procedure entry.procedure.shape v =
      .error err) :
    d.start entry v context = bounded d.budget context.procedure ⟨0, .error (.coercion err)⟩ := by
  rw [start, h]

theorem start_of_ok {entry : Entry} {v : Value} {context : Context} {execute : Context → Run}
    (h : d.coercer.coerce entry.procedure.prepare context.procedure entry.procedure.shape v =
      .ok execute) :
    d.start entry v context = bounded d.budget context.procedure
      ⟨(execute context).duration, conclude context.procedure (execute context).ending⟩ := by
  rw [start, h]

/-- A dispatcher goes on with the one procedure of the name that is called. -/
theorem run_of_hosted (H : Catalog.ofRegistrations regs = .ok d.catalog) (hosted : r ∈ regs)
    (named : r.name = e.procedureName) (now : Instant) (clock : Nat) :
    d.run e now clock = d.start r.entry e.parameters (.ofEnvelope e now clock) := by
  rw [run, (Catalog.find?_eq_some_iff H).2 ⟨r, hosted, named, rfl⟩]

theorem coerce_entry (c : Coercer) (r : Registration) (procedure : String) (v : Value) :
    c.coerce r.entry.procedure.prepare procedure r.entry.procedure.shape v =
      ((c.decode r.decoder v).map r.execute).mapError fun p => ⟨procedure, r.shape, p.message⟩ :=
  congrArg (Except.mapError _) (Coercer.decode_map ..)

theorem run_of_refused (H : Catalog.ofRegistrations regs = .ok d.catalog) {p : Problem}
    (R : r.Refused d.coercer regs e p) (now : Instant) (clock : Nat) :
    d.run e now clock = bounded d.budget e.procedureName
      ⟨0, .error (.coercion ⟨e.procedureName, r.shape, p.message⟩)⟩ := by
  rw [run_of_hosted H R.hosted R.named]
  refine start_of_error ?_
  rw [coerce_entry, R.refused]
  rfl

theorem run_of_reached (H : Catalog.ofRegistrations regs = .ok d.catalog) {a : r.Params}
    (R : r.Reached d.coercer regs e a) (now : Instant) (clock : Nat) :
    d.run e now clock = bounded d.budget e.procedureName
      ⟨(r.execute a (.ofEnvelope e now clock)).duration,
        conclude e.procedureName (r.execute a (.ofEnvelope e now clock)).ending⟩ := by
  rw [run_of_hosted H R.hosted R.named]
  refine start_of_ok ?_
  rw [coerce_entry, R.coerced]
  rfl

end Dispatcher

end CallGateway
