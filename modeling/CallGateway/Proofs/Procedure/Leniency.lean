import CallGateway.Procedure.Builtin
import CallGateway.Proofs.Procedure.Registry
import CallGateway.Proofs.Procedure.Shallow
import CallGateway.Proofs.Worker.Steps

/-!
# Strict and lenient pools

A lenient pool does with every call what a strict one does with it, but for calls without parameters
that a procedure would take with an empty object in their place. So whoever moves from a strict pool
to a lenient one loses nothing.
-/

namespace CallGateway

open Json

namespace Coercer

variable {d : Decoder α} {v : Value}

theorem decode_strict (d : Decoder α) (v : Value) : strict.decode d v = d v.tree := by
  rw [decode]
  cases d v.tree with
  | ok a => rfl
  | error p => exact if_neg (by rw [strict, Bool.and_false]; exact Bool.false_ne_true)

theorem decode_lenient (d : Decoder α) (h : v ≠ .null) : lenient.decode d v = d v.tree := by
  rw [decode]
  cases hv : d v.tree with
  | ok a => rfl
  | error p =>
    refine if_neg ?_
    cases v <;> first | exact absurd rfl h | exact Bool.false_ne_true

theorem decode_of_ok (c : Coercer) {a : α} (h : d v.tree = .ok a) : c.decode d v = .ok a := by
  rw [decode, h]

/-- The refusal of the empty object is never told. -/
theorem decode_eq_error {c : Coercer} {p : Problem} (h : c.decode d v = .error p) :
    d v.tree = .error p := by
  rw [decode] at h
  split at h
  · cases h
  · next hq =>
    split at h
    · split at h
      · cases h
      · cases h; exact hq
    · cases h; exact hq

theorem decode_lenient_of_empty {p : Problem} {a : α} (h : d Value.null.tree = .error p)
    (hempty : d (Value.object []).tree = .ok a) :
    lenient.decode d .null = d (Value.object []).tree := by
  rw [decode, h, hempty]
  rfl

theorem decode_lenient_of_error {p q : Problem} (h : d Value.null.tree = .error p)
    (hempty : d (Value.object []).tree = .error q) :
    lenient.decode d .null = d Value.null.tree := by
  rw [decode, h, hempty]
  rfl

end Coercer

namespace Dispatcher

variable {d : Dispatcher} {regs : List Registration} {e : Envelope} {now : Instant} {clock : Nat}

/-- The same dispatcher with another way to convert parameters. -/
def coercing (d : Dispatcher) (c : Coercer) : Dispatcher := { d with coercer := c }

/-- A reply depends on the parameters by what the procedure that is called makes of them. -/
theorem dispatch_coercing (H : Catalog.ofRegistrations regs = .ok d.catalog) {c c' : Coercer}
    {v : Value} (same : ∀ r ∈ regs, r.name = e.procedureName →
      c.decode r.decoder e.parameters = c'.decode r.decoder v) :
    (d.coercing c).dispatch e now clock =
      (d.coercing c').dispatch { e with parameters := v } now clock := by
  have hrun : (d.coercing c).run e now clock =
      (d.coercing c').run { e with parameters := v } now clock := by
    rcases Registration.absent_or_refused_or_reached c regs e with absent | ⟨r, p, R⟩ | ⟨r, a, R⟩
    · rw [run_of_absent (d := d.coercing c) H absent,
        run_of_absent (d := d.coercing c') (e := { e with parameters := v }) H absent]
    · have R' : r.Refused c' regs { e with parameters := v } p :=
        ⟨R.hosted, R.named, same r R.hosted R.named ▸ R.refused⟩
      rw [run_of_refused (d := d.coercing c) H R, run_of_refused (d := d.coercing c') H R']
      rfl
    · have R' : r.Reached c' regs { e with parameters := v } a :=
        ⟨R.hosted, R.named, same r R.hosted R.named ▸ R.coerced⟩
      rw [run_of_reached (d := d.coercing c) H R, run_of_reached (d := d.coercing c') H R']
      rfl
  rw [dispatch, dispatch, hrun]

/-- What succeeds has come to the logic of a procedure. -/
theorem reached_of_success (H : Catalog.ofRegistrations regs = .ok d.catalog)
    (success : (d.dispatch e now clock).result.isSuccess = true) :
    ∃ (r : Registration) (a : r.Params), r.Reached d.coercer regs e a := by
  rw [dispatch] at success
  rcases Registration.absent_or_refused_or_reached d.coercer regs e with
    absent | ⟨r, p, R⟩ | reached
  · rw [run_of_absent H absent] at success
    cases success
  · rw [run_of_refused H R] at success
    cases hb : d.budget with
    | none => rw [hb] at success; cases success
    | some b =>
      rw [hb, bounded] at success
      split at success <;> cases success
  · exact reached

end Dispatcher

/-- The procedure of this name is hosted, and its parameters can be decoded from the value. -/
def Accepts (regs : List Registration) (name : String) (v : Value) : Prop :=
  ∃ r ∈ regs, r.name = name ∧ ∃ a, r.decoder v.tree = .ok a

theorem decode_eq_error_of_not_accepts {regs : List Registration} {r : Registration} {v : Value}
    (no : ¬ Accepts regs name v) (hr : r ∈ regs) (named : r.name = name) :
    ∃ p, r.decoder v.tree = .error p := by
  cases h : r.decoder v.tree with
  | error p => exact ⟨p, rfl⟩
  | ok a => exact absurd ⟨r, hr, named, a, h⟩ no

namespace Dispatcher

variable {d : Dispatcher} {regs : List Registration} {r : Registration} {e : Envelope}
  {a : r.Params}

/-- Parameters that can be decoded as they are leave nothing to be lenient about. -/
theorem dispatch_of_decoded (H : Catalog.ofRegistrations regs = .ok d.catalog) (hr : r ∈ regs)
    (named : r.name = e.procedureName) (h : r.decoder e.parameters.tree = .ok a) (now : Instant)
    (clock : Nat) :
    (d.coercing .lenient).dispatch e now clock = (d.coercing .strict).dispatch e now clock := by
  refine dispatch_coercing H fun r' hr' named' => ?_
  obtain rfl := Catalog.eq_of_name H hr hr' (named.trans named'.symm)
  rw [Coercer.decode_of_ok _ h, Coercer.decode_of_ok _ h]

theorem reached_lenient (R : r.Reached .strict regs e a)
    (H : Catalog.ofRegistrations regs = .ok d.catalog) (now : Instant) (clock : Nat) :
    r.Reached .lenient regs e a ∧
      (d.coercing .lenient).dispatch e now clock = (d.coercing .strict).dispatch e now clock := by
  have h : r.decoder e.parameters.tree = .ok a :=
    (Coercer.decode_strict ..).symm.trans R.coerced
  exact ⟨⟨R.hosted, R.named, Coercer.decode_of_ok _ h⟩,
    dispatch_of_decoded H R.hosted R.named h now clock⟩

/-- The lenient dispatcher in terms of the strict one. -/
structure Leniency (d : Dispatcher) (regs : List Registration) : Prop where
  other : ∀ e now clock, e.parameters ≠ .null →
    (d.coercing .lenient).dispatch e now clock = (d.coercing .strict).dispatch e now clock
  null : ∀ e now clock, e.parameters = .null → Accepts regs e.procedureName .null →
    (d.coercing .lenient).dispatch e now clock = (d.coercing .strict).dispatch e now clock
  empty : ∀ e now clock, e.parameters = .null → ¬ Accepts regs e.procedureName .null →
    Accepts regs e.procedureName (.object []) →
      (d.coercing .lenient).dispatch e now clock =
        (d.coercing .strict).dispatch { e with parameters := .object [] } now clock
  neither : ∀ e now clock, e.parameters = .null → ¬ Accepts regs e.procedureName .null →
    ¬ Accepts regs e.procedureName (.object []) →
      (d.coercing .lenient).dispatch e now clock = (d.coercing .strict).dispatch e now clock
  /-- The logic that is reached in a strict pool is reached in a lenient one, with the same
  parameters. -/
  reached : ∀ (r : Registration) a e now clock, r.Reached .strict regs e a →
    r.Reached .lenient regs e a ∧
      (d.coercing .lenient).dispatch e now clock = (d.coercing .strict).dispatch e now clock
  success : ∀ e now clock, ((d.coercing .strict).dispatch e now clock).result.isSuccess = true →
    (d.coercing .lenient).dispatch e now clock = (d.coercing .strict).dispatch e now clock
  /-- Parameters are decoded as they are, or are null as a whole. -/
  offered : ∀ (r : Registration) a e, r.Reached .lenient regs e a →
    r.decoder e.parameters.tree = .ok a ∨
      e.parameters = .null ∧ r.decoder (Value.object []).tree = .ok a
  /-- The reason for a refusal is the one for the parameters themselves. -/
  reason : ∀ (r : Registration) p e, r.Refused .lenient regs e p →
    r.decoder e.parameters.tree = .error p
  pools : ∀ config b w b', config.executionTimeout = d.budget →
    Worker.start config d.catalog b = (.ok w, b') →
      w.dispatcher = d.coercing (if config.strict then .strict else .lenient)

/-- A lenient dispatcher differs from a strict one in nothing but calls without parameters. -/
theorem leniency (H : Catalog.ofRegistrations regs = .ok d.catalog) : Leniency d regs where
  other e now clock hne := dispatch_coercing H fun r _ _ =>
    (Coercer.decode_lenient r.decoder hne).trans (Coercer.decode_strict ..).symm
  null := by
    rintro e now clock hnull ⟨r, hr, named, a, h⟩
    exact dispatch_of_decoded H hr named (hnull ▸ h) now clock
  empty := by
    rintro e now clock hnull no ⟨r, hr, named, a, h⟩
    refine dispatch_coercing H fun r' hr' named' => ?_
    obtain rfl := Catalog.eq_of_name H hr hr' (named.trans named'.symm)
    obtain ⟨p, hp⟩ := decode_eq_error_of_not_accepts no hr named
    rw [hnull, Coercer.decode_lenient_of_empty hp h, Coercer.decode_strict]
  neither := by
    intro e now clock hnull no no'
    refine dispatch_coercing H fun r hr named => ?_
    obtain ⟨p, hp⟩ := decode_eq_error_of_not_accepts no hr named
    obtain ⟨q, hq⟩ := decode_eq_error_of_not_accepts no' hr named
    rw [hnull, Coercer.decode_lenient_of_error hp hq, Coercer.decode_strict]
  reached r a e now clock R := reached_lenient R H now clock
  success e now clock h := by
    obtain ⟨r, a, R⟩ := reached_of_success (d := d.coercing .strict) H h
    exact (reached_lenient R H now clock).2
  offered := by
    rintro r a e ⟨-, -, h⟩
    by_cases hnull : e.parameters = .null
    · exact (Coercer.decode_eq_ok h).imp_right fun h => ⟨hnull, h⟩
    · exact .inl (Coercer.decode_lenient r.decoder hnull ▸ h)
  reason r p e R := Coercer.decode_eq_error R.refused
  pools := by
    intro config b w b' hbudget h
    obtain ⟨-, -, -, hd, -⟩ := Worker.of_start h
    rw [hd, hbudget]
    rfl

/-- A procedure without parameters. -/
def pinger : Registration where
  name := "ping"
  shape := "NoParams"
  decoder := Procedure.noParams
  execute _ _ := { ending := .value (.string "pong") }

def ping : Envelope where
  requestId := ⟨7⟩
  clientType := "client-1"
  procedureName := "ping"
  parameters := .null
  replyTo := "relay.responses"
  metadata := {}
  issuedAt := .epoch

theorem leniency_ping :
    Catalog.ofRegistrations [pinger] = .ok ⟨[pinger.entry]⟩ ∧
      (coercing ⟨⟨[pinger.entry]⟩, .lenient, none⟩ .lenient).dispatch ping .epoch 0 =
        ⟨0, ⟨7⟩, .success (.string "pong")⟩ ∧
      (coercing ⟨⟨[pinger.entry]⟩, .lenient, none⟩ .strict).dispatch ping .epoch 0 =
        ⟨0, ⟨7⟩, .failure ("Invalid parameters for procedure 'ping' (expected NoParams): " ++
          "invalid type: null, expected struct NoParams")⟩ := by
  have built : Catalog.ofRegistrations [pinger] = .ok ⟨[pinger.entry]⟩ := rfl
  have no : ¬ Accepts [pinger] "ping" .null := by
    rintro ⟨r, hr, -, a, h⟩
    obtain rfl := List.mem_singleton.1 hr
    cases h
  have yes : Accepts [pinger] "ping" (.object []) := ⟨pinger, .head _, rfl, (), rfl⟩
  refine ⟨built, ?_, rfl⟩
  exact ((leniency (d := ⟨_, .lenient, none⟩) built).empty ping .epoch 0 rfl no yes).trans rfl

end Dispatcher

end CallGateway
