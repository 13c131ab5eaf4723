import CallGateway.Procedure.Sample
import CallGateway.Proofs.Procedure.Registry

/-!
# What becomes of an envelope

A dispatcher answers every envelope once and under its own identifier. What the answer says is
decided in a fixed order: whether the procedure is hosted, whether the parameters suit it, whether
it comes to its end in time, and how it ends.
-/

namespace CallGateway

open Json

variable {regs : List Registration} {e : Envelope} {r : Registration}

section
variable (c : Coercer) (budget : Option UInt64) (regs : List Registration) (e : Envelope)
  (context : Context)

/-- What becomes of an envelope whose procedure is run with a context, and after how many
milliseconds. -/
inductive Verdict : Nat → Outcome → Prop
  | notFound (absent : ∀ r ∈ regs, r.name ≠ e.procedureName) :
    Verdict 0 (.failure s!"Procedure '{e.procedureName}' not found")
  | refused {r : Registration} {p : Problem} (refused : r.Refused c regs e p) :
    Verdict 0 (.failure
      s!"Invalid parameters for procedure '{e.procedureName}' (expected {r.shape}): {p.message}")
  | exceeded {r : Registration} {a : r.Params} {b : UInt64} (reached : r.Reached c regs e a)
      (bound : budget = some b) (late : b.toNat < (r.execute a context).duration) :
    Verdict b.toNat (.failure
      s!"Error executing procedure '{e.procedureName}': execution exceeded {b} ms")
  | panicked {r : Registration} {a : r.Params} (reached : r.Reached c regs e a)
      (inTime : ∀ b, budget = some b → (r.execute a context).duration < b.toNat)
      (ending : (r.execute a context).ending = .panicked) :
    Verdict (r.execute a context).duration (.failure
      s!"Error executing procedure '{e.procedureName}': executor panicked")
  | failed {r : Registration} {a : r.Params} {reason : String} (reached : r.Reached c regs e a)
      (inTime : ∀ b, budget = some b → (r.execute a context).duration < b.toNat)
      (ending : (r.execute a context).ending = .failed reason) :
    Verdict (r.execute a context).duration (.failure
      s!"Error executing procedure '{e.procedureName}': {reason}")
  | returned {r : Registration} {a : r.Params} {v : Value} (reached : r.Reached c regs e a)
      (inTime : ∀ b, budget = some b → (r.execute a context).duration < b.toNat)
      (ending : (r.execute a context).ending = .value v) :
    Verdict (r.execute a context).duration (.success v)

/-- No execution ends at the very instant at which its time is up. -/
def Untied : Prop :=
  ∀ (r : Registration) (a : r.Params) (b : UInt64), r.Reached c regs e a → budget = some b →
    (r.execute a context).duration ≠ b.toNat

end

theorem exists_verdict {c : Coercer} {budget : Option UInt64} {context : Context}
    (untied : Untied c budget regs e context) : ∃ n o, Verdict c budget regs e context n o := by
  rcases Registration.absent_or_refused_or_reached c regs e with absent | ⟨r, p, R⟩ | ⟨r, a, R⟩
  · exact ⟨_, _, .notFound absent⟩
  · exact ⟨_, _, .refused R⟩
  by_cases late : ∃ b, budget = some b ∧ b.toNat < (r.execute a context).duration
  · obtain ⟨b, bound, late⟩ := late
    exact ⟨_, _, .exceeded R bound late⟩
  · have inTime (b : UInt64) (bound : budget = some b) :
        (r.execute a context).duration < b.toNat := by
      have hne := untied r a b R bound
      have hle := Nat.not_lt.1 fun h => late ⟨b, bound, h⟩
      omega
    cases ending : (r.execute a context).ending with
    | value v => exact ⟨_, _, .returned R inTime ending⟩
    | failed reason => exact ⟨_, _, .failed R inTime ending⟩
    | panicked => exact ⟨_, _, .panicked R inTime ending⟩

/-! ## Texts -/

theorem DispatchError.message_panicked (procedure : String) :
    (execution procedure "executor panicked").message =
      s!"Error executing procedure '{procedure}': executor panicked" := by
  show "Error executing procedure '" ++ procedure ++ "': " ++ "executor panicked" = _
  rw [String.append_assoc]
  rfl

theorem DispatchError.message_exceeded (procedure : String) (b : UInt64) :
    (execution procedure s!"execution exceeded {b} ms").message =
      s!"Error executing procedure '{procedure}': execution exceeded {b} ms" := by
  have joined : "': execution exceeded " = "': " ++ "execution exceeded " := rfl
  show "Error executing procedure '" ++ procedure ++ "': " ++
      ("execution exceeded " ++ toString b ++ " ms") =
    "Error executing procedure '" ++ procedure ++ "': execution exceeded " ++ toString b ++ " ms"
  rw [joined]
  simp only [String.append_assoc]

/-! ## The reply -/

namespace Dispatcher

variable {d : Dispatcher} {now : Instant} {clock : Nat}

/-- The dispatcher comes to the verdict. -/
theorem dispatch_of_verdict (H : Catalog.ofRegistrations regs = .ok d.catalog)
    (bound : d.budget ≠ some 0) {n : Nat} {o : Outcome}
    (V : Verdict d.coercer d.budget regs e (.ofEnvelope e now clock) n o) :
    d.dispatch e now clock = ⟨n, e.requestId, o⟩ := by
  rw [dispatch]
  cases V with
  | notFound absent =>
    rw [run_of_absent H absent]
    rfl
  | refused R =>
    rw [run_of_refused H R, bounded_at_once bound]
    rfl
  | exceeded R hb late =>
    rw [run_of_reached H R, hb, bounded, if_pos (Nat.le_of_lt late)]
    dsimp only [outcome]
    rw [DispatchError.message_exceeded]
  | panicked R inTime ending =>
    rw [run_of_reached H R, bounded_in_time inTime, ending]
    dsimp only [outcome, conclude]
    rw [DispatchError.message_panicked]
  | failed R inTime ending | returned R inTime ending =>
    rw [run_of_reached H R, bounded_in_time inTime, ending]
    rfl

end Dispatcher

/-! ## The logic -/

theorem Registration.Refused.withLogic {c : Coercer} {p : Problem} (R : r.Refused c regs e p)
    (f : (r : Registration) → r.Params → Context → Run) :
    (r.withLogic f).Refused c (regs.map (.withLogic f)) e p :=
  ⟨List.mem_map_of_mem R.hosted, R.named, R.refused⟩

theorem Registration.Reached.withLogic {c : Coercer} {a : r.Params} (R : r.Reached c regs e a)
    (f : (r : Registration) → r.Params → Context → Run) :
    (r.withLogic f).Reached c (regs.map (.withLogic f)) e a :=
  ⟨List.mem_map_of_mem R.hosted, R.named, R.coerced⟩

namespace Dispatcher

variable {d : Dispatcher} {now : Instant} {clock : Nat}

/-- A dispatch depends on the logic of the procedures only where it comes to it, with the parameters
and the context that it has then. -/
theorem dispatch_withLogic {catalog : Catalog} (H : Catalog.ofRegistrations regs = .ok d.catalog)
    {f : (r : Registration) → r.Params → Context → Run}
    (Hf : Catalog.ofRegistrations (regs.map (.withLogic f)) = .ok catalog)
    (same : ∀ (r : Registration) a, r.Reached d.coercer regs e a →
      f r a (.ofEnvelope e now clock) = r.execute a (.ofEnvelope e now clock)) :
    { d with catalog }.dispatch e now clock = d.dispatch e now clock := by
  have Hf : Catalog.ofRegistrations (regs.map (.withLogic f)) = .ok { d with catalog }.catalog := Hf
  have hrun : { d with catalog }.run e now clock = d.run e now clock := by
    rcases Registration.absent_or_refused_or_reached d.coercer regs e with
      absent | ⟨r, p, R⟩ | ⟨r, a, R⟩
    · rw [run_of_absent H absent, run_of_absent Hf (List.forall_mem_map.2 absent)]
    · rw [run_of_refused H R, run_of_refused Hf (R.withLogic f)]
      rfl
    · rw [run_of_reached H R, run_of_reached Hf (R.withLogic f)]
      simp only [Registration.withLogic, same r a R]
  rw [dispatch, hrun, dispatch]

/-! ## The contract -/

/-- What a dispatcher promises for an envelope. -/
structure Dispatches (d : Dispatcher) (regs : List Registration) (e : Envelope) (now : Instant)
    (clock : Nat) : Prop where
  /-- There is one reply, and it is the verdict on the envelope under the identifier of the
  envelope. -/
  reply : ∀ t : Timed Reply, d.dispatch e now clock = t ↔
    t.result.requestId = e.requestId ∧ Verdict d.coercer d.budget regs e
      ⟨e.requestId, e.procedureName, e.metadata, now, clock⟩ t.elapsed t.result.outcome
  /-- No logic has been run but that to which the parameters come, and that with the context of the
  envelope: all other logic could as well be any other. -/
  logic : ∀ f : (r : Registration) → r.Params → Context → Run,
    (∀ (r : Registration) a, r.Reached d.coercer regs e a →
      f r a ⟨e.requestId, e.procedureName, e.metadata, now, clock⟩ =
        r.execute a ⟨e.requestId, e.procedureName, e.metadata, now, clock⟩) →
    ∃ catalog, Catalog.ofRegistrations (regs.map (.withLogic f)) = .ok catalog ∧
      { d with catalog }.dispatch e now clock = d.dispatch e now clock

/-- Whatever is hosted and however it ends: an envelope is answered by the verdict on it, and nothing
but the logic of the procedure that it calls has been run. -/
theorem dispatch_contract (H : Catalog.ofRegistrations regs = .ok d.catalog)
    (bound : d.budget ≠ some 0) (untied : Untied d.coercer d.budget regs e
      ⟨e.requestId, e.procedureName, e.metadata, now, clock⟩) :
    Dispatches d regs e now clock where
  reply t := by
    obtain ⟨n, o, V⟩ := exists_verdict untied
    constructor
    · rintro rfl
      rw [dispatch_of_verdict H bound V]
      exact ⟨rfl, V⟩
    · rintro ⟨hid, V⟩
      rw [dispatch_of_verdict H bound V, ← hid]
  logic f same :=
    have Hf := Catalog.ofRegistrations_withLogic H f
    ⟨_, Hf, dispatch_withLogic H Hf same⟩

/-- A procedure that sleeps for as long as it is told to. -/
def sleeper : Registration where
  name := "sleep"
  shape := "Delay"
  decoder := Procedure.Sample.Delay.decoder
  execute p _ := ⟨p.delayMs.toNat, .value p.tag⟩

def impatient : Dispatcher := ⟨⟨[sleeper.entry]⟩, .lenient, some 100⟩

/-- A call of the sleeper that outlasts the budget. -/
def overrun : Envelope where
  requestId := ⟨7⟩
  clientType := "client-1"
  procedureName := "sleep"
  parameters := .object [("delay_ms", .number (.int 250 (by decide))), ("tag", .null)]
  replyTo := "relay.responses"
  metadata := {}
  issuedAt := .epoch

theorem dispatch_contract_overrun :
    Catalog.ofRegistrations [sleeper] = .ok impatient.catalog ∧ impatient.budget ≠ some 0 ∧
      Untied impatient.coercer impatient.budget [sleeper] overrun
        ⟨⟨7⟩, "sleep", {}, .epoch, 0⟩ ∧
      impatient.dispatch overrun .epoch 0 =
        ⟨100, ⟨7⟩, .failure "Error executing procedure 'sleep': execution exceeded 100 ms"⟩ := by
  have built : Catalog.ofRegistrations [sleeper] = .ok impatient.catalog := rfl
  have decoded : impatient.coercer.decode sleeper.decoder overrun.parameters =
      .ok (⟨250, .null⟩ : Procedure.Sample.Delay) := rfl
  have untied : Untied impatient.coercer impatient.budget [sleeper] overrun
      ⟨⟨7⟩, "sleep", {}, .epoch, 0⟩ := by
    rintro r a b ⟨hosted, -, coerced⟩ hb
    obtain rfl := List.mem_singleton.1 hosted
    obtain rfl := Except.ok.inj (decoded.symm.trans coerced)
    cases hb
    decide
  refine ⟨built, nofun, untied, ?_⟩
  have reached : sleeper.Reached impatient.coercer [sleeper] overrun
      (⟨250, .null⟩ : Procedure.Sample.Delay) := ⟨.head _, rfl, decoded⟩
  exact ((dispatch_contract built nofun untied).reply _).2 ⟨rfl, .exceeded reached rfl (by decide)⟩

end Dispatcher

end CallGateway
