import Mathlib.Data.List.Sort
import CallGateway.Proofs.Directory.Roll
import CallGateway.Proofs.Gateway.Steps
import CallGateway.Text.CodePoints

/-!
# Why calls are refused

What a call needs is looked at in a fixed order: a procedure, a service, an instance of the service,
and an identifier that is not under way. The first thing that is missing is the reason for which the
call is refused, and a call that misses nothing is entered with the topic of its service.
-/

namespace CallGateway

namespace Directory

variable {d : Directory} {service : String}

/-- What callers are told of the services: all names in ascending order, or none of them while the
directory does not answer. -/
structure Tells (d : Directory) (known : List String) : Prop where
  ascending : known.Pairwise (· < ·)
  mem_iff : ∀ name, name ∈ known ↔ d.available = true ∧ name ∈ d.services.keys

theorem tells_known (d : Directory) : d.Tells d.known := by
  rw [known, list]
  split
  · next names h =>
    split at h
    · next available =>
      cases h
      exact ⟨d.pairwise_sorted_keys, fun name =>
        List.mem_mergeSort.trans (and_iff_right available).symm⟩
    · cases h
  · next err h =>
    split at h
    · cases h
    · next unavailable =>
      exact ⟨.nil, fun name => iff_of_false List.not_mem_nil fun h => unavailable h.1⟩

theorem Tells.eq_known {known : List String} (T : d.Tells known) : known = d.known :=
  T.ascending.eq_of_mem_iff d.tells_known.ascending fun _ =>
    (T.mem_iff _).trans (d.tells_known.mem_iff _).symm

/-- The directory answers and knows an instance. -/
def Serves (d : Directory) (service : String) : Prop :=
  d.available = true ∧ d.instances service ≠ []

theorem serves_iff : d.serves service = true ↔ d.Serves service := by
  rw [serves, hasInstances, Serves]
  cases d.available with
  | false => exact iff_of_false Bool.false_ne_true fun h => Bool.false_ne_true h.1
  | true => simp

end Directory

/-- The topic for a client type exists exactly if the service has a name and is served. -/
theorem resolveTopic_of_serves {d : Directory} {suffix c : String} (named : serviceName c ≠ "")
    (served : d.Serves (serviceName c)) : resolveTopic d suffix c = .ok (requestTopic c suffix) := by
  rw [resolveTopic, if_neg (mt String.isEmpty_iff.1 named), if_pos (Directory.serves_iff.2 served)]

theorem resolveTopic_of_not_serves {d : Directory} {suffix c : String} (named : serviceName c ≠ "")
    (unserved : ¬ d.Serves (serviceName c)) :
    resolveTopic d suffix c = .error (.serviceNotFound (serviceName c) d.known) := by
  rw [resolveTopic, if_neg (mt String.isEmpty_iff.1 named),
    if_neg (mt Directory.serves_iff.1 unserved)]

theorem resolveTopic_of_unnamed {d : Directory} {suffix c : String} (unnamed : serviceName c = "") :
    resolveTopic d suffix c = .error (.unnamedService c) := by
  rw [resolveTopic, if_pos (String.isEmpty_iff.2 unnamed)]

namespace Gateway

variable {g : Gateway} {d : Directory} {e : Envelope} {err : GatewayError}

/-- The reason for which a call is refused. What stands in front of a reason is what the call did
not miss. -/
inductive Refusal (g : Gateway) (d : Directory) (e : Envelope) : GatewayError → Prop
  | noProcedure (blank : Text.trim e.procedureName.toList = []) : Refusal g d e .blankProcedureName
  | noService (procedure : Text.trim e.procedureName.toList ≠ [])
      (unnamed : serviceName e.clientType = "") : Refusal g d e (.unnamedService e.clientType)
  | noInstance (procedure : Text.trim e.procedureName.toList ≠ [])
      (service : serviceName e.clientType ≠ "")
      (absent : d.available = false ∨ d.instances (serviceName e.clientType) = [])
      (tells : d.Tells known) : Refusal g d e (.serviceNotFound (serviceName e.clientType) known)
  | inFlight (procedure : Text.trim e.procedureName.toList ≠ [])
      (service : serviceName e.clientType ≠ "") (served : d.Serves (serviceName e.clientType))
      (pending : g.pending.contains e.requestId = true) :
      Refusal g d e (.duplicateRequest e.requestId)

/-- A call that misses nothing. -/
structure Admissible (g : Gateway) (d : Directory) (e : Envelope) : Prop where
  procedure : Text.trim e.procedureName.toList ≠ []
  service : serviceName e.clientType ≠ ""
  served : d.Serves (serviceName e.clientType)
  free : g.pending.entries.get? e.requestId = none

theorem refused_or_admissible (g : Gateway) (d : Directory) (e : Envelope) :
    (∃ err, Refusal g d e err) ∨ Admissible g d e := by
  by_cases blank : Text.trim e.procedureName.toList = []
  · exact .inl ⟨_, .noProcedure blank⟩
  by_cases unnamed : serviceName e.clientType = ""
  · exact .inl ⟨_, .noService blank unnamed⟩
  by_cases served : d.Serves (serviceName e.clientType)
  · cases hid : g.pending.entries.get? e.requestId with
    | some n =>
      refine .inl ⟨_, .inFlight blank unnamed served ?_⟩
      rw [PendingTable.contains, Keyed.contains, hid]; rfl
    | none => exact .inr ⟨blank, unnamed, served, hid⟩
  · refine .inl ⟨_, .noInstance blank unnamed ?_ d.tells_known⟩
    rwa [Directory.Serves, Classical.not_and_iff_not_or_not, Bool.not_eq_true,
      Classical.not_not] at served

/-- The request of a call on its way to the topic of its service. -/
def requestOf (g : Gateway) (e : Envelope) : OutgoingRequest :=
  ⟨e.requestId, requestTopic e.clientType g.config.topicSuffix, e.toBytes⟩

theorem Admissible.submit (A : Admissible g d e) (clock : Nat) :
    g.submit d clock e = .ok (⟨g.pending.nextSerial, e.requestId⟩,
      g.entered clock e (requestTopic e.clientType g.config.topicSuffix)) := by
  have hc : g.pending.create e.requestId =
      .ok (⟨g.pending.nextSerial, e.requestId⟩, g.pending.entered e.requestId) := by
    rw [PendingTable.create_eq, A.free]
  rw [submit_eq, if_neg (mt Text.isBlank_iff.1 A.procedure),
    resolveTopic_of_serves A.service A.served]
  simp only [hc, entered]

theorem Refusal.submit (R : Refusal g d e err) (clock : Nat) :
    g.submit d clock e = .error err := by
  rw [submit_eq]
  cases R with
  | noProcedure blank => rw [if_pos (Text.isBlank_iff.2 blank)]
  | noService procedure unnamed =>
    rw [if_neg (mt Text.isBlank_iff.1 procedure), resolveTopic_of_unnamed unnamed]
  | noInstance procedure service absent tells =>
    have unserved : ¬ d.Serves (serviceName e.clientType) := by
      rintro ⟨available, instances⟩
      exact absent.elim (fun h => by rw [h] at available; cases available) instances
    rw [if_neg (mt Text.isBlank_iff.1 procedure), resolveTopic_of_not_serves service unserved,
      tells.eq_known]
  | inFlight procedure service served pending =>
    have hc : g.pending.create e.requestId = .error (.duplicateRequest e.requestId) := if_pos pending
    rw [if_neg (mt Text.isBlank_iff.1 procedure), resolveTopic_of_serves service served]
    simp only [hc]

end Gateway

end CallGateway
