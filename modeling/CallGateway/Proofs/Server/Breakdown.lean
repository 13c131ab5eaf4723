import CallGateway.Proofs.Server.Pools
import CallGateway.Proofs.Server.Traffic

/-!
# Servers that break down

The settings of a pool are checked for what is missing, and not for what is too much. So a start
ends in a breakdown exactly if, before anything is refused, it comes to a pool with more replicas
than there is an address space for, or to one whose replicas may execute more calls than permits can
be given out.
-/

namespace CallGateway

variable {p : PoolSettings}

namespace PoolSettings

/-- More replicas are asked for than there is an address space for, or more permits than can be
given out. -/
def Overtaxing (p : PoolSettings) : Prop :=
  Server.replicaLimit < p.replicas.toNat ∨
    0 < p.replicas.toNat ∧ serviceName p.service ≠ "" ∧ Worker.permitLimit < p.concurrency.toNat

instance : DecidablePred Overtaxing := fun _ => inferInstanceAs (Decidable (_ ∨ _))

end PoolSettings

/-- The gateway can listen, and the first pool that cannot be started asks for too much. -/
def Settings.Overtaxing (settings : Settings) : Prop :=
  settings.gateway.instanceId ≠ some "" ∧ ∃ before p after, settings.pools = before ++ p :: after ∧
    (∀ q ∈ before, q.Startable) ∧ p.Hosted ∧ p.Overtaxing

/-- The first `n` identifiers are all different. -/
def Distinct (fresh : Nat → Uuid) (n : Nat) : Prop :=
  ∀ i j, i < n → j < n → fresh i = fresh j → i = j

theorem Distinct.mono {fresh : Nat → Uuid} {m n : Nat} (D : Distinct fresh n) (h : m ≤ n) :
    Distinct fresh m :=
  fun i j hi hj => D i j (Nat.lt_of_lt_of_le hi h) (Nat.lt_of_lt_of_le hj h)

namespace Server

variable {s s' : Server} {c : Catalog} {pools : List PoolSettings}

/-! ## What breaks down -/

theorem startReplica_eq_breakdown_iff : s.startReplica p c = .error .breakdown ↔
    serviceName p.service ≠ "" ∧ Worker.permitLimit < p.concurrency.toNat := by
  have W := Worker.start_eq_breakdown_iff (p.worker s.settings.gateway.topicSuffix) c
    s.deployment.broker
  have S := startsReplica s p c
  generalize s.startReplica p c = r at S
  refine Iff.trans ?_ W
  cases S with
  | @worker o b hw =>
    rw [hw]
    cases o with
    | error e => exact iff_of_false nofun nofun
    | breakdown => exact iff_of_true rfl rfl
  | directory hw hd => rw [hw]; exact iff_of_false nofun nofun
  | started hw hd => rw [hw]; exact iff_of_false nofun nofun

/-- If a replica breaks down, it is the first one. -/
theorem startReplicas_eq_breakdown_iff {n : Nat} : startReplicas p c n s = .error .breakdown ↔
    0 < n ∧ serviceName p.service ≠ "" ∧ Worker.permitLimit < p.concurrency.toNat := by
  induction n generalizing s with
  | zero => exact iff_of_false nofun fun h => Nat.lt_irrefl _ h.1
  | succ n ih =>
    rw [and_iff_right (Nat.succ_pos n), startReplicas]
    have first := startReplica_eq_breakdown_iff (s := s) (p := p) (c := c)
    cases h : s.startReplica p c with
    | error e => rw [← first, h]; rfl
    | ok s₁ =>
      refine ⟨fun h₁ => (ih.1 h₁).2, fun taxing => ?_⟩
      cases h.symm.trans (first.2 taxing)

theorem startPool_eq_breakdown_iff :
    s.startPool p = .error .breakdown ↔ p.Hosted ∧ p.Overtaxing := by
  rw [startPool]
  obtain ⟨hosted, c, hc⟩ | ⟨not_hosted, e, hc⟩ := catalog_cases p s.deployment.clock <;> rw [hc]
  · rw [and_iff_right hosted, PoolSettings.Overtaxing]
    dsimp only [Except.mapError, bind, Except.bind, pure, Except.pure]
    split
    · next h => exact iff_of_true rfl (.inl h)
    · next h =>
      rw [or_iff_right h, ← startReplicas_eq_breakdown_iff (s := s) (c := c)]
      cases startReplicas p c p.replicas.toNat s with
      | error e => rfl
      | ok s₁ => simp
  · exact iff_of_false (by simp [Except.mapError, bind, Except.bind]) fun h => not_hosted h.1

/-- Pools break down at the first one that cannot be started. -/
theorem startPools_eq_breakdown_iff : s.startPools pools = .error .breakdown ↔
    ∃ before p after s₁, pools = before ++ p :: after ∧ s.startPools before = .ok s₁ ∧
      p.Hosted ∧ p.Overtaxing := by
  induction pools generalizing s with
  | nil => exact iff_of_false nofun fun ⟨_, _, _, _, h, _⟩ => by simp at h
  | cons p pools ih =>
    rw [startPools]
    constructor
    · cases h : s.startPool p with
      | error e =>
        intro h₁
        cases h₁
        exact ⟨[], p, pools, s, rfl, rfl, startPool_eq_breakdown_iff.1 h⟩
      | ok s₁ =>
        intro h₁
        obtain ⟨before, q, after, s₂, rfl, h₂, taxing⟩ := ih.1 h₁
        exact ⟨p :: before, q, after, s₂, rfl, by rw [startPools, h]; exact h₂, taxing⟩
    · rintro ⟨before, q', after, s₂, hpools, h₂, taxing⟩
      cases before with
      | nil =>
        cases hpools
        rw [startPool_eq_breakdown_iff.2 taxing]
        rfl
      | cons q before =>
        cases hpools
        rw [startPools] at h₂
        cases h : s.startPool p with
        | error e => rw [h] at h₂; cases h₂
        | ok s₁ =>
          rw [h] at h₂
          exact ih.2 ⟨before, q', after, s₂, rfl, h₂, taxing⟩

/-! ## What starts -/

namespace Enrolled

variable (E : s.Enrolled)
include E

/-- Nobody else has registered the next identifier. -/
theorem exists_startReplica (runs : p.Runs) (D : Distinct s.fresh (s.used + 1)) (c : Catalog) :
    ∃ s', s.startReplica p c = .ok s' := by
  obtain ⟨w, b, hw⟩ : ∃ w b, Worker.start (p.worker s.settings.gateway.topicSuffix) c
      s.deployment.broker = (.ok w, b) := Worker.exists_start_pool_iff.2 runs
  have new : s.fresh s.used ∉ s.deployment.directory.under (serviceName p.service) := by
    rw [E.under, idsUnder]
    intro h
    obtain ⟨r, hr, hid⟩ := List.mem_map.1 h
    obtain ⟨i, hi, hid'⟩ := E.drawn r (List.mem_filter.1 hr).1
    have := D i s.used (Nat.lt_succ_of_lt hi) (Nat.lt_succ_self _) (hid'.symm.trans hid)
    exact Nat.ne_of_lt hi this
  have hd := Directory.register_eq s.deployment.directory p.service (s.fresh s.used)
  rw [if_neg runs.1, if_neg new] at hd
  have S := startsReplica s p c
  generalize s.startReplica p c = r at S
  cases S with
  | worker hw' => cases hw'.symm.trans hw
  | directory _ hd' => cases hd'.symm.trans hd
  | started => exact ⟨_, rfl⟩

theorem exists_startReplicas {n : Nat} (runs : 0 < n → p.Runs) (D : Distinct s.fresh (s.used + n))
    (c : Catalog) : ∃ s', Server.startReplicas p c n s = .ok s' := by
  induction n generalizing s with
  | zero => exact ⟨s, rfl⟩
  | succ n ih =>
    have runs := runs (Nat.succ_pos n)
    obtain ⟨s₁, h₁⟩ := E.exists_startReplica runs (D.mono (by omega)) c
    obtain ⟨E₁, A₁, -⟩ := E.startReplica h₁
    rw [Server.startReplicas, h₁]
    refine ih E₁ (fun _ => runs) ?_
    rw [A₁.kept.fresh, A₁.used]
    exact D.mono (by rw [List.length_singleton]; omega)

theorem exists_startPool (startable : p.Startable)
    (D : Distinct s.fresh (s.used + p.replicas.toNat)) : ∃ s', s.startPool p = .ok s' := by
  rw [Server.startPool]
  obtain ⟨-, c, hc⟩ | ⟨not_hosted, -⟩ := catalog_cases p s.deployment.clock
  · obtain ⟨s₁, h₁⟩ := E.exists_startReplicas startable.runs D c
    rw [hc]
    dsimp only [Except.mapError, bind, Except.bind, pure, Except.pure]
    rw [if_neg (Nat.not_lt_of_le startable.limited), h₁]
    exact ⟨_, rfl⟩
  · exact absurd startable.hosted not_hosted

theorem exists_startPools (startable : ∀ p ∈ pools, p.Startable)
    (D : Distinct s.fresh (s.used + (PoolSettings.services pools).length)) :
    ∃ s', s.startPools pools = .ok s' := by
  induction pools generalizing s with
  | nil => exact ⟨s, rfl⟩
  | cons p pools ih =>
    rw [PoolSettings.services, List.flatMap_cons, List.length_append, List.length_replicate,
      ← PoolSettings.services, ← Nat.add_assoc] at D
    obtain ⟨hp, hpools⟩ := List.forall_mem_cons.1 startable
    obtain ⟨s₁, h₁⟩ := E.exists_startPool hp (D.mono (Nat.le_add_right ..))
    obtain ⟨E₁, A₁, -⟩ := E.startPool h₁
    rw [Server.startPools, h₁]
    refine ih E₁ hpools ?_
    rwa [A₁.kept.fresh, A₁.used, List.length_replicate]

end Enrolled

/-! ## Starts -/

variable {settings : Settings} {fresh : Nat → Uuid} {calendar : Nat → Instant}

/-- The replicas of all pools draw one identifier each, and the gateway may have drawn another. -/
def idsNeeded (settings : Settings) : Nat := 1 + (PoolSettings.services settings.pools).length

/-- A start ends with a server or with an error, unless the settings ask for too much; and then it
breaks down, unless identifiers repeat. -/
theorem start_breakdown (settings : Settings) (fresh : Nat → Uuid) (calendar : Nat → Instant) :
    (start settings fresh calendar = .error .breakdown → settings.Overtaxing) ∧
      (Distinct fresh (idsNeeded settings) → settings.Overtaxing →
        start settings fresh calendar = .error .breakdown) := by
  obtain ⟨unnamed, e, h⟩ | ⟨named, k, b, h⟩ := start_cases settings fresh calendar <;> rw [h]
  · exact ⟨nofun, fun _ taxing => absurd unnamed taxing.1⟩
  have E := enrolled_opened settings fresh calendar k b
  constructor
  · intro H
    cases h₁ : (opened settings fresh calendar k b).startPools settings.pools with
    | ok s₁ => rw [h₁] at H; cases H
    | error e =>
      rw [h₁] at H
      cases H
      obtain ⟨before, p, after, s₁, hpools, h₁, taxing⟩ := startPools_eq_breakdown_iff.1 h₁
      exact ⟨named, before, p, after, hpools, (E.startPools h₁).2.2, taxing⟩
  · rintro D ⟨-, before, p, after, hpools, startable, taxing⟩
    have enough : 1 + (PoolSettings.services before).length ≤ idsNeeded settings := by
      rw [idsNeeded, hpools, PoolSettings.services, PoolSettings.services, List.flatMap_append,
        List.length_append]
      omega
    obtain ⟨s₁, h₁⟩ := E.exists_startPools startable (D.mono enough)
    rw [startPools_eq_breakdown_iff.2 ⟨before, p, after, s₁, hpools, h₁, taxing⟩]
    rfl

/-- A single pool. -/
def sized (replicas concurrency : UInt64) : Settings :=
  { gateway := { instanceId := some "gw" }
    pools := [{ service := "client-1", replicas, concurrency }] }

theorem distinct_counted {n : Nat} (h : n ≤ 2 ^ 128) : Distinct Traffic.counted n := by
  intro i j hi hj hid
  have hbits := congrArg (fun u : Uuid => u.bits.toNat) hid
  simp only [Traffic.counted, BitVec.toNat_ofNat] at hbits
  rwa [Nat.mod_eq_of_lt (by omega), Nat.mod_eq_of_lt (by omega)] at hbits

/-- A pool whose only replica asks for one permit too much. -/
theorem start_breakdown_permits :
    let settings := sized 1 2305843009213693952
    Distinct Traffic.counted (idsNeeded settings) ∧ settings.Overtaxing ∧
      start settings Traffic.counted (fun _ => .epoch) = .error .breakdown := by
  intro settings
  have distinct : Distinct Traffic.counted (idsNeeded settings) := distinct_counted (by decide)
  have taxing : settings.Overtaxing :=
    ⟨by decide, [], _, [], rfl, nofun, by decide, .inr (by decide +kernel)⟩
  have broken := (start_breakdown settings Traffic.counted fun _ => .epoch).2 distinct taxing
  exact ⟨distinct, (start_breakdown ..).1 broken, broken⟩

theorem breakdown_of_test {settings : Settings}
    (H : (match start settings Traffic.counted fun _ => .epoch with
      | .error .breakdown => true
      | _ => false) = true) :
    start settings Traffic.counted (fun _ => .epoch) = .error .breakdown := by
  split at H
  · next h => exact h
  · cases H

/-- One permit too much, and one replica too much. -/
theorem start_sized_limits :
    start (sized 1 2305843009213693952) Traffic.counted (fun _ => .epoch) = .error .breakdown ∧
      start (sized 104811045873349726 3) Traffic.counted (fun _ => .epoch) = .error .breakdown :=
  ⟨breakdown_of_test (by decide +kernel), breakdown_of_test (by decide +kernel)⟩

end Server

end CallGateway
