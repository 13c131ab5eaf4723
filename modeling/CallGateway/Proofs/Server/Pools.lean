import CallGateway.Proofs.Directory.Roll
import CallGateway.Proofs.Procedure.Registry
import CallGateway.Proofs.Server.Start
import CallGateway.Proofs.Worker.Start

/-!
# How pools start

A pool starts if it hosts built-in procedures, each once, if its settings let a replica run, and if
every replica can be registered. Of each replica the directory then has an instance, under the
normal name of the pool.
-/

namespace CallGateway

namespace PoolSettings

variable {p : PoolSettings}

/-- The pool hosts built-in procedures, each once. -/
def Hosted (p : PoolSettings) : Prop :=
  p.procedures.Nodup ∧ ∀ name ∈ p.procedures, name ∈ Procedure.builtinNames

/-- The settings let a replica run. -/
def Runs (p : PoolSettings) : Prop :=
  serviceName p.service ≠ "" ∧ 0 < p.concurrency.toNat ∧
    p.concurrency.toNat ≤ Worker.permitLimit

instance : DecidablePred Hosted := fun _ => inferInstanceAs (Decidable (_ ∧ _))

instance : DecidablePred Runs := fun _ => inferInstanceAs (Decidable (_ ∧ _))

/-- The settings let the whole pool start. -/
structure Startable (p : PoolSettings) : Prop where
  hosted : p.Hosted
  limited : p.replicas.toNat ≤ Server.replicaLimit
  runs : 0 < p.replicas.toNat → p.Runs

/-- The service that each replica of some pools serves. -/
def services (pools : List PoolSettings) : List String :=
  pools.flatMap fun p => List.replicate p.replicas.toNat p.service

/-- The number of replicas of the pools that serve under a normal name. -/
def replicasUnder (name : String) (pools : List PoolSettings) : Nat :=
  ((pools.filter fun p => serviceName p.service = name).map (·.replicas.toNat)).sum

theorem length_services_filter (name : String) (pools : List PoolSettings) :
    ((services pools).filter fun s => serviceName s = name).length = replicasUnder name pools := by
  induction pools with
  | nil => rfl
  | cons p pools ih =>
    rw [services, List.flatMap_cons, List.filter_append, List.length_append, ← services, ih,
      List.filter_replicate, replicasUnder, replicasUnder, List.filter_cons]
    split
    · rw [List.length_replicate, List.map_cons, List.sum_cons]
    · rw [List.length_nil, Nat.zero_add]

end PoolSettings

/-! ## Catalogs -/

namespace Server

open Catalog (Builder)

variable {service : String} {clock : Nat} {b : Builder} {names : List String} {p : PoolSettings}

/-- A built-in procedure is registered like any other. -/
theorem exists_registration {name : String} {f : Procedure}
    (H : Procedure.builtin? service clock name = some f) :
    name ∈ Procedure.builtinNames ∧ ∃ r : Registration, r.name = name ∧ r.procedure = f := by
  rw [Procedure.builtin?] at H
  split at H
  · next h => cases H; exact ⟨h ▸ .head _, ⟨name, _, _, _⟩, rfl, rfl⟩
  · split at H
    · next h => cases H; exact ⟨h ▸ .tail _ (.head _), ⟨name, _, _, _⟩, rfl, rfl⟩
    · split at H
      · next h => cases H; exact ⟨h ▸ .tail _ (.tail _ (.head _)), ⟨name, _, _, _⟩, rfl, rfl⟩
      · cases H

theorem builtin?_ne_none {name : String} (H : name ∈ Procedure.builtinNames) :
    Procedure.builtin? service clock name ≠ none := by
  rw [Procedure.builtin?]
  split
  · nofun
  · split
    · nofun
    · split
      · nofun
      · next h₁ h₂ h₃ =>
        simp only [Procedure.builtinNames, List.mem_cons, List.not_mem_nil, or_false] at H
        exact absurd H (by simp only [h₁, h₂, h₃, or_self, not_false_iff])

/-- Names of built-in procedures are all registered; with any other name the pool is given up. -/
theorem register_cases (service : String) (clock : Nat) (b : Builder) (names : List String) :
    (∀ name ∈ names, name ∈ Procedure.builtinNames) ∧ (∃ regs : List Registration,
        regs.map (·.name) = names ∧ register service clock b names =
          .ok (regs.foldl (fun b r => b.register r.name r.procedure) b)) ∨
      (¬ ∀ name ∈ names, name ∈ Procedure.builtinNames) ∧
        ∃ e, register service clock b names = .error e := by
  induction names generalizing b with
  | nil => exact .inl ⟨nofun, [], rfl, rfl⟩
  | cons name names ih =>
    rw [register, Builder.registerBuiltin]
    cases h : Procedure.builtin? service clock name with
    | none =>
      exact .inr ⟨fun hnames => builtin?_ne_none (hnames name (.head _)) h, _, rfl⟩
    | some f =>
      obtain ⟨hname, r, rfl, rfl⟩ := exists_registration h
      obtain ⟨hnames, regs, rfl, hr⟩ | ⟨hnames, e, hr⟩ := ih (b.register r.name r.procedure)
      · exact .inl ⟨List.forall_mem_cons.2 ⟨hname, hnames⟩, r :: regs, rfl, hr⟩
      · exact .inr ⟨fun h => hnames (List.forall_mem_cons.1 h).2, e, hr⟩

theorem builtinNames_named : ∀ name ∈ Procedure.builtinNames, Text.isBlank name = false := by
  decide

/-- There is a catalog exactly if the pool hosts built-in procedures, each once. -/
theorem catalog_cases (p : PoolSettings) (clock : Nat) :
    p.Hosted ∧ (∃ c, catalog p clock = .ok c) ∨ ¬ p.Hosted ∧ ∃ e, catalog p clock = .error e := by
  rw [catalog]
  obtain ⟨hnames, regs, hregs, h⟩ | ⟨hnames, e, h⟩ := register_cases p.service clock {} p.procedures
  · rw [h]
    have hbuilt (c : Catalog) : Catalog.ofRegistrations regs = .ok c ↔
        p.procedures.Nodup ∧ c = ⟨regs.map (·.entry)⟩ := by
      rw [Catalog.ofRegistrations_eq_ok_iff, hregs, Catalog.Registrable]
      exact and_congr_left fun _ =>
        and_iff_right fun name hn => builtinNames_named _ (hnames name hn)
    show (_ ∧ ∃ c, Catalog.ofRegistrations regs = .ok c) ∨
      (_ ∧ ∃ e, Catalog.ofRegistrations regs = .error e)
    cases hc : Catalog.ofRegistrations regs with
    | ok c => exact .inl ⟨⟨((hbuilt c).1 hc).1, hnames⟩, c, rfl⟩
    | error e =>
      refine .inr ⟨fun hosted => ?_, e, rfl⟩
      cases hc.symm.trans ((hbuilt _).2 ⟨hosted.1, rfl⟩)
  · rw [h]
    exact .inr ⟨fun hosted => hnames hosted.2, e, rfl⟩

end Server

/-! ## Workers -/

namespace Worker

variable {c : Catalog} {b : Broker}

/-- A start breaks down exactly if nothing else keeps it from asking for more permits than can be
given out. -/
theorem start_eq_breakdown_iff (config : WorkerConfig) (c : Catalog) (b : Broker) :
    (start config c b).1 = .error .breakdown ↔
      serviceName config.service ≠ "" ∧ permitLimit < config.concurrency.toNat := by
  rw [start]
  split
  · next h => exact iff_of_false (by simp) fun hl => hl.1 (String.isEmpty_iff.1 h)
  next hname =>
  split
  · next h => exact iff_of_false (by simp) fun hl => by rw [h] at hl; exact Nat.not_lt_zero _ hl.2
  split
  · next hl => exact iff_of_true rfl ⟨mt String.isEmpty_iff.2 hname, hl⟩
  · next hl =>
    refine iff_of_false (fun h => ?_) fun h => hl h.2
    split at h <;> cases h

/-- The broker refuses nothing of what a replica of a pool asks for. -/
theorem subscribeAll_pool (p : PoolSettings) (named : serviceName p.service ≠ "") (suffix : String)
    (b : Broker) : ∃ subs b', subscribeAll (p.worker suffix).consumerGroup [] b
      (p.worker suffix).topics = (.ok subs, b') := by
  have group : (p.worker suffix).consumerGroup ≠ "" := fun h =>
    absurd (String.append_eq_empty_iff.1 h).1 (by decide)
  show ∃ subs b', subscribeAll _ [] b [requestTopic p.service suffix] = _
  obtain ⟨-, k, b', h⟩ | ⟨unnamed, -⟩ :=
    b.subscribe_cases (requestTopic p.service suffix) (p.worker suffix).consumerGroup
  · exact ⟨[k], b', by rw [subscribeAll, h]; rfl⟩
  · exact absurd unnamed (not_or.2 ⟨requestTopic_ne_empty named _, group⟩)

/-- A replica of a pool starts exactly if the settings let it run. -/
theorem exists_start_pool_iff {p : PoolSettings} {suffix : String} :
    (∃ w b', start (p.worker suffix) c b = (.ok w, b')) ↔ p.Runs := by
  rw [start]
  split
  · next h => exact iff_of_false (by simp) fun H => H.1 (String.isEmpty_iff.1 h)
  next hname =>
  split
  · next h => exact iff_of_false (by simp) fun H => Nat.ne_of_gt H.2.1 (congrArg UInt64.toNat h)
  next hpermits =>
  split
  · next h => exact iff_of_false (by simp) fun H => Nat.not_le_of_lt h H.2.2
  next hlimit =>
  have named : serviceName p.service ≠ "" := mt String.isEmpty_iff.2 hname
  obtain ⟨subs, b', h⟩ := subscribeAll_pool p named suffix b
  rw [h]
  refine iff_of_true ⟨_, _, rfl⟩ ⟨named, Nat.pos_of_ne_zero fun h => hpermits ?_,
    Nat.le_of_not_lt hlimit⟩
  exact UInt64.toNat_inj.1 h

end Worker

/-! ## What is added -/

namespace Server

variable {s s' : Server} {p : PoolSettings} {c : Catalog}

/-- The ways in which the start of a replica can end. -/
inductive StartsReplica (s : Server) (p : PoolSettings) (c : Catalog) :
    Except (Obstacle ServerError) Server → Prop
  | worker {o : Obstacle WorkerError} {b : Broker}
    (hw : Worker.start (p.worker s.settings.gateway.topicSuffix) c s.deployment.broker =
      (.error o, b)) : StartsReplica s p c (.error (o.map .worker))
  | directory {w : Worker} {b : Broker} {e : DirectoryError}
    (hw : Worker.start (p.worker s.settings.gateway.topicSuffix) c s.deployment.broker = (.ok w, b))
    (hd : s.deployment.directory.register p.service (s.fresh s.used) = .error e) :
    StartsReplica s p c (.error (.error (.directory e)))
  | started {w : Worker} {b : Broker} {directory : Directory}
    (hw : Worker.start (p.worker s.settings.gateway.topicSuffix) c s.deployment.broker = (.ok w, b))
    (hd : s.deployment.directory.register p.service (s.fresh s.used) = .ok directory) :
    StartsReplica s p c (.ok { s with
      deployment := { s.deployment with
        workers := s.deployment.workers ++ [w], broker := b, directory }
      replicas := s.replicas ++ [⟨p.service, s.fresh s.used, s.deployment.workers.length⟩]
      used := s.used + 1 })

theorem startsReplica (s : Server) (p : PoolSettings) (c : Catalog) :
    StartsReplica s p c (s.startReplica p c) := by
  rw [startReplica, Deployment.startWorker]
  cases hw : Worker.start (p.worker s.settings.gateway.topicSuffix) c s.deployment.broker with
  | mk started b =>
    cases started with
    | error o => exact .worker hw
    | ok w =>
      dsimp only [Except.mapError, bind, Except.bind, pure, Except.pure]
      cases hd : s.deployment.directory.register p.service (s.fresh s.used) with
      | error e => exact .directory hw hd
      | ok directory => exact .started hw hd

/-- The instances of some replicas under a normal name. -/
def idsUnder (name : String) (replicas : List Replica) : List Uuid :=
  (replicas.filter fun r => serviceName r.service = name).map (·.instanceId)

theorem idsUnder_append (name : String) (rs rs' : List Replica) :
    idsUnder name (rs ++ rs') = idsUnder name rs ++ idsUnder name rs' := by
  rw [idsUnder, List.filter_append, List.map_append, ← idsUnder, ← idsUnder]

theorem idsUnder_cons (name : String) (r : Replica) (rs : List Replica) :
    idsUnder name (r :: rs) =
      if serviceName r.service = name then r.instanceId :: idsUnder name rs
      else idsUnder name rs := by
  rw [idsUnder, List.filter_cons]
  simp only [decide_eq_true_eq]
  split <;> rfl

/-- The directory has an instance of each replica, and nothing else. -/
structure Enrolled (s : Server) : Prop where
  kept : ∃ R : Roll, R.available = true ∧ s.deployment.directory.Keeps R
  under : ∀ name, s.deployment.directory.under name = idsUnder name s.replicas
  named : ∀ r ∈ s.replicas, serviceName r.service ≠ ""
  /-- The server has drawn the identifiers of all instances. -/
  drawn : ∀ r ∈ s.replicas, ∃ i < s.used, r.instanceId = s.fresh i

/-- What comes of starting some replicas, each under an identifier of its own. -/
structure Adds (added : List String) (s s' : Server) : Prop where
  kept : Kept s s'
  services : s'.replicas.map (·.service) = s.replicas.map (·.service) ++ added
  used : s'.used = s.used + added.length

theorem Adds.refl (s : Server) : Adds [] s s := ⟨⟨rfl, rfl⟩, (List.append_nil _).symm, rfl⟩

theorem Adds.trans {s₁ s₂ s₃ : Server} {xs ys : List String} (H : Adds xs s₁ s₂)
    (H' : Adds ys s₂ s₃) : Adds (xs ++ ys) s₁ s₃ where
  kept := H.kept.trans H'.kept
  services := by rw [H'.services, H.services, List.append_assoc]
  used := by rw [H'.used, H.used, List.length_append, Nat.add_assoc]

theorem Enrolled.startReplica (E : s.Enrolled) (h : s.startReplica p c = .ok s') :
    s'.Enrolled ∧ Adds [p.service] s s' ∧ p.Runs := by
  have S := startsReplica s p c
  rw [h] at S
  cases S with
  | @started w b directory hw hd =>
    obtain ⟨named, hunder⟩ := Directory.register_eq_ok hd
    obtain ⟨R, available, K⟩ := E.kept
    refine ⟨⟨⟨_, ?_, K.register hd⟩, fun name => ?_, ?_, ?_⟩,
      ⟨⟨rfl, rfl⟩, List.map_append, rfl⟩, Worker.exists_start_pool_iff.1 ⟨w, b, hw⟩⟩
    · rw [Roll.change_register]
      split <;> exact available
    · rw [idsUnder_append, ← E.under name, idsUnder_cons]
      show directory.under name = _
      rw [hunder]
      split
      · next hn => rw [hn, if_pos rfl]; rfl
      · next hn => rw [if_neg (Ne.symm hn)]; exact (List.append_nil _).symm
    · exact List.forall_mem_append.2 ⟨E.named, List.forall_mem_singleton.2 named⟩
    · refine List.forall_mem_append.2 ⟨fun r hr => ?_, List.forall_mem_singleton.2
        ⟨s.used, Nat.lt_succ_self _, rfl⟩⟩
      obtain ⟨i, hi, hid⟩ := E.drawn r hr
      exact ⟨i, Nat.lt_succ_of_lt hi, hid⟩

theorem Enrolled.startReplicas (E : s.Enrolled) {n : Nat} (h : startReplicas p c n s = .ok s') :
    s'.Enrolled ∧ Adds (List.replicate n p.service) s s' ∧ (0 < n → p.Runs) := by
  induction n generalizing s with
  | zero => cases h; exact ⟨E, .refl _, nofun⟩
  | succ n ih =>
    rw [Server.startReplicas] at h
    cases h₁ : s.startReplica p c with
    | error e => rw [h₁] at h; cases h
    | ok s₁ =>
      rw [h₁] at h
      obtain ⟨E₁, A₁, runs⟩ := E.startReplica h₁
      obtain ⟨E₂, A₂, -⟩ := ih E₁ h
      exact ⟨E₂, A₁.trans A₂, fun _ => runs⟩

theorem Enrolled.startPool (E : s.Enrolled) (h : s.startPool p = .ok s') :
    s'.Enrolled ∧ Adds (List.replicate p.replicas.toNat p.service) s s' ∧ p.Startable := by
  rw [Server.startPool] at h
  obtain ⟨hosted, c, hc⟩ | ⟨-, e, hc⟩ := catalog_cases p s.deployment.clock <;> rw [hc] at h
  · dsimp only [Except.mapError, bind, Except.bind] at h
    split at h
    · cases h
    · next limited =>
      split at h
      · cases h
      · next s₁ h₁ =>
        cases h
        obtain ⟨E₁, A₁, runs⟩ := E.startReplicas h₁
        exact ⟨⟨E₁.kept, E₁.under, E₁.named, E₁.drawn⟩,
          ⟨⟨A₁.kept.1, A₁.kept.2⟩, A₁.services, A₁.used⟩, hosted, Nat.le_of_not_lt limited, runs⟩
  · cases h

theorem Enrolled.startPools {pools : List PoolSettings} (E : s.Enrolled)
    (h : s.startPools pools = .ok s') :
    s'.Enrolled ∧ Adds (PoolSettings.services pools) s s' ∧ ∀ p ∈ pools, p.Startable := by
  induction pools generalizing s with
  | nil => cases h; exact ⟨E, .refl _, nofun⟩
  | cons p pools ih =>
    rw [Server.startPools] at h
    cases h₁ : s.startPool p with
    | error e => rw [h₁] at h; cases h
    | ok s₁ =>
      rw [h₁] at h
      obtain ⟨E₁, A₁, startable⟩ := E.startPool h₁
      obtain ⟨E₂, A₂, later⟩ := ih E₁ h
      exact ⟨E₂, A₁.trans A₂, List.forall_mem_cons.2 ⟨startable, later⟩⟩

/-! ## Servers -/

variable {settings : Settings} {fresh : Nat → Uuid} {calendar : Nat → Instant}

/-- A server that has its listener on a broker, and nothing else. -/
def opened (settings : Settings) (fresh : Nat → Uuid) (calendar : Nat → Instant) (k : Subscription)
    (b : Broker) : Server :=
  let gateway : Gateway := { config := settings.gateway.config (fresh 0), listeners := [k] }
  let d : Deployment := { broker := b, gateways := [gateway], calendar }
  { settings, deployment := d, listener := k, fresh, used := 1, startedAt := d.now }

theorem enrolled_opened (settings : Settings) (fresh : Nat → Uuid) (calendar : Nat → Instant)
    (k : Subscription) (b : Broker) : (opened settings fresh calendar k b).Enrolled where
  kept := ⟨{}, rfl, Directory.Keeps.empty⟩
  under _ := rfl
  named := nofun
  drawn := nofun

/-- The server as it is handed out when its pools have been started. -/
def handedOut (s : Server) (pools : List PoolSettings) : Server :=
  { (if pools.isEmpty then s else s.awaitReadiness) with
    startedAt := (if pools.isEmpty then s else s.awaitReadiness).deployment.now }

/-- An instance that is given no name gets one. -/
theorem replyGroup_eq_empty_iff (g : GatewaySettings) (id : Uuid) :
    (g.config id).replyGroup = "" ↔ g.instanceId = some "" := by
  have generated : GatewaySettings.generatedId id ≠ "" := fun h =>
    absurd (String.append_eq_empty_iff.1 h).1 (by decide)
  rw [GatewayConfig.replyGroup, GatewaySettings.config]
  cases g.instanceId with
  | none => exact iff_of_false generated nofun
  | some name => exact ⟨congrArg some, Option.some.inj⟩

theorem replyTopic_ne_empty (g : GatewaySettings) (id : Uuid) : (g.config id).replyTopic ≠ "" :=
  fun h => absurd (String.append_eq_empty_iff.1 h).2 (by decide)

/-- A gateway whose instance has a name listens, and then the pools decide. -/
theorem start_cases (settings : Settings) (fresh : Nat → Uuid) (calendar : Nat → Instant) :
    settings.gateway.instanceId = some "" ∧
        (∃ e, start settings fresh calendar = .error (.error e)) ∨
      settings.gateway.instanceId ≠ some "" ∧ ∃ k b, start settings fresh calendar =
        ((opened settings fresh calendar k b).startPools settings.pools).map
          (handedOut · settings.pools) := by
  rw [start, Gateway.startListener, ne_eq, ← replyGroup_eq_empty_iff settings.gateway (fresh 0)]
  obtain ⟨⟨-, named⟩, k, b, h⟩ | ⟨unnamed, h⟩ := ({} : Broker).subscribe_cases
    (settings.gateway.config (fresh 0)).replyTopic (settings.gateway.config (fresh 0)).replyGroup
  · refine .inr ⟨named, ?_⟩
    simp only [h]
    dsimp only [Except.mapError, bind, Except.bind, pure, Except.pure, List.nil_append]
    refine ⟨k, b, ?_⟩
    dsimp only [opened]
    split <;> next h => rw [h]; rfl
  · refine .inl ⟨unnamed.resolve_left (replyTopic_ne_empty settings.gateway (fresh 0)), ?_⟩
    simp only [h]
    exact ⟨_, rfl⟩

theorem directory_handedOut (s : Server) (pools : List PoolSettings) :
    (s.handedOut pools).deployment.directory = s.deployment.directory := by
  rw [handedOut]
  split
  · rfl
  · exact Deployment.directory_moveTo ..

theorem Enrolled.handedOut (E : s.Enrolled) (pools : List PoolSettings) :
    (s.handedOut pools).Enrolled ∧ (s.handedOut pools).replicas = s.replicas := by
  have kept := directory_handedOut s pools
  rw [Server.handedOut] at kept ⊢
  split <;> rename_i h
  · exact ⟨⟨E.kept, E.under, E.named, E.drawn⟩, rfl⟩
  · rw [if_neg h] at kept
    exact ⟨⟨kept ▸ E.kept, kept ▸ E.under, E.named, E.drawn⟩, rfl⟩

end Server

end CallGateway
