import CallGateway.Proofs.Deployment.Honest
import CallGateway.Proofs.Worker.Steps
import CallGateway.Server

/-!
# What a server starts with

Every worker of a new server belongs to a pool that is listed with at least one replica, consumes
the request topic of the service of that pool, and hosts all the procedures that are listed for it.
-/

namespace CallGateway

/-- The pool is listed with a procedure of this name. -/
def PoolInfo.Lists (p : PoolInfo) (name : String) : Prop :=
  ∃ items fields, p.procedures = .array items ∧ .object fields ∈ items ∧
    ("name", .string name) ∈ fields

/-- What is listed can be found. -/
theorem Catalog.find?_of_listed {c : Catalog} {items : List Json.Value}
    {fields : List (String × Json.Value)} (h : c.descriptorsJson = .array items)
    (hi : .object fields ∈ items) (hf : ("name", .string name) ∈ fields) :
    c.find? name ≠ none := by
  cases h
  obtain ⟨⟨n, shape⟩, hd, hi⟩ := List.mem_map.1 hi
  cases hi
  obtain ⟨e, he, hn⟩ := List.mem_map.1 hd
  cases hn
  have hname : e.name = name := by
    rcases List.mem_cons.1 hf with h | h
    · cases h; rfl
    · rcases List.mem_cons.1 h with h | h
      · simp at h
      · cases h
  intro hno
  have hne := List.find?_eq_none.1 hno e (List.mem_mergeSort.1 he)
  rw [hname] at hne
  exact hne (beq_self_eq_true name)

/-! ## Workers -/

namespace Worker

variable {b b' : Broker} {P : String → Bytes → Prop}

theorem subscribeAll_eq_ok {group : String} {held subs : List Subscription} {topics : List String}
    (H : subscribeAll group held b topics = (.ok subs, b')) :
    (∀ s ∈ subs, s ∈ held ∨ s.topic ∈ topics) ∧ (b.Carries P → b'.Carries P) := by
  induction topics generalizing held b with
  | nil => cases H; exact ⟨fun s h => .inl h, id⟩
  | cons topic topics ih =>
    rw [subscribeAll] at H
    split at H
    · next s b₁ hs =>
      obtain ⟨hsubs, hb⟩ := ih H
      refine ⟨fun k hk => ?_, fun B => hb (B.subscribe hs)⟩
      rcases hsubs k hk with hk | hk
      · rcases List.mem_append.1 hk with hk | hk
        · exact .inl hk
        · rw [List.mem_singleton.1 hk]
          exact .inr (Broker.topic_of_subscribe hs ▸ .head _)
      · exact .inr (.tail _ hk)
    · cases H

/-- A worker that has just been started hosts its catalog and holds nothing. -/
theorem start_eq_ok {config : WorkerConfig} {c : Catalog} {w : Worker}
    (H : Worker.start config c b = (.ok w, b')) :
    w.dispatcher.catalog = c ∧ w.tasks = [] ∧
      (∀ x ∈ w.consumers, x.held = none ∧ x.subscription.topic ∈ config.topics) ∧
      (b.Carries P → b'.Carries P) := by
  obtain ⟨subs, hs, -, hd, hc, -, -, ht⟩ := of_start H
  obtain ⟨hsubs, hb⟩ := subscribeAll_eq_ok hs
  refine ⟨by rw [hd], ht, fun x hx => ?_, hb⟩
  rw [hc] at hx
  obtain ⟨s, hs, rfl⟩ := List.mem_map.1 hx
  exact ⟨rfl, (hsubs s hs).resolve_left List.not_mem_nil⟩

end Worker

/-! ## Servers -/

namespace Server

/-- Nothing has been asked yet, and every worker serves one of the pools as it is listed. -/
structure Idle (pools : List PoolInfo) (s : Server) : Prop where
  broker : s.deployment.broker.Carries fun _ _ => False
  gateway : ∃ g, s.deployment.gateways = [g] ∧
    g.config.topicSuffix = s.settings.gateway.topicSuffix ∧ g.pending = {} ∧ g.outbox = [] ∧
    g.ended = []
  workers : ∀ w ∈ s.deployment.workers, w.tasks = [] ∧ (∀ x ∈ w.consumers, x.held = none) ∧
    ∃ p ∈ pools, 0 < p.replicas ∧
      (∀ x ∈ w.consumers, x.subscription.topic = p.service ++ s.settings.gateway.topicSuffix) ∧
      ∀ name, w.dispatcher.catalog.find? name = none → ¬ p.Lists name

/-- A server that has not been asked anything lacks on a topic what some pool that serves there is
not listed with. -/
def ledger (s : Server) : Ledger where
  Lacks topic name := ∃ p ∈ s.pools, 0 < p.replicas ∧
    topic = p.service ++ s.settings.gateway.topicSuffix ∧ ¬ p.Lists name
  suffix := s.settings.gateway.topicSuffix

theorem distinct_ledger (s : Server) : s.ledger.Distinct :=
  ⟨fun _ h => absurd h List.not_mem_nil, fun _ h => absurd h List.not_mem_nil⟩

variable {s s' : Server}

theorem Idle.honest (H : s.Idle s.pools) : s.deployment.Honest s.ledger where
  broker := H.broker.mono fun _ _ h => h.elim
  gateway := by
    obtain ⟨g, hg, hs, hp, ho, he⟩ := H.gateway
    refine ⟨g, hg, hs, ?_, ⟨?_, ?_, ?_⟩, ?_⟩
    · intro r hr
      rw [ho] at hr
      cases hr
    · exact fun _ h => absurd h List.not_mem_nil
    · intro id n h
      rw [hp] at h
      cases h
    · intro n r h
      rw [hp] at h
      cases h
    · intro n r h
      rw [he] at h
      cases h
  workers w hw := by
    obtain ⟨ht, hh, p, hp, hr, hc, hl⟩ := H.workers w hw
    refine ⟨fun x hx name hn => ⟨p, hp, hr, hc x hx, hl name hn⟩, fun x hx m hm => ?_,
      fun t h => ?_⟩
    · rw [hh x hx] at hm
      cases hm
    · rw [ht] at h
      cases h

theorem Idle.mono {pools pools' : List PoolInfo} (H : s.Idle pools) (h : ∀ p ∈ pools, p ∈ pools') :
    s.Idle pools' where
  broker := H.broker
  gateway := H.gateway
  workers w hw := by
    obtain ⟨ht, hh, p, hp, hw⟩ := H.workers w hw
    exact ⟨ht, hh, p, h p hp, hw⟩

theorem startReplica_eq_ok {p : PoolSettings} {c : Catalog} (H : s.startReplica p c = .ok s') :
    ∃ w b directory replicas, Worker.start (p.worker s.settings.gateway.topicSuffix) c
        s.deployment.broker = (.ok w, b) ∧
      s' = { s with
        deployment := { s.deployment with
          workers := s.deployment.workers ++ [w], broker := b, directory }
        replicas, used := s.used + 1 } := by
  rw [startReplica, Deployment.startWorker] at H
  cases hw : Worker.start (p.worker s.settings.gateway.topicSuffix) c s.deployment.broker with
  | mk started b =>
    rw [hw] at H
    cases started with
    | error e => cases H
    | ok w =>
      dsimp only [Except.mapError, bind, Except.bind] at H
      split at H
      · cases H
      · cases H
        exact ⟨w, b, _, _, rfl, rfl⟩

/-- What does not change when pools are started, but that more of them are listed. -/
structure Kept (s s' : Server) : Prop where
  settings : s'.settings = s.settings
  fresh : s'.fresh = s.fresh

theorem Kept.trans {s₁ s₂ s₃ : Server} (H : Kept s₁ s₂) (H' : Kept s₂ s₃) : Kept s₁ s₃ :=
  ⟨H'.settings.trans H.settings, H'.fresh.trans H.fresh⟩

theorem Idle.startReplica {pools : List PoolInfo} {p : PoolSettings} {c : Catalog}
    (H : s.Idle pools) (hp : listing p s.settings.gateway.topicSuffix c ∈ pools)
    (hr : 0 < p.replicas.toNat) (h : s.startReplica p c = .ok s') :
    s'.Idle pools ∧ Kept s s' ∧ s'.pools = s.pools := by
  obtain ⟨w, b, directory, replicas, hw, rfl⟩ := startReplica_eq_ok h
  obtain ⟨hc, ht, hx, hb⟩ := Worker.start_eq_ok hw
  refine ⟨⟨hb H.broker, H.gateway, fun v hv => ?_⟩, ⟨rfl, rfl⟩, rfl⟩
  rcases List.mem_append.1 hv with hv | hv
  · exact H.workers v hv
  · obtain rfl := List.mem_singleton.1 hv
    refine ⟨ht, fun x h => (hx x h).1, _, hp, hr, fun x h => ?_, ?_⟩
    · rw [List.mem_singleton.1 (hx x h).2]; rfl
    · rintro name hn ⟨items, fields, hitems, hf, hname⟩
      rw [hc] at hn
      exact Catalog.find?_of_listed hitems hf hname hn

theorem Idle.startReplicas {pools : List PoolInfo} {p : PoolSettings} {c : Catalog}
    (H : s.Idle pools) (hp : listing p s.settings.gateway.topicSuffix c ∈ pools) (n : Nat)
    (hr : n ≤ p.replicas.toNat) (h : startReplicas p c n s = .ok s') :
    s'.Idle pools ∧ Kept s s' ∧ s'.pools = s.pools := by
  induction n generalizing s with
  | zero => cases h; exact ⟨H, ⟨rfl, rfl⟩, rfl⟩
  | succ n ih =>
    rw [Server.startReplicas] at h
    cases h₁ : s.startReplica p c with
    | error e => rw [h₁] at h; cases h
    | ok s₁ =>
      rw [h₁] at h
      obtain ⟨H₁, K₁, hp₁⟩ := H.startReplica hp (by omega) h₁
      rw [← K₁.settings] at hp
      obtain ⟨H₂, K₂, hp₂⟩ := ih H₁ hp (by omega) h
      exact ⟨H₂, K₁.trans K₂, hp₂.trans hp₁⟩

theorem Idle.startPool {p : PoolSettings} (H : s.Idle s.pools) (h : s.startPool p = .ok s') :
    s'.Idle s'.pools ∧ Kept s s' := by
  rw [Server.startPool] at h
  cases hc : catalog p s.deployment.clock with
  | error e => rw [hc] at h; cases h
  | ok c =>
    rw [hc] at h
    dsimp only [Except.mapError, bind, Except.bind] at h
    split at h
    · cases h
    · split at h
      · cases h
      · next s₁ h₁ =>
        cases h
        obtain ⟨H₁, K₁, hp₁⟩ := (H.mono fun p hp => List.mem_append_left _ hp).startReplicas
          (List.mem_append_right _ (.head _)) p.replicas.toNat (Nat.le_refl _) h₁
        rw [← hp₁, ← K₁.settings] at H₁
        exact ⟨⟨H₁.broker, H₁.gateway, H₁.workers⟩, K₁.settings, K₁.fresh⟩

theorem Idle.startPools {ps : List PoolSettings} (H : s.Idle s.pools)
    (h : s.startPools ps = .ok s') : s'.Idle s'.pools ∧ Kept s s' := by
  induction ps generalizing s with
  | nil => cases h; exact ⟨H, ⟨rfl, rfl⟩⟩
  | cons p ps ih =>
    rw [Server.startPools] at h
    cases h₁ : s.startPool p with
    | error e => rw [h₁] at h; cases h
    | ok s₁ =>
      rw [h₁] at h
      obtain ⟨H₁, K₁⟩ := H.startPool h₁
      obtain ⟨H₂, K₂⟩ := ih H₁ h
      exact ⟨H₂, K₁.trans K₂⟩

/-- A server before its pools are started. -/
theorem start_eq_ok {settings : Settings} {fresh : Nat → Uuid} {calendar : Nat → Instant}
    (H : start settings fresh calendar = .ok s) :
    ∃ s₀ s₁ : Server, s₀.Idle [] ∧ s₀.pools = [] ∧ s₀.fresh = fresh ∧
      s₀.startPools settings.pools = .ok s₁ ∧
      s = { (if settings.pools.isEmpty then s₁ else s₁.awaitReadiness) with
        startedAt := (if settings.pools.isEmpty then s₁ else s₁.awaitReadiness).deployment.now } := by
  rw [start, Gateway.startListener] at H
  cases hs : ({} : Broker).subscribe (settings.gateway.config (fresh 0)).replyTopic
      (settings.gateway.config (fresh 0)).replyGroup with
  | error e => simp only [hs] at H; cases H
  | ok p =>
    simp only [hs] at H
    dsimp only [bind, Except.bind, Except.mapError, pure, Except.pure] at H
    split at H
    · cases H
    · next s₁ h₁ =>
      cases H
      refine ⟨_, s₁, ⟨?_, ⟨_, rfl, rfl, rfl, rfl, rfl⟩, fun w hw => absurd hw List.not_mem_nil⟩,
        rfl, rfl, h₁, rfl⟩
      exact (Broker.carries_new _ rfl).subscribe hs

/-- A server that has been started is honest. -/
theorem start_honest {settings : Settings} {fresh : Nat → Uuid} {calendar : Nat → Instant}
    (H : start settings fresh calendar = .ok s) :
    s.deployment.Honest s.ledger ∧ s.fresh = fresh := by
  obtain ⟨s₀, s₁, H₀, hp, hf, h₁, rfl⟩ := start_eq_ok H
  rw [← hp] at H₀
  obtain ⟨H₁, K⟩ := H₀.startPools h₁
  split
  · exact ⟨H₁.honest, K.fresh.trans hf⟩
  · exact ⟨H₁.honest.moveTo s₁.distinct_ledger _, K.fresh.trans hf⟩

end Server

end CallGateway
