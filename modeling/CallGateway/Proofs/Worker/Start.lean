import CallGateway.Proofs.Broker.Delivery
import CallGateway.Proofs.Worker.Steps
import CallGateway.Proofs.Worker.Topics

/-!
# How a replica starts

A replica subscribes to its topics one after the other. Either it gets all of them, each with one
subscription, or what it has got so far is given up again, and no group has gained a member.
-/

namespace CallGateway

namespace Broker

variable {b b₀ b₁ : Broker} {held : List Subscription} {s : Subscription} {topic group : String}

/-- No member has a serial number that is still to be given out. -/
def Fresh (b : Broker) : Prop := ∀ t g, ∀ n ∈ (b.group t g).serials, n < b.nextSerial

theorem History.Tied.broker_fresh {H : History} (T : Tied H) : H.broker.Fresh := by
  intro t g n hn
  rw [T.serials] at hn
  obtain ⟨s, hs, rfl⟩ := List.mem_map.1 hn
  exact T.fresh s (T.held.subset (List.mem_filter.1 hs).1)

theorem memberCount_eq (b : Broker) (t g : String) :
    b.memberCount t g = (b.group t g).serials.length :=
  (List.length_map _).symm

/-- A subscription is refused exactly if the topic or the group has no name. -/
theorem subscribe_cases (b : Broker) (topic group : String) :
    (topic ≠ "" ∧ group ≠ "") ∧ (∃ s b₁, b.subscribe topic group = .ok (s, b₁)) ∨
      (topic = "" ∨ group = "") ∧ b.subscribe topic group = .error (.emptyName topic group) := by
  rw [subscribe]
  simp only [String.isEmpty_iff]
  split
  · next h => exact .inr ⟨h, rfl⟩
  · next h => exact .inl ⟨not_or.1 h, _, _, rfl⟩

/-- The second broker is the first one with some subscriptions more. -/
structure Gains (b₀ : Broker) (held : List Subscription) (b : Broker) : Prop where
  serials : ∀ t g, (b.group t g).serials =
    (b₀.group t g).serials ++ (held.filter (·.isIn t g)).map (·.serial)
  new : ∀ s ∈ held, b₀.nextSerial ≤ s.serial
  next : b₀.nextSerial ≤ b.nextSerial

namespace Gains

theorem refl (b : Broker) : Gains b [] b :=
  ⟨fun _ _ => (List.append_nil _).symm, List.forall_mem_nil _, Nat.le_refl _⟩

theorem subscribe (G : Gains b₀ held b) (h : b.subscribe topic group = .ok (s, b₁)) :
    Gains b₀ (held ++ [s]) b₁ := by
  obtain ⟨rfl, hserials, hnext, -, -⟩ := subscribe_eq_ok h
  refine ⟨fun t g => ?_, fun s hs => ?_, hnext ▸ Nat.le_succ_of_le G.next⟩
  · rw [hserials, G.serials, List.filter_append, List.map_append, ← List.append_assoc]
    split
    · next hin =>
      rw [List.filter_cons_of_pos (History.isIn_iff.2 ⟨hin.1.symm, hin.2.symm⟩)]
      rfl
    · next hout =>
      rw [List.filter_cons_of_neg fun hin =>
        hout ((History.isIn_iff.1 hin).imp Eq.symm Eq.symm)]
      exact (List.append_nil _).symm
  · obtain hs | hs := List.mem_append.1 hs
    · exact G.new s hs
    · rw [List.mem_singleton.1 hs]
      exact G.next

end Gains

/-- Whoever gives up some subscriptions is gone from their groups. -/
theorem serials_unsubscribeAll (b : Broker) (held : List Subscription) (t g : String) :
    ((held.foldl unsubscribe b).group t g).serials =
      (b.group t g).serials.filter fun n => n ∉ (held.filter (·.isIn t g)).map (·.serial) := by
  induction held generalizing b with
  | nil => simp
  | cons s held ih =>
    rw [List.foldl_cons, ih, serials_unsubscribe]
    split
    · next hin =>
      rw [List.filter_filter, List.filter_cons_of_pos (History.isIn_iff.2 ⟨hin.1.symm, hin.2.symm⟩)]
      refine List.filter_congr fun n _ => ?_
      rw [Bool.eq_iff_iff]
      simp [and_comm]
    · next hout =>
      rw [List.filter_cons_of_neg fun hin =>
        hout ((History.isIn_iff.1 hin).imp Eq.symm Eq.symm)]

/-- If all that has been gained is given up, nothing has been gained. -/
theorem Gains.released (G : Gains b₀ held b) (F : b₀.Fresh) (t g : String) :
    ((held.foldl unsubscribe b).group t g).serials = (b₀.group t g).serials := by
  rw [serials_unsubscribeAll, G.serials, List.filter_append]
  have old : (b₀.group t g).serials.filter
      (fun n => n ∉ (held.filter (·.isIn t g)).map (·.serial)) = (b₀.group t g).serials := by
    refine List.filter_eq_self.2 fun n hn => decide_eq_true fun hmem => ?_
    obtain ⟨s, hs, rfl⟩ := List.mem_map.1 hmem
    exact Nat.not_le_of_lt (F t g _ hn) (G.new s (List.mem_filter.1 hs).1)
  have new : ((held.filter (·.isIn t g)).map (·.serial)).filter
      (fun n => n ∉ (held.filter (·.isIn t g)).map (·.serial)) = [] :=
    List.filter_eq_nil_iff.2 fun n hn h => of_decide_eq_true (p := n ∉ _) h hn
  rw [old, new, List.append_nil]

end Broker

namespace Worker

open Broker (Gains Fresh)

variable {b b₀ b' : Broker} {config : WorkerConfig} {catalog : Catalog} {group : String}
  {held : List Subscription} {topics : List String}

/-- What comes of subscriptions to some topics on top of those that are held. -/
inductive SubscribesAll (b₀ : Broker) (group : String) (held : List Subscription)
    (topics : List String) : Except BrokerError (List Subscription) × Broker → Prop
  | all {subs : List Subscription} {b' : Broker} (named : ∀ t ∈ topics, t ≠ "" ∧ group ≠ "")
    (topics_eq : subs.map (·.topic) = topics) (group_eq : ∀ s ∈ subs, s.group = group)
    (gains : Gains b₀ (held ++ subs) b') :
    SubscribesAll b₀ group held topics (.ok (held ++ subs), b')
  | none {e : BrokerError} {b' : Broker} {t : String} (ht : t ∈ topics)
    (unnamed : t = "" ∨ group = "")
    (same : ∀ t g, (b'.group t g).serials = (b₀.group t g).serials) :
    SubscribesAll b₀ group held topics (.error e, b')

theorem subscribesAll (G : Gains b₀ held b) (F : b₀.Fresh) (group : String)
    (topics : List String) :
    SubscribesAll b₀ group held topics (subscribeAll group held b topics) := by
  induction topics generalizing held b with
  | nil =>
    rw [← List.append_nil held] at G
    have done : SubscribesAll b₀ group held [] (.ok (held ++ []), b) :=
      .all (List.forall_mem_nil _) rfl (List.forall_mem_nil _) G
    rwa [List.append_nil] at done
  | cons topic topics ih =>
    rw [subscribeAll]
    obtain ⟨named, s, b₁, h⟩ | ⟨unnamed, h⟩ := b.subscribe_cases topic group <;> rw [h] <;>
      dsimp only
    · have hs := (Broker.subscribe_eq_ok h).1
      have rest := ih (G.subscribe h)
      generalize subscribeAll group (held ++ [s]) b₁ topics = r at rest
      cases rest with
      | @all subs b' named' topics_eq group_eq gains =>
        rw [List.append_assoc, List.singleton_append] at gains ⊢
        refine .all (List.forall_mem_cons.2 ⟨named, named'⟩) ?_ ?_ gains
        · rw [List.map_cons, topics_eq, hs]
        · exact List.forall_mem_cons.2 ⟨by rw [hs], group_eq⟩
      | none ht unnamed same => exact .none (.tail _ ht) unnamed same
    · exact .none (.head _) unnamed (G.released F)

/-- A replica consumes each of its topics on one subscription, the topic of its service first. -/
structure Consumes (config : WorkerConfig) (b b' : Broker) (w : Worker) : Prop where
  first : w.topics.head? = some (requestTopic config.service config.topicSuffix)
  topics : ∀ t, t ∈ w.topics ↔
    t = requestTopic config.service config.topicSuffix ∨ t ∈ config.extraTopics
  /-- The topics stand in the order of their first appearance, so none is there twice. -/
  order : w.topics.Pairwise fun s t =>
    (requestTopic config.service config.topicSuffix :: config.extraTopics).idxOf s <
      (requestTopic config.service config.topicSuffix :: config.extraTopics).idxOf t
  group : ∀ c ∈ w.consumers, c.subscription.group = config.consumerGroup
  /-- Its subscriptions are alive now and have not been there before. -/
  alive : ∀ c ∈ w.consumers,
    c.subscription.serial ∈ (b'.group c.subscription.topic c.subscription.group).serials ∧
    c.subscription.serial ∉ (b.group c.subscription.topic c.subscription.group).serials
  /-- There is one subscriber more to each of its topics in its group, and no other. -/
  gained : ∀ t g, b'.memberCount t g =
    b.memberCount t g + if t ∈ w.topics ∧ g = config.consumerGroup then 1 else 0

theorem length_filter_isIn {subs : List Subscription} (nodup : (subs.map (·.topic)).Nodup)
    (hgroup : ∀ s ∈ subs, s.group = group) (t g : String) :
    (subs.filter (·.isIn t g)).length = if t ∈ subs.map (·.topic) ∧ g = group then 1 else 0 := by
  by_cases hg : g = group
  · have hfilter : subs.filter (·.isIn t g) = subs.filter (·.topic == t) := by
      refine List.filter_congr fun s hs => ?_
      rw [Subscription.isIn, hgroup s hs, hg, beq_self_eq_true, Bool.and_true]
    have hcount : (subs.filter (·.topic == t)).length = (subs.map (·.topic)).count t := by
      rw [List.count, List.countP_map, List.countP_eq_length_filter]
      rfl
    rw [hfilter, hcount, nodup.count]
    simp only [hg, and_true]
  · rw [if_neg fun h => hg h.2, List.length_eq_zero_iff, List.filter_eq_nil_iff]
    intro s hs hin
    exact hg ((Broker.History.isIn_iff.1 hin).2.symm.trans (hgroup s hs))

theorem consumes_of_gains {w : Worker} {subs : List Subscription} (F : b.Fresh)
    (consumers : w.consumers = subs.map fun s => ⟨s, none⟩)
    (htopics : subs.map (·.topic) = config.topics)
    (hgroup : ∀ s ∈ subs, s.group = config.consumerGroup) (G : Gains b subs b') :
    Consumes config b b' w := by
  have hw : w.topics = config.topics := by
    rw [Worker.topics, consumers, List.map_map]
    exact htopics
  have hsubs (c : Consumer) (hc : c ∈ w.consumers) : c.subscription ∈ subs := by
    rw [consumers] at hc
    obtain ⟨s, hs, rfl⟩ := List.mem_map.1 hc
    exact hs
  refine ⟨hw ▸ rfl, fun t => hw ▸ config.mem_topics, hw ▸ config.pairwise_topics,
    fun c hc => hgroup _ (hsubs c hc), fun c hc => ⟨?_, fun hmem => ?_⟩, fun t g => ?_⟩
  · rw [G.serials]
    exact List.mem_append_right _ (List.mem_map_of_mem
      (List.mem_filter.2 ⟨hsubs c hc, Broker.History.isIn_iff.2 ⟨rfl, rfl⟩⟩))
  · exact Nat.not_le_of_lt (F _ _ _ hmem) (G.new _ (hsubs c hc))
  · rw [Broker.memberCount_eq, Broker.memberCount_eq, G.serials, List.length_append,
      List.length_map, length_filter_isIn (htopics ▸ config.nodup_topics) hgroup, htopics, hw]

/-- A configuration with which a replica can be started, as far as the broker lets it. -/
structure Valid (config : WorkerConfig) : Prop where
  named : serviceName config.service ≠ ""
  permits : config.concurrency ≠ 0

/-- The ways in which a start can end. -/
inductive Starts (config : WorkerConfig) (b : Broker) :
    Except (Obstacle WorkerError) Worker × Broker → Prop
  | invalid {e : WorkerError} (kind : e.name = "InvalidConfig") (h : ¬ Valid config) :
    Starts config b (.error (.error e), b)
  | refused {e : BrokerError} {b' : Broker} (valid : Valid config)
    (unnamed : config.consumerGroup = "" ∨ "" ∈ config.extraTopics)
    (same : ∀ t g, (b'.group t g).serials = (b.group t g).serials) :
    Starts config b (.error (.error (.subscribe e)), b')
  | started {w : Worker} {b' : Broker} (valid : Valid config)
    (named : ¬ (config.consumerGroup = "" ∨ "" ∈ config.extraTopics))
    (consumes : Consumes config b b' w) : Starts config b (.ok w, b')

/-- The topic of a service that has a name has one, too. -/
theorem requestTopic_ne_empty {service : String} (h : serviceName service ≠ "") (suffix : String) :
    requestTopic service suffix ≠ "" := by
  intro hempty
  exact h (String.append_eq_empty_iff.1 hempty).1

theorem starts (F : b.Fresh) (limited : config.concurrency.toNat ≤ permitLimit)
    (catalog : Catalog) : Starts config b (start config catalog b) := by
  rw [start]
  split
  · next h => exact .invalid rfl fun v => v.named (String.isEmpty_iff.1 h)
  next hname =>
  split
  · next h => exact .invalid rfl fun v => v.permits h
  next hpermits =>
  have valid : Valid config := ⟨mt String.isEmpty_iff.2 hname, hpermits⟩
  rw [if_neg (Nat.not_lt_of_le limited)]
  have subscribed := subscribesAll (.refl b) F config.consumerGroup config.topics
  generalize subscribeAll config.consumerGroup [] b config.topics = r at subscribed
  cases subscribed with
  | none ht unnamed same =>
    refine .refused valid (unnamed.symm.imp_right fun h => ?_) same
    subst h
    exact (config.mem_topics.1 ht).resolve_left (requestTopic_ne_empty valid.named _).symm
  | all named topics_eq group_eq gains =>
    refine .started valid ?_ (consumes_of_gains F rfl topics_eq group_eq gains)
    rintro (hgroup | htopic)
    · exact (named _ (config.mem_topics.2 (.inl rfl))).2 hgroup
    · exact (named _ (config.mem_topics.2 (.inr htopic))).1 rfl

/-- What can be told from the outcome of a start. -/
structure StartContract (config : WorkerConfig) (b : Broker)
    (r : Except (Obstacle WorkerError) Worker × Broker) : Prop where
  /-- A configuration is refused exactly if the service has no name or there are no permits. -/
  invalid : (∃ e, r.1 = .error (.error e) ∧ e.name = "InvalidConfig") ↔
    serviceName config.service = "" ∨ config.concurrency = 0
  /-- Otherwise the broker refuses exactly if the group or one of the topics has no name. -/
  refused : (∃ e, r.1 = .error (.error e) ∧ e.name = "Subscribe") ↔
    (serviceName config.service ≠ "" ∧ config.concurrency ≠ 0) ∧
      (config.consumerGroup = "" ∨ "" ∈ config.extraTopics)
  /-- Otherwise there is a replica. -/
  started : (∃ w, r.1 = .ok w) ↔ (serviceName config.service ≠ "" ∧ config.concurrency ≠ 0) ∧
    ¬ (config.consumerGroup = "" ∨ "" ∈ config.extraTopics)
  consumes : ∀ w, r.1 = .ok w → Consumes config b r.2 w
  /-- A start that fails leaves no subscriber behind. -/
  released : ∀ e, r.1 = .error e → ∀ t g, r.2.memberCount t g = b.memberCount t g

theorem valid_iff : Valid config ↔ serviceName config.service ≠ "" ∧ config.concurrency ≠ 0 :=
  ⟨fun v => ⟨v.named, v.permits⟩, fun h => ⟨h.1, h.2⟩⟩

theorem not_valid_iff :
    ¬ Valid config ↔ serviceName config.service = "" ∨ config.concurrency = 0 := by
  rw [valid_iff, Decidable.not_and_iff_not_or_not, Decidable.not_not, Decidable.not_not]

theorem Starts.contract {r : Except (Obstacle WorkerError) Worker × Broker}
    (S : Starts config b r) : StartContract config b r := by
  cases S with
  | invalid kind h =>
    refine ⟨iff_of_true ⟨_, rfl, kind⟩ (not_valid_iff.1 h), iff_of_false ?_ ?_,
      iff_of_false nofun fun v => h (valid_iff.2 v.1), nofun, fun _ _ _ _ => rfl⟩
    · rintro ⟨e, he, kind'⟩
      cases he
      exact absurd (kind.symm.trans kind') (by decide)
    · exact fun v => h (valid_iff.2 v.1)
  | refused valid unnamed same =>
    refine ⟨iff_of_false ?_ fun h => not_valid_iff.2 h valid,
      iff_of_true ⟨_, rfl, rfl⟩ ⟨valid_iff.1 valid, unnamed⟩,
      iff_of_false nofun fun v => v.2 unnamed, nofun, fun _ _ t g => ?_⟩
    · rintro ⟨e, he, kind⟩
      cases he
      exact absurd (show "Subscribe" = "InvalidConfig" from kind) (by decide)
    · rw [Broker.memberCount_eq, Broker.memberCount_eq, same]
  | started valid named consumes =>
    refine ⟨iff_of_false nofun fun h => not_valid_iff.2 h valid,
      iff_of_false nofun fun v => named v.2, iff_of_true ⟨_, rfl⟩ ⟨valid_iff.1 valid, named⟩,
      fun w hw => ?_, nofun⟩
    cases hw
    exact consumes

/-- A start is all or nothing, whatever has been done with the broker before. -/
theorem start_contract (keepHistory : Bool) (actions : List Broker.Action)
    (limited : config.concurrency.toNat ≤ permitLimit) (catalog : Catalog) :
    StartContract config (Broker.History.run keepHistory actions).broker
      (start config catalog (Broker.History.run keepHistory actions).broker) :=
  (starts (Broker.History.Ledger.run keepHistory actions).tied.broker_fresh limited
    catalog).contract

/-- A pool with topics that come again. -/
def repetitive : WorkerConfig :=
  { service := "svc", extraTopics := ["a", "svc-procedures", "b", "a"] }

/-- A pool with a topic that has no name after others that have. -/
def unnamedLast : WorkerConfig := { service := "svc", extraTopics := ["a", "svc-procedures", ""] }

/-- The first gets one subscription to each of its topics, next to the one that is there. What the
second has got before a topic is refused is given up. -/
theorem start_contract_svc :
    let b₀ := (Broker.History.run false [.subscribe "a" "worker-svc"]).broker
    repetitive.concurrency.toNat ≤ permitLimit ∧ unnamedLast.concurrency.toNat ≤ permitLimit ∧
    (∃ w b, start repetitive {} b₀ = (.ok w, b) ∧ w.topics = ["svc-procedures", "a", "b"] ∧
      b.memberCount "svc-procedures" "worker-svc" = 1 ∧ b.memberCount "a" "worker-svc" = 2 ∧
      b.memberCount "b" "worker-svc" = 1) ∧
    ∃ e b, start unnamedLast {} b₀ = (.error (.error e), b) ∧ e.name = "Subscribe" ∧
      b.memberCount "a" "worker-svc" = 1 := by
  intro b₀
  have limited : repetitive.concurrency.toNat ≤ permitLimit := by decide
  have limited' : unnamedLast.concurrency.toNat ≤ permitLimit := by decide
  refine ⟨limited, limited', ?_, ?_⟩
  · have C := start_contract false [.subscribe "a" "worker-svc"] limited {}
    obtain ⟨w, b, h, ht⟩ : ∃ w b, start repetitive {} b₀ = (.ok w, b) ∧
        w.topics = ["svc-procedures", "a", "b"] := ⟨_, _, rfl, by decide⟩
    have gained := (C.consumes w (congrArg Prod.fst h)).gained
    rw [h, ht] at gained
    refine ⟨w, b, h, ht, (gained ..).trans ?_, (gained ..).trans ?_, (gained ..).trans ?_⟩
    all_goals decide
  · have C := start_contract false [.subscribe "a" "worker-svc"] limited' {}
    obtain ⟨e, he, kind⟩ := C.refused.2 (by decide)
    refine ⟨e, _, Prod.ext he rfl, kind, (C.released _ he "a" "worker-svc").trans ?_⟩
    decide

end Worker

end CallGateway
