import Mathlib.Data.List.Nodup
import Mathlib.Data.List.Perm.Subperm
import CallGateway.Proofs.Gateway.Fleet

/-!
# What gateways keep that share a broker

A gateway listens in a group that is named by its instance id as it is spelled, so its listener stays
the only member, whoever else listens on the same topic. `Running` is what a gateway keeps in its own
turns and while others act. `Inv` says that all gateways of a fleet run and that no two of them have
a request in common.
-/

namespace CallGateway

/-- The action leaves a listener alone. -/
structure Broker.Action.Leaves (a : Action) (l : Subscription) : Prop where
  drop : a ≠ .drop l.serial
  receive : a ≠ .receive l.serial
  join : a ≠ .subscribe l.topic l.group

/-! ## One of the gateways -/

namespace Station

open Broker.History (Ledger Sole)

variable {H : Broker.History} {a : Broker.Action} {st st' : Station} {e : Session.Event}

/-- The gateway listens on its reply topic, alone in its group. It has received what the broker says,
and its requests say where their replies are to go. -/
structure Running (st : Station) (H : Broker.History) : Prop where
  sole : Sole H st.listener st.since
  topic : st.listener.topic = st.config.replyTopic
  group : st.listener.group = st.config.replyGroup
  listens : st.session.gateway.listeners = [st.listener]
  sound : st.session.Sound
  arrivals : st.session.arrivals = (H.received st.listener).map (Session.taking ·.payload)
  addressed : ∀ r ∈ st.session.gateway.outbox, ∃ c : Envelope,
    r.requestId = c.requestId ∧ r.payload = c.toBytes ∧ c.replyTo = st.config.replyTopic

theorem Running.frame (R : st.Running H) (L : Ledger H) (ha : a.Leaves st.listener) :
    st.Running (H.act a) where
  sole := R.sole.act L ha.drop ha.join
  topic := R.topic
  group := R.group
  listens := R.listens
  sound := R.sound
  arrivals := by rw [H.received_act ha.receive, R.arrivals]
  addressed := R.addressed

/-- A gateway uses the broker to publish and to receive. -/
theorem of_action? {s : Session} (h : s.action? e = some a) : (∀ serial, a ≠ .drop serial) ∧
    (∀ topic group, a ≠ .subscribe topic group) ∧
      ∀ serial, a = .receive serial → ∃ l ∈ s.gateway.listeners, l.serial = serial := by
  cases e with
  | publish k =>
    obtain ⟨r, -, rfl⟩ := Option.map_eq_some_iff.1 h
    exact ⟨nofun, nofun, nofun⟩
  | listen k =>
    obtain ⟨l, hl, rfl⟩ := Option.map_eq_some_iff.1 h
    exact ⟨nofun, nofun, fun _ he =>
      ⟨l, List.mem_of_getElem? hl, Broker.Action.receive.inj he⟩⟩
  | _ => cases h

theorem turn_turn (st : Station) (b : Broker) (own : e.isOwn = true) :
    (st.session.step (.elsewhere b)).Turn (st.session.address e) (st.turn b e).session :=
  (Session.happens _ _).turn ((st.session.isOwn_address e).trans own)

theorem action?_turn (st : Station) (b : Broker) (e : Session.Event) :
    (st.session.step (.elsewhere b)).action? (st.session.address e) = st.session.action? e :=
  st.session.action?_address e

theorem config_turn (st : Station) (b : Broker) (own : e.isOwn = true) :
    (st.turn b e).config = st.config :=
  (st.turn_turn b own).config

theorem submitted_turn (st : Station) (b : Broker) (e : Session.Event) :
    (st.turn b e).session.log.submitted = st.session.log.submitted ++ e.request?.toList := by
  rw [← st.session.request?_address e]
  exact (st.session.step (.elsewhere b)).submitted_step (st.session.address e)

theorem Running.turn (R : st.Running H) (L : Ledger H) (own : e.isOwn = true)
    (distinct : (st.turn H.broker e).session.log.submitted.Nodup) :
    (st.turn H.broker e).Running ((st.session.action? e).elim H H.act) where
  sole := by
    cases ha : st.session.action? e with
    | none => exact R.sole
    | some a =>
      obtain ⟨hdrop, hjoin, -⟩ := of_action? ha
      exact R.sole.act L (hdrop _) (hjoin _ _)
  topic := (config_turn st H.broker own) ▸ R.topic
  group := (config_turn st H.broker own) ▸ R.group
  listens := (st.turn_turn H.broker own).listeners.trans R.listens
  sound := R.sound.run _ distinct
  arrivals := by
    have hreceived := Session.received_step (s := st.session.step (.elsewhere H.broker)) L.tied rfl
      R.listens R.sole.alive (st.session.address e)
    rw [action?_turn] at hreceived
    have harrivals : (st.session.step (.elsewhere H.broker)).arrivals = _ := R.arrivals
    rw [(st.turn_turn H.broker own).arrivals, harrivals]
    show _ = List.map _ (Broker.History.received _ st.listener)
    rw [hreceived, List.map_append]
    cases Session.receives? _ _ <;> rfl
  addressed := by
    intro r hr
    rw [config_turn st H.broker own]
    obtain hr | ⟨d, c, he, hid, hp⟩ := (st.turn_turn H.broker own).outbox r hr
    · exact R.addressed r hr
    · -- The envelope that is submitted has been given the reply topic.
      refine ⟨c, hid, hp, ?_⟩
      cases e with
      | submit d' c' =>
        cases he
        rfl
      | _ => cases he

/-- What the gateway does with the broker is what is recorded. -/
theorem Running.broker_turn (R : st.Running H) (L : Ledger H) (own : e.isOwn = true) :
    ((st.session.action? e).elim H H.act).broker = (st.turn H.broker e).session.broker := by
  rw [← action?_turn st H.broker e]
  exact ((Session.happens (st.session.step (.elsewhere H.broker)) _).broker_eq L.tied
    ((st.session.isOwn_address e).trans own) rfl R.listens R.sole.alive).symm

end Station

/-! ## All of them -/

theorem rel_of_pairwise {R : α → α → Prop} (symm : ∀ {a b}, R a b → R b a) {l : List α}
    (h : l.Pairwise R) {i j : Nat} (hi : l[i]? = some a) (hj : l[j]? = some b) (hne : i ≠ j) :
    R a b := by
  obtain ⟨hi, rfl⟩ := List.getElem?_eq_some_iff.1 hi
  obtain ⟨hj, rfl⟩ := List.getElem?_eq_some_iff.1 hj
  obtain hlt | hgt := Nat.lt_or_gt_of_ne hne
  · exact List.pairwise_iff_getElem.1 h _ _ _ _ hlt
  · exact symm (List.pairwise_iff_getElem.1 h _ _ _ _ hgt)

theorem map_set_of_eq {f : α → β} {l : List α} {i : Nat} (h : l[i]? = some a) (hb : f b = f a) :
    (l.set i b).map f = l.map f := by
  obtain ⟨hi, rfl⟩ := List.getElem?_eq_some_iff.1 h
  rw [List.map_set, hb, ← List.getElem_map f (h := by rwa [List.length_map]),
    List.set_getElem_self]

theorem flatMap_set_perm {f : α → List β} {l : List α} {i : Nat} {xs : List β}
    (h : l[i]? = some a) (hb : f b = f a ++ xs) :
    ((l.set i b).flatMap f).Perm (l.flatMap f ++ xs) := by
  induction l generalizing i with
  | nil => cases h
  | cons x l ih =>
    cases i with
    | zero =>
      cases h
      rw [List.set_cons_zero, List.flatMap_cons, List.flatMap_cons, hb, List.append_assoc,
        List.append_assoc]
      exact .append_left _ List.perm_append_comm
    | succ i =>
      rw [List.set_cons_succ, List.flatMap_cons, List.flatMap_cons, List.append_assoc]
      exact .append_left _ (ih h)

namespace Fleet

open Broker.History (Ledger)

variable {F : Fleet} {a : Broker.Action} {st st' : Station} {i j : Nat} {e : Event}

/-- The requests that have been submitted. -/
def submitted (F : Fleet) : List Uuid := F.stations.flatMap (·.session.log.submitted)

/-- The configurations, and how many messages each gateway has not been there for. -/
def roster (F : Fleet) : List (GatewayConfig × Nat) := F.stations.map fun st => (st.config, st.since)

/-- What a fleet keeps whose gateways have names of their own. -/
structure Inv (F : Fleet) : Prop where
  ledger : Ledger F.history
  running : ∀ {i : Nat} {st : Station}, F.stations[i]? = some st → st.Running F.history
  apart : (F.roster.map (·.1.instanceId)).Nodup
  distinct : F.submitted.Nodup

theorem Inv.instanceId_ne (I : Inv F) (hi : F.stations[i]? = some st)
    (hj : F.stations[j]? = some st') (hne : i ≠ j) :
    st.config.instanceId ≠ st'.config.instanceId := by
  have h := I.apart
  rw [roster, List.map_map, List.Nodup, List.pairwise_map] at h
  exact rel_of_pairwise (R := fun st st' : Station => st.config.instanceId ≠ st'.config.instanceId)
    Ne.symm h hi hj hne

/-- No request is submitted at two gateways. -/
theorem Inv.not_submitted (I : Inv F) (hi : F.stations[i]? = some st)
    (hj : F.stations[j]? = some st') (hne : i ≠ j) {id : Uuid}
    (hid : id ∈ st.session.log.submitted) : id ∉ st'.session.log.submitted :=
  rel_of_pairwise (R := fun st st' : Station =>
      List.Disjoint st.session.log.submitted st'.session.log.submitted)
    List.disjoint_symm (List.nodup_flatMap.1 I.distinct).2 hi hj hne hid

theorem Inv.serial_ne (I : Inv F) (hi : F.stations[i]? = some st)
    (hj : F.stations[j]? = some st') (hne : i ≠ j) : st.listener.serial ≠ st'.listener.serial := by
  intro hserial
  have issued {i : Nat} {st : Station} (hi : F.stations[i]? = some st) :
      st.listener ∈ F.history.issued := I.ledger.tied.held.subset (I.running hi).sole.alive
  have hl : st.listener = st'.listener :=
    List.inj_on_of_nodup_map I.ledger.tied.distinct (issued hi) (issued hj) hserial
  have hgroup := (I.running hi).group
  rw [hl, (I.running hj).group] at hgroup
  exact I.instanceId_ne hi hj hne hgroup.symm

/-- What a gateway does leaves the listeners of the others alone. -/
theorem Inv.leaves (I : Inv F) (hi : F.stations[i]? = some st) (hj : F.stations[j]? = some st')
    (hne : i ≠ j) {e : Session.Event} (ha : st.session.action? e = some a) :
    a.Leaves st'.listener := by
  obtain ⟨hdrop, hjoin, hreceive⟩ := Station.of_action? ha
  refine ⟨hdrop _, fun h => ?_, hjoin _ _⟩
  obtain ⟨l, hl, hserial⟩ := hreceive _ h
  rw [(I.running hi).listens, List.mem_singleton] at hl
  subst hl
  exact I.serial_ne hi hj hne hserial

theorem leaves_of_disturbs (h : F.disturbs a = false) (hi : F.stations[i]? = some st) :
    a.Leaves st.listener := by
  have hst := List.mem_of_getElem? hi
  refine ⟨?_, ?_, ?_⟩ <;> rintro rfl <;> refine List.any_eq_false.1 h st hst ?_
  · exact beq_self_eq_true _
  · exact beq_self_eq_true _
  · rw [beq_self_eq_true, beq_self_eq_true]
    rfl

/-! ## Steps -/

theorem step_turn (hi : F.stations[i]? = some st) {e : Session.Event} (own : e.isOwn = true) :
    F.step (.turn i e) =
      { stations := F.stations.set i (st.turn F.history.broker e)
        history := (st.session.action? e).elim F.history F.history.act } := by
  simp only [step, hi, own, if_true]

/-- All that an event can do. -/
theorem step_cases (F : Fleet) (e : Event) : F.step e = F ∨
    (∃ i e' st, e = .turn i e' ∧ F.stations[i]? = some st ∧ e'.isOwn = true) ∨
    ∃ a, e = .elsewhere a ∧ F.disturbs a = false ∧
      F.step e = { F with history := F.history.act a } := by
  cases e with
  | turn i e' =>
    cases hi : F.stations[i]? with
    | none => exact .inl (by simp only [step, hi])
    | some st =>
      cases own : e'.isOwn with
      | false => exact .inl (by simp [step, hi, own])
      | true => exact .inr (.inl ⟨i, e', st, rfl, hi, own⟩)
  | elsewhere a =>
    cases ha : F.disturbs a with
    | true => exact .inl (by simp only [step, ha, if_true])
    | false => exact .inr (.inr ⟨a, rfl, ha, by simp [step, ha]⟩)

theorem roster_step (F : Fleet) (e : Event) : (F.step e).roster = F.roster := by
  obtain h | ⟨i, e', st, rfl, hi, own⟩ | ⟨a, rfl, -, h⟩ := F.step_cases e
  · rw [h]
  · rw [step_turn hi own]
    exact map_set_of_eq hi (congrArg (·, st.since) (st.config_turn F.history.broker own))
  · rw [h]
    rfl

theorem submitted_step_subperm (F : Fleet) (e : Event) :
    (F.step e).submitted.Subperm (F.submitted ++ e.request?.toList) := by
  have same : F.submitted.Subperm (F.submitted ++ e.request?.toList) :=
    (List.sublist_append_left _ _).subperm
  obtain h | ⟨i, e', st, rfl, hi, own⟩ | ⟨a, rfl, -, h⟩ := F.step_cases e
  · rw [h]
    exact same
  · rw [step_turn hi own]
    exact (flatMap_set_perm (f := (·.session.log.submitted)) hi
      (st.submitted_turn F.history.broker e')).subperm
  · rw [h]
    exact same

theorem Inv.turn (I : Inv F) (hi : F.stations[i]? = some st) {e : Session.Event}
    (own : e.isOwn = true) (distinct : (F.step (.turn i e)).submitted.Nodup) :
    (F.step (.turn i e)).Inv := by
  have hroster := F.roster_step (.turn i e)
  rw [step_turn hi own] at distinct hroster ⊢
  have hmem : st.turn F.history.broker e ∈ F.stations.set i (st.turn F.history.broker e) :=
    List.mem_set (List.getElem?_eq_some_iff.1 hi).1 _
  have hnodup := (List.nodup_flatMap.1 distinct).1 _ hmem
  refine ⟨?_, fun {j st'} hj => ?_, hroster ▸ I.apart, distinct⟩
  · dsimp only
    cases st.session.action? e with
    | none => exact I.ledger
    | some a => exact I.ledger.act a
  · dsimp only at hj ⊢
    rw [List.getElem?_set] at hj
    split at hj
    · split at hj
      · cases hj
        exact (I.running hi).turn I.ledger own hnodup
      · cases hj
    · next hne =>
      cases ha : st.session.action? e with
      | none => exact I.running hj
      | some a => exact (I.running hj).frame I.ledger (I.leaves hi hj hne ha)

theorem Inv.step (I : Inv F) (e : Event) (distinct : (F.step e).submitted.Nodup) :
    (F.step e).Inv := by
  obtain h | ⟨i, e', st, rfl, hi, own⟩ | ⟨a, rfl, ha, h⟩ := F.step_cases e
  · rw [h]
    exact I
  · exact I.turn hi own distinct
  · rw [h]
    exact ⟨I.ledger.act a,
      fun hi => (I.running hi).frame I.ledger (leaves_of_disturbs ha hi), I.apart, I.distinct⟩

/-! ## Runs -/

theorem nodup_of_subperm {l l' : List α} (h : l.Subperm l') (hl : l'.Nodup) : l.Nodup := by
  obtain ⟨l₀, hp, hs⟩ := h
  exact hp.nodup_iff.1 (hs.nodup hl)

theorem requests_cons (e : Event) (events : List Event) :
    requests (e :: events) = e.request?.toList ++ requests events := by
  rw [requests, List.filterMap_cons]
  cases e.request? <;> rfl

theorem roster_run (F : Fleet) (events : List Event) : (F.run events).roster = F.roster := by
  induction events generalizing F with
  | nil => rfl
  | cons e events ih => exact (ih (F.step e)).trans (F.roster_step e)

theorem Inv.run (I : Inv F) (events : List Event)
    (distinct : (F.submitted ++ requests events).Nodup) : (F.run events).Inv := by
  induction events generalizing F with
  | nil => exact I
  | cons e events ih =>
    rw [requests_cons, ← List.append_assoc] at distinct
    have hsub := F.submitted_step_subperm e
    have hstep := nodup_of_subperm hsub (List.nodup_append.1 distinct).1
    exact ih (I.step e hstep)
      (nodup_of_subperm ((List.subperm_append_right _).2 hsub) distinct)

/-! ## New gateways -/

theorem replyTopic_isEmpty (c : GatewayConfig) : c.replyTopic.isEmpty = false := by
  rw [String.isEmpty_eq_false_iff, GatewayConfig.replyTopic, CallGateway.replyTopic]
  intro h
  exact absurd (String.append_eq_empty_iff.1 h).2 (by decide)

theorem exists_subscribe (b : Broker) {topic group : String} (ht : topic.isEmpty = false)
    (hg : group.isEmpty = false) : ∃ l b', b.subscribe topic group = .ok (l, b') := by
  rw [Broker.subscribe, if_neg (by simp [ht, hg])]
  exact ⟨_, _, rfl⟩

/-- A new gateway whose listener has just subscribed. -/
def newcomer (c : GatewayConfig) (l : Subscription) (b : Broker) (since : Nat) : Station where
  session := { gateway := { config := c, listeners := [l] }, broker := b }
  listener := l
  since := since

/-- The fleet with a new gateway, whose listener has got this subscription. -/
def join (F : Fleet) (c : GatewayConfig) (l : Subscription) (b : Broker) : Fleet where
  stations := F.stations ++ [newcomer c l b (F.history.accepted c.replyTopic).length]
  history := F.history.act (.subscribe c.replyTopic c.replyGroup)

/-- What comes of a fleet that a gateway joins. -/
structure Joins (F : Fleet) (c : GatewayConfig) (F' : Fleet) : Prop where
  inv : F'.Inv
  submitted : F'.submitted = F.submitted
  roster : F'.roster = F.roster ++ [(c, (F.history.accepted c.replyTopic).length)]
  accepted : ∀ topic, F'.history.accepted topic = F.history.accepted topic
  held : ∀ s ∈ F'.history.held, s ∈ F.history.held ∨ s.group = c.replyGroup

section

variable {c : GatewayConfig} {l : Subscription} {b : Broker}

theorem add_eq (hl : F.history.broker.subscribe c.replyTopic c.replyGroup = .ok (l, b)) :
    F.add c = .ok (F.join c l b) := by
  simp only [add, join, newcomer, Gateway.startListener, hl]
  rfl

theorem startListener_start {b₀ : Broker} (n : Nat)
    (hl : b₀.subscribe c.replyTopic c.replyGroup = .ok (l, b)) :
    (Session.start c b₀).step .startListener = (newcomer c l b n).session := by
  simp only [Session.step, Session.start, newcomer, Gateway.startListener, hl]
  rfl

/-- A gateway runs when its listener has subscribed, if nobody else is in its group. -/
theorem running_newcomer {H : Broker.History} (L : Ledger H)
    (hl : H.broker.subscribe c.replyTopic c.replyGroup = .ok (l, b))
    (free : ∀ s ∈ H.held, s.isIn c.replyTopic c.replyGroup = false) :
    (newcomer c l b (H.accepted c.replyTopic).length).Running
      (H.act (.subscribe c.replyTopic c.replyGroup)) := by
  have hnew := (Broker.subscribe_eq_ok hl).1
  have htopic : l.topic = c.replyTopic := congrArg Subscription.topic hnew
  have hgroup : l.group = c.replyGroup := congrArg Subscription.group hnew
  have hsole := Broker.History.Sole.of_subscribe (l := l) (b := b) L
  rw [htopic, hgroup] at hsole
  have S := hsole hl free
  refine ⟨S, htopic, hgroup, rfl, ?_, ?_, nofun⟩
  · have hsound := (Session.Sound.start c H.broker).step .startListener
    rw [startListener_start 0 hl] at hsound
    exact hsound .nil
  · have hhanded := S.handed
    rw [htopic, Broker.History.accepted_act_subscribe hl, List.drop_length] at hhanded
    have hreceived := List.prefix_nil.1 (hhanded ▸ (L.act _).past l)
    show [] = List.map _ (Broker.History.received _ l)
    rw [hreceived]
    rfl

theorem submitted_join (F : Fleet) (c : GatewayConfig) (l : Subscription) (b : Broker) :
    (F.join c l b).submitted = F.submitted :=
  List.flatMap_append.trans (List.append_nil _)

theorem roster_join (F : Fleet) (c : GatewayConfig) (l : Subscription) (b : Broker) :
    (F.join c l b).roster = F.roster ++ [(c, (F.history.accepted c.replyTopic).length)] :=
  List.map_append

/-- All gateways run if the new one has a name that none of the others has. -/
theorem Inv.join (I : Inv F) (hl : F.history.broker.subscribe c.replyTopic c.replyGroup = .ok (l, b))
    (fresh : c.instanceId ∉ F.roster.map (·.1.instanceId))
    (free : ∀ s ∈ F.history.held, s.isIn c.replyTopic c.replyGroup = false) :
    (F.join c l b).Inv where
  ledger := I.ledger.act (.subscribe c.replyTopic c.replyGroup)
  running := by
    intro i st hi
    show st.Running (F.history.act (.subscribe c.replyTopic c.replyGroup))
    rw [Fleet.join, List.getElem?_append] at hi
    split at hi
    · have R := I.running hi
      refine R.frame I.ledger ⟨nofun, nofun, fun h => fresh ?_⟩
      have hgroup : c.replyGroup = st.config.replyGroup :=
        (Broker.Action.subscribe.inj h).2.trans R.group
      have hmem := List.mem_map_of_mem (f := fun st : Station => (st.config, st.since))
        (List.mem_of_getElem? hi)
      exact List.mem_map.2 ⟨_, hmem, hgroup.symm⟩
    · rw [List.mem_singleton.1 (List.mem_of_getElem? hi)]
      exact running_newcomer I.ledger hl free
  apart := by
    rw [roster_join, List.map_append, List.map_singleton]
    exact List.nodup_append_comm.1 (List.nodup_cons.2 ⟨fresh, I.apart⟩)
  distinct := by
    rw [submitted_join]
    exact I.distinct

theorem Inv.add (I : Inv F) (named : c.instanceId ≠ "")
    (fresh : c.instanceId ∉ F.roster.map (·.1.instanceId))
    (free : ∀ s ∈ F.history.held, s.isIn c.replyTopic c.replyGroup = false) :
    ∃ F', F.add c = .ok F' ∧ F.Joins c F' := by
  have hgroup : c.replyGroup.isEmpty = false := String.isEmpty_eq_false_iff.2 named
  obtain ⟨l, b, hl⟩ := exists_subscribe F.history.broker (replyTopic_isEmpty c) hgroup
  refine ⟨F.join c l b, add_eq hl, I.join hl fresh free, F.submitted_join c l b,
    F.roster_join c l b, Broker.History.accepted_act_subscribe hl, fun s hs => ?_⟩
  obtain hs | hs := Broker.History.mem_held_of_act (H := F.history)
    (a := .subscribe c.replyTopic c.replyGroup) hs
  · exact .inl hs
  · exact .inr (Broker.Action.subscribe.inj hs).2.symm

end

/-- Gateways with names of their own, in whose groups nobody is, can all start their listeners. -/
theorem Inv.addAll (I : Inv F) {configs : List GatewayConfig}
    (named : ∀ c ∈ configs, c.instanceId ≠ "")
    (ids : (F.roster.map (·.1.instanceId) ++ configs.map (·.instanceId)).Nodup)
    (free : ∀ c ∈ configs, ∀ s ∈ F.history.held, s.isIn c.replyTopic c.replyGroup = false) :
    ∃ F', configs.foldlM Fleet.add F = .ok F' ∧ F'.Inv ∧ F'.submitted = F.submitted ∧
      F'.roster = F.roster ++
        configs.map fun c => (c, (F.history.accepted c.replyTopic).length) := by
  induction configs generalizing F with
  | nil => exact ⟨F, rfl, I, rfl, (List.append_nil _).symm⟩
  | cons c configs ih =>
    obtain ⟨hn, named⟩ := List.forall_mem_cons.1 named
    obtain ⟨hf, free⟩ := List.forall_mem_cons.1 free
    rw [List.map_cons] at ids
    have fresh := (List.nodup_cons.1 (List.nodup_middle.1 ids)).1
    rw [List.mem_append, not_or] at fresh
    obtain ⟨F₁, h₁, J⟩ := I.add hn fresh.1 hf
    have ids₁ : (F₁.roster.map (·.1.instanceId) ++ configs.map (·.instanceId)).Nodup := by
      rw [J.roster, List.map_append, List.append_assoc]
      exact ids
    -- The listener of `c` is in a group that none of the others will have.
    have free₁ : ∀ c' ∈ configs, ∀ s ∈ F₁.history.held,
        s.isIn c'.replyTopic c'.replyGroup = false := by
      intro c' hc' s hs
      obtain hs | hs := J.held s hs
      · exact free c' hc' s hs
      · rw [Bool.eq_false_iff]
        intro hin
        have hgroup : c'.instanceId = c.instanceId :=
          (Broker.History.isIn_iff.1 hin).2.symm.trans hs
        exact fresh.2 (hgroup ▸ List.mem_map_of_mem hc')
    obtain ⟨F', h', I', hsubmitted, hroster⟩ := ih J.inv named ids₁ free₁
    refine ⟨F', ?_, I', hsubmitted.trans J.submitted, ?_⟩
    · rw [List.foldlM_cons, h₁]
      exact h'
    · rw [hroster, J.roster, List.append_assoc, List.map_cons]
      simp only [J.accepted]
      rfl

theorem Inv.of_history {H : Broker.History} (L : Ledger H) : Inv { history := H } where
  ledger := L
  running hi := by cases hi
  apart := .nil
  distinct := .nil

theorem exists_start {H : Broker.History} (L : Ledger H) {configs : List GatewayConfig}
    (ids : (configs.map (·.instanceId)).Nodup) (named : ∀ c ∈ configs, c.instanceId ≠ "")
    (free : ∀ c ∈ configs, ∀ s ∈ H.held, s.isIn c.replyTopic c.replyGroup = false) :
    ∃ F, start H configs = .ok F ∧ F.Inv ∧ F.submitted = [] ∧
      F.roster = configs.map fun c => (c, (H.accepted c.replyTopic).length) :=
  (Inv.of_history L).addAll named ids free

end Fleet

end CallGateway
