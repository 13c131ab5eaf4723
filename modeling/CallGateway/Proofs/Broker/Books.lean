import CallGateway.Proofs.Broker.Delivery

/-!
# What a broker counts and keeps

Whether a message is refused depends on its topic alone: on whether it has a name, and on what has
been marked and restored. A message that is refused leaves no trace. Those that are accepted are
numbered one by one in each topic, are counted, and are kept if the broker keeps anything.
-/

namespace CallGateway.Broker

/-- The topic has been marked and has not been restored since. -/
def Marked (topic : String) (actions : List Action) : Prop :=
  ∃ before since, actions = before ++ .failTopic topic :: since ∧ .restoreTopic topic ∉ since

variable {b b' : Broker} {a : Action} {t g : String}

theorem not_marked_nil : ¬ Marked t [] := by
  rintro ⟨before, since, h, -⟩
  exact List.cons_ne_nil _ _ (List.append_eq_nil_iff.1 h.symm).2

theorem marked_concat {actions : List Action} : Marked t (actions ++ [a]) ↔
    a = .failTopic t ∨ Marked t actions ∧ a ≠ .restoreTopic t := by
  constructor
  · rintro ⟨before, since, h, hn⟩
    obtain rfl | ⟨since, x, rfl⟩ := since.eq_nil_or_concat
    · exact .inl (List.cons.inj (List.append_inj_right' h rfl)).1
    · rw [List.concat_eq_append, ← List.cons_append, ← List.append_assoc] at h
      obtain ⟨rfl, hx⟩ := List.append_inj' h rfl
      cases hx
      rw [List.concat_eq_append, List.mem_append, not_or] at hn
      exact .inr ⟨⟨before, since, rfl, hn.1⟩, fun ha => hn.2 (ha ▸ .head _)⟩
  · rintro (rfl | ⟨⟨before, since, rfl, hn⟩, ha⟩)
    · exact ⟨actions, [], rfl, List.not_mem_nil⟩
    · refine ⟨before, since ++ [a], List.append_assoc .., ?_⟩
      rw [List.mem_append, not_or]
      exact ⟨hn, fun h => ha (List.mem_singleton.1 h).symm⟩

theorem publish_eq (b : Broker) (topic key : String) (payload : Bytes) :
    b.publish topic key payload =
      if topic = "" then .error .emptyTopic
      else if topic ∈ b.failing then .error (.marked topic)
      else .ok (⟨topic, 0, (b.topic topic).nextOffset⟩,
        b.accept ⟨topic, key, payload, (b.topic topic).nextOffset⟩) := by
  simp only [publish, String.isEmpty_iff, List.contains_iff_mem]

/-! ## Totals -/

/-- The total of a number that a topic without messages does not add to. -/
def tally (b : Broker) (f : Topic → Nat) : Nat := (b.topics.values.map f).sum

theorem tally_setTopic (b : Broker) (name : String) (t : Topic) {f : Topic → Nat} (hf : f {} = 0) :
    (b.setTopic name t).tally f + f (b.topic name) = b.tally f + f t := by
  have hold : ((b.topics.get? name).map f).getD 0 = f (b.topic name) := by
    rw [Broker.topic]
    cases b.topics.get? name with
    | none => exact hf.symm
    | some t => rfl
  rw [← hold]
  exact Keyed.sum_set b.topics name t f

theorem tally_setGroup (b : Broker) (topic group : String) (g : Group) {f : Topic → Nat}
    (hf : f {} = 0) (hg : ∀ (t : Topic) groups, f { t with groups } = f t) :
    (b.setGroup topic group g).tally f = b.tally f := by
  have h := tally_setTopic b topic
    { b.topic topic with groups := (b.topic topic).groups.set group g } hf
  exact Nat.add_right_cancel (h.trans (congrArg (b.tally f + ·) (hg _ _)))

theorem history_setGroup (b : Broker) (topic group : String) (g : Group) (name : String) :
    ((b.setGroup topic group g).topic name).history = (b.topic name).history := by
  rw [setGroup, topic_setTopic]
  split
  · next h => rw [h]
  · rfl

/-- The numbers and the histories of two brokers agree. -/
structure SameBooks (b b' : Broker) : Prop where
  history : ∀ t, (b'.topic t).history = (b.topic t).history
  total : b'.totalPublished = b.totalPublished
  retained : b'.retained = b.retained

theorem sameBooks_setGroup (b : Broker) (topic group : String) (g : Group) :
    SameBooks b (b.setGroup topic group g) where
  history := history_setGroup b topic group g
  total := tally_setGroup b topic group g (f := (·.nextOffset)) rfl fun _ _ => rfl
  retained := tally_setGroup b topic group g (f := (·.history.length)) rfl fun _ _ => rfl

theorem sameBooks_subscribe {s : Subscription} (h : b.subscribe t g = .ok (s, b')) :
    SameBooks b b' := by
  rw [subscribe] at h
  split at h
  · cases h
  · cases h
    obtain ⟨hhistory, htotal, hretained⟩ :=
      sameBooks_setGroup b t g ((b.group t g).join b.nextSerial)
    exact ⟨hhistory, htotal, hretained⟩

theorem sameBooks_receive? {s : Subscription} {m : Message}
    (h : b.receive? s = some (m, b')) : SameBooks b b' := by
  rw [receive?] at h
  split at h
  · cases h
  · cases h
    exact sameBooks_setGroup ..

theorem sameBooks_of_topics (h : b'.topics = b.topics) : SameBooks b b' where
  history t := by rw [topic_congr h]
  total := by rw [totalPublished, h, totalPublished]
  retained := by rw [retained, h, retained]

theorem tally_accept (b : Broker) (m : Message) {f : Topic → Nat} (hf : f {} = 0) :
    (b.accept m).tally f + f (b.topic m.topic) = b.tally f + f ((b.accept m).topic m.topic) := by
  rw [accept, topic_setTopic, if_pos rfl]
  exact tally_setTopic b m.topic _ hf

theorem totalPublished_accept (b : Broker) (m : Message) :
    (b.accept m).totalPublished = b.totalPublished + 1 := by
  have h := tally_accept b m (f := (·.nextOffset)) rfl
  rw [nextOffset_accept, if_pos rfl] at h
  change (b.accept m).totalPublished + _ = b.totalPublished + _ at h
  omega

theorem history_accept (b : Broker) (m : Message) (t : String) :
    ((b.accept m).topic t).history = if b.keepHistory ∧ t = m.topic then (b.topic t).history ++ [m]
      else (b.topic t).history := by
  rw [accept, topic_setTopic]
  by_cases ht : t = m.topic
  · subst ht
    rw [if_pos rfl]
    simp only [and_true]
  · rw [if_neg ht, if_neg fun h => ht h.2]

theorem retained_accept (b : Broker) (m : Message) :
    (b.accept m).retained = b.retained + if b.keepHistory then 1 else 0 := by
  have h := tally_accept b m (f := (·.history.length)) rfl
  have hlength : ((b.accept m).topic m.topic).history.length =
      (b.topic m.topic).history.length + if b.keepHistory then 1 else 0 := by
    rw [history_accept]
    cases b.keepHistory with
    | false => rfl
    | true => simp
  rw [hlength] at h
  change (b.accept m).retained + _ = b.retained + _ at h
  omega

namespace History

variable {H : History} {r : Record} {held : List Subscription}

def actions (H : History) : List Action := H.records.map (·.action)

/-- All messages that have been accepted, whatever their topics. -/
def acceptances (H : History) : List Message := H.records.filterMap (·.accepted?)

/-- What becomes of the marks, and that the broker keeps what it has kept before. -/
theorem perform?_marks {answer : Answer} {after : Broker}
    (h : H.perform? a = some (answer, after, held)) :
    after.keepHistory = H.broker.keepHistory ∧ ∀ t, t ∈ after.failing ↔
      a = .failTopic t ∨ t ∈ H.broker.failing ∧ a ≠ .restoreTopic t := by
  cases a with
  | subscribe topic group =>
    simp only [perform?, Broker.subscribe] at h
    split at h
    · next hs => split at hs <;> cases hs; cases h; exact ⟨rfl, fun t => by simp; rfl⟩
    · cases h; simp
  | drop serial =>
    obtain ⟨s, -, h⟩ := Option.map_eq_some_iff.1 h
    cases h
    exact ⟨rfl, fun t => by simp; rfl⟩
  | publish topic key payload =>
    simp only [perform?] at h
    split at h
    · next hp => cases h; obtain ⟨-, rfl⟩ := publish_eq_ok hp; exact ⟨rfl, fun t => by simp; rfl⟩
    · cases h; simp
  | receive serial =>
    obtain ⟨s, -, h⟩ := Option.map_eq_some_iff.1 h
    split at h
    · next hr =>
      cases h
      rw [Broker.receive?] at hr
      split at hr <;> cases hr
      exact ⟨rfl, fun t => by simp; rfl⟩
    · cases h; simp
  | failTopic topic =>
    cases h
    exact ⟨rfl, fun t => by simp [Broker.failTopic, eq_comm]⟩
  | restoreTopic topic =>
    cases h
    refine ⟨rfl, fun t => ?_⟩
    simp only [Broker.restoreTopic, List.mem_filter, bne_iff_ne, reduceCtorEq, false_or, ne_eq,
      Action.restoreTopic.injEq]
    exact and_congr_right fun _ => not_congr eq_comm

/-- What a broker answers to a message, by what has been done before. -/
inductive Verdict (past : List Record) (topic : String) : Answer → Prop
  | unnamed (h : topic = "") : Verdict past topic (.refused .emptyTopic)
  | marked (named : topic ≠ "") (h : Marked topic (past.map (·.action))) :
      Verdict past topic (.refused (.marked topic))
  | accepted (named : topic ≠ "") (h : ¬ Marked topic (past.map (·.action))) :
      Verdict past topic
        (.accepted ⟨topic, 0, (past.filterMap (·.acceptedOn? topic)).length⟩)

/-- What the numbers and the histories in a broker tell. -/
structure Counted (keepHistory : Bool) (H : History) : Prop where
  total : H.broker.totalPublished = H.acceptances.length
  published : ∀ t, H.broker.published t = if keepHistory then H.accepted t else []
  retained : H.broker.retained = if keepHistory then H.broker.totalPublished else 0

/-- What a broker answers to those who publish, and what it tells of it afterwards. -/
structure Books (keepHistory : Bool) (H : History) : Prop extends Counted keepHistory H where
  /-- A message is refused exactly if its topic has no name or is marked at that moment, and gets
  the next number of its topic otherwise. -/
  verdict : ∀ past r later, H.records = past ++ r :: later → ∀ topic key payload,
    r.action = .publish topic key payload → Verdict past topic r.answer
  /-- What is refused changes nothing. -/
  unchanged : ∀ r ∈ H.records, ∀ e, r.answer = .refused e → r.after = r.before
  /-- The messages of a topic are numbered from zero, without gaps. -/
  offsets : ∀ t, (H.accepted t).map (·.offset) = List.range (H.accepted t).length

theorem Tied.length_accepted (T : Tied H) (t : String) :
    (H.accepted t).length = (H.broker.topic t).nextOffset := by
  rw [← List.length_map (f := (·.offset)), T.offsets, List.length_range]

theorem verdict_of_perform? {topic key : String} {payload : Bytes} {answer : Answer}
    {after : Broker} (T : Tied H) (failing : ∀ t, t ∈ H.broker.failing ↔ Marked t H.actions)
    (h : H.perform? (.publish topic key payload) = some (answer, after, held)) :
    Verdict H.records topic answer := by
  have hlength : (H.records.filterMap (·.acceptedOn? topic)).length =
      (H.broker.topic topic).nextOffset := T.length_accepted topic
  simp only [perform?, publish_eq] at h
  by_cases hnamed : topic = ""
  · rw [if_pos hnamed] at h
    cases h
    exact .unnamed hnamed
  rw [if_neg hnamed] at h
  by_cases hmarked : topic ∈ H.broker.failing
  · rw [if_pos hmarked] at h
    cases h
    exact .marked hnamed ((failing topic).1 hmarked)
  · rw [if_neg hmarked] at h
    cases h
    rw [← hlength]
    exact .accepted hnamed (mt (failing topic).2 hmarked)

theorem unchanged_of_perform? {after : Broker} {e : BrokerError}
    (h : H.perform? a = some (.refused e, after, held)) : after = H.broker := by
  cases a with
  | subscribe topic group | publish topic key payload =>
    simp only [perform?] at h
    split at h <;> cases h
    rfl
  | drop serial =>
    obtain ⟨s, -, h⟩ := Option.map_eq_some_iff.1 h
    cases h
  | receive serial =>
    obtain ⟨s, -, h⟩ := Option.map_eq_some_iff.1 h
    split at h <;> cases h
  | failTopic topic | restoreTopic topic => cases h

theorem acceptances_push (H : History) (r : Record) (held : List Subscription) :
    (H.push r held).acceptances = H.acceptances ++ r.accepted?.toList := filterMap_concat ..

theorem acceptances_push_of_none (h : r.accepted? = none) :
    (H.push r held).acceptances = H.acceptances := by
  rw [acceptances_push, h]
  exact List.append_nil _

theorem Counted.start (keepHistory : Bool) : Counted keepHistory (start keepHistory) where
  total := rfl
  published _ := (ite_self _).symm
  retained := (ite_self _).symm

theorem Counted.step_of_no_message {keepHistory : Bool} (C : Counted keepHistory H)
    (hm : r.accepted? = none) (B : SameBooks H.broker r.after) :
    Counted keepHistory (H.push r held) where
  total := by
    rw [acceptances_push_of_none hm, ← C.total]
    exact B.total
  published t := by
    rw [accepted_push_of_none hm, ← C.published t]
    exact B.history t
  retained := B.retained.trans (by rw [C.retained, ← B.total]; rfl)

theorem Counted.step {keepHistory : Bool} (C : Counted keepHistory H)
    (keeps : H.broker.keepHistory = keepHistory) (E : Effect H r held) :
    Counted keepHistory (H.push r held) := by
  cases E with
  | subscribed s tells after alive =>
    exact C.step_of_no_message tells.accepted (sameBooks_subscribe after)
  | dropped s mem tells after alive =>
    exact C.step_of_no_message tells.accepted (after ▸ sameBooks_setGroup ..)
  | received s m mem tells after alive =>
    exact C.step_of_no_message tells.accepted (sameBooks_receive? after)
  | quiet tells topics nextSerial alive =>
    exact C.step_of_no_message tells.accepted (sameBooks_of_topics topics)
  | accepted m tells offset after alive =>
    have htotal : (H.push r held).broker.totalPublished = H.broker.totalPublished + 1 := by
      rw [← totalPublished_accept H.broker m, ← after]
      rfl
    refine ⟨?_, fun t => ?_, ?_⟩
    · rw [htotal, C.total, acceptances_push, tells.accepted, List.length_append]
      rfl
    · show (r.after.topic t).history = _
      have hold : (H.broker.topic t).history = if keepHistory then H.accepted t else [] :=
        C.published t
      rw [after, history_accept, keeps, hold, accepted_push, acceptedOn?_eq tells.accepted]
      cases keepHistory with
      | false => simp
      | true => by_cases ht : t = m.topic <;> simp [ht, eq_comm]
    · rw [htotal]
      show r.after.retained = _
      rw [after, retained_accept, keeps, C.retained]
      cases keepHistory <;> rfl

/-- What every broker keeps: its marks are those that have been set and not been taken back. -/
structure Bookkeeping (keepHistory : Bool) (H : History) : Prop extends Books keepHistory H where
  tied : Tied H
  keeps : H.broker.keepHistory = keepHistory
  failing : ∀ t, t ∈ H.broker.failing ↔ Marked t H.actions

theorem Bookkeeping.start (keepHistory : Bool) : Bookkeeping keepHistory (start keepHistory) where
  toCounted := .start keepHistory
  verdict _ _ _ h := absurd h.symm (List.append_ne_nil_of_right_ne_nil _ (List.cons_ne_nil _ _))
  unchanged _ hr := absurd hr List.not_mem_nil
  offsets _ := rfl
  tied := .start keepHistory
  keeps := rfl
  failing _ := ⟨fun h => absurd h List.not_mem_nil, fun h => absurd h not_marked_nil⟩

theorem Bookkeeping.act {keepHistory : Bool} (B : Bookkeeping keepHistory H) (a : Action) :
    Bookkeeping keepHistory (H.act a) := by
  rw [History.act]
  cases hp : H.perform? a with
  | none => exact B
  | some x =>
    obtain ⟨answer, after, held⟩ := x
    have E := perform?_effect hp
    have T := B.tied.step E
    obtain ⟨hkeeps, hfailing⟩ := perform?_marks hp
    refine ⟨⟨B.toCounted.step B.keeps E, ?_, ?_, fun t => ?_⟩, T, hkeeps.trans B.keeps,
      fun t => ?_⟩
    · intro past r later hrecords topic key payload ha
      obtain rfl | ⟨later, x, rfl⟩ := later.eq_nil_or_concat
      · obtain ⟨rfl, hr⟩ := List.append_inj' hrecords rfl
        cases hr
        cases ha
        exact verdict_of_perform? B.tied B.failing hp
      · rw [List.concat_eq_append, ← List.cons_append, ← List.append_assoc] at hrecords
        exact B.verdict past r later (List.append_inj' hrecords rfl).1 topic key payload ha
    · intro r hr e he
      obtain hr | hr := List.mem_append.1 hr
      · exact B.unchanged r hr e he
      · cases List.mem_singleton.1 hr
        cases he
        exact unchanged_of_perform? hp
    · rw [T.length_accepted, T.offsets]
    · show t ∈ after.failing ↔ Marked t (List.map Record.action (H.records ++ [_]))
      rw [hfailing, B.failing, List.map_append]
      exact marked_concat.symm

/-- Whatever is done with a broker, its books are in order. -/
theorem run_books (keepHistory : Bool) (actions : List Action) :
    Books keepHistory (run keepHistory actions) :=
  (run_induction (.start keepHistory) (fun _ a B => B.act a) actions :
    Bookkeeping keepHistory (run keepHistory actions)).toBooks

/-- A message that is refused takes no number. -/
example : (run true [.publish "calls" "a" [1], .failTopic "calls", .publish "calls" "b" [2],
    .restoreTopic "calls", .publish "calls" "c" [3]]).broker.published "calls" =
      [⟨"calls", "a", [1], 0⟩, ⟨"calls", "c", [3], 1⟩] := by
  decide

end History

end CallGateway.Broker
