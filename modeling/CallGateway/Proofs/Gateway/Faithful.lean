import CallGateway.Proofs.Broker.History
import CallGateway.Proofs.Gateway.Accounts

/-!
# The contract of a gateway

Whatever happens to a gateway and in whatever order, every call that it accepts ends once: with the
first reply that comes while it is under way, or by its deadline, or because its request could not
be sent, or because its caller leaves. The counters are those of the log.
-/

namespace CallGateway.Session

variable {s s' : Session} {n : Note} {h k : Handle}

/-- What a call may lack to be accepted. -/
def Reason (e : GatewayError) : Prop := e = .blankProcedureName ∨
  (∃ c, e = .unnamedService c) ∨ ∃ service known, e = .serviceNotFound service known

/-- What a session promises to callers and operators. -/
structure Faithful (s : Session) : Prop where
  /-- No call is refused because of others. -/
  refused : ∀ id e, .refused id e ∈ s.log → Reason e
  once : ∀ h ∈ s.accepted,
    h ∈ s.opened ∧ s.endings h = [] ∨ h ∉ s.opened ∧ ∃ n, s.endings h = [n]
  /-- From its deadline on every call can be brought to its end, and before if its fate is known. -/
  progress : ∀ i c, s.gateway.calls[i]? = some c →
    (s.fate? c.handle ≠ none →
      ∃ o, (s.step (.conclude i)).endings c.handle = [.concluded c.handle o]) ∧
    (c.deadline ≤ s.clock →
      ∃ o, ((s.step (.expire i)).step (.conclude i)).endings c.handle = [.concluded c.handle o])
  /-- When all deadlines are over and nothing is left to do, all calls have ended. -/
  rest : (∀ c ∈ s.gateway.calls, c.deadline ≤ s.clock ∧
      s.gateway.expire? s.clock c = none ∧ s.gateway.conclude? c = none) →
    ∀ h ∈ s.accepted, ∃ n, s.endings h = [n]
  reply : ∀ h r, .concluded h (.ok r) ∈ s.log → r.requestId = h.requestId ∧
    ∃ l₁ l₂ l₃, s.log = l₁ ++ .accepted h :: (l₂ ++ .received r :: l₃) ∧
      ∀ n ∈ l₂, n.fate? h = none
  error : ∀ h e, .concluded h (.error e) ∈ s.log →
    (∃ ms, e = .timeout h.requestId ms ∧ s.fate? h = some (.overdue ms)) ∨
    ∃ topic reason, e = .brokerPublish h.requestId topic reason ∧
      s.fate? h = some (.unsent topic reason)
  gone : ∀ h ∈ s.accepted, s.fate? h ≠ none ∨ s.endings h ≠ [] →
    s.table.entries.get? h.requestId = none
  /-- A reply that a listener receives decides the call that waits for it. -/
  hears : ∀ k l m b r, s.gateway.listeners[k]? = some l → s.broker.receive? l = some (m, b) →
    Reply.ofBytes m.payload = .ok r → ∀ h ∈ s.accepted, r.requestId = h.requestId →
      s.fate? h = none → (s.step (.listen k)).fate? h = some (.replied r)
  undecodable : ∀ payload e, Reply.ofBytes payload = .error e → s.gateway.take payload = s.gateway
  stats : s.table.stats =
    { inFlight := .ofNat s.log.undecided
      completed := .ofNat (s.log.ofKind .replied)
      timedOut := .ofNat (s.log.ofKind .overdue)
      failed := .ofNat (s.log.ofKind .unsent)
      interrupted := .ofNat (s.log.ofKind .abandoned)
      droppedReplies := .ofNat s.log.strays }

/-! ## What runs keep -/

theorem submitted_taking (payload : Bytes) : (taking payload).submitted? = none := by
  rw [taking]
  split <;> rfl

/-- A step notes its submission, if it is one, and no other. -/
theorem Happens.exists_log {e : Event} (H : s.Happens e s') :
    ∃ notes : Log, s'.log = s.log ++ notes ∧ notes.submitted = e.request?.toList := by
  cases H with
  | refuse | accept | fail | expire | conclude | leave => exact ⟨_, rfl, rfl⟩
  | listen =>
    refine ⟨_, rfl, ?_⟩
    rw [Log.submitted, List.filterMap_cons, submitted_taking]; rfl
  | publish | startListener | stopListener | tick | elsewhere =>
    exact ⟨[], (List.append_nil _).symm, rfl⟩
  | noRequest | noMessage | notLate | noResult | noCall | noListener =>
    exact ⟨[], (List.append_nil _).symm, rfl⟩

theorem submitted_step (s : Session) (e : Event) :
    (s.step e).log.submitted = s.log.submitted ++ e.request?.toList := by
  obtain ⟨notes, h1, h2⟩ := (s.happens e).exists_log
  rw [h1, Log.submitted, List.filterMap_append, ← h2]; rfl

theorem submitted_run (s : Session) (events : List Event) :
    (s.run events).log.submitted = s.log.submitted ++ submissions events := by
  induction events generalizing s with
  | nil => exact (List.append_nil _).symm
  | cons e events ih =>
    have hs : submissions (e :: events) = e.request?.toList ++ submissions events := by
      rw [submissions, List.filterMap_cons]
      cases e.request? <;> rfl
    rw [run, List.foldl_cons, ← run, ih, submitted_step, List.append_assoc, hs]

theorem reason_of_resolveTopic {d : Directory} (H : resolveTopic d suffix c = .error e) :
    Reason e := by
  rw [resolveTopic] at H
  split at H
  · cases H; exact .inr (.inl ⟨_, rfl⟩)
  · split at H
    · cases H
    · cases H; exact .inr (.inr ⟨_, _, rfl⟩)

/-- A request with an identifier of its own is refused for what it lacks, if at all. -/
theorem Inv.reason (I : Inv s) {d : Directory} {e : Envelope}
    (fresh : e.requestId ∉ s.log.submitted) (H : s.gateway.submit d s.clock e = .error err) :
    Reason err := by
  rw [Gateway.submit_eq] at H
  split at H
  · cases H; exact .inl rfl
  · split at H
    · next hr => cases H; exact reason_of_resolveTopic hr
    · rw [PendingTable.create_eq] at H
      cases hid : s.gateway.pending.entries.get? e.requestId with
      | some n => exact absurd (I.submitted _ (I.entry hid)) fresh
      | none => rw [hid] at H; cases H

/-- What runs keep. -/
structure Sound (s : Session) : Prop where
  inv : Inv s
  counted : Counted s
  refused : ∀ id e, .refused id e ∈ s.log → Reason e

theorem Sound.start (config : GatewayConfig) (b : Broker) : Sound (start config b) :=
  ⟨.start config b, .start config b, fun _ _ h => absurd h List.not_mem_nil⟩

theorem Sound.step (S : Sound s) (e : Event) (distinct : (s.step e).log.submitted.Nodup) :
    Sound (s.step e) := by
  refine ⟨S.inv.push (S.inv.effect e) distinct, S.counted.push S.inv (S.inv.effect e),
    fun id err h => ?_⟩
  obtain ⟨notes, hl, hn⟩ := (s.happens e).exists_log
  rw [hl, List.mem_append] at h
  rcases h with h | h
  · exact S.refused id err h
  · have hid : id ∈ e.request?.toList := hn ▸ List.mem_filterMap.2 ⟨_, h, rfl⟩
    cases e with
    | submit d e =>
      rw [submitted_step, List.nodup_append] at distinct
      have fresh : e.requestId ∉ s.log.submitted := fun h => distinct.2.2 _ h _ (.head _) rfl
      rw [Session.step] at hl
      split at hl
      · cases List.append_cancel_left hl
        cases List.mem_singleton.1 h
      · next hs =>
        cases List.append_cancel_left hl
        cases List.mem_singleton.1 h
        exact S.inv.reason fresh hs
    | _ => cases hid

theorem Sound.run (S : Sound s) (events : List Event)
    (distinct : (s.run events).log.submitted.Nodup) : Sound (s.run events) := by
  induction events generalizing s with
  | nil => exact S
  | cons e events ih =>
    have hd := distinct
    rw [Session.run, List.foldl_cons, ← Session.run, submitted_run, List.nodup_append] at hd
    exact ih (S.step e hd.1) distinct

/-! ## The end of a call -/

theorem Inv.of_concluded (I : Inv s) (hn : .concluded h o ∈ s.log) : h ∈ s.accepted ∧
    ∃ f, s.fate? h = some f ∧ f.result? h.requestId = some o := by
  have he : (Note.concluded h o).ends h = true := decide_eq_true rfl
  have hh := I.ends _ hn h he
  have hm : .concluded h o ∈ s.endings h := List.mem_filter.2 ⟨hn, he⟩
  refine ⟨hh, ?_⟩
  cases I.stage h hh with
  | waiting _ _ _ _ h5 => rw [h5] at hm; cases hm
  | settled _ _ _ _ _ _ _ h6 => rw [h6] at hm; cases hm
  | concluded f o' h1 h2 _ _ h5 =>
    rw [h5] at hm
    cases List.mem_singleton.1 hm
    exact ⟨f, h1, h2⟩
  | left _ _ _ _ h4 => rw [h4] at hm; cases List.mem_singleton.1 hm

theorem Inv.endings_conclude (I : Inv s) {i : Nat} {c : OpenCall}
    (hc : s.gateway.calls[i]? = some c) (hf : s.fate? c.handle ≠ none) :
    ∃ o, (s.step (.conclude i)).endings c.handle = [.concluded c.handle o] := by
  have hm := mem_opened_of_getElem? hc
  cases I.stage _ (I.opened _ hm) with
  | waiting h1 => exact absurd h1 hf
  | settled f o _ _ _ h4 _ h6 =>
    have hr : s.gateway.pending.result? c.handle = some o := by rw [PendingTable.result?, h4]
    refine ⟨o, ?_⟩
    rw [step, hc]
    dsimp only
    rw [hr, Gateway.conclude?, hr]
    refine (endings_of_log rfl).trans ?_
    rw [h6, Note.ends, decide_eq_true rfl]; rfl
  | concluded _ _ _ _ _ h4 | left _ _ _ h4 => exact absurd hm h4

theorem Inv.endings_expire (I : Inv s) (distinct : s.log.submitted.Nodup) {i : Nat} {c : OpenCall}
    (hc : s.gateway.calls[i]? = some c) (hd : c.deadline ≤ s.clock) :
    ∃ o, ((s.step (.expire i)).step (.conclude i)).endings c.handle = [.concluded c.handle o] := by
  have hl : (s.step (.expire i)).log =
      s.log ++ [.expired c.handle s.gateway.config.requestTimeout] := by
    rw [step, hc]
    dsimp only
    rw [if_pos hd]
  have hc' : (s.step (.expire i)).gateway.calls[i]? = some c := by
    rw [step, hc]
    dsimp only
    rw [if_pos hd]
    exact hc
  have I' := I.push (I.effect (.expire i)) <| by
    rw [submitted_step]
    exact (List.append_nil _).symm ▸ distinct
  refine I'.endings_conclude hc' ?_
  rw [fate?_of_log (I.opened _ (mem_opened_of_getElem? hc)) hl, Note.fate?, if_pos rfl]
  cases s.fate? c.handle <;> (intro h; cases h)

theorem Inv.ended_of_rest (I : Inv s) (rest : ∀ c ∈ s.gateway.calls, c.deadline ≤ s.clock ∧
    s.gateway.expire? s.clock c = none ∧ s.gateway.conclude? c = none) (hh : h ∈ s.accepted) :
    ∃ n, s.endings h = [n] := by
  cases I.stage h hh with
  | waiting _ _ h3 h4 =>
    obtain ⟨c, hc, rfl⟩ := List.mem_map.1 h4
    obtain ⟨h1, h2, -⟩ := rest c hc
    rw [Gateway.expire?, h3] at h2
    dsimp only at h2
    rw [if_pos h1] at h2
    cases h2
  | settled f o _ _ _ h4 h5 =>
    obtain ⟨c, hc, rfl⟩ := List.mem_map.1 h5
    obtain ⟨-, -, h3⟩ := rest c hc
    rw [Gateway.conclude?, PendingTable.result?, h4] at h3
    cases h3
  | concluded _ _ _ _ _ _ h5 => exact ⟨_, h5⟩
  | left _ _ _ _ h4 => exact ⟨_, h4⟩

theorem received_of_fate? (hn : n.fate? h = some (.replied r)) :
    n = .received r ∧ r.requestId = h.requestId := by
  cases n with
  | received r' =>
    rw [Note.fate?] at hn
    split at hn
    · next hr => cases hn; exact ⟨rfl, hr⟩
    · cases hn
  | expired | unsent | left => rw [Note.fate?] at hn; split at hn <;> cases hn
  | accepted | refused | discarded | concluded => cases hn

theorem log_listen {k : Nat} {l : Subscription} {m : Message} {b : Broker}
    (hl : s.gateway.listeners[k]? = some l) (hr : s.broker.receive? l = some (m, b)) :
    (s.step (.listen k)).log = s.log ++ [taking m.payload] := by
  rw [step, hl]
  dsimp only
  rw [Gateway.listen?, hr]
  rfl

theorem Sound.faithful (S : Sound s) (distinct : s.log.submitted.Nodup) : Faithful s where
  refused := S.refused
  once h hh := by
    cases S.inv.stage h hh with
    | waiting _ _ _ h4 h5 => exact .inl ⟨h4, h5⟩
    | settled _ _ _ _ _ _ h5 h6 => exact .inl ⟨h5, h6⟩
    | concluded _ _ _ _ _ h4 h5 => exact .inr ⟨h4, _, h5⟩
    | left _ _ _ h3 h4 => exact .inr ⟨h3, _, h4⟩
  progress i c hc := ⟨S.inv.endings_conclude hc, S.inv.endings_expire distinct hc⟩
  rest h _ hh := S.inv.ended_of_rest h hh
  reply h r hn := by
    obtain ⟨-, f, hf, hr⟩ := S.inv.of_concluded hn
    cases f with
    | replied r' =>
      cases hr
      obtain ⟨l₁, l₂, n, l₃, hl, hn, hm⟩ := Log.exists_of_fate? hf
      obtain ⟨rfl, hid⟩ := received_of_fate? hn
      exact ⟨hid, l₁, l₂, l₃, hl, hm⟩
    | overdue | unsent | abandoned => cases hr
  error h e hn := by
    obtain ⟨-, f, hf, hr⟩ := S.inv.of_concluded hn
    cases f with
    | overdue ms => cases hr; exact .inl ⟨ms, rfl, hf⟩
    | unsent topic reason => cases hr; exact .inr ⟨topic, reason, rfl, hf⟩
    | replied | abandoned => cases hr
  gone h hh hf := by
    have T := S.inv.stage h hh
    cases T with
    | waiting h1 _ _ _ h5 => exact absurd h5 (hf.resolve_left (absurd h1))
    | settled _ _ _ _ h3 | concluded _ _ _ _ h3 | left _ _ h3 => exact h3
  hears k l m b r hl hr hm h hh hid hf := by
    rw [fate?_of_log hh (log_listen hl hr), hf, taking, hm, Note.fate?, if_pos hid]
    rfl
  undecodable payload e he := by rw [Gateway.take, he]
  stats := by
    have hc := S.counted.counter
    have hi : UInt64.ofNat s.table.size = UInt64.ofNat s.log.undecided := by rw [S.counted.size]
    rw [PendingTable.stats, hi, ← hc .replied, ← hc .overdue, ← hc .unsent, ← hc .abandoned,
      ← S.counted.dropped]
    rfl

/-- Every session of a new gateway is faithful, in whatever order things happen. -/
theorem run_faithful (config : GatewayConfig) (b : Broker) (events : List Event)
    (distinct : (submissions events).Nodup) : Faithful ((start config b).run events) := by
  have hd : ((start config b).run events).log.submitted.Nodup := by
    rw [submitted_run]; exact distinct
  exact ((Sound.start config b).run events hd).faithful hd

/-- A pool whose topic takes requests, and one whose topic does not. -/
def pools : Directory := { services := Keyed.set (.set .empty "a" [⟨0⟩]) "b" [⟨1⟩] }

def call (id : Uuid) (clientType : String) : Envelope :=
  ⟨id, clientType, "echo", .null, "", {}, .epoch⟩

/-- The reply to the first call, the same once more, and something that is no reply. -/
def inbox : List Bytes :=
  let r := Reply.toBytes ⟨⟨1⟩, .success (.string "pong")⟩
  [r, r, []]

/-- The listener of the gateway has its inbox before it. -/
def busy : Broker := .failTopic
  (Broker.History.run false (.subscribe "gw-replies" "gw" ::
    inbox.map fun payload => .publish "gw-replies" "" payload)).broker "b-procedures"

/-- One call is replied to, twice; one cannot be sent; one runs into its deadline; and the caller of
the last one leaves. -/
def mixed : List Event :=
  [.startListener, .submit pools (call ⟨1⟩ "A"), .submit pools (call ⟨2⟩ "B"),
    .submit pools (call ⟨3⟩ "A"), .submit pools (call ⟨4⟩ "a"), .elsewhere busy, .publish 1,
    .listen 0, .listen 0, .listen 0, .conclude 0, .conclude 0, .tick 30000, .expire 0, .conclude 0,
    .leave 3]

theorem faithful_mixed : let s := (start ⟨"gw", 30000, "-procedures"⟩ {}).run mixed
    (submissions mixed).Nodup ∧ s.accepted.map (·.requestId) = [⟨1⟩, ⟨2⟩, ⟨3⟩, ⟨4⟩] ∧
      s.opened = [] ∧ s.gateway.ended.map (fun (n, r) => (n, r.toOption.map (·.toBytes))) =
        [(0, inbox.head?), (1, none), (2, none)] ∧
      s.table.stats = ⟨0, 1, 1, 1, 1, 1⟩ ∧ Faithful s := by
  intro s
  have distinct : (submissions mixed).Nodup := by decide
  refine ⟨distinct, ?_, ?_, ?_, ?_, run_faithful _ {} mixed distinct⟩
  all_goals decide +kernel

end CallGateway.Session
