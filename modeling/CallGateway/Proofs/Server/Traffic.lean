import CallGateway.Proofs.Server.Call

/-!
# The traffic of a server

Requests come to a server over HTTP, calls are under way next to each other, and each event of the
deployment takes its turn. A call is answered that its procedure has not been found only if one of
the pools that are listed for its service is listed without it.
-/

namespace CallGateway

open Http

/-- A server with its callers. -/
structure Traffic where
  server : Server
  /-- The requests that have entered calls and have not been answered. -/
  waiting : List (Request × Handle) := []
  /-- The requests that have been answered, with their responses. -/
  answers : List (Request × Response) := []

namespace Traffic

inductive Event
  /-- A request is answered before anything else goes on. -/
  | serve (r : Request)
  /-- A request comes; if it enters a call, it waits. -/
  | arrive (r : Request)
  /-- The call of a request that waits has ended. -/
  | answer (k : Nat)
  /-- The caller of a request that waits goes away. -/
  | leave (k : Nat)
  | happen (e : CallGateway.Event)
  | pass (milliseconds : Nat)

def withDeployment (t : Traffic) (d : Deployment) : Traffic :=
  { t with server := { t.server with deployment := d } }

def serve (t : Traffic) (r : Request) : Traffic :=
  { t with
    server := (t.server.handle r).2
    answers := t.answers ++ [(r, (t.server.handle r).1)] }

/-- What an event does. An event that cannot happen does nothing. -/
def step (t : Traffic) : Event → Traffic
  | .serve r => t.serve r
  | .arrive r =>
    match r.call? with
    | none => t.serve r
    | some c =>
      match t.server.enter c (Server.identity r.headers) with
      | (.ok h, s) => { t with server := s, waiting := t.waiting ++ [(r, h)] }
      | (.error e, s) =>
        { t with
          server := s
          answers := t.answers ++ [(r, s.finish r (Server.callResponse (.error e)))] }
  | .answer k =>
    match t.waiting[k]? with
    | none => t
    | some (r, h) =>
      match t.server.deployment.result? 0 h with
      | none => t
      | some result =>
        { t with
          waiting := t.waiting.eraseIdx k
          answers := t.answers ++ [(r, t.server.finish r (Server.callResponse result))] }
  | .leave k =>
    match t.waiting[k]? with
    | none => t
    | some (_, h) =>
      { t.withDeployment (t.server.deployment.cancel 0 h.serial).2 with
        waiting := t.waiting.eraseIdx k }
  | .happen e =>
    match t.server.deployment.step? e with
    | none => t
    | some d => t.withDeployment d
  | .pass ms => t.withDeployment { t.server.deployment with clock := t.server.deployment.clock + ms }

def run (t : Traffic) (events : List Event) : Traffic := events.foldl step t

/-- What comes of a new server by these events. -/
def after (s : Server) (events : List Event) : Traffic := run { server := s } events

/-! ## What events keep -/

/-- A server that has drawn more identifiers lists the same pools. -/
structure Follows (s s' : Server) : Prop where
  pools : s'.pools = s.pools
  fresh : s'.fresh = s.fresh
  used : s.used ≤ s'.used

theorem Follows.refl (s : Server) : Follows s s := ⟨rfl, rfl, Nat.le_refl _⟩

theorem Follows.trans {s₁ s₂ s₃ : Server} (H : Follows s₁ s₂) (H' : Follows s₂ s₃) :
    Follows s₁ s₃ :=
  ⟨H'.pools.trans H.pools, H'.fresh.trans H.fresh, Nat.le_trans H.used H'.used⟩

theorem Follows.of_entered (E : Server.Entered s s') : Follows s s' :=
  ⟨E.pools, E.fresh, E.used ▸ Nat.le_succ _⟩

theorem Follows.drawsDistinct (F : Follows s s') (D : s'.DrawsDistinct) : s.DrawsDistinct := by
  intro i j hi hj h
  rw [← F.fresh] at h
  exact D i j (Nat.lt_of_lt_of_le hi F.used) (Nat.lt_of_lt_of_le hj F.used) h

variable {L : Ledger} {t : Traffic}

theorem follows_handle (s : Server) (r : Request) : Follows s (s.handle r).2 := by
  cases hc : r.call? with
  | none => rw [Server.handle_of_no_call hc]; exact .refl s
  | some c => rw [Server.handle_of_call? hc]; exact .of_entered (Server.entered_call ..)

theorem follows_step (t : Traffic) (e : Event) : Follows t.server (t.step e).server := by
  cases e with
  | serve r => exact follows_handle ..
  | arrive r =>
    rw [step]
    split
    · exact follows_handle ..
    · next c _ =>
      have E := Server.entered_enter t.server c (Server.identity r.headers)
      split <;> next he => rw [he] at E; exact .of_entered E
  | answer k =>
    rw [step]
    split
    · exact .refl _
    · split <;> exact .refl _
  | leave k =>
    rw [step]
    split
    · exact .refl _
    · exact ⟨rfl, rfl, Nat.le_refl _⟩
  | happen e =>
    rw [step]
    split
    · exact .refl _
    · exact ⟨rfl, rfl, Nat.le_refl _⟩
  | pass ms => exact ⟨rfl, rfl, Nat.le_refl _⟩

theorem follows_run (t : Traffic) (events : List Event) :
    Follows t.server (t.run events).server := by
  induction events generalizing t with
  | nil => exact .refl _
  | cons e events ih => exact (follows_step t e).trans (ih (t.step e))

/-- What is listed for callers never changes. -/
theorem procedures_after (s : Server) (events : List Event) :
    (after s events).server.procedures = s.procedures := by
  rw [Server.procedures, Server.procedures, after, (follows_run ..).pools]

/-- A response that says that a procedure has not been found says it of one that is lacking. -/
def Truthful (L : Ledger) (r : Request) (response : Response) : Prop :=
  ∀ c, r.call? = some c → ∀ m, response.errorMessage? = some m → IsNotFound m →
    L.Lacks (requestTopic c.clientType L.suffix) c.procedureName

structure Sound (L : Ledger) (t : Traffic) : Prop where
  server : t.server.Sound L
  waiting : ∀ r h, (r, h) ∈ t.waiting → ∃ c, r.call? = some c ∧ Server.origin L c h ∈ L.asked
  answers : ∀ r response, (r, response) ∈ t.answers → Truthful L r response

/-- A result that is true of the call that a request enters makes a truthful response. -/
theorem truthful_callResponse {r : Request} {c : Call} {result : CallResult} {s : Server}
    (hc : r.call? = some c)
    (H : ∀ reply m, result = .ok reply → reply.errorMessage? = some m → IsNotFound m →
      L.Lacks (requestTopic c.clientType L.suffix) c.procedureName) :
    Truthful L r (s.finish r (Server.callResponse result)) := by
  intro c' hc' m hm hn
  have post := (Server.post_of_call? hc).1
  rw [hc] at hc'
  cases hc'
  rw [Server.errorMessage?_finish (by rw [post]; decide)] at hm
  obtain ⟨reply, hres, hm⟩ := Server.reply_of_notFound hm hn
  exact H reply m hres hm hn

theorem Sound.answered (S : t.Sound L) {s : Server} (hs : s.Sound { L with asked })
    (hL : ∀ o ∈ L.asked, o ∈ asked) {r : Request} {response : Response}
    (h : Truthful L r response) :
    { t with server := s, answers := t.answers ++ [(r, response)] }.Sound { L with asked } := by
  refine ⟨hs, fun r h hw => ?_, fun r response ha => ?_⟩
  · obtain ⟨c, hc, ho⟩ := S.waiting r h hw
    exact ⟨c, hc, hL _ ho⟩
  · rcases List.mem_append.1 ha with ha | ha
    · exact S.answers r response ha
    · cases List.mem_singleton.1 ha
      exact h

theorem Sound.serve (S : t.Sound L) (r : Request) (D : (t.serve r).server.DrawsDistinct) :
    ∃ asked, (t.serve r).Sound { L with asked } := by
  cases hc : r.call? with
  | none =>
    have hs := Server.handle_of_no_call hc t.server
    refine ⟨L.asked, S.answered (by rw [hs]; exact S.server) (fun _ h => h) fun c hc' => ?_⟩
    rw [hc] at hc'
    cases hc'
  | some c =>
    have hh := Server.handle_of_call? hc t.server
    rw [Traffic.serve, hh] at D ⊢
    obtain ⟨hs, hr⟩ := S.server.call rfl D
    rcases hs with hs | ⟨k, hs⟩
    · exact ⟨L.asked, S.answered hs (fun _ h => h) (truthful_callResponse hc hr)⟩
    · exact ⟨_, S.answered hs (fun _ h => List.mem_append_left _ h) (truthful_callResponse hc hr)⟩

theorem Sound.withDeployment (S : t.Sound L) {d : Deployment} (H : d.Honest L) :
    (t.withDeployment d).Sound L :=
  ⟨S.server.withDeployment H, S.waiting, S.answers⟩

theorem Sound.arrive (S : t.Sound L) (r : Request)
    (D : (t.step (.arrive r)).server.DrawsDistinct) :
    ∃ asked, (t.step (.arrive r)).Sound { L with asked } := by
  rw [step] at D ⊢
  cases hc : r.call? with
  | none => rw [hc] at D; exact S.serve r D
  | some c =>
    rw [hc] at D
    dsimp only at D ⊢
    cases he : t.server.enter c (Server.identity r.headers) with
    | mk res s =>
      rw [he] at D
      cases res with
      | error e =>
        rcases S.server.enter he D with ⟨_, -, hs⟩ | ⟨_, hk, -⟩
        · exact ⟨L.asked, S.answered hs (fun _ h => h) (truthful_callResponse hc nofun)⟩
        · cases hk
      | ok k =>
        rcases S.server.enter he D with ⟨_, hk, -⟩ | ⟨_, hk, hs⟩
        · cases hk
        · cases hk
          refine ⟨_, hs, fun r' h hw => ?_, S.answers⟩
          rcases List.mem_append.1 hw with hw | hw
          · obtain ⟨c', hc', ho⟩ := S.waiting r' h hw
            exact ⟨c', hc', List.mem_append_left _ ho⟩
          · cases List.mem_singleton.1 hw
            exact ⟨c, hc, List.mem_append_right _ (.head _)⟩

theorem Sound.answer (S : t.Sound L) (k : Nat) : (t.step (.answer k)).Sound L := by
  rw [step]
  cases hk : t.waiting[k]? with
  | none => exact S
  | some p =>
    obtain ⟨r, h⟩ := p
    dsimp only
    cases hres : t.server.deployment.result? 0 h with
    | none => exact S
    | some result =>
      obtain ⟨c, hc, ho⟩ := S.waiting r h (List.mem_of_getElem? hk)
      have fits : ∀ reply m, result = .ok reply → reply.errorMessage? = some m → IsNotFound m →
          L.Lacks (requestTopic c.clientType L.suffix) c.procedureName := fun reply m hr => by
        subst hr
        exact S.server.lacks_of_fits ho (S.server.honest.result? hres)
      have S' := S.answered S.server (fun _ h => h)
        (truthful_callResponse (s := t.server) hc fits)
      exact ⟨S'.server, fun r' h' hw => S'.waiting r' h' (List.mem_of_mem_eraseIdx hw), S'.answers⟩

/-- Every event keeps the server sound and its responses truthful. -/
theorem Sound.step (S : t.Sound L) (e : Event) (D : (t.step e).server.DrawsDistinct) :
    ∃ asked, (t.step e).Sound { L with asked } := by
  cases e with
  | serve r => exact S.serve r D
  | arrive r => exact S.arrive r D
  | answer k => exact ⟨L.asked, S.answer k⟩
  | leave k =>
    refine ⟨L.asked, ?_⟩
    rw [Traffic.step]
    split
    · exact S
    · next h _ =>
      have S' := S.withDeployment (S.server.honest.cancel 0 h.serial)
      exact ⟨S'.server, fun r h hw => S.waiting r h (List.mem_of_mem_eraseIdx hw), S'.answers⟩
  | happen e =>
    refine ⟨L.asked, ?_⟩
    rw [Traffic.step]
    split
    · exact S
    · next h => exact S.withDeployment (S.server.honest.step? S.server.distinct h)
  | pass ms => exact ⟨L.asked, S.withDeployment (S.server.honest.withClock _)⟩

theorem Sound.run (S : t.Sound L) (events : List Event)
    (D : (t.run events).server.DrawsDistinct) : ∃ asked, (t.run events).Sound { L with asked } := by
  induction events generalizing t L with
  | nil => exact ⟨L.asked, S⟩
  | cons e events ih =>
    obtain ⟨asked, S₁⟩ := S.step e ((follows_run _ events).drawsDistinct D)
    obtain ⟨asked', S₂⟩ := ih S₁ D
    exact ⟨asked', S₂⟩

theorem Sound.start {settings : Settings} {fresh : Nat → Uuid} {calendar : Nat → Instant}
    {s : Server} (H : Server.start settings fresh calendar = .ok s) :
    Sound s.ledger { server := s } :=
  ⟨⟨(Server.start_honest H).1, s.distinct_ledger, fun _ h => absurd h List.not_mem_nil⟩,
    fun _ _ h => absurd h List.not_mem_nil, fun _ _ h => absurd h List.not_mem_nil⟩

/-- A procedure that every pool of a service is listed with, among those that have replicas, is
found by all calls for that service. -/
theorem found_of_listed {settings : Settings} {fresh : Nat → Uuid} {calendar : Nat → Instant}
    {s : Server} (H : Server.start settings fresh calendar = .ok s) (events : List Event)
    (distinct : (after s events).server.DrawsDistinct) {r : Request} {response : Response}
    (answered : (r, response) ∈ (after s events).answers) {c : Call} (entered : r.call? = some c)
    (listed : ∀ p ∈ s.pools, p.service = serviceName c.clientType → 0 < p.replicas →
      p.Lists c.procedureName) :
    response.errorMessage? ≠ some s!"Procedure '{c.procedureName}' not found" := by
  intro hm
  obtain ⟨asked, S⟩ := (Sound.start H).run events distinct
  have lacks := S.answers r response answered c entered _ hm ⟨c.procedureName, rfl⟩
  obtain ⟨p, hp, hr, ht, hl⟩ : ∃ p ∈ s.pools, 0 < p.replicas ∧
      serviceName c.clientType ++ s.settings.gateway.topicSuffix =
        p.service ++ s.settings.gateway.topicSuffix ∧ ¬ p.Lists c.procedureName := lacks
  exact hl (listed p hp ((String.append_left_inj _).1 ht).symm hr)

/-! ## Samples -/

/-- The numbers of 128 bits in turn. -/
def counted (n : Nat) : Uuid := ⟨BitVec.ofNat 128 n⟩

theorem drawsDistinct_of_counted {s : Server} (hf : s.fresh = counted) (hu : s.used ≤ 2 ^ 128) :
    s.DrawsDistinct := by
  intro i j hi hj h
  rw [hf] at h
  have h := congrArg (fun u : Uuid => u.bits.toNat) h
  simp only [counted, BitVec.toNat_ofNat] at h
  rwa [Nat.mod_eq_of_lt (by omega), Nat.mod_eq_of_lt (by omega)] at h

/-- The name of the procedure that a pool is listed with first. -/
def firstListed? (p : PoolInfo) : Option String :=
  match p.procedures with
  | .array (.object ((k, .string n) :: _) :: _) => if k = "name" then some n else none
  | _ => none

theorem lists_of_firstListed? {p : PoolInfo} (H : firstListed? p = some name) : p.Lists name := by
  rw [firstListed?] at H
  split at H
  · next h =>
    split at H
    · next hk =>
      cases H
      subst hk
      exact ⟨_, _, h, .head _, .head _⟩
    · cases H
  · cases H

def echoCall : Call := ⟨"CLIENT_1", "echo", .ofUInt64 1⟩

def echoRequest : Request where
  method := "POST"
  target := "/api/v1/procedures/execute"
  headers := [("content-type", Bytes.ofString "application/json")]
  body := echoCall.toJson.print

/-- What the request asks for, as far as it decides who answers. -/
theorem call?_echoRequest :
    ∃ c, echoRequest.call? = some c ∧ c.clientType = "CLIENT_1" ∧ c.procedureName = "echo" := by
  have h : (echoRequest.call?.any fun c =>
      c.clientType == "CLIENT_1" && c.procedureName == "echo") = true := by decide +kernel
  obtain ⟨c, hc, h⟩ := (Option.any_eq_true _ _).1 h
  simp only [Bool.and_eq_true, beq_iff_eq] at h
  exact ⟨c, hc, h⟩

/-- A server that starts and passes a test. -/
theorem start_of_test (settings : Settings) (test : Server → Bool)
    (H : (match Server.start settings counted fun _ => .epoch with
      | .ok s => test s
      | .error _ => false) = true) :
    ∃ s, Server.start settings counted (fun _ => .epoch) = .ok s ∧ test s = true := by
  cases hs : Server.start settings counted fun _ => .epoch with
  | error e => rw [hs] at H; cases H
  | ok s => rw [hs] at H; exact ⟨s, rfl, H⟩

theorem after_drawsDistinct {settings : Settings} {calendar : Nat → Instant} {s : Server}
    (H : Server.start settings counted calendar = .ok s) (events : List Event)
    (hu : (after s events).server.used ≤ 2 ^ 128) : (after s events).server.DrawsDistinct :=
  drawsDistinct_of_counted
    ((follows_run { server := s } events).fresh.trans (Server.start_honest H).2) hu

def onePool : Settings :=
  { gateway := { instanceId := some "gw" }
    pools := [{ service := "client-1", procedures := ["echo"] }] }

/-- One service under two spellings, with different procedures. -/
def twoPools : Settings :=
  { gateway := { instanceId := some "gw" }
    pools := [{ service := "CLIENT_1", procedures := ["echo"] },
      { service := "client-1", procedures := ["calculateSum"] }] }

theorem echo_found : ∃ s, Server.start onePool counted (fun _ => .epoch) = .ok s ∧
    ∃ response, (echoRequest, response) ∈ (after s [.serve echoRequest]).answers ∧
      response.errorMessage? ≠ some "Procedure 'echo' not found" := by
  obtain ⟨s, hs, H⟩ := start_of_test onePool (fun s =>
    s.pools.all (fun p => firstListed? p == some "echo") &&
      decide ((after s [.serve echoRequest]).server.used ≤ 2 ^ 128)) (by decide +kernel)
  simp only [Bool.and_eq_true, decide_eq_true_eq, beq_iff_eq, List.all_eq_true] at H
  obtain ⟨hl, hu⟩ := H
  obtain ⟨c, hc, -, hn⟩ := call?_echoRequest
  have found := found_of_listed hs [.serve echoRequest] (after_drawsDistinct hs _ hu) (.head _) hc
    fun p hp _ _ => hn ▸ lists_of_firstListed? (hl p hp)
  rw [hn] at found
  exact ⟨s, hs, _, .head _, found⟩

/-- Two pools serve the calls of one service in turn, and the one that is not listed with a
procedure does not find it, though the other one is. -/
theorem not_found_though_listed : ∃ s, Server.start twoPools counted (fun _ => .epoch) = .ok s ∧
    ∃ events, (after s events).server.DrawsDistinct ∧
    ∃ r response, (r, response) ∈ (after s events).answers ∧ ∃ c, r.call? = some c ∧
      (∃ p ∈ s.pools, p.service = serviceName c.clientType ∧ 0 < p.replicas ∧
        p.Lists c.procedureName) ∧
      response.errorMessage? = some s!"Procedure '{c.procedureName}' not found" := by
  obtain ⟨s, hs, H⟩ := start_of_test twoPools (fun s =>
    s.pools.any (fun p => p.service == serviceName "CLIENT_1" && decide (0 < p.replicas) &&
      firstListed? p == some "echo") &&
    decide ((after s [.serve echoRequest, .serve echoRequest]).server.used ≤ 2 ^ 128) &&
    ((s.handle echoRequest).2.handle echoRequest).1.errorMessage? ==
      some "Procedure 'echo' not found") (by decide +kernel)
  simp only [Bool.and_eq_true, decide_eq_true_eq, beq_iff_eq, List.any_eq_true] at H
  obtain ⟨⟨⟨p, hp, ⟨hsv, hr⟩, hl⟩, hu⟩, hm⟩ := H
  obtain ⟨c, hc, ht, hn⟩ := call?_echoRequest
  refine ⟨s, hs, [.serve echoRequest, .serve echoRequest], after_drawsDistinct hs _ hu,
    echoRequest, _, .tail _ (.head _), c, hc,
    ⟨p, hp, ht ▸ hsv, hr, hn ▸ lists_of_firstListed? hl⟩, ?_⟩
  rw [hn]
  exact hm

end Traffic

end CallGateway
