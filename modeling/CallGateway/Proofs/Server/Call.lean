import CallGateway.Proofs.Server.Start
import CallGateway.Server.Api

/-!
# Calls to a server

What the response to a call says is what its reply says, and an honest server that enters a call
under an identifier of its own stays honest.
-/

namespace CallGateway

open Json Fields Http

/-- The error message in the body of a response. -/
def Http.Response.errorMessage? (r : Response) : Option String :=
  match decode (Fields.decoder "ErrorBody" (optional "errorMessage" (.option .string) none)) r.body with
  | .ok m => m
  | .error _ => none

/-- The call that a request enters: it is posted on one of the paths for calls. -/
def Http.Request.call? (r : Request) : Option Call :=
  if r.method = "POST" ∧ Server.Route.ofPath? r.path = some .execute then
    (Server.callOf r).toOption
  else none

namespace Server

/-! ## Responses -/

section
variable {response : Response} {fs : List (String × Value)} {m : String}

theorem errorMessage_of_object (body : response.body = (Value.object fs).print)
    (H : response.errorMessage? = some m) :
    (optional "errorMessage" (.option .string) none).ofMembers (Value.readBackFields 1 fs) =
      .ok (some m) := by
  rw [Response.errorMessage?, body] at H
  split at H
  · next h => subst H; exact decode_object h
  · cases H

theorem errorMessage_of_member (body : response.body = (Value.object fs).print)
    (h : fs.lookup "errorMessage" = some (.string m')) (H : response.errorMessage? = some m) :
    m = m' := by
  have hm := field_member (errorMessage_of_object body H) h
  exact (Option.some.inj (Except.ok.inj hm)).symm

theorem errorMessage_of_no_member (body : response.body = (Value.object fs).print)
    (h : fs.lookup "errorMessage" = none) : response.errorMessage? ≠ some m := fun H => by
  cases field_no_member (errorMessage_of_object body H) h

end

/-- An error response has the message of the error. -/
theorem errorMessage?_errorResponse {e : ApiError} {m : String}
    (H : (errorResponse e).errorMessage? = some m) : m = e.message := by
  refine errorMessage_of_member rfl ?_ H
  cases e.requestId? <;> simp [List.lookup_cons]

theorem errorMessage?_reply {r : Reply} {m : String}
    (H : (callResponse (.ok r)).errorMessage? = some m) : r.errorMessage? = some m := by
  obtain ⟨fs, hfs, -, -, he, -⟩ := r.toJson_eq
  have body : (callResponse (.ok r)).body = (Value.object fs).print := congrArg Value.print hfs
  cases hm : r.errorMessage? with
  | none =>
    rw [hm] at he
    exact absurd H (errorMessage_of_no_member body he)
  | some m' =>
    rw [hm] at he
    rw [errorMessage_of_member body he H]

/-- The message of a missing procedure comes from a reply. -/
theorem reply_of_notFound {res : CallResult} {m : String}
    (H : (callResponse res).errorMessage? = some m) (hn : IsNotFound m) :
    ∃ r, res = .ok r ∧ r.errorMessage? = some m := by
  cases res with
  | ok r => exact ⟨r, rfl, errorMessage?_reply H⟩
  | error e =>
    rw [errorMessage?_errorResponse H] at hn
    exact absurd hn e.message_ne_notFound

/-- What is told besides does not touch the body. -/
theorem errorMessage?_finish {s : Server} {r : Request} (H : r.method ≠ "HEAD")
    (response : Response) : (s.finish r response).errorMessage? = response.errorMessage? := by
  rw [finish, if_neg H]
  rfl

/-! ## Requests that enter calls -/

theorem post_of_call? {r : Request} {c : Call} (H : r.call? = some c) :
    r.method = "POST" ∧ Route.ofPath? r.path = some .execute ∧ callOf r = .ok c := by
  rw [Request.call?] at H
  split at H
  · next h =>
    refine ⟨h.1, h.2, ?_⟩
    cases hc : callOf r with
    | error e => rw [hc] at H; cases H
    | ok c' => rw [hc] at H; cases H; rfl
  · cases H

theorem handle_of_call? {r : Request} {c : Call} (H : r.call? = some c) (s : Server) :
    s.handle r = ((s.call c (identity r.headers)).2.finish r
        (callResponse (s.call c (identity r.headers)).1),
      (s.call c (identity r.headers)).2) := by
  obtain ⟨hm, hp, hc⟩ := post_of_call? H
  have preflight : s.isPreflight r = false := by simp [isPreflight, hm]
  rw [handle, preflight, hp]
  dsimp only
  rw [if_neg (by decide), serve.eq_def, if_pos (by rw [hm]; decide)]
  dsimp only
  rw [execute, hc]

/-- A request that enters no call changes nothing. -/
theorem handle_of_no_call {r : Request} (H : r.call? = none) (s : Server) : (s.handle r).2 = s := by
  have served (route : Route) (hp : Route.ofPath? r.path = some route) :
      (s.serve route r).2 = s := by
    rw [serve.eq_def]
    split
    · next hm =>
      cases route with
      | health | procedures => rfl
      | execute =>
        have hm : r.method = "POST" := by simpa [Route.methods] using hm
        rw [Request.call?, if_pos ⟨hm, hp⟩] at H
        rw [execute]
        cases hc : callOf r with
        | error e => rfl
        | ok c => rw [hc] at H; cases H
    · rfl
  rw [handle]
  dsimp only
  split
  · rfl
  · cases hp : Route.ofPath? r.path with
    | none => rfl
    | some route => exact served route hp

/-! ## Honest servers -/

/-- Every request has an identifier that the server has drawn. -/
structure Sound (L : Ledger) (s : Server) : Prop where
  honest : s.deployment.Honest L
  distinct : L.Distinct
  drawn : ∀ o ∈ L.asked, ∃ i < s.used, o.handle.requestId = s.fresh i

/-- The identifiers that have been drawn are all different. -/
def DrawsDistinct (s : Server) : Prop :=
  ∀ i j, i < s.used → j < s.used → s.fresh i = s.fresh j → i = j

variable {L : Ledger} {s s' : Server} {c : Call} {caller : Metadata}

/-- What is asked for when a call is entered. -/
def origin (L : Ledger) (c : Call) (h : Handle) : Origin :=
  ⟨h, requestTopic c.clientType L.suffix, c.procedureName⟩

theorem Sound.withDeployment (S : s.Sound L) {d : Deployment} (H : d.Honest L) :
    { s with deployment := d }.Sound L :=
  ⟨H, S.distinct, S.drawn⟩

/-- What changes when a call is entered, apart from the deployment. -/
structure Entered (s s' : Server) : Prop where
  pools : s'.pools = s.pools
  fresh : s'.fresh = s.fresh
  used : s'.used = s.used + 1

theorem Entered.fresh_ne (E : Entered s s') (D : s'.DrawsDistinct) {i : Nat} (hi : i < s.used) :
    s.fresh i ≠ s.fresh s.used := by
  intro h
  rw [← E.fresh] at h
  have := D i s.used (by rw [E.used]; omega) (by rw [E.used]; omega) h
  omega

theorem entered_enter (s : Server) (c : Call) (caller : Metadata) :
    Entered s (s.enter c caller).2 := by
  rw [enter]
  dsimp only
  split <;> exact ⟨rfl, rfl, rfl⟩

theorem entered_call (s : Server) (c : Call) (caller : Metadata) :
    Entered s (s.call c caller).2 := by
  have E := entered_enter s c caller
  rw [call]
  cases he : s.enter c caller with
  | mk res s' =>
    rw [he] at E
    cases res with
    | error e => exact E
    | ok h => exact ⟨E.pools, E.fresh, E.used⟩

/-- A call is asked for under a new identifier, or is refused and leaves no trace. -/
theorem Sound.enter {res : Except GatewayError Handle} (S : s.Sound L)
    (h : s.enter c caller = (res, s')) (D : s'.DrawsDistinct) :
    (∃ e, res = .error e ∧ s'.Sound L) ∨ ∃ k, res = .ok k ∧ s'.Sound (L.add (origin L c k)) := by
  have E := entered_enter s c caller
  rw [h] at E
  have drawn : ∀ o ∈ L.asked, ∃ i < s.used + 1, o.handle.requestId = s.fresh i := fun o ho => by
    obtain ⟨i, hi, hid⟩ := S.drawn o ho
    exact ⟨i, by omega, hid⟩
  rw [Server.enter] at h
  dsimp only at h
  split at h
  · cases h
    exact .inl ⟨_, rfl, S.honest, S.distinct, drawn⟩
  · cases h
    exact .inl ⟨_, rfl, S.honest, S.distinct, drawn⟩
  · next k d hk =>
    cases h
    obtain ⟨hid, hserial, H⟩ := S.honest.submit hk
    refine .inr ⟨k, rfl, H, S.distinct.add (fun o ho he => ?_) hserial, ?_⟩
    · obtain ⟨i, hi, hid'⟩ := S.drawn o ho
      exact E.fresh_ne D hi (hid'.symm.trans (he.trans hid))
    · intro o ho
      rcases List.mem_append.1 ho with ho | ho
      · exact drawn o ho
      · rw [List.mem_singleton.1 ho]
        exact ⟨s.used, Nat.lt_succ_self _, hid⟩

/-- A reply that fits the handle of a call is true of the call. -/
theorem Sound.lacks_of_fits (S : s.Sound L) {k : Handle} (hk : origin L c k ∈ L.asked) {r : Reply}
    (h : L.Fits k.serial r) (hm : r.errorMessage? = some m) (hn : IsNotFound m) :
    L.Lacks (requestTopic c.clientType L.suffix) c.procedureName := by
  obtain ⟨o, ho, hs, hl⟩ := h m hm hn
  obtain rfl := S.distinct.serial o ho (origin L c k) hk hs
  exact hl

/-- What a call is answered is true of its service. -/
theorem Sound.call {res : CallResult} (S : s.Sound L) (h : s.call c caller = (res, s'))
    (D : s'.DrawsDistinct) :
    (s'.Sound L ∨ ∃ k, s'.Sound (L.add (origin L c k))) ∧
      ∀ r m, res = .ok r → r.errorMessage? = some m → IsNotFound m →
        L.Lacks (requestTopic c.clientType L.suffix) c.procedureName := by
  rw [Server.call] at h
  cases he : s.enter c caller with
  | mk res₁ s₁ =>
    rw [he] at h
    cases res₁ with
    | error e =>
      cases h
      rcases S.enter he D with ⟨_, -, S'⟩ | ⟨_, hk, -⟩
      · exact ⟨.inl S', nofun⟩
      · cases hk
    | ok k =>
      dsimp only at h
      cases h
      rcases S.enter he D with ⟨_, hk, -⟩ | ⟨_, hk, S₁⟩
      · cases hk
      · cases hk
        obtain ⟨H, hr⟩ := S₁.honest.await S₁.distinct (k := k) rfl
        have asked := List.mem_append_right L.asked (.head (a := origin L c k) [])
        exact ⟨.inr ⟨k, S₁.withDeployment H⟩, fun r m h => S₁.lacks_of_fits asked (hr r h)⟩

end Server

end CallGateway
