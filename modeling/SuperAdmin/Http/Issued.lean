import SuperAdmin.Http.Served

/-! # The tokens and users that the server answers with

A sign-in answers with a token that was issued for the user beside it, and `/me` with the user of the token
that it was asked with. -/

namespace SuperAdmin.Http

open Effects

variable {d : Deps}

/-- A token that was issued for a user. -/
def IssuedTo (d : Deps) (token : String) (userID : UUID) : Prop :=
  ∃ claims, d.issuer.issue claims = .ok token ∧ claims.userID = userID

/-! ### The usecases -/

/-- `p` ends with an error or with a result that meets `R`, over ports that keep the contract. -/
abbrev Ensures {α : Type} (d : Deps) (R : α → Prop) (p : Proc (Except Error α)) : Prop :=
  p.Meets (fun _ => True) (Contract d) fun res => ∀ a, res = .ok a → R a

theorem ensures_error {α : Type} {R : α → Prop} (e : Error) :
    Ensures d R (Prog.pure (.error e)) := fun a h => by cases h

theorem ensures_issuePairWithID (user : SuperAdminUser) (sessionID : UUID) (rc : RequestContext)
    (now : Time) :
    Ensures d (fun p => IssuedTo d p.pair.accessToken user.id)
      (Usecase.Auth.issuePairWithID d user sessionID rc now) := by
  refine .step trivial fun tokenID _ => .step trivial fun r hr => ?_
  cases r with
  | error e => exact ensures_error e
  | ok access =>
      have hissue : IssuedTo d access user.id := ⟨_, hr.symm, rfl⟩
      refine .bind (Prog.meets_true _) fun r _ => ?_
      cases r with
      | error e => exact ensures_error e
      | ok raw =>
          refine .step trivial fun id _ => .step trivial fun r _ => ?_
          cases r with
          | error e => exact ensures_error e
          | ok record =>
              intro p hp
              cases hp
              exact hissue

theorem ensures_issuePair (user : SuperAdminUser) (sessionID : UUID) (rc : RequestContext)
    (now : Time) :
    Ensures d (fun pair => IssuedTo d pair.accessToken user.id)
      (Usecase.Auth.issuePair d user sessionID rc now) := by
  refine .bind (ensures_issuePairWithID user sessionID rc now) fun r hr => ?_
  cases r with
  | error e => exact ensures_error e
  | ok p =>
      intro pair hpair
      cases hpair
      exact hr p rfl

theorem ensures_loginUser (user : SuperAdminUser) (rc : RequestContext) (now : Time) :
    Ensures d (fun res => IssuedTo d res.1.accessToken res.2.id)
      (Usecase.Auth.loginUser d user rc now) := by
  unfold Usecase.Auth.loginUser
  cases user.ensureCanLogin now with
  | some e => exact .step trivial fun _ _ => ensures_error e
  | none =>
      refine .step trivial fun r _ => ?_
      cases r with
      | error e => exact ensures_error e
      | ok _ =>
          refine .step trivial fun sessionID _ => .bind (ensures_issuePair user sessionID rc now) fun r hr => ?_
          cases r with
          | error e => exact ensures_error e
          | ok pair =>
              refine .step trivial fun _ _ res hres => ?_
              cases hres
              exact hr pair rfl

/-- `Login` issues its token for the user that it returns. -/
theorem ensures_login (creds : Credentials) (rc : RequestContext) :
    Ensures d (fun res => IssuedTo d res.1.accessToken res.2.id) (Usecase.Auth.login d creds rc) := by
  refine .step trivial fun now _ => .bind (Prog.meets_true _) fun r _ => ?_
  rcases r with ⟨user, e⟩ | user
  · dsimp only
    split
    · refine .bind (Prog.meets_true _) fun r _ => ?_
      cases r with
      | error e => exact ensures_error e
      | ok _ => exact .step trivial fun _ _ => ensures_error _
    · exact ensures_error e
  · exact ensures_loginUser user rc now

/-! ### The answers -/

variable {web : Web} {req : Request} {resp : Response} {called : Bool}

/-- A success comes from the handler. -/
theorem Served.handled {R : Response → Prop} {S : Except Response Context → Prop}
    (h : Served d web req resp called) (hstatus : resp.status < 400)
    (hmiddleware : (middleware req req.route.access).Meets (fun _ => True) (Contract d) fun res =>
      (∀ resp, res = .error resp → 400 ≤ resp.status) ∧ S res)
    (hhandle : ∀ ctx, S (.ok ctx) → (handle d web req ctx).Meets (fun _ => True) (Contract d) fun resp =>
      resp.status < 400 → R resp) : R resp := by
  have hmeets : (serveLogged d web req).Meets (fun _ => True) (Contract d) fun p =>
      p.1.status < 400 → R p.1 := by
    refine .bind hmiddleware fun r hr => ?_
    cases r with
    | error resp => exact fun hlt => absurd hlt (Nat.not_lt.mpr (hr.1 resp rfl))
    | ok ctx =>
        dsimp only
        cases hcheck : checks d web req ctx with
        | error resp => exact fun hlt => absurd hlt (Nat.not_lt.mpr (refuses_checks ctx resp hcheck))
        | ok _ => exact .bind (hhandle ctx hr.2) fun resp hresp => hresp
  exact hmeets.canReturn h hstatus

/-- The handler of a usecase answers an error with no success. -/
theorem meets_respond {α : Type} {R : Response → Prop} {p : Proc (Except Error α)} {Q : α → Prop}
    {k : α → Proc Response} (hp : Ensures d Q p)
    (hk : ∀ a, Q a → (k a).Meets (fun _ => True) (Contract d) fun resp => resp.status < 400 → R resp) :
    (do let res ← p; respond res k : Proc Response).Meets (fun _ => True) (Contract d) fun resp =>
      resp.status < 400 → R resp := by
  refine .bind hp fun res hres => ?_
  cases res with
  | error e => exact fun hlt => absurd hlt (Nat.not_lt.mpr (Response.error_status e))
  | ok a => exact hk a (hres a rfl)

theorem meets_withInput {α : Type} {R : Response → Prop} {input : Except Response α}
    {k : α → Proc Response} (hinput : Refuses input)
    (hk : ∀ a, input = .ok a → (k a).Meets (fun _ => True) (Contract d) fun resp => resp.status < 400 → R resp) :
    (withInput input k).Meets (fun _ => True) (Contract d) fun resp => resp.status < 400 → R resp := by
  cases input with
  | error resp => exact fun hlt => absurd hlt (Nat.not_lt.mpr (hinput resp rfl))
  | ok a => exact hk a rfl

/-- What a sign-in answers with. -/
def LoggedIn (d : Deps) (resp : Response) : Prop :=
  ∃ access expiresAt user, IssuedTo d access user.id ∧ resp.body = .data (.obj [
    ("access_token", .str access),
    ("expires_at", .time expiresAt),
    ("user", Handler.Auth.toUserResponse user)])

theorem Served.loggedIn (h : Served d web req resp called) (hroute : req.route = .login)
    (hstatus : resp.status < 400) : LoggedIn d resp := by
  refine h.handled (S := fun _ => True) hstatus ?_ fun ctx _ => ?_
  · rw [hroute]
    exact ⟨fun resp h => (by cases h), trivial⟩
  · unfold handle Handler.Auth.login
    rw [hroute]
    refine meets_withInput (refuses_bound _ _ _) fun input _ => meets_respond (ensures_login _ _) ?_
    rintro ⟨pair, user⟩ hissued _
    exact ⟨_, _, _, hissued, rfl⟩

/-- What `/me` answers with: the user of an accepted token. -/
def IsMe (d : Deps) (raw : String) (resp : Response) : Prop :=
  ∃ now claims user, d.issuer.parse now raw = .ok claims ∧ user.id = claims.userID ∧
    resp.body = .data (Handler.Auth.toUserResponse user)

theorem Served.isMe {raw : String} (h : Served d web req resp called) (hroute : req.route = .me)
    (htoken : Middleware.bearerToken req.authorization = some raw) (hstatus : resp.status < 400) :
    IsMe d raw resp := by
  refine h.handled (S := fun res => ∀ ctx, res = .ok ctx → ∃ now claims, ctx.claims = some claims ∧
    d.issuer.parse now raw = .ok claims) hstatus ?_ fun ctx hctx => ?_
  · rw [hroute]
    show (Middleware.auth req).Meets _ _ _
    unfold Middleware.auth
    rw [htoken]
    refine .step trivial fun r hr => ?_
    cases r with
    | error e =>
        refine ⟨fun resp h => ?_, fun ctx h => (by cases h)⟩
        cases h
        exact (by decide : 400 ≤ 401)
    | ok claims =>
        obtain ⟨now, hparse⟩ := hr claims rfl
        refine .step trivial fun r _ => ?_
        cases r with
        | error e =>
            refine ⟨fun resp h => ?_, fun ctx h => (by cases h)⟩
            cases h
            exact (by decide : 400 ≤ 503)
        | ok revoked =>
            cases revoked with
            | true =>
                refine ⟨fun resp h => ?_, fun ctx h => (by cases h)⟩
                cases h
                exact (by decide : 400 ≤ 401)
            | false =>
                refine ⟨fun resp h => (by cases h), fun ctx h => ?_⟩
                cases h
                exact ⟨now, claims, rfl, hparse⟩
  · obtain ⟨now, claims, hclaims, hparse⟩ := hctx ctx rfl
    unfold handle Handler.Auth.me
    rw [hroute, claimsFrom, hclaims]
    have hfound : Ensures d (fun user => user.id = claims.userID) (Usecase.Auth.me claims.userID) :=
      ⟨trivial, fun res hres user huser => hres.2 user huser⟩
    exact meets_respond hfound fun user huser _ => ⟨now, claims, user, hparse, huser, rfl⟩

end SuperAdmin.Http
