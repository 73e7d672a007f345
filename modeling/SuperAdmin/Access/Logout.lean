import SuperAdmin.Access.RevocationList

/-! # Logout over HTTP

`/auth/logout` stands outside of the middleware, so that it also works with an expired access token;
but only `Auth` puts the claims of a request into its context.  The handler therefore calls `Logout`
without claims: the session is revoked and the access token is not. -/

namespace SuperAdmin.Access

open Effects Usecase Http

variable {d : Deps} {r : Draws} {w : World d} {req : Request} {web : Web}

/-! ### What the request does -/

theorem sessionRevoked_clock (sessionID : UUID) :
    (Auth.sessionRevoked w r sessionID).clock = w.clock := by
  unfold Auth.sessionRevoked
  split <;> rfl

theorem sessionRevoked_redis (sessionID : UUID) :
    (Auth.sessionRevoked w r sessionID).redis = w.redis := by
  unfold Auth.sessionRevoked
  split <;> rfl

/-- A logout is answered with 204 and revokes the session of the cookie, if there is one. -/
theorem serve_logout (hroute : req.route = .logout) :
    (serve d web req).run (exec d r) w =
      ({ Response.noContent with cookie := .clear },
        Auth.sessionRevoked w r (Auth.logoutSessionID w (req.cookie.getD "") none)) := by
  unfold serve
  simp only [hroute, Route.access, middleware, Prog.pure_eq, Prog.pure_bind, handle,
    Handler.Auth.logout, Prog.run_bind, Auth.logout_run, Auth.logoutSession_run]
  rfl

/-! ### What it leaves -/

/-- Whether `Auth` passes a request is a matter of its header, of the clock and of Redis. -/
theorem passes_of_eq {w' : World d} {req' : Request} {claims : AccessClaims}
    (h : Middleware.Passes w req claims)
    (hheader : Middleware.bearerToken req'.authorization =
      Middleware.bearerToken req.authorization)
    (hclock : w'.clock = w.clock) (hredis : w'.redis = w.redis) :
    Middleware.Passes w' req' claims where
  token := by
    rw [hheader, hclock]
    exact h.token
  up := by
    rw [hredis]
    exact h.up
  unlisted := by
    rw [hredis, hclock]
    exact h.unlisted

/-- From this state on `Auth` passes no request with the token. -/
def Dead (token : String) (w : World d) : Prop :=
  ∀ w', Persists w w' → ∀ (req : Request) (r : Draws) (ctx : Context),
    Middleware.bearerToken req.authorization = some token →
      ((Middleware.auth req).run (exec d r) w').1 ≠ .ok ctx

/-- If the request is answered with 204, the access token that it carries is dead. -/
def KillsToken (d : Deps) (web : Web) (r : Draws) (w : World d) (req : Request) : Prop :=
  ∀ token, Middleware.bearerToken req.authorization = some token →
    ((serve d web req).run (exec d r) w).1.status = 204 →
      Dead token ((serve d web req).run (exec d r) w).2

theorem Persists.refl (w : World d) : Persists w w := ⟨le_rfl, fun _ _ _ h => h⟩

theorem logout_status (hroute : req.route = .logout) :
    ((serve d web req).run (exec d r) w).1.status = 204 := by
  rw [serve_logout hroute]
  rfl

/-- A token that passes when its owner logs out passes afterwards. -/
theorem passes_after_logout {claims : AccessClaims} (hroute : req.route = .logout)
    (h : Middleware.Passes w req claims) :
    Middleware.Passes ((serve d web req).run (exec d r) w).2 req claims := by
  rw [serve_logout hroute]
  exact passes_of_eq h rfl (sessionRevoked_clock _) (sessionRevoked_redis _)

theorem not_dead_of_passes (r : Draws) {claims : AccessClaims} (h : Middleware.Passes w req claims)
    {token : String} (htoken : Middleware.bearerToken req.authorization = some token) :
    ¬ Dead token w := by
  intro hdead
  have hrun := congrArg Prod.fst (h.run r)
  exact hdead w (.refl w) req r _ htoken hrun

/-- No logout with a token that `Auth` passes at that moment kills the token, be there a cookie or
not. -/
theorem logout_never_kills {claims : AccessClaims} (hroute : req.route = .logout)
    (h : Middleware.Passes w req claims) : ¬ KillsToken d web r w req := by
  intro hkills
  obtain ⟨token, htoken, -⟩ := h.token
  have hdead := hkills token htoken (logout_status hroute)
  exact not_dead_of_passes r (passes_after_logout hroute h) htoken hdead

/-- The request of the owner of the sample login, with the token of the login. -/
theorem logout_never_kills_owner :
    ¬ KillsToken Sample.deps ⟨fun _ => true⟩ (Sample.draws 1) Sample.loggedIn
      (Sample.request .logout Sample.firstClaims) :=
  logout_never_kills rfl (Sample.passes_request .logout (by decide) (by decide)
    (by decide) (by decide))

/-- The token of that request is accepted after it. -/
theorem logout_keeps_token :
    ¬ ∀ (d : Deps) (web : Web) (r : Draws) (w : World d) (req : Request) (claims : AccessClaims),
      req.route = .logout → Middleware.Passes w req claims → KillsToken d web r w req := by
  intro hclaim
  have hpasses := Sample.passes_request (w := Sample.loggedIn) .logout (c := Sample.firstClaims)
    (by decide) (by decide) (by decide) (by decide)
  have hdead := hclaim Sample.deps ⟨fun _ => true⟩ (Sample.draws 1) Sample.loggedIn _ _ rfl hpasses _
    (Sample.bearerToken_request _ _) (logout_status rfl)
  exact not_dead_of_passes (Sample.draws 2) (passes_after_logout rfl hpasses)
    (Sample.bearerToken_request _ _) hdead

end SuperAdmin.Access
