import SuperAdmin.Http.Router
import SuperAdmin.Endings
import SuperAdmin.Sample

/-! # What the middleware lets pass

`Auth` looks at a request at one instant and leaves the state alone.  It passes exactly a request
whose token `Parse` accepts, when Redis answers and does not list the token. -/

namespace SuperAdmin.Http

open Effects

/-- The `Authorization` header with a token. -/
def bearer (token : String) : String := "Bearer " ++ token

namespace Middleware

/-! ### The token of a request -/

/-- A token without surrounding space is read back from the header that it is sent in. -/
theorem bearerToken_bearer {token : String} (hne : token ≠ "") (htrim : trimSpace token = token) :
    bearerToken (bearer token) = some token := by
  have hprefix : (bearer token).toList.take 7 = "Bearer ".toList := by
    rw [bearer, String.toList_append]
    rfl
  have hrest : (bearer token).toList.drop 7 = token.toList := by
    rw [bearer, String.toList_append]
    rfl
  have hlong : ¬ (bearer token).utf8ByteSize ≤ "Bearer ".length := by
    rw [bearer, String.utf8ByteSize_append]
    have hpos : 0 < token.utf8ByteSize := by
      rw [Nat.pos_iff_ne_zero]
      exact fun h => hne (String.utf8ByteSize_eq_zero_iff.mp h)
    have hsize : "Bearer ".utf8ByteSize = "Bearer ".length := by decide
    omega
  have hlen : "Bearer ".length = 7 := by decide
  unfold bearerToken
  simp only [hlen, hprefix, hrest] at hlong ⊢
  rw [if_neg, String.ofList_toList, htrim, if_neg hne]
  rintro (h | h)
  · exact hlong h
  · revert h
    decide

/-! ### Requests that pass -/

variable {d : Deps} (r : Draws) (w : World d) (req : Request)

/-- What `Auth` puts into the context of a request with some claims. -/
def contextOf (claims : AccessClaims) : Context :=
  { claims := some claims, subject := some ⟨claims.userID.string, claims.role⟩ }

/-- A request with some claims that `Auth` passes in a state. -/
structure Passes (claims : AccessClaims) : Prop where
  token : ∃ raw, bearerToken req.authorization = some raw ∧ d.issuer.parse w.clock raw = .ok claims
  up : w.redis.up = true
  unlisted : w.redis.exist (revokedKey claims.tokenID) w.clock = false

theorem exec_parse (raw : String) :
    exec d r (.issuer (.parse raw)) w = (d.issuer.parse w.clock raw, w) := rfl

theorem exec_isRevoked (tokenID : UUID) :
    exec d r (.revoker (.isRevoked tokenID)) w =
      (if w.redis.up then .ok (w.redis.exist (revokedKey tokenID) w.clock)
        else .error (.wrapf ("проверка отзыва токена " ++ tokenID.string) (.foreign "redis")), w) := by
  simp only [exec, RevokerOp.exec]
  cases w.redis.up <;> rfl

/-- How `Auth` ends: it refuses the request or passes it, and leaves the state. -/
inductive AuthEnd : Except Response Context × World d → Prop
  | refused (resp : Response) : AuthEnd (.error resp, w)
  | passed (claims : AccessClaims) (h : Passes w req claims) : AuthEnd (.ok (contextOf claims), w)

theorem auth_run : AuthEnd w req ((auth req).run (exec d r) w) := by
  unfold auth
  cases htoken : bearerToken req.authorization with
  | none => exact .refused _
  | some raw =>
      dsimp only
      rw [Prog.run_bind, run_op, exec_parse]
      cases hparse : d.issuer.parse w.clock raw with
      | error e => exact .refused _
      | ok claims =>
          dsimp only
          rw [Prog.run_bind, run_op, exec_isRevoked]
          by_cases hup : w.redis.up = true
          · rw [if_pos hup]
            cases hlisted : w.redis.exist (revokedKey claims.tokenID) w.clock with
            | true => exact .refused _
            | false => exact .passed claims ⟨⟨raw, htoken, hparse⟩, hup, hlisted⟩
          · rw [if_neg hup]
            exact .refused _

theorem Passes.run {claims : AccessClaims} (h : Passes w req claims) :
    (auth req).run (exec d r) w = (.ok (contextOf claims), w) := by
  obtain ⟨⟨raw, htoken, hparse⟩, hup, hunlisted⟩ := h
  unfold auth
  simp only [htoken]
  rw [Prog.run_bind, run_op, exec_parse, hparse]
  dsimp only
  rw [Prog.run_bind, run_op, exec_isRevoked, if_pos hup, hunlisted]
  rfl

/-- A request with an issued token, before the token expires. -/
theorem passes_issued {w : World d} {req : Request} (hlib : Issuer.DecodesSigned d.issuer.lib)
    (huuid : Issuer.ReadsBackUUIDs d.issuer.uuidParse) {c : AccessClaims} {token : String}
    (hissue : d.issuer.issue c = .ok token)
    (hverify : d.issuer.lib.verify token d.issuer.pub = true) (hrole : c.role.valid = true)
    (hheader : bearerToken req.authorization = some token)
    (hnow : w.clock < c.expiresAt.truncateSecond) (hup : w.redis.up = true)
    (hunlisted : w.redis.exist (revokedKey c.tokenID) w.clock = false) :
    Passes w req (Issuer.parsed c) where
  token := ⟨token, hheader, Issuer.parse_issued hlib huuid hissue hverify hnow hrole⟩
  up := hup
  unlisted := hunlisted

theorem auth_ok {ctx : Context} (h : ((auth req).run (exec d r) w).1 = .ok ctx) :
    ∃ claims, ctx = contextOf claims ∧ Passes w req claims := by
  have hend := auth_run r w req
  generalize (auth req).run (exec d r) w = res at hend h
  cases hend with
  | refused resp => cases h
  | passed claims hpasses =>
      cases h
      exact ⟨claims, rfl, hpasses⟩

end Middleware

/-- The middleware of a route that is not open to everyone ends as `Auth` does. -/
theorem middleware_run {d : Deps} (r : Draws) (w : World d) (req : Request) {access : Access}
    (h : access ≠ .anyone) :
    Middleware.AuthEnd w req ((middleware req access).run (exec d r) w) := by
  have hend := Middleware.auth_run r w req
  cases access with
  | anyone => exact absurd rfl h
  | authenticated => exact hend
  | requires res act =>
      simp only [middleware, Prog.run_bind]
      generalize (Middleware.auth req).run (exec d r) w = res' at hend
      cases hend with
      | refused resp => exact .refused resp
      | passed claims hpasses =>
          dsimp only
          cases Middleware.require (Middleware.contextOf claims) res act with
          | some resp => exact .refused resp
          | none => exact .passed claims hpasses

/-- What passes the middleware of a route that asks for a permission. -/
theorem middleware_requires {d : Deps} {r : Draws} {w : World d} {req : Request} {res : Resource}
    {act : Action} {ctx : Context}
    (h : ((middleware req (.requires res act)).run (exec d r) w).1 = .ok ctx) :
    ∃ claims, ctx = Middleware.contextOf claims ∧ Middleware.Passes w req claims ∧
      Middleware.require ctx res act = none := by
  simp only [middleware, Prog.run_bind] at h
  have hend := Middleware.auth_run r w req
  generalize (Middleware.auth req).run (exec d r) w = res' at hend h
  cases hend with
  | refused resp => cases h
  | passed claims hpasses =>
      dsimp only at h
      cases hrequire : Middleware.require (Middleware.contextOf claims) res act with
      | some resp =>
          rw [hrequire] at h
          cases h
      | none =>
          rw [hrequire] at h
          cases h
          exact ⟨claims, rfl, hpasses, hrequire⟩

theorem Middleware.Passes.middleware {d : Deps} (r : Draws) {w : World d} {req : Request}
    {claims : AccessClaims} (h : Passes w req claims) (res : Resource) (act : Action)
    (hrequire : require (contextOf claims) res act = none) :
    (middleware req (.requires res act)).run (exec d r) w = (.ok (contextOf claims), w) := by
  simp only [Http.middleware, Prog.run_bind, h.run r, hrequire]
  rfl

end SuperAdmin.Http

/-! ### Requests to the sample deployment -/

namespace SuperAdmin.Sample

open Effects Http

/-- A request to a route with the token that says `c`. -/
def request (route : Route) (c : AccessClaims) : Request where
  route := route
  authorization := bearer (token c)
  ip := context.ip
  userAgent := context.userAgent

theorem bearerToken_request (route : Route) (c : AccessClaims) :
    Middleware.bearerToken (request route c).authorization = some (token c) :=
  Middleware.bearerToken_bearer (token_ne_empty c) (trimSpace_token c)

theorem passes_request {w : World deps} (route : Route) {c : AccessClaims}
    (hrole : c.role.valid = true) (hnow : w.clock < c.expiresAt.truncateSecond)
    (hup : w.redis.up = true)
    (hunlisted : w.redis.exist (revokedKey c.tokenID) w.clock = false) :
    Middleware.Passes w (request route c) (Issuer.parsed c) :=
  Middleware.passes_issued (d := deps) decodesSigned readsBackUUIDs (issue_token c) rfl hrole
    (bearerToken_request route c) hnow hup hunlisted

end SuperAdmin.Sample
