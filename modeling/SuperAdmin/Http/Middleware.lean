import SuperAdmin.Http.Request
import SuperAdmin.Ports

/-! # Authentication and authorisation

`internal/delivery/http/middleware/auth.go`. -/

namespace SuperAdmin.Http

open Effects

/-- What `Auth` puts into the context of a request: the claims under `access_claims` and the subject
under `subject`. -/
structure Context where
  claims : Option AccessClaims := none
  subject : Option Subject := none

namespace Middleware

/-- `bearerToken`. -/
def bearerToken (header : String) : Option String :=
  let prefixLength := "Bearer ".length
  if header.utf8ByteSize ≤ prefixLength ∨
      !equalFold (String.ofList (header.toList.take prefixLength)) "Bearer " then none
  else
    let token := trimSpace (String.ofList (header.toList.drop prefixLength))
    if token = "" then none else some token

/-- `Auth`: the context that the next handler gets, or the answer to a request that it does not
let pass. -/
def auth (req : Request) : Proc (Except Response Context) := do
  match bearerToken req.authorization with
  | none => return .error (.fail 401 codeUnauthorized "требуется авторизация")
  | some raw =>
  match ← perform (.issuer (.parse raw)) with
  | .error _ => return .error (.fail 401 codeUnauthorized "некорректный или истёкший токен")
  | .ok claims =>
  match ← perform (.revoker (.isRevoked claims.tokenID)) with
  | .error _ => return .error (.fail 503 codeUnavailable "проверка сессии временно недоступна")
  | .ok revoked =>
      if revoked then
        return .error (.fail 401 codeSessionRevoked Sentinel.sessionRevoked.text)
      else
        return .ok { claims := some claims
                     subject := some ⟨claims.userID.string, claims.role⟩ }

/-- It parses a token and asks whether that is revoked. -/
theorem auth_only {C : Op → Prop} (hparse : ∀ raw, C (.issuer (.parse raw)))
    (hrevoked : ∀ id, C (.revoker (.isRevoked id))) (req : Request) : (auth req).Only C := by
  unfold auth
  cases bearerToken req.authorization with
  | none => trivial
  | some raw =>
      refine .step (hparse raw) fun parsed => ?_
      cases parsed with
      | error e => trivial
      | ok claims =>
          refine .step (hrevoked claims.tokenID) fun revoked => ?_
          cases revoked with
          | error e => trivial
          | ok revoked => cases revoked <;> trivial

/-- `Require`; `none` lets the request pass. -/
def require (ctx : Context) (res : Resource) (act : Action) : Option Response :=
  match ctx.subject with
  | none => some (.fail 401 codeUnauthorized "требуется авторизация")
  | some sub =>
      match Authz.authorize sub res act with
      | some err => some (.error err)
      | none => none

end Middleware

end SuperAdmin.Http
