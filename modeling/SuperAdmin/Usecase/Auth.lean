import SuperAdmin.Ports

/-! # The usecase of sign-in and sessions

`internal/usecase/auth.go` and the password provider that its `Login` calls
(`internal/pkg/authprovider`), as programs over the ports.  The calls of each function stand in
the order of the source; a function that returns an error at some point returns there. -/

namespace SuperAdmin.Usecase

open Effects

/-! ### Secrets -/

/-- `generateSecureToken`: 32 random bytes. -/
def generateSecureToken : Proc (Except Error String) := do
  match ← perform (.randRead .secureToken) with
  | .error e => return .error (.wrapf "генерация токена" e)
  | .ok b => return .ok (rawURLEncodeToString b)

/-- `hashToken`: what the tables keep of a token. -/
def hashToken (token : String) : Bytes := sum256 (bytesOf token)

/-! ### The password provider -/

namespace Password

/-- `Password.Name`. -/
def name : String := "password"

/-- `NormalizeEmail`. -/
def normalizeEmail (d : Deps) (email : String) : String := toLower d.unicodeToLower (trimSpace email)

/-- `Password.Authenticate`; an error comes with the user whose password it was not. -/
def authenticate (d : Deps) (c : Credentials) :
    Proc (Except (Option SuperAdminUser × Error) SuperAdminUser) := do
  match ← perform (.users (.getByEmail (normalizeEmail d c.email))) with
  | .error e =>
      if e.is .notFound then return .error (none, .sentinel .invalidCredentials)
      else return .error (none, e)
  | .ok user =>
  match d.hasher.verify c.password user.passwordHash with
  | .error e => return .error (none, e)
  | .ok ok =>
      if !ok then return .error (some user, .sentinel .invalidCredentials)
      else return .ok user

end Password

namespace Auth

/-- `issuedPair`: a pair with the id of its refresh record. -/
structure IssuedPair where
  pair : TokenPair
  refreshTokenID : UUID

/-- `registerFailure`: count the failure, and lock the account when the threshold is reached. -/
def registerFailure (d : Deps) (user : SuperAdminUser) (now : Time) : Proc (Except Error Unit) :=
  let lockedUntil :=
    if (user.failedLoginAttempts : ℤ) + 1 ≥ d.cfg.maxFailedAttempts then
      some (now.add d.cfg.lockoutDuration)
    else none
  perform (.users (.registerFailedLogin user.id lockedUntil))

/-- The claims of the access token of a pair. -/
def accessClaims (d : Deps) (user : SuperAdminUser) (sessionID tokenID : UUID) (now : Time) :
    AccessClaims where
  userID := user.id
  email := user.email
  role := user.role
  sessionID := sessionID
  tokenID := tokenID
  issuedAt := now
  expiresAt := now.add d.cfg.accessTTL

/-- The refresh record of a pair. -/
def refreshRecord (d : Deps) (user : SuperAdminUser) (id sessionID : UUID) (rawRefresh : String)
    (rc : RequestContext) (now : Time) : RefreshToken where
  id := id
  userID := user.id
  sessionID := sessionID
  tokenHash := hashToken rawRefresh
  expiresAt := now.add d.cfg.refreshTTL
  usedAt := none
  revokedAt := none
  revokedReason := ""
  replacedBy := none
  userAgent := rc.userAgent
  ip := rc.ip
  createdAt := now

/-- `issuePairWithID`. -/
def issuePairWithID (d : Deps) (user : SuperAdminUser) (sessionID : UUID) (rc : RequestContext)
    (now : Time) : Proc (Except Error IssuedPair) := do
  let accessTokenID ← perform (.newUUID .accessToken)
  match ← perform (.issuer (.issue (accessClaims d user sessionID accessTokenID now))) with
  | .error e => return .error e
  | .ok access =>
  match ← generateSecureToken with
  | .error e => return .error e
  | .ok rawRefresh =>
  let id ← perform (.newUUID .refreshToken)
  match ← perform (.tokens (.create (refreshRecord d user id sessionID rawRefresh rc now))) with
  | .error e => return .error e
  | .ok record =>
  return .ok {
    pair := {
      accessToken := access
      accessExpiresAt := now.add d.cfg.accessTTL
      refreshToken := rawRefresh
      refreshExpiresAt := now.add d.cfg.refreshTTL }
    refreshTokenID := record.id }

/-- `issuePair`. -/
def issuePair (d : Deps) (user : SuperAdminUser) (sessionID : UUID) (rc : RequestContext)
    (now : Time) : Proc (Except Error TokenPair) := do
  match ← issuePairWithID d user sessionID rc now with
  | .error e => return .error e
  | .ok p => return .ok p.pair

/-- `errReason`. -/
def errReason (e : Error) : String :=
  if e.is .accountLocked then "account_locked"
  else if e.is .invalidCredentials then "invalid_credentials"
  else "unknown"

/-- The entry about a failed login with a reason. -/
def loginFailure (actorID : Option UUID) (actorEmail reason : String) (rc : RequestContext)
    (now : Time) : AuditEntry where
  actorID := actorID
  actorEmail := actorEmail
  action := AuditAction.loginFailure.string
  metadata := [("provider", Password.name), ("reason", reason)]
  ip := rc.ip
  userAgent := rc.userAgent
  createdAt := now

/-- `Login` once the provider has returned a user. -/
def loginUser (d : Deps) (user : SuperAdminUser) (rc : RequestContext) (now : Time) :
    Proc (Except Error (TokenPair × SuperAdminUser)) := do
  -- the lock and the status are looked at only after the password was right
  match user.ensureCanLogin now with
  | some e =>
      writeAudit (loginFailure (some user.id) user.email (errReason e) rc now)
      return .error e
  | none =>
  match ← perform (.users (.registerSuccessfulLogin user.id now)) with
  | .error e => return .error e
  | .ok () =>
  let sessionID ← perform (.newUUID .session)
  match ← issuePair d user sessionID rc now with
  | .error e => return .error e
  | .ok pair =>
  writeAudit {
    actorID := some user.id
    actorEmail := user.email
    action := AuditAction.loginSuccess.string
    metadata := [("provider", Password.name)]
    ip := rc.ip
    userAgent := rc.userAgent
    createdAt := now }
  return .ok (pair, user)

/-- Register the failure for the user whose password it was not, if there is one. -/
def registerFailureOf (d : Deps) (user : Option SuperAdminUser) (now : Time) :
    Proc (Except Error Unit) :=
  match user with
  | some user => registerFailure d user now
  | none => pure (.ok ())

/-- `Login` once the provider has refused the credentials. -/
def loginRefused (d : Deps) (user : Option SuperAdminUser) (creds : Credentials)
    (rc : RequestContext) (now : Time) : Proc (Except Error (TokenPair × SuperAdminUser)) := do
  match ← registerFailureOf d user now with
  | .error e => return .error e
  | .ok () =>
  writeAudit (loginFailure none creds.email "invalid_credentials" rc now)
  return .error (.sentinel .invalidCredentials)

/-- `Auth.Login`. -/
def login (d : Deps) (creds : Credentials) (rc : RequestContext) :
    Proc (Except Error (TokenPair × SuperAdminUser)) := do
  let now ← perform .now
  match ← Password.authenticate d creds with
  | .error (user, e) =>
      if e.is .invalidCredentials then loginRefused d user creds rc now else return .error e
  | .ok user => loginUser d user rc now

/-- `Refresh` with a token that was used or revoked: the whole session is revoked. -/
def refreshReuse (stored : RefreshToken) (rc : RequestContext) (now : Time) :
    Proc (Except Error TokenPair) := do
  match ← perform (.tokens (.revokeSession stored.sessionID RevokeReason.reuse now)) with
  | .error e => return .error e
  | .ok () =>
  writeAudit {
    actorID := some stored.userID
    action := AuditAction.tokenReuse.string
    metadata := [("session_id", stored.sessionID.string), ("token_id", stored.id.string)]
    ip := rc.ip
    userAgent := rc.userAgent
    createdAt := now }
  return .error (.sentinel .sessionRevoked)

/-- `Refresh` from the creation of the successor on. -/
def refreshRotate (d : Deps) (stored : RefreshToken) (user : SuperAdminUser) (rc : RequestContext)
    (now : Time) : Proc (Except Error TokenPair) := do
  match ← issuePairWithID d user stored.sessionID rc now with
  | .error e => return .error e
  | .ok p =>
  match ← perform (.tokens (.markUsed stored.id p.refreshTokenID now)) with
  | .error e => return .error e
  | .ok () =>
  writeAudit {
    actorID := some user.id
    actorEmail := user.email
    action := AuditAction.tokenRefresh.string
    metadata := [("session_id", stored.sessionID.string)]
    ip := rc.ip
    userAgent := rc.userAgent
    createdAt := now }
  return .ok p.pair

/-- `Refresh` with a token that is unused, unrevoked and unexpired. -/
def refreshUsable (d : Deps) (stored : RefreshToken) (rc : RequestContext) (now : Time) :
    Proc (Except Error TokenPair) := do
  match ← perform (.users (.getByID stored.userID)) with
  | .error e => return .error (if e.is .notFound then .sentinel .unauthenticated else e)
  | .ok user =>
  match user.ensureCanLogin now with
  | some _ =>
      match ← perform (.tokens (.revokeSession stored.sessionID RevokeReason.userDisabled now)) with
      | .error e => return .error e
      | .ok () => return .error (.sentinel .unauthenticated)
  | none => refreshRotate d stored user rc now

/-- `Auth.Refresh`. -/
def refresh (d : Deps) (refreshToken : String) (rc : RequestContext) :
    Proc (Except Error TokenPair) := do
  let now ← perform .now
  match ← perform (.tokens (.getByHash (hashToken refreshToken))) with
  | .error e => return .error (if e.is .notFound then .sentinel .unauthenticated else e)
  | .ok stored =>
  if stored.isUsed || stored.isRevoked then refreshReuse stored rc now
  else if stored.isExpired now then return .error (.sentinel .unauthenticated)
  else refreshUsable d stored rc now

/-- `Logout`: revoke the session, if one is known. -/
def revokeKnown (sessionID : UUID) (now : Time) : Proc (Except Error Unit) :=
  if sessionID ≠ UUID.nil then perform (.tokens (.revokeSession sessionID RevokeReason.logout now))
  else pure (.ok ())

/-- `Logout`: put the access token on the revocation list for the rest of its life. -/
def listAlive (claims : AccessClaims) (now : Time) : Proc (Except Error Unit) :=
  if claims.expiresAt.sub now > 0 then
    perform (.revoker (.revoke claims.tokenID (claims.expiresAt.sub now)))
  else pure (.ok ())

/-- `Logout` once the session is revoked: what it does with the claims. -/
def logoutAccess (sessionID : UUID) (claims : Option AccessClaims) (rc : RequestContext)
    (now : Time) : Proc (Except Error Unit) := do
  match claims with
  | none => return .ok ()
  | some claims =>
  match ← listAlive claims now with
  | .error e => return .error e
  | .ok () =>
  writeAudit {
    actorID := some claims.userID
    actorEmail := claims.email
    action := AuditAction.logout.string
    metadata := [("session_id", sessionID.string)]
    ip := rc.ip
    userAgent := rc.userAgent
    createdAt := now }
  return .ok ()

/-- `Logout` once the session is known. -/
def logoutSession (sessionID : UUID) (claims : Option AccessClaims) (rc : RequestContext)
    (now : Time) : Proc (Except Error Unit) := do
  match ← revokeKnown sessionID now with
  | .error e => return .error e
  | .ok () => logoutAccess sessionID claims rc now

/-- `Auth.Logout`. -/
def logout (refreshToken : String) (claims : Option AccessClaims) (rc : RequestContext) :
    Proc (Except Error Unit) := do
  let now ← perform .now
  let sessionID := (claims.map AccessClaims.sessionID).getD UUID.nil
  if refreshToken = "" then logoutSession sessionID claims rc now
  else
    match ← perform (.tokens (.getByHash (hashToken refreshToken))) with
    | .ok stored => logoutSession stored.sessionID claims rc now
    | .error e =>
        if e.is .notFound then logoutSession sessionID claims rc now else return .error e

/-- `Auth.LogoutAll`. -/
def logoutAll (userID : UUID) (actor : Option AccessClaims) (rc : RequestContext) :
    Proc (Except Error Unit) := do
  let now ← perform .now
  match ← perform (.tokens (.revokeAllForUser userID RevokeReason.logoutAll now)) with
  | .error e => return .error e
  | .ok () =>
  writeAudit {
    actorID := actor.map AccessClaims.userID
    actorEmail := (actor.map AccessClaims.email).getD ""
    action := AuditAction.sessionsRevoked.string
    targetType := Resource.superAdmin.string
    targetID := userID.string
    ip := rc.ip
    userAgent := rc.userAgent
    createdAt := now }
  return .ok ()

/-- `Auth.Me`. -/
def me (userID : UUID) : Proc (Except Error SuperAdminUser) := perform (.users (.getByID userID))

end Auth

end SuperAdmin.Usecase
