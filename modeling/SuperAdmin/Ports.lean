import SuperAdmin.Lib.Prog
import SuperAdmin.Jwt

/-! # Ports

The interfaces of `internal/domain` that the usecases call, as the operations of one effect
signature.  Each repository call is one operation and so one atomic step; reading the clock,
drawing a UUID or random bytes, and issuing or parsing a token are operations as well, since
what they answer depends on the moment.  `DummyVerify` only spends time and is left out. -/

namespace SuperAdmin

open Effects

/-! ### What is wired from outside the repository -/

/-- `domain.PasswordHasher`: `Verify(plain, encodedHash)`. -/
structure PasswordHasher where
  verify : String → String → Except Error Bool

/-- `usecase.AuthConfig`. -/
structure AuthConfig where
  accessTTL : Duration
  refreshTTL : Duration
  maxFailedAttempts : ℤ
  lockoutDuration : Duration

namespace AuthConfig

/-- The threshold and the duration of the lockout get a default where they are not positive. -/
def withDefaults (c : AuthConfig) : AuthConfig where
  accessTTL := c.accessTTL
  refreshTTL := c.refreshTTL
  maxFailedAttempts := if c.maxFailedAttempts ≤ 0 then 5 else c.maxFailedAttempts
  lockoutDuration := if c.lockoutDuration ≤ 0 then 15 * Duration.minute else c.lockoutDuration

theorem withDefaults_pos (c : AuthConfig) : 0 < c.withDefaults.maxFailedAttempts := by
  unfold withDefaults
  dsimp only
  split <;> omega

end AuthConfig

/-- What the server is built from: the hasher, the issuer of access tokens, the policy of
`NewAuth`, and the case mappings of Go (`unicode.ToLower`) and of a `citext` column. -/
structure Deps where
  hasher : PasswordHasher
  issuer : Issuer
  authConfig : AuthConfig
  unicodeToLower : Char → Char
  citextLower : String → String

/-- The policy that `NewAuth` keeps. -/
def Deps.cfg (d : Deps) : AuthConfig := d.authConfig.withDefaults

/-! ### Random values -/

/-- The places where a UUID is drawn, by the code or by a column default. -/
inductive UUIDSite where
  | session
  | accessToken
  | refreshToken
  | row
deriving DecidableEq

/-- The places where random bytes are read. -/
inductive RandSite where
  | secureToken
  | codeGroup
  | codeGroup2
deriving DecidableEq

/-- The random values of one call of a usecase, which passes each place at most once.  A version 4
UUID is not `uuid.Nil`. -/
structure Draws where
  uuid : UUIDSite → UUID
  rand : RandSite → Except Error Bytes
  uuid_ne_nil : ∀ site, uuid site ≠ UUID.nil

/-! ### Operations -/

/-- `domain.SuperAdminRepository`. -/
inductive UsersOp where
  | getByID (id : UUID)
  | getByEmail (email : String)
  | list
  | registerFailedLogin (id : UUID) (lockedUntil : Option Time)
  | registerSuccessfulLogin (id : UUID) (now : Time)
  | updateRole (id : UUID) (role : Role)
  | updateStatus (id : UUID) (status : UserStatus)

abbrev UsersOp.Res : UsersOp → Type
  | list => Except Error (List SuperAdminUser)
  | registerFailedLogin _ _ | registerSuccessfulLogin _ _ => Except Error Unit
  | getByID _ | getByEmail _ | updateRole _ _ | updateStatus _ _ => Except Error SuperAdminUser

/-- `domain.RefreshTokenRepository`. -/
inductive TokensOp where
  | create (t : RefreshToken)
  | getByHash (hash : Bytes)
  | markUsed (id replacedBy : UUID) (now : Time)
  | revokeSession (sessionID : UUID) (reason : String) (now : Time)
  | revokeAllForUser (userID : UUID) (reason : String) (now : Time)
  | deleteExpired (before : Time)

abbrev TokensOp.Res : TokensOp → Type
  | create _ | getByHash _ => Except Error RefreshToken
  | markUsed _ _ _ | revokeSession _ _ _ | revokeAllForUser _ _ _ => Except Error Unit
  | deleteExpired _ => Except Error ℕ

/-- `domain.TokenRevoker`. -/
inductive RevokerOp where
  | revoke (tokenID : UUID) (ttl : Duration)
  | isRevoked (tokenID : UUID)

abbrev RevokerOp.Res : RevokerOp → Type
  | revoke _ _ => Except Error Unit
  | isRevoked _ => Except Error Bool

/-- `domain.TokenIssuer`. -/
inductive IssuerOp where
  | issue (claims : AccessClaims)
  | parse (token : String)

abbrev IssuerOp.Res : IssuerOp → Type
  | issue _ => Except Error String
  | parse _ => Except Error AccessClaims

/-- `domain.InvitationRepository`. -/
inductive InvitesOp where
  | create (inv : Invitation)
  | hasPending (email : String)

abbrev InvitesOp.Res : InvitesOp → Type
  | create _ => Except Error Invitation
  | hasPending _ => Except Error Bool

/-- `domain.TenantRepository`. -/
inductive TenantsOp where
  | create (t : Tenant)
  | getByID (id : UUID)
  | list
  | isEmailTaken (email : String)
  | updateStatus (id : UUID) (status : TenantStatus) (suspendedReason : Option String)
  | setActivationCode (id : UUID) (code : String) (expiresAt : Time)
  | delete (id : UUID)

abbrev TenantsOp.Res : TenantsOp → Type
  | create _ | getByID _ | updateStatus _ _ _ | setActivationCode _ _ _ => Except Error Tenant
  | list => Except Error (List Tenant)
  | isEmailTaken _ => Except Error Bool
  | delete _ => Except Error Unit

/-- `domain.TicketRepository`. -/
inductive TicketsOp where
  | list (f : TicketFilter)
  | getByID (id : UUID)
  | updateStatus (id : UUID) (status : TicketStatus)
  | updatePriority (id : UUID) (priority : TicketPriority)
  | assignTo (id : UUID) (assigneeID : Option UUID)
  | addMessage (m : TicketMessage)

abbrev TicketsOp.Res : TicketsOp → Type
  | list _ => Except Error (List Ticket)
  | getByID _ => Except Error (Ticket × List TicketMessage)
  | updateStatus _ _ | updatePriority _ _ | assignTo _ _ => Except Error Ticket
  | addMessage _ => Except Error TicketMessage

/-- `domain.MessageTemplateRepository`. -/
inductive TemplatesOp where
  | get (key : String)
  | update (key body : String) (updatedBy : UUID) (now : Time)

abbrev TemplatesOp.Res : TemplatesOp → Type
  | get _ | update _ _ _ _ => Except Error MessageTemplate

/-- The operations of all ports. -/
inductive Op where
  | now
  | newUUID (site : UUIDSite)
  | randRead (site : RandSite)
  | users (op : UsersOp)
  | tokens (op : TokensOp)
  | revoker (op : RevokerOp)
  | issuer (op : IssuerOp)
  | invites (op : InvitesOp)
  | tenants (op : TenantsOp)
  | tickets (op : TicketsOp)
  | templates (op : TemplatesOp)
  | audit (e : AuditEntry)
  /-- `AuditRepository.List`. -/
  | journal (f : AuditFilter)

abbrev Op.Res : Op → Type
  | now => Time
  | newUUID _ => UUID
  | randRead _ => Except Error Bytes
  | users op => op.Res
  | tokens op => op.Res
  | revoker op => op.Res
  | issuer op => op.Res
  | invites op => op.Res
  | tenants op => op.Res
  | tickets op => op.Res
  | templates op => op.Res
  | audit _ => Except Error Unit
  | journal _ => Except Error (List AuditEntry × ℕ)

/-- The signature of the ports. -/
abbrev Eff : Sig := ⟨Op, Op.Res⟩

/-- Code over the ports. -/
abbrev Proc (α : Type) : Type := Prog Eff α

/-- Call an operation. -/
abbrev perform (op : Op) : Proc op.Res := Prog.perform (S := Eff) op

/-- `AuditRepository.Write`; the usecases ignore its error. -/
def writeAudit (e : AuditEntry) : Proc Unit := do
  let _ ← perform (.audit e)

end SuperAdmin
