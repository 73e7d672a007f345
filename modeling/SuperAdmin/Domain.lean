import SuperAdmin.Go.Time
import SuperAdmin.Go.Errors
import SuperAdmin.Go.Encoding

/-! # The domain

The entities of `internal/domain`, with the fields that the modelled functions read or write.
A string type with named constants (`Role`, `TenantPlan`, `TicketStatus`, …) is an enumeration
with a last constructor for any other string, since a handler converts the string of a request
without a check; that constructor carries the proof that its string is no named constant.  A
pointer is an `Option`; `revokedReason` is `""` where the column is NULL, as `toDomainToken` reads
it. -/

namespace SuperAdmin

/-- `uuid.UUID`, sixteen bytes. -/
abbrev UUID : Type := BitVec 128

namespace UUID

/-- `uuid.Nil`. -/
abbrev nil : UUID := 0

def hexDigit (n : ℕ) : Char := if n < 10 then Char.ofNat (48 + n) else Char.ofNat (87 + n)

/-- The last `k` hexadecimal digits of `n`, highest first. -/
def hexDigits : ℕ → ℕ → List Char
  | 0, _ => []
  | k + 1, n => hexDigits k (n / 16) ++ [hexDigit (n % 16)]

/-- `id.String()`: groups of 8, 4, 4, 4 and 12 digits. -/
def string (id : UUID) : String :=
  let d := hexDigits 32 id.toNat
  String.ofList (d.take 8 ++ '-' :: (d.drop 8).take 4 ++ '-' :: (d.drop 12).take 4 ++
    '-' :: (d.drop 16).take 4 ++ '-' :: d.drop 20)

end UUID

/-! ### Staff -/

/-- `domain.Role`. -/
inductive Role where
  | owner
  | admin
  | support
  | viewer
  | unknown (name : String) (h : name ∉ ["owner", "admin", "support", "viewer"])
deriving DecidableEq, Repr

namespace Role

/-- The string of a role. -/
def string : Role → String
  | owner => "owner"
  | admin => "admin"
  | support => "support"
  | viewer => "viewer"
  | unknown name _ => name

/-- `domain.Role(s)`. -/
def ofString (s : String) : Role :=
  if h₁ : s = "owner" then owner
  else if h₂ : s = "admin" then admin
  else if h₃ : s = "support" then support
  else if h₄ : s = "viewer" then viewer
  else unknown s (by simp [h₁, h₂, h₃, h₄])

/-- `Role.Valid`. -/
def valid : Role → Bool
  | owner | admin | support | viewer => true
  | unknown _ _ => false

theorem ofString_string (r : Role) : ofString r.string = r := by
  cases r with
  | unknown name h =>
      simp only [List.mem_cons, List.not_mem_nil, or_false, not_or] at h
      obtain ⟨h₁, h₂, h₃, h₄⟩ := h
      simp [string, ofString, h₁, h₂, h₃, h₄]
  | _ => rfl

end Role

/-- `domain.UserStatus`. -/
inductive UserStatus where
  | active
  | suspended
deriving DecidableEq, Repr

/-- `domain.SuperAdminUser`. -/
structure SuperAdminUser where
  id : UUID
  email : String
  fullName : String
  passwordHash : String
  role : Role
  status : UserStatus
  totpEnrolledAt : Option Time
  failedLoginAttempts : ℕ
  lockedUntil : Option Time
  lastLoginAt : Option Time
  createdAt : Time
deriving DecidableEq, Repr

namespace SuperAdminUser

/-- `IsLocked`: under a lockout after a series of failed logins. -/
def isLocked (u : SuperAdminUser) (now : Time) : Bool :=
  match u.lockedUntil with
  | none => false
  | some t => decide (now < t)

/-- `EnsureCanLogin`; `none` is the nil error. -/
def ensureCanLogin (u : SuperAdminUser) (now : Time) : Option Error :=
  if u.isLocked now then some (.sentinel .accountLocked)
  else if u.status ≠ .active then some (.sentinel .invalidCredentials)
  else none

/-- `EnsureCanLogin` passes exactly the accounts that are active and not locked. -/
theorem ensureCanLogin_eq_none {u : SuperAdminUser} {now : Time} :
    u.ensureCanLogin now = none ↔ u.isLocked now = false ∧ u.status = .active := by
  unfold ensureCanLogin
  by_cases hl : u.isLocked now = true
  · simp [hl]
  · by_cases hs : u.status = .active <;> simp [hl, hs]

end SuperAdminUser

/-! ### Sessions -/

/-- `domain.RefreshToken`. -/
structure RefreshToken where
  id : UUID
  userID : UUID
  sessionID : UUID
  tokenHash : Bytes
  expiresAt : Time
  usedAt : Option Time
  revokedAt : Option Time
  revokedReason : String
  replacedBy : Option UUID
  userAgent : String
  ip : String
  createdAt : Time
deriving DecidableEq, Repr

namespace RefreshToken

def isExpired (t : RefreshToken) (now : Time) : Bool := !decide (now < t.expiresAt)
def isRevoked (t : RefreshToken) : Bool := t.revokedAt.isSome
def isUsed (t : RefreshToken) : Bool := t.usedAt.isSome

/-- `IsUsable`: the token can be exchanged for a new pair. -/
def isUsable (t : RefreshToken) (now : Time) : Bool :=
  !t.isExpired now && !t.isRevoked && !t.isUsed

end RefreshToken

namespace RevokeReason

def logout : String := "logout"
def reuse : String := "refresh_token_reuse"
def logoutAll : String := "logout_all_sessions"
def userDisabled : String := "user_disabled"

end RevokeReason

/-- `domain.AccessClaims`. -/
structure AccessClaims where
  userID : UUID
  email : String
  role : Role
  sessionID : UUID
  tokenID : UUID
  issuedAt : Time
  expiresAt : Time
deriving DecidableEq, Repr

/-- `domain.TokenPair`. -/
structure TokenPair where
  accessToken : String
  accessExpiresAt : Time
  refreshToken : String
  refreshExpiresAt : Time
deriving DecidableEq, Repr

/-- `domain.Credentials`. -/
structure Credentials where
  email : String
  password : String

/-- `domain.RequestContext`. -/
structure RequestContext where
  ip : String
  userAgent : String

/-! ### Invitations and settings -/

/-- `domain.Invitation`. -/
structure Invitation where
  id : UUID
  email : String
  role : Role
  tokenHash : Bytes
  invitedBy : Option UUID
  expiresAt : Time
  acceptedAt : Option Time
  createdAt : Time
deriving DecidableEq, Repr

namespace Invitation

def isExpired (i : Invitation) (now : Time) : Bool := !decide (now < i.expiresAt)
def isAccepted (i : Invitation) : Bool := i.acceptedAt.isSome

end Invitation

/-- `domain.PlanInfo`. -/
structure PlanInfo where
  plan : String
  limit : String
  price : String
  includes : String
deriving DecidableEq, Repr

/-- `domain.MessageTemplateKey`. -/
def messageTemplateKey : String := "activation_code"

/-- `domain.MessageTemplate`. -/
structure MessageTemplate where
  key : String
  body : String
  updatedAt : Option Time
  updatedBy : Option UUID
deriving DecidableEq, Repr

/-! ### Clients -/

/-- `domain.TenantStatus`. -/
inductive TenantStatus where
  | active
  | trial
  | paused
deriving DecidableEq, Repr

def TenantStatus.string : TenantStatus → String
  | .active => "active"
  | .trial => "trial"
  | .paused => "paused"

/-- `domain.TenantPlan`. -/
inductive TenantPlan where
  | starter
  | growth
  | enterprise
  | unknown (name : String) (h : name ∉ ["Starter", "Growth", "Enterprise"])
deriving DecidableEq, Repr

namespace TenantPlan

def string : TenantPlan → String
  | starter => "Starter"
  | growth => "Growth"
  | enterprise => "Enterprise"
  | unknown name _ => name

/-- `domain.TenantPlan(s)`. -/
def ofString (s : String) : TenantPlan :=
  if h₁ : s = "Starter" then starter
  else if h₂ : s = "Growth" then growth
  else if h₃ : s = "Enterprise" then enterprise
  else unknown s (by simp [h₁, h₂, h₃])

/-- `TenantPlan.Valid`. -/
def valid : TenantPlan → Bool
  | starter | growth | enterprise => true
  | unknown _ _ => false

end TenantPlan

/-- `domain.Tenant`. -/
structure Tenant where
  id : UUID
  name : String
  city : String
  address : String
  status : TenantStatus
  plan : TenantPlan
  employees : ℕ
  ownerName : String
  phone : String
  email : String
  lastActiveAt : Option Time
  trialEndsAt : Option Time
  suspendedReason : Option String
  activationCode : Option String
  activationCodeExpiresAt : Option Time
  createdAt : Time
deriving DecidableEq, Repr

/-- `domain.NewTenant`; zero `trialDays` means no trial period. -/
structure NewTenant where
  name : String
  city : String
  address : String
  ownerName : String
  phone : String
  email : String
  plan : TenantPlan
  trialDays : Int64

/-! ### Tickets -/

/-- `domain.TicketStatus`. -/
inductive TicketStatus where
  | opened
  | inProgress
  | resolved
  | closed
  | unknown (name : String) (h : name ∉ ["open", "in_progress", "resolved", "closed"])
deriving DecidableEq, Repr

namespace TicketStatus

def string : TicketStatus → String
  | opened => "open"
  | inProgress => "in_progress"
  | resolved => "resolved"
  | closed => "closed"
  | unknown name _ => name

/-- `domain.TicketStatus(s)`. -/
def ofString (s : String) : TicketStatus :=
  if h₁ : s = "open" then opened
  else if h₂ : s = "in_progress" then inProgress
  else if h₃ : s = "resolved" then resolved
  else if h₄ : s = "closed" then closed
  else unknown s (by simp [h₁, h₂, h₃, h₄])

/-- `TicketStatus.Valid`. -/
def valid : TicketStatus → Bool
  | opened | inProgress | resolved | closed => true
  | unknown _ _ => false

end TicketStatus

/-- `domain.TicketPriority`. -/
inductive TicketPriority where
  | low
  | normal
  | high
  | unknown (name : String) (h : name ∉ ["low", "normal", "high"])
deriving DecidableEq, Repr

namespace TicketPriority

def string : TicketPriority → String
  | low => "low"
  | normal => "normal"
  | high => "high"
  | unknown name _ => name

/-- `domain.TicketPriority(s)`. -/
def ofString (s : String) : TicketPriority :=
  if h₁ : s = "low" then low
  else if h₂ : s = "normal" then normal
  else if h₃ : s = "high" then high
  else unknown s (by simp [h₁, h₂, h₃])

/-- `TicketPriority.Valid`. -/
def valid : TicketPriority → Bool
  | low | normal | high => true
  | unknown _ _ => false

end TicketPriority

/-- `domain.TicketMessageAuthor`. -/
inductive TicketMessageAuthor where
  | client
  | team
deriving DecidableEq, Repr

def TicketMessageAuthor.string : TicketMessageAuthor → String
  | .client => "client"
  | .team => "team"

/-- `domain.TicketMessage`. -/
structure TicketMessage where
  id : UUID
  ticketID : UUID
  author : TicketMessageAuthor
  authorName : String
  authorID : Option UUID
  body : String
  sentAt : Time
deriving DecidableEq, Repr

/-- `domain.Ticket`, without the messages: `Ticket.GetByID` returns them beside it. -/
structure Ticket where
  id : UUID
  tenantID : UUID
  subject : String
  status : TicketStatus
  priority : TicketPriority
  assigneeID : Option UUID
  contactName : String
  lastMessageAt : Time
  createdAt : Time
deriving DecidableEq, Repr

/-- `domain.TicketFilter`; a `none` does not filter. -/
structure TicketFilter where
  tenantID : Option UUID := none
  status : Option TicketStatus := none
  assigneeID : Option UUID := none
  onlyUnassigned : Bool := false

/-! ### Audit -/

/-- `domain.Resource`. -/
inductive Resource where
  | tenant
  | supportTicket
  | superAdmin
  | auditLog
  | metrics
  | settings
deriving DecidableEq, Repr

def Resource.string : Resource → String
  | tenant => "tenant"
  | supportTicket => "support_ticket"
  | superAdmin => "super_admin"
  | auditLog => "audit_log"
  | metrics => "metrics"
  | settings => "settings"

/-- `domain.Action`. -/
inductive Action where
  | read
  | create
  | update
  | delete
  | suspend
deriving DecidableEq, Repr

def Action.string : Action → String
  | read => "read"
  | create => "create"
  | update => "update"
  | delete => "delete"
  | suspend => "suspend"

/-- The actions of the journal; no usecase writes `tenantUpdated` or `superAdminCreate`. -/
inductive AuditAction where
  | loginSuccess
  | loginFailure
  | logout
  | tokenRefresh
  | tokenReuse
  | sessionsRevoked
  | tenantCreated
  | tenantUpdated
  | tenantSuspended
  | tenantResumed
  | superAdminCreate
  | superAdminInvited
  | superAdminRoleChanged
  | superAdminAccessRevoked
  | messageTemplateUpdated
  | tenantActivationCodeIssued
  | tenantDeleted
  | ticketReplied
  | ticketAssigned
  | ticketStatusChanged
  | ticketPriorityChanged
deriving DecidableEq, Repr

/-- The constants `Audit…` of `domain/audit.go`. -/
def AuditAction.string : AuditAction → String
  | loginSuccess => "auth.login.success"
  | loginFailure => "auth.login.failure"
  | logout => "auth.logout"
  | tokenRefresh => "auth.token.refresh"
  | tokenReuse => "auth.token.reuse_detected"
  | sessionsRevoked => "auth.sessions.revoked"
  | tenantCreated => "tenant.created"
  | tenantUpdated => "tenant.updated"
  | tenantSuspended => "tenant.suspended"
  | tenantResumed => "tenant.resumed"
  | superAdminCreate => "super_admin.created"
  | superAdminInvited => "super_admin.invited"
  | superAdminRoleChanged => "super_admin.role_changed"
  | superAdminAccessRevoked => "super_admin.access_revoked"
  | messageTemplateUpdated => "settings.message_template.updated"
  | tenantActivationCodeIssued => "tenant.activation_code_issued"
  | tenantDeleted => "tenant.deleted"
  | ticketReplied => "support_ticket.replied"
  | ticketAssigned => "support_ticket.assigned"
  | ticketStatusChanged => "support_ticket.status_changed"
  | ticketPriorityChanged => "support_ticket.priority_changed"

/-- `domain.AuditEntry`; all metadata values of the usecases are strings. -/
structure AuditEntry where
  id : ℕ := 0
  actorID : Option UUID := none
  actorEmail : String := ""
  action : String
  targetType : String := ""
  targetID : String := ""
  metadata : List (String × String) := []
  ip : String
  userAgent : String
  createdAt : Time
deriving DecidableEq, Repr

/-- `domain.AuditFilter`; an empty string and a `none` do not filter. -/
structure AuditFilter where
  actorID : Option UUID := none
  action : String := ""
  targetType : String := ""
  targetID : String := ""
  from_ : Option Time := none
  to_ : Option Time := none
  limit : Int64 := 0
  offset : Int64 := 0

end SuperAdmin
