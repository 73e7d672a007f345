import SuperAdmin.Lib.Table
import SuperAdmin.Lib.Pool
import SuperAdmin.Ports

/-! # The store: PostgreSQL and Redis behind the ports

The tables of `migrations/` with their constraints, and what each repository call does to
them: the query behind it (`internal/repository/postgres/queries`) and the translation of its
errors (`mapError`).  `exec` is the handler of all ports on the state `World`.  A call that
fails here fails for a reason of the data (no row, a violated constraint); failures of the
infrastructure are not part of this handler.

`updated_at` columns and TOTP secrets are read by no modelled function and are left out. -/

namespace SuperAdmin

open Effects

/-! ### Errors of the queries -/

/-- A `:one` query without a row: `pgx.ErrNoRows` becomes `ErrNotFound`. -/
def orNotFound {α : Type} : Option α → Except Error α
  | some a => .ok a
  | none => .error (.sentinel .notFound)

/-- A unique violation. -/
def uniqueViolation (constraint : String) : Error :=
  .withf (.sentinel .conflict) constraint

/-- A foreign key violation. -/
def foreignKeyViolation (constraint : String) : Error :=
  .withf (.sentinel .notFound) constraint

/-- A string that is no value of an `ENUM` type. -/
def invalidEnum (type : String) : Error := .foreign ("invalid input value for enum " ++ type)

@[simp] theorem orNotFound_some {α : Type} (a : α) : orNotFound (some a) = .ok a := rfl
@[simp] theorem orNotFound_none {α : Type} :
    orNotFound (none : Option α) = .error (.sentinel .notFound) := rfl

theorem orNotFound_eq_ok {α : Type} {o : Option α} {a : α} : orNotFound o = .ok a ↔ o = some a := by
  cases o with
  | none => simp [orNotFound]
  | some b => simp [orNotFound]

/-! ### super_admin_users -/

/-- `super_admin_users`: primary key and `UNIQUE (email)`, a `citext` column. -/
abbrev UserTable (d : Deps) : Type :=
  Table (fun u : SuperAdminUser => (u.id, d.citextLower u.email)) EitherEq

/-- The queries of `super_admin.sql`. -/
def UsersOp.exec (d : Deps) : (op : UsersOp) → UserTable d → op.Res × UserTable d
  | getByID id, t => (orNotFound (t.find? (·.id == id)), t)
  | getByEmail email, t =>
      (orNotFound (t.find? fun u => d.citextLower u.email == d.citextLower email), t)
  | list, t => (.ok (t.rows.mergeSort fun a b => decide (a.createdAt ≤ b.createdAt)), t)
  | registerFailedLogin id lockedUntil, t =>
      (.ok (), t.update (·.id == id) (fun u => { u with
        failedLoginAttempts := u.failedLoginAttempts + 1
        lockedUntil := lockedUntil.map Time.timestamptz <|> u.lockedUntil }) fun _ => rfl)
  | registerSuccessfulLogin id now, t =>
      (.ok (), t.update (·.id == id) (fun u => { u with
        failedLoginAttempts := 0
        lockedUntil := none
        lastLoginAt := some now.timestamptz }) fun _ => rfl)
  | updateRole id role, t =>
      if role.valid then
        let t' := t.update (·.id == id) (fun u => { u with role := role }) fun _ => rfl
        (orNotFound (t'.find? (·.id == id)), t')
      else (.error (invalidEnum "super_admin_role"), t)
  | updateStatus id status, t =>
      let t' := t.update (·.id == id) (fun u => { u with status := status }) fun _ => rfl
      (orNotFound (t'.find? (·.id == id)), t')

/-! ### refresh_tokens -/

/-- `refresh_tokens`: primary key and `UNIQUE (token_hash)`. -/
abbrev TokenTable : Type := Table (fun t : RefreshToken => (t.id, t.tokenHash)) EitherEq

/-- The row that `CreateRefreshToken` inserts for `t`. -/
def RefreshToken.inserted (t : RefreshToken) (now : Time) : RefreshToken where
  id := t.id
  userID := t.userID
  sessionID := t.sessionID
  tokenHash := t.tokenHash
  expiresAt := t.expiresAt.timestamptz
  usedAt := none
  revokedAt := none
  revokedReason := ""
  replacedBy := none
  userAgent := t.userAgent
  ip := t.ip
  createdAt := now.timestamptz

/-- A row after `RevokeRefreshTokenSession` or `RevokeAllRefreshTokensForUser`. -/
def RefreshToken.revoked (t : RefreshToken) (reason : String) (now : Time) : RefreshToken :=
  { t with revokedAt := some now.timestamptz, revokedReason := reason }

/-- A row after `MarkRefreshTokenUsed`. -/
def RefreshToken.used (t : RefreshToken) (replacedBy : UUID) (now : Time) : RefreshToken :=
  { t with usedAt := some now.timestamptz, replacedBy := some replacedBy }

/-- The queries of `refresh_token.sql`.  `hasUser` answers the foreign key of `user_id` and
`clock` gives `created_at`; deleting a row sets the `replaced_by` that refer to it to NULL. -/
def TokensOp.exec (hasUser : UUID → Bool) (clock : Time) :
    (op : TokensOp) → TokenTable → op.Res × TokenTable
  | create t, tbl =>
      match tbl.insert? (t.inserted clock) with
      | none => (.error (uniqueViolation "refresh_tokens"), tbl)
      | some tbl' =>
          if hasUser t.userID then (.ok (t.inserted clock), tbl')
          else (.error (foreignKeyViolation "refresh_tokens_user_id_fkey"), tbl)
  | getByHash hash, tbl => (orNotFound (tbl.find? (·.tokenHash == hash)), tbl)
  | markUsed id replacedBy now, tbl =>
      if tbl.rows.any (fun t => t.id == id && !t.isUsed) &&
          !tbl.rows.any (fun t => t.id == replacedBy) then
        (.error (foreignKeyViolation "refresh_tokens_replaced_by_fkey"), tbl)
      else (.ok (), tbl.update (fun t => t.id == id && !t.isUsed) (·.used replacedBy now) fun _ => rfl)
  | revokeSession sessionID reason now, tbl =>
      (.ok (), tbl.update (fun t => t.sessionID == sessionID && !t.isRevoked)
        (·.revoked reason now) fun _ => rfl)
  | revokeAllForUser userID reason now, tbl =>
      (.ok (), tbl.update (fun t => t.userID == userID && !t.isRevoked)
        (·.revoked reason now) fun _ => rfl)
  | deleteExpired before, tbl =>
      let kept := tbl.delete fun t => decide (t.expiresAt < before.timestamptz)
      (.ok (tbl.rows.length - kept.rows.length),
        kept.update (fun t => t.replacedBy.any fun r => !kept.rows.any (·.id == r))
          (fun t => { t with replacedBy := none }) fun _ => rfl)

/-! ### super_admin_invitations -/

/-- The constrained columns of an invitation. -/
structure InvitationKey where
  id : UUID
  tokenHash : Bytes
  email : String
  pending : Bool

/-- Primary key, `UNIQUE (token_hash)`, and one pending invitation for an email. -/
def InvitationKey.clash (a b : InvitationKey) : Prop :=
  a.id = b.id ∨ a.tokenHash = b.tokenHash ∨ (a.email = b.email ∧ a.pending = true ∧ b.pending = true)

instance : DecidableRel InvitationKey.clash := fun a b =>
  inferInstanceAs (Decidable (a.id = b.id ∨ a.tokenHash = b.tokenHash ∨
    (a.email = b.email ∧ a.pending = true ∧ b.pending = true)))

/-- `super_admin_invitations`. -/
abbrev InvitationTable (d : Deps) : Type :=
  Table (fun i : Invitation => (⟨i.id, i.tokenHash, d.citextLower i.email, i.acceptedAt.isNone⟩ :
    InvitationKey)) InvitationKey.clash

/-- The row that `CreateInvitation` inserts for `inv`. -/
def Invitation.inserted (inv : Invitation) (id : UUID) (now : Time) : Invitation :=
  { inv with id := id, expiresAt := inv.expiresAt.timestamptz, acceptedAt := none,
             createdAt := now.timestamptz }

/-- The queries of `invitation.sql`; `rowID` is the default of the `id` column. -/
def InvitesOp.exec (d : Deps) (hasUser : UUID → Bool) (rowID : UUID) (clock : Time) :
    (op : InvitesOp) → InvitationTable d → op.Res × InvitationTable d
  | create inv, tbl =>
      if inv.role.valid then
        match tbl.insert? (inv.inserted rowID clock) with
        | none => (.error (uniqueViolation "super_admin_invitations"), tbl)
        | some tbl' =>
            if inv.invitedBy.all hasUser then
              (.ok { inv with id := rowID, createdAt := clock.timestamptz }, tbl')
            else (.error (foreignKeyViolation "super_admin_invitations_invited_by_fkey"), tbl)
      else (.error (invalidEnum "super_admin_role"), tbl)
  | hasPending email, tbl =>
      (.ok (tbl.rows.any fun i => d.citextLower i.email == d.citextLower email && i.acceptedAt.isNone),
        tbl)

/-! ### tenants, support_tickets and support_ticket_messages -/

/-- `tenants`: primary key and `UNIQUE (email)`, a `citext` column. -/
abbrev TenantTable (d : Deps) : Type :=
  Table (fun t : Tenant => (t.id, d.citextLower t.email)) EitherEq

/-- `support_tickets`. -/
abbrev TicketTable : Type := Table (fun t : Ticket => t.id) (· = ·)

/-- `support_ticket_messages`. -/
abbrev MessageTable : Type := Table (fun m : TicketMessage => m.id) (· = ·)

/-- The tables about clients. -/
structure Clients (d : Deps) where
  tenants : TenantTable d
  tickets : TicketTable
  messages : MessageTable

/-- The row that `CreateTenant` inserts for `t`. -/
def Tenant.inserted (t : Tenant) (id : UUID) (now : Time) : Tenant :=
  { t with id := id, employees := 0, lastActiveAt := none, suspendedReason := none,
           trialEndsAt := t.trialEndsAt.map Time.timestamptz,
           activationCodeExpiresAt := t.activationCodeExpiresAt.map Time.timestamptz,
           createdAt := now.timestamptz }

/-- The queries of `tenant.sql`.  Deleting a tenant deletes its tickets and their messages. -/
def TenantsOp.exec (d : Deps) (rowID : UUID) (clock : Time) :
    (op : TenantsOp) → Clients d → op.Res × Clients d
  | create t, c =>
      if t.plan.valid then
        match c.tenants.insert? (t.inserted rowID clock) with
        | none => (.error (uniqueViolation "tenants"), c)
        | some tenants => (.ok (t.inserted rowID clock), { c with tenants := tenants })
      else (.error (invalidEnum "tenant_plan"), c)
  | getByID id, c => (orNotFound (c.tenants.find? (·.id == id)), c)
  | list, c => (.ok (c.tenants.rows.mergeSort fun a b => decide (b.createdAt ≤ a.createdAt)), c)
  | isEmailTaken email, c =>
      (.ok (c.tenants.rows.any fun t => d.citextLower t.email == d.citextLower email), c)
  | updateStatus id status suspendedReason, c =>
      let tenants := c.tenants.update (·.id == id)
        (fun t => { t with status := status, suspendedReason := suspendedReason }) fun _ => rfl
      (orNotFound (tenants.find? (·.id == id)), { c with tenants := tenants })
  | setActivationCode id code expiresAt, c =>
      let tenants := c.tenants.update (·.id == id)
        (fun t => { t with activationCode := some code,
                           activationCodeExpiresAt := some expiresAt.timestamptz }) fun _ => rfl
      (orNotFound (tenants.find? (·.id == id)), { c with tenants := tenants })
  | delete id, c =>
      let gone := c.tickets.rows.filter fun t => t.tenantID == id
      (.ok (), { tenants := c.tenants.delete (·.id == id)
                 tickets := c.tickets.delete fun t => t.tenantID == id
                 messages := c.messages.delete fun m => gone.any (·.id == m.ticketID) })

/-- The row filter of `TicketRepo.List`: two conditions in SQL and two in Go. -/
def TicketFilter.keeps (f : TicketFilter) (t : Ticket) : Bool :=
  f.tenantID.all (· == t.tenantID) && f.status.all (· == t.status) &&
    !(f.onlyUnassigned && t.assigneeID.isSome) && f.assigneeID.all (fun a => t.assigneeID == some a)

/-- The queries of `ticket.sql` with the trigger `support_ticket_messages_touch`. -/
def TicketsOp.exec (d : Deps) (hasUser : UUID → Bool) (rowID : UUID) (clock : Time) :
    (op : TicketsOp) → Clients d → op.Res × Clients d
  | list f, c =>
      (.ok ((c.tickets.rows.mergeSort fun a b => decide (b.lastMessageAt ≤ a.lastMessageAt)).filter
        f.keeps), c)
  | getByID id, c =>
      ((orNotFound (c.tickets.find? (·.id == id))).map fun t =>
        (t, (c.messages.rows.filter (·.ticketID == id)).mergeSort
          fun a b => decide (a.sentAt ≤ b.sentAt)), c)
  | updateStatus id status, c =>
      if status.valid then
        let tickets := c.tickets.update (·.id == id) (fun t => { t with status := status }) fun _ => rfl
        (orNotFound (tickets.find? (·.id == id)), { c with tickets := tickets })
      else (.error (invalidEnum "ticket_status"), c)
  | updatePriority id priority, c =>
      if priority.valid then
        let tickets := c.tickets.update (·.id == id) (fun t => { t with priority := priority })
          fun _ => rfl
        (orNotFound (tickets.find? (·.id == id)), { c with tickets := tickets })
      else (.error (invalidEnum "ticket_priority"), c)
  | assignTo id assigneeID, c =>
      if c.tickets.rows.any (·.id == id) && !assigneeID.all hasUser then
        (.error (foreignKeyViolation "support_tickets_assignee_id_fkey"), c)
      else
        let tickets := c.tickets.update (·.id == id) (fun t => { t with assigneeID := assigneeID })
          fun _ => rfl
        (orNotFound (tickets.find? (·.id == id)), { c with tickets := tickets })
  | addMessage m, c =>
      let row := { m with id := rowID, sentAt := clock.timestamptz }
      match c.messages.insert? row with
      | none => (.error (uniqueViolation "support_ticket_messages_pkey"), c)
      | some messages =>
          if c.tickets.rows.any (·.id == m.ticketID) && m.authorID.all hasUser then
            (.ok row, { c with
              messages := messages
              tickets := c.tickets.update (·.id == m.ticketID)
                (fun t => { t with lastMessageAt := row.sentAt }) fun _ => rfl })
          else (.error (foreignKeyViolation "support_ticket_messages_ticket_id_fkey"), c)

/-! ### message_templates -/

/-- `message_templates`. -/
abbrev TemplateTable : Type := Table (fun t : MessageTemplate => t.key) (· = ·)

/-- The queries of `message_template.sql`. -/
def TemplatesOp.exec (hasUser : UUID → Bool) : (op : TemplatesOp) → TemplateTable → op.Res × TemplateTable
  | get key, tbl => (orNotFound (tbl.find? (·.key == key)), tbl)
  | update key body updatedBy now, tbl =>
      if tbl.rows.any (·.key == key) && !hasUser updatedBy then
        (.error (foreignKeyViolation "message_templates_updated_by_fkey"), tbl)
      else
        let tbl' := tbl.update (·.key == key)
          (fun t => { t with body := body, updatedAt := some now.timestamptz,
                             updatedBy := some updatedBy }) fun _ => rfl
        (orNotFound (tbl'.find? (·.key == key)), tbl')

/-! ### Redis -/

/-- The revocation list: a key with the instant until which it is kept. -/
structure Redis where
  up : Bool
  keys : List (String × Time)

namespace Redis

/-- `EXISTS`. -/
def exist (r : Redis) (key : String) (now : Time) : Bool :=
  r.keys.any fun p => p.1 == key && decide (now < p.2)

/-- `SET key "1"` with a time to live. -/
def set (r : Redis) (key : String) (until_ : Time) : Redis :=
  { r with keys := (key, until_) :: r.keys.filter fun p => p.1 != key }

theorem exist_set_self (r : Redis) (key : String) {now until_ : Time} (h : now < until_) :
    (r.set key until_).exist key now = true := by
  simp [set, exist, h]

theorem exist_set_of_ne (r : Redis) {key key' : String} (h : key ≠ key') (now until_ : Time) :
    (r.set key' until_).exist key now = r.exist key now := by
  have hother : (key' == key) = false := beq_false_of_ne (Ne.symm h)
  unfold exist set
  rw [List.any_cons, hother, Bool.false_and, Bool.false_or, List.any_filter]
  congr 1
  funext p
  by_cases hp : p.1 = key
  · have hkept : (p.1 != key') = true := bne_iff_ne.mpr fun h' => h (hp.symm.trans h')
    rw [hkept, Bool.true_and]
  · rw [beq_false_of_ne hp, Bool.false_and, Bool.and_false]

end Redis

/-- `redisx.key`. -/
def revokedKey (tokenID : UUID) : String := "revoked:jti:" ++ tokenID.string

/-- `redisx.Revoker`. -/
def RevokerOp.exec (clock : Time) : (op : RevokerOp) → Redis → op.Res × Redis
  | revoke tokenID ttl, r =>
      if ttl ≤ 0 then (.ok (), r)
      else if r.up then (.ok (), r.set (revokedKey tokenID) (clock.add ttl))
      else (.error (.wrapf ("отзыв токена " ++ tokenID.string) (.foreign "redis")), r)
  | isRevoked tokenID, r =>
      if r.up then (.ok (r.exist (revokedKey tokenID) clock), r)
      else (.error (.wrapf ("проверка отзыва токена " ++ tokenID.string) (.foreign "redis")), r)

/-! ### audit_logs -/

/-- `ORDER BY created_at DESC, id DESC`. -/
def AuditEntry.newer (a b : AuditEntry) : Bool :=
  decide (b.createdAt < a.createdAt) || (a.createdAt == b.createdAt && decide (b.id ≤ a.id))

namespace AuditFilter

/-- The `WHERE` clause of `ListAuditLogs` and of `CountAuditLogs`. -/
def keeps (f : AuditFilter) (e : AuditEntry) : Bool :=
  f.actorID.all (fun id => e.actorID == some id) &&
    (f.action == "" || e.action == f.action) &&
    (f.targetType == "" || e.targetType == f.targetType) &&
    (f.targetID == "" || e.targetID == f.targetID) &&
    f.from_.all (fun t => decide (t.timestamptz ≤ e.createdAt)) &&
    f.to_.all (fun t => decide (e.createdAt ≤ t.timestamptz))

/-- The page size that `AuditRepo.List` asks for. -/
def resultLimit (f : AuditFilter) : Int64 := if f.limit ≤ 0 ∨ f.limit > 200 then 50 else f.limit

/-- The offset that `AuditRepo.List` asks for. -/
def resultOffset (f : AuditFilter) : Int64 := if f.offset < 0 then 0 else f.offset

/-- The rows that match, in their order. -/
def matching (f : AuditFilter) (rows : List AuditEntry) : List AuditEntry :=
  (rows.filter f.keeps).mergeSort AuditEntry.newer

/-- `AuditRepo.List`: a page of the rows that match, and their number.  The limit and the offset are
converted to `int32`. -/
def list (f : AuditFilter) (rows : List AuditEntry) : Except Error (List AuditEntry × ℕ) :=
  if f.resultOffset.toInt32 < 0 then .error (.foreign "OFFSET must not be negative")
  else .ok (((f.matching rows).drop f.resultOffset.toInt32.toNatClampNeg).take
    f.resultLimit.toInt32.toNatClampNeg, (f.matching rows).length)

end AuditFilter

/-! ### The whole state -/

/-- The state of the system: the clock, Redis, and the tables. -/
structure World (d : Deps) where
  clock : Time
  redis : Redis
  users : UserTable d
  tokens : TokenTable
  invitations : InvitationTable d
  clients : Clients d
  templates : TemplateTable
  audit : List AuditEntry

namespace World

variable {d : Deps}

/-- The foreign keys that refer to `super_admin_users`. -/
def hasUser (w : World d) (id : UUID) : Bool := w.users.rows.any (·.id == id)

/-- `AuditRepo.Write`: the entry gets the next identity, and the clock where it has no time. -/
def writeAudit (w : World d) (e : AuditEntry) : Except Error Unit × World d :=
  if e.actorID.all w.hasUser then
    (.ok (), { w with audit := w.audit ++ [{ e with
      id := w.audit.length + 1
      createdAt := if e.createdAt = Time.zero then w.clock.timestamptz else e.createdAt.timestamptz }] })
  else (.error (foreignKeyViolation "audit_logs_actor_id_fkey"), w)

section writeAudit

variable (w : World d) (e : AuditEntry)

@[simp] theorem writeAudit_clock : (w.writeAudit e).2.clock = w.clock := by
  unfold writeAudit; split <;> rfl
@[simp] theorem writeAudit_redis : (w.writeAudit e).2.redis = w.redis := by
  unfold writeAudit; split <;> rfl
@[simp] theorem writeAudit_users : (w.writeAudit e).2.users = w.users := by
  unfold writeAudit; split <;> rfl
@[simp] theorem writeAudit_tokens : (w.writeAudit e).2.tokens = w.tokens := by
  unfold writeAudit; split <;> rfl
@[simp] theorem writeAudit_invitations : (w.writeAudit e).2.invitations = w.invitations := by
  unfold writeAudit; split <;> rfl
@[simp] theorem writeAudit_clients : (w.writeAudit e).2.clients = w.clients := by
  unfold writeAudit; split <;> rfl
@[simp] theorem writeAudit_templates : (w.writeAudit e).2.templates = w.templates := by
  unfold writeAudit; split <;> rfl

end writeAudit

/-- The parser and the signer of `IssuerOp` leave the state alone. -/
def issuerAnswer (w : World d) : (op : IssuerOp) → op.Res
  | .issue claims => d.issuer.issue claims
  | .parse token => d.issuer.parse w.clock token

end World

/-- The handler of all ports for a call with the random values `r`. -/
def exec (d : Deps) (r : Draws) : Handler Eff (World d)
  | .now, w => (w.clock, w)
  | .newUUID site, w => (r.uuid site, w)
  | .randRead site, w => (r.rand site, w)
  | .users op, w => ((op.exec d w.users).1, { w with users := (op.exec d w.users).2 })
  | .tokens op, w =>
      ((op.exec w.hasUser w.clock w.tokens).1,
        { w with tokens := (op.exec w.hasUser w.clock w.tokens).2 })
  | .revoker op, w => ((op.exec w.clock w.redis).1, { w with redis := (op.exec w.clock w.redis).2 })
  | .issuer op, w => (w.issuerAnswer op, w)
  | .invites op, w =>
      ((op.exec d w.hasUser (r.uuid .row) w.clock w.invitations).1,
        { w with invitations := (op.exec d w.hasUser (r.uuid .row) w.clock w.invitations).2 })
  | .tenants op, w =>
      ((op.exec d (r.uuid .row) w.clock w.clients).1,
        { w with clients := (op.exec d (r.uuid .row) w.clock w.clients).2 })
  | .tickets op, w =>
      ((op.exec d w.hasUser (r.uuid .row) w.clock w.clients).1,
        { w with clients := (op.exec d w.hasUser (r.uuid .row) w.clock w.clients).2 })
  | .templates op, w =>
      ((op.exec w.hasUser w.templates).1, { w with templates := (op.exec w.hasUser w.templates).2 })
  | .audit e, w => w.writeAudit e
  | .journal f, w => (f.list w.audit, w)

/-! ### What a call leaves alone -/

section frame

variable {d : Deps} (r : Draws) (op : Op) (w : World d)

/-- No call moves the clock. -/
@[simp] theorem exec_clock : (exec d r op w).2.clock = w.clock := by
  cases op with
  | audit e => exact w.writeAudit_clock e
  | _ => rfl

/-- Only a token query touches `refresh_tokens`. -/
theorem exec_tokens (h : ∀ top, op ≠ .tokens top) : (exec d r op w).2.tokens = w.tokens := by
  cases op with
  | tokens top => exact absurd rfl (h top)
  | audit e => exact w.writeAudit_tokens e
  | _ => rfl

/-- Only a user query touches `super_admin_users`. -/
theorem exec_users (h : ∀ uop, op ≠ .users uop) : (exec d r op w).2.users = w.users := by
  cases op with
  | users uop => exact absurd rfl (h uop)
  | audit e => exact w.writeAudit_users e
  | _ => rfl

/-- Only a call of the revocation list touches Redis. -/
theorem exec_redis (h : ∀ rop, op ≠ .revoker rop) : (exec d r op w).2.redis = w.redis := by
  cases op with
  | revoker rop => exact absurd rfl (h rop)
  | audit e => exact w.writeAudit_redis e
  | _ => rfl

end frame

end SuperAdmin
