import SuperAdmin.Ports

/-! # The usecases about clients and settings

`internal/usecase/tenant.go`, `ticket.go` and `settings.go`. -/

namespace SuperAdmin.Usecase

open Effects

/-! ### Tenants -/

namespace Tenant

/-- `activationCodeTTL`. -/
def activationCodeTTL : Duration := 7 * 24 * Duration.hour

/-- The alphabet of `generateActivationCode`: no 0, O, 1 or I. -/
def alphabet : List Char := "ABCDEFGHJKLMNPQRSTUVWXYZ23456789".toList

/-- `randomAlphabetString` over four random bytes. -/
def randomAlphabetString (site : RandSite) : Proc (Except Error String) := do
  match ← perform (.randRead site) with
  | .error e => return .error (.wrapf "генерация кода" e)
  | .ok b => return .ok (String.ofList (b.map fun v => alphabet.getD (v.toNat % alphabet.length) 'A'))

/-- `generateActivationCode`. -/
def generateActivationCode : Proc (Except Error String) := do
  match ← randomAlphabetString .codeGroup with
  | .error e => return .error e
  | .ok group =>
  match ← randomAlphabetString .codeGroup2 with
  | .error e => return .error e
  | .ok group2 => return .ok (group ++ "-" ++ group2)

/-- `Tenant.writeAudit`. -/
def writeAudit (actor : AccessClaims) (action : AuditAction) (tenant : Tenant)
    (rc : RequestContext) (extra : List (String × String)) : Proc Unit := do
  let now ← perform .now
  SuperAdmin.writeAudit {
    actorID := some actor.userID
    actorEmail := actor.email
    action := action.string
    targetType := "tenant"
    targetID := tenant.id.string
    metadata := ("tenant_name", tenant.name) :: extra
    ip := rc.ip
    userAgent := rc.userAgent
    createdAt := now }

/-- `Tenant.List`. -/
def list : Proc (Except Error (List Tenant)) := perform (.tenants .list)

/-- `Tenant.Get`. -/
def get (id : UUID) : Proc (Except Error Tenant) := perform (.tenants (.getByID id))

/-- `Tenant.IsEmailTaken`. -/
def isEmailTaken (email : String) : Proc (Except Error Bool) :=
  perform (.tenants (.isEmailTaken email))

/-- The tenant that `Create` inserts. -/
def newTenant (input : NewTenant) (now : Time) (code : String) : Tenant where
  id := UUID.nil
  name := input.name
  city := input.city
  address := input.address
  status := if input.trialDays > 0 then .trial else .active
  plan := input.plan
  employees := 0
  ownerName := input.ownerName
  phone := input.phone
  email := input.email
  lastActiveAt := none
  -- the product is a 64-bit one
  trialEndsAt :=
    if input.trialDays > 0 then some (now.add (input.trialDays * 24 * Duration.hour)) else none
  suspendedReason := none
  activationCode := some code
  activationCodeExpiresAt := some (now.add activationCodeTTL)
  createdAt := Time.zero

/-- `Tenant.Create`. -/
def create (actor : AccessClaims) (input : NewTenant) (rc : RequestContext) :
    Proc (Except Error Tenant) := do
  if !input.plan.valid then return .error (.invalid "plan" "недопустимый тариф")
  else
  let now ← perform .now
  match ← generateActivationCode with
  | .error e => return .error e
  | .ok code =>
  match ← perform (.tenants (.create (newTenant input now code))) with
  | .error e => return .error e
  | .ok tenant =>
  writeAudit actor .tenantCreated tenant rc [("plan", input.plan.string)]
  return .ok tenant

/-- `Tenant.Suspend`. -/
def suspend (actor : AccessClaims) (id : UUID) (reason : String) (rc : RequestContext) :
    Proc (Except Error Tenant) := do
  if reason = "" then return .error (.invalid "reason" "причина обязательна")
  else
  match ← perform (.tenants (.updateStatus id .paused (some reason))) with
  | .error e => return .error e
  | .ok tenant =>
  writeAudit actor .tenantSuspended tenant rc [("reason", reason)]
  return .ok tenant

/-- `Tenant.Resume`. -/
def resume (actor : AccessClaims) (id : UUID) (rc : RequestContext) :
    Proc (Except Error Tenant) := do
  match ← perform (.tenants (.updateStatus id .active none)) with
  | .error e => return .error e
  | .ok tenant =>
  writeAudit actor .tenantResumed tenant rc []
  return .ok tenant

/-- `Tenant.IssueActivationCode`. -/
def issueActivationCode (actor : AccessClaims) (id : UUID) (rc : RequestContext) :
    Proc (Except Error Tenant) := do
  match ← generateActivationCode with
  | .error e => return .error e
  | .ok code =>
  let now ← perform .now
  match ← perform (.tenants (.setActivationCode id code (now.add activationCodeTTL))) with
  | .error e => return .error e
  | .ok tenant =>
  writeAudit actor .tenantActivationCodeIssued tenant rc []
  return .ok tenant

/-- `Tenant.Delete`. -/
def delete (actor : AccessClaims) (id : UUID) (rc : RequestContext) :
    Proc (Except Error Unit) := do
  match ← perform (.tenants (.getByID id)) with
  | .error e => return .error e
  | .ok tenant =>
  match ← perform (.tenants (.delete id)) with
  | .error e => return .error e
  | .ok () =>
  writeAudit actor .tenantDeleted tenant rc []
  return .ok ()

end Tenant

/-! ### Tickets -/

namespace Ticket

/-- `Ticket.writeAudit`. -/
def writeAudit (actor : AccessClaims) (action : AuditAction) (ticket : Ticket)
    (rc : RequestContext) (extra : List (String × String)) : Proc Unit := do
  let tenant ← perform (.tenants (.getByID ticket.tenantID))
  let tenantName := match tenant with
    | .ok tenant => [("tenant_name", tenant.name)]
    | .error _ => []
  let now ← perform .now
  SuperAdmin.writeAudit {
    actorID := some actor.userID
    actorEmail := actor.email
    action := action.string
    targetType := "tenant"
    targetID := ticket.tenantID.string
    metadata := ("subject", ticket.subject) :: extra ++ tenantName
    ip := rc.ip
    userAgent := rc.userAgent
    createdAt := now }

/-- `Ticket.List`. -/
def list (f : TicketFilter) : Proc (Except Error (List Ticket)) := perform (.tickets (.list f))

/-- `Ticket.Get`. -/
def get (id : UUID) : Proc (Except Error (Ticket × List TicketMessage)) :=
  perform (.tickets (.getByID id))

/-- The message that `Reply` sends under a name. -/
def teamMessage (actor : AccessClaims) (ticketID : UUID) (body authorName : String) :
    TicketMessage where
  id := UUID.nil
  ticketID := ticketID
  author := .team
  authorName := authorName
  authorID := some actor.userID
  body := body
  sentAt := Time.zero

/-- `Ticket.Reply`. -/
def reply (actor : AccessClaims) (ticketID : UUID) (body : String) (rc : RequestContext) :
    Proc (Except Error TicketMessage) := do
  if body = "" then return .error (.invalid "text" "текст ответа обязателен")
  else
  match ← perform (.tickets (.getByID ticketID)) with
  | .error e => return .error e
  | .ok (ticket, _) =>
  let user ← perform (.users (.getByID actor.userID))
  let authorName := match user with
    | .ok user => user.fullName
    | .error _ => actor.email
  match ← perform (.tickets (.addMessage (teamMessage actor ticketID body authorName))) with
  | .error e => return .error e
  | .ok message =>
  writeAudit actor .ticketReplied ticket rc []
  return .ok message

/-- `Ticket.AssignToSelf`. -/
def assignToSelf (actor : AccessClaims) (ticketID : UUID) (rc : RequestContext) :
    Proc (Except Error Ticket) := do
  match ← perform (.tickets (.assignTo ticketID (some actor.userID))) with
  | .error e => return .error e
  | .ok ticket =>
  writeAudit actor .ticketAssigned ticket rc []
  return .ok ticket

/-- `Ticket.UpdateStatus`. -/
def updateStatus (actor : AccessClaims) (ticketID : UUID) (status : TicketStatus)
    (rc : RequestContext) : Proc (Except Error Ticket) := do
  if !status.valid then return .error (.invalid "status" "недопустимый статус")
  else
  match ← perform (.tickets (.updateStatus ticketID status)) with
  | .error e => return .error e
  | .ok ticket =>
  writeAudit actor .ticketStatusChanged ticket rc [("status", status.string)]
  return .ok ticket

/-- `Ticket.UpdatePriority`. -/
def updatePriority (actor : AccessClaims) (ticketID : UUID) (priority : TicketPriority)
    (rc : RequestContext) : Proc (Except Error Ticket) := do
  if !priority.valid then return .error (.invalid "priority" "недопустимый приоритет")
  else
  match ← perform (.tickets (.updatePriority ticketID priority)) with
  | .error e => return .error e
  | .ok ticket =>
  writeAudit actor .ticketPriorityChanged ticket rc [("priority", priority.string)]
  return .ok ticket

end Ticket

/-! ### Settings -/

namespace Settings

/-- `Settings.Plans`. -/
def plans : List PlanInfo :=
  [⟨"Starter", "до 15", "24 000", "Базовые задачи и смены, до 15 сотрудников, поддержка по email"⟩,
    ⟨"Growth", "до 60", "58 000", "Задачи и смены, заявки на закупку, приоритетная поддержка"⟩,
    ⟨"Enterprise", "без лимита", "по договору",
      "Без ограничения по сотрудникам, отдельный менеджер, индивидуальные условия"⟩]

/-- `Settings.Template`. -/
def template : Proc (Except Error MessageTemplate) := perform (.templates (.get messageTemplateKey))

/-- `Settings.SaveTemplate`. -/
def saveTemplate (actor : AccessClaims) (body : String) (rc : RequestContext) :
    Proc (Except Error MessageTemplate) := do
  let now ← perform .now
  match ← perform (.templates (.update messageTemplateKey body actor.userID now)) with
  | .error e => return .error e
  | .ok tpl =>
  writeAudit {
    actorID := some actor.userID
    actorEmail := actor.email
    action := AuditAction.messageTemplateUpdated.string
    targetType := Resource.settings.string
    targetID := messageTemplateKey
    ip := rc.ip
    userAgent := rc.userAgent
    createdAt := now }
  return .ok tpl

end Settings

end SuperAdmin.Usecase
