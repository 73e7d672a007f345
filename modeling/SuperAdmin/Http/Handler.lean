import SuperAdmin.Http.Middleware
import SuperAdmin.Usecase.Team
import SuperAdmin.Usecase.Clients

/-! # Handlers

`internal/delivery/http/handler`: each handler takes its request apart, calls its usecase, and turns
what that returns into a response. -/

namespace SuperAdmin.Http

open Effects

/-! ### What handlers share -/

/-- `uuid.Parse(c.Param("id"))`, with the message of the handler. -/
def paramID (d : Deps) (req : Request) (message : String) : Except Response UUID :=
  match d.issuer.uuidParse req.id with
  | .error _ => .error (.error (.invalid "id" message))
  | .ok id => .ok id

/-- `ShouldBindJSON`, with the field and the message of the handler. -/
def bound {α : Type} (o : Option α) (field message : String) : Except Response α :=
  match o with
  | none => .error (.error (.invalid field message))
  | some a => .ok a

/-- `ClaimsFrom`, or `ErrUnauthenticated`. -/
def claimsFrom (ctx : Context) : Except Response AccessClaims :=
  match ctx.claims with
  | none => .error (.error (.sentinel .unauthenticated))
  | some claims => .ok claims

/-- The rest of a handler that has taken its request apart. -/
def withInput {α : Type} (input : Except Response α) (k : α → Proc Response) : Proc Response :=
  match input with
  | .error resp => return resp
  | .ok a => k a

/-- The response to what a usecase returned. -/
def respond {α : Type} (res : Except Error α) (k : α → Proc Response) : Proc Response :=
  match res with
  | .error err => return .error err
  | .ok a => k a

namespace Handler

/-! ### Auth -/

namespace Auth

/-- `toUserResponse`. -/
def toUserResponse (u : SuperAdminUser) : Json := .obj [
  ("id", .str u.id.string),
  ("email", .str u.email),
  ("full_name", .str u.fullName),
  ("role", .str u.role.string),
  ("permissions", .arr ((Authz.permissions u.role).map .str)),
  ("last_login_at", .ofOption Json.formatRFC3339 u.lastLoginAt)]

/-- `Auth.Login`. -/
def login (d : Deps) (web : Web) (req : Request) : Proc Response :=
  withInput (bound (bindLogin web req) "body" "email и пароль обязательны") fun input => do
    let res ← Usecase.Auth.login d ⟨input.email, input.password⟩ req.context
    respond res fun (pair, user) => return { Response.ok (.obj [
      ("access_token", .str pair.accessToken),
      ("expires_at", .time pair.accessExpiresAt),
      ("user", toUserResponse user)]) with cookie := .set pair.refreshToken }

/-- `Auth.Refresh`. -/
def refresh (d : Deps) (req : Request) : Proc Response :=
  match req.cookie with
  | none => return .error (.sentinel .unauthenticated)
  | some raw => do
      if raw = "" then return .error (.sentinel .unauthenticated)
      else
        match ← Usecase.Auth.refresh d raw req.context with
        | .error err =>
            if err.is .sessionRevoked || err.is .unauthenticated then
              return { Response.error err with cookie := .clear }
            else return .error err
        | .ok pair => return { Response.ok (.obj [
            ("access_token", .str pair.accessToken),
            ("expires_at", .time pair.accessExpiresAt)]) with cookie := .set pair.refreshToken }

/-- `Auth.Logout`. -/
def logout (req : Request) (ctx : Context) : Proc Response := do
  let res ← Usecase.Auth.logout (req.cookie.getD "") ctx.claims req.context
  respond res fun _ => return { Response.noContent with cookie := .clear }

/-- `Auth.Me`. -/
def me (ctx : Context) : Proc Response :=
  withInput (claimsFrom ctx) fun claims => do
    let res ← Usecase.Auth.me claims.userID
    respond res fun user => return .ok (toUserResponse user)

end Auth

/-! ### Team -/

namespace Team

/-- `toTeamMemberResponse`. -/
def toTeamMemberResponse (actorID : UUID) (u : SuperAdminUser) : Json := .obj [
  ("id", .str u.id.string),
  ("name", .str u.fullName),
  ("email", .str u.email),
  ("role", .str u.role.string),
  ("two_factor_enabled", .bool u.totpEnrolledAt.isSome),
  ("last_login_at", .ofOption Json.formatRFC3339 u.lastLoginAt),
  ("is_me", .bool (u.id == actorID))]

/-- `Team.List`. -/
def list (ctx : Context) : Proc Response :=
  withInput (claimsFrom ctx) fun claims => do
    let res ← Usecase.Team.list
    respond res fun members =>
      return .ok (.arr (members.map (toTeamMemberResponse claims.userID)))

/-- `Team.Invite`. -/
def invite (web : Web) (req : Request) (ctx : Context) : Proc Response :=
  withInput (bound (bindInvite web req) "body" "укажите email и роль") fun input =>
  withInput (claimsFrom ctx) fun claims => do
    let res ← Usecase.Team.invite claims input.email (.ofString input.role) req.context
    respond res fun (inv, token) => return .created (.obj [
      ("email", .str inv.email),
      ("role", .str inv.role.string),
      ("activation_token", .str token),
      ("expires_at", .time inv.expiresAt)])

/-- `Team.UpdateRole`. -/
def updateRole (d : Deps) (req : Request) (ctx : Context) : Proc Response :=
  withInput (paramID d req "некорректный id сотрудника") fun memberID =>
  withInput (bound (bindRole req) "body" "укажите роль") fun role =>
  withInput (claimsFrom ctx) fun claims => do
    let res ← Usecase.Team.updateRole claims memberID (.ofString role) req.context
    respond res fun updated => return .ok (toTeamMemberResponse claims.userID updated)

/-- `Team.Revoke`. -/
def revoke (d : Deps) (req : Request) (ctx : Context) : Proc Response :=
  withInput (paramID d req "некорректный id сотрудника") fun memberID =>
  withInput (claimsFrom ctx) fun claims => do
    let res ← Usecase.Team.revoke claims memberID req.context
    respond res fun _ => return .noContent

end Team

/-! ### Settings -/

namespace Settings

/-- `toMessageTemplateResponse`. -/
def toMessageTemplateResponse (t : MessageTemplate) : Json := .obj [
  ("text", .str t.body),
  ("updated_at", .ofOption Json.formatRFC3339 t.updatedAt)]

/-- `Settings.Get`. -/
def get : Proc Response := do
  let res ← Usecase.Settings.template
  respond res fun tpl => return .ok (.obj [
    ("plans", .arr (Usecase.Settings.plans.map fun p => .obj [
      ("plan", .str p.plan),
      ("limit", .str p.limit),
      ("price", .str p.price),
      ("includes", .str p.includes)])),
    ("template", toMessageTemplateResponse tpl)])

/-- `Settings.SaveMessageTemplate`. -/
def saveMessageTemplate (req : Request) (ctx : Context) : Proc Response :=
  withInput (bound (bindTemplate req) "text" "текст шаблона обязателен") fun text =>
  withInput (claimsFrom ctx) fun claims => do
    let res ← Usecase.Settings.saveTemplate claims text req.context
    respond res fun tpl => return .ok (toMessageTemplateResponse tpl)

end Settings

/-! ### Tenant -/

namespace Tenant

/-- The fields of `tenantResponse`. -/
def toTenantResponse (t : Tenant) : List (String × Json) := [
  ("id", .str t.id.string),
  ("name", .str t.name),
  ("city", .str t.city),
  ("status", .str t.status.string),
  ("plan", .str t.plan.string),
  ("employees", .num t.employees),
  ("last_active_at", .ofOption .time t.lastActiveAt),
  ("created_at", .time t.createdAt),
  ("trial_ends_at", .ofOption .time t.trialEndsAt)]

/-- The number of open tickets on a client card; an error counts as none. -/
def openCount : Except Error (List Ticket) → ℕ
  | .error _ => 0
  | .ok tickets => (tickets.filter fun t => t.status == .opened || t.status == .inProgress).length

/-- `activationCodeResponse`. -/
def toActivationCode (t : Tenant) : Json :=
  match t.activationCode, t.activationCodeExpiresAt with
  | some code, some expiresAt => .obj [("code", .str code), ("expires_at", .time expiresAt)]
  | _, _ => .null

/-- `toTenantDetailResponse`. -/
def toTenantDetailResponse (t : Tenant) : Proc Json := do
  let openTickets ← Usecase.Ticket.list { tenantID := some t.id }
  return .obj (toTenantResponse t ++ [
    ("address", .str t.address),
    ("owner_name", .str t.ownerName),
    ("phone", .str t.phone),
    ("email", .str t.email),
    ("open_tickets", .num (openCount openTickets)),
    ("suspended_reason", .ofOption .str t.suspendedReason),
    ("activation_code", toActivationCode t)])

/-- The message about a bad id in the handlers of a client. -/
def badID : String := "некорректный id клиента"

/-- `Tenant.List`. -/
def list : Proc Response := do
  let res ← Usecase.Tenant.list
  respond res fun tenants => return .ok (.arr (tenants.map fun t => .obj (toTenantResponse t)))

/-- `Tenant.Get`. -/
def get (d : Deps) (req : Request) : Proc Response :=
  withInput (paramID d req badID) fun id => do
    let res ← Usecase.Tenant.get id
    respond res fun tenant => Response.ok <$> toTenantDetailResponse tenant

/-- `Tenant.EmailTaken`. -/
def emailTaken (req : Request) : Proc Response := do
  if req.query "email" = "" then return .error (.invalid "email" "укажите email")
  else
    let res ← Usecase.Tenant.isEmailTaken (req.query "email")
    respond res fun taken => return .ok (.obj [("taken", .bool taken)])

/-- `Tenant.Create`; the city is what stands before the first comma of the address. -/
def create (web : Web) (req : Request) (ctx : Context) : Proc Response :=
  withInput (bound (bindNewTenant web req) "body" "заполните обязательные поля") fun input =>
  withInput (claimsFrom ctx) fun claims => do
    let city := String.ofList (input.address.toList.takeWhile (· ≠ ','))
    let res ← Usecase.Tenant.create claims {
      name := input.name
      city := trimSpace city
      address := input.address
      ownerName := input.ownerName
      phone := input.phone
      email := input.email
      plan := .ofString input.plan
      trialDays := input.trialDays } req.context
    respond res fun tenant => Response.created <$> toTenantDetailResponse tenant

/-- `Tenant.Suspend`. -/
def suspend (d : Deps) (req : Request) (ctx : Context) : Proc Response :=
  withInput (paramID d req badID) fun id =>
  withInput (bound (bindReason req) "reason" "причина обязательна") fun reason =>
  withInput (claimsFrom ctx) fun claims => do
    let res ← Usecase.Tenant.suspend claims id reason req.context
    respond res fun tenant => Response.ok <$> toTenantDetailResponse tenant

/-- `Tenant.Resume`. -/
def resume (d : Deps) (req : Request) (ctx : Context) : Proc Response :=
  withInput (paramID d req badID) fun id =>
  withInput (claimsFrom ctx) fun claims => do
    let res ← Usecase.Tenant.resume claims id req.context
    respond res fun tenant => Response.ok <$> toTenantDetailResponse tenant

/-- `Tenant.IssueActivationCode`. -/
def issueActivationCode (d : Deps) (req : Request) (ctx : Context) : Proc Response :=
  withInput (paramID d req badID) fun id =>
  withInput (claimsFrom ctx) fun claims => do
    let res ← Usecase.Tenant.issueActivationCode claims id req.context
    respond res fun tenant => Response.ok <$> toTenantDetailResponse tenant

/-- `Tenant.Delete`. -/
def delete (d : Deps) (req : Request) (ctx : Context) : Proc Response :=
  withInput (paramID d req badID) fun id =>
  withInput (claimsFrom ctx) fun claims => do
    let res ← Usecase.Tenant.delete claims id req.context
    respond res fun _ => return .noContent

end Tenant

/-! ### Ticket -/

namespace Ticket

/-- `toTicketMessageResponse`. -/
def toTicketMessageResponse (m : TicketMessage) : Json := .obj [
  ("id", .str m.id.string),
  ("author", .str m.author.string),
  ("author_name", .str m.authorName),
  ("sent_at", .time m.sentAt),
  ("text", .str m.body)]

/-- `lookups`: the name of a user and the client of an id. -/
structure Lookups where
  users : List SuperAdminUser
  tenants : List Tenant

/-- `buildLookups`. -/
def buildLookups : Proc (Except Error Lookups) := do
  match ← perform (.users .list) with
  | .error e => return .error e
  | .ok users =>
  match ← perform (.tenants .list) with
  | .error e => return .error e
  | .ok tenants => return .ok ⟨users, tenants⟩

namespace Lookups

variable (l : Lookups)

/-- `assigneeName`; ids are unique. -/
def assigneeName (id : Option UUID) : Option String :=
  id.bind fun id => (l.users.find? (·.id == id)).map SuperAdminUser.fullName

/-- The name and the city of a client; both are empty for an unknown one. -/
def client (id : UUID) : String × String :=
  match l.tenants.find? (·.id == id) with
  | some t => (t.name, t.city)
  | none => ("", "")

end Lookups

/-- The fields of `globalTicketResponse`. -/
def toGlobalTicketResponse (l : Lookups) (t : Ticket) : List (String × Json) := [
  ("id", .str t.id.string),
  ("client_id", .str t.tenantID.string),
  ("client_name", .str (l.client t.tenantID).1),
  ("city", .str (l.client t.tenantID).2),
  ("subject", .str t.subject),
  ("status", .str t.status.string),
  ("priority", .str t.priority.string),
  ("assignee", .ofOption .str (l.assigneeName t.assigneeID)),
  ("contact_name", .str t.contactName),
  ("last_message_at", .time t.lastMessageAt)]

/-- `toClientTicketResponse`. -/
def toClientTicketResponse (l : Lookups) (t : Ticket) (messages : List TicketMessage) : Json := .obj [
  ("id", .str t.id.string),
  ("client_id", .str t.tenantID.string),
  ("subject", .str t.subject),
  ("status", .str t.status.string),
  ("assignee", .ofOption .str (l.assigneeName t.assigneeID)),
  ("last_message_at", .time t.lastMessageAt),
  ("messages", .arr (messages.map toTicketMessageResponse))]

/-- The message about a bad id in the handlers of a ticket. -/
def badID : String := "некорректный id обращения"

/-- `parseTicketFilter`. -/
def parseTicketFilter (d : Deps) (req : Request) : Except Error TicketFilter := do
  let status := req.query "status"
  if status ≠ "" ∧ !(TicketStatus.ofString status).valid then
    throw (.invalid "status" "недопустимый статус")
  let f : TicketFilter := { status := if status = "" then none else some (.ofString status) }
  let f ← match req.query "assignee" with
    | "" => pure f
    | "unassigned" => pure { f with onlyUnassigned := true }
    | assignee =>
        match d.issuer.uuidParse assignee with
        | .error _ => throw (.invalid "assignee" "некорректный id сотрудника")
        | .ok id => pure { f with assigneeID := some id }
  if req.query "tenant_id" = "" then return f
  match d.issuer.uuidParse (req.query "tenant_id") with
  | .error _ => throw (.invalid "tenant_id" "некорректный id клиента")
  | .ok id => return { f with tenantID := some id }

/-- `Ticket.List`. -/
def list (d : Deps) (req : Request) : Proc Response :=
  respond (parseTicketFilter d req) fun filter => do
    let res ← Usecase.Ticket.list filter
    respond res fun tickets => do
      let lookups ← buildLookups
      respond lookups fun l => return .ok (.arr (tickets.map fun t => .obj (toGlobalTicketResponse l t)))

/-- The threads of the tickets of a client, one query after the other. -/
def threads (l : Lookups) : List Ticket → Proc (Except Error (List Json))
  | [] => return .ok []
  | summary :: rest => do
      match ← Usecase.Ticket.get summary.id with
      | .error e => return .error e
      | .ok (full, messages) =>
      match ← threads l rest with
      | .error e => return .error e
      | .ok out => return .ok (toClientTicketResponse l full messages :: out)

/-- `Ticket.ListByClient`. -/
def listByClient (d : Deps) (req : Request) : Proc Response :=
  withInput (paramID d req "некорректный id клиента") fun tenantID => do
    let res ← Usecase.Ticket.list { tenantID := some tenantID }
    respond res fun summaries => do
      let lookups ← buildLookups
      respond lookups fun l => do
        let out ← threads l summaries
        respond out fun out => return .ok (.arr out)

/-- `Ticket.Get`. -/
def get (d : Deps) (req : Request) : Proc Response :=
  withInput (paramID d req badID) fun id => do
    let res ← Usecase.Ticket.get id
    respond res fun (ticket, messages) => do
      let lookups ← buildLookups
      respond lookups fun l => return .ok (.obj (toGlobalTicketResponse l ticket ++
        [("messages", .arr (messages.map toTicketMessageResponse))]))

/-- `Ticket.Reply`. -/
def reply (d : Deps) (req : Request) (ctx : Context) : Proc Response :=
  withInput (paramID d req badID) fun id =>
  withInput (bound (bindReply req) "text" "текст ответа обязателен") fun text =>
  withInput (claimsFrom ctx) fun claims => do
    let res ← Usecase.Ticket.reply claims id text req.context
    respond res fun message => return .created (toTicketMessageResponse message)

/-- The answer of the handlers that change a ticket. -/
def changed (res : Except Error Ticket) : Proc Response :=
  respond res fun ticket => do
    let lookups ← buildLookups
    respond lookups fun l => return .ok (.obj (toGlobalTicketResponse l ticket))

/-- `Ticket.AssignToSelf`. -/
def assignToSelf (d : Deps) (req : Request) (ctx : Context) : Proc Response :=
  withInput (paramID d req badID) fun id =>
  withInput (claimsFrom ctx) fun claims => do
    changed (← Usecase.Ticket.assignToSelf claims id req.context)

/-- `Ticket.UpdateStatus`. -/
def updateStatus (d : Deps) (req : Request) (ctx : Context) : Proc Response :=
  withInput (paramID d req badID) fun id =>
  withInput (bound (bindStatus req) "status" "статус обязателен") fun status =>
  withInput (claimsFrom ctx) fun claims => do
    changed (← Usecase.Ticket.updateStatus claims id (.ofString status) req.context)

/-- `Ticket.UpdatePriority`. -/
def updatePriority (d : Deps) (req : Request) (ctx : Context) : Proc Response :=
  withInput (paramID d req badID) fun id =>
  withInput (bound (bindPriority req) "priority" "приоритет обязателен") fun priority =>
  withInput (claimsFrom ctx) fun claims => do
    changed (← Usecase.Ticket.updatePriority claims id (.ofString priority) req.context)

end Ticket

end Handler

end SuperAdmin.Http
