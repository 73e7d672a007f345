import SuperAdmin.Http.Handler
import SuperAdmin.Usecase.Journal
import SuperAdmin.Go.Parse

/-! # Handlers of the journal

`audit_text.go`, `journal.go`, `overview.go` and `Tenant.Journal` of `internal/delivery/http/handler`:
the three places where entries of the journal leave the server. -/

namespace SuperAdmin

/-! ### The text of an entry -/

namespace AuditAction

def all : List AuditAction :=
  [loginSuccess, loginFailure, logout, tokenRefresh, tokenReuse, sessionsRevoked, tenantCreated,
    tenantUpdated, tenantSuspended, tenantResumed, superAdminCreate, superAdminInvited,
    superAdminRoleChanged, superAdminAccessRevoked, messageTemplateUpdated,
    tenantActivationCodeIssued, tenantDeleted, ticketReplied, ticketAssigned, ticketStatusChanged,
    ticketPriorityChanged]

/-- The action with a string, if there is one. -/
def ofString? (s : String) : Option AuditAction := all.find? (·.string == s)

theorem ofString?_string (a : AuditAction) : ofString? a.string = some a := by
  cases a <;> rfl

/-- `actionKind`. -/
def kind : AuditAction → String
  | loginSuccess | loginFailure | logout | tokenRefresh | tokenReuse | sessionsRevoked => "access"
  | tenantSuspended | tenantResumed | tenantActivationCodeIssued => "access"
  | tenantCreated | tenantUpdated | tenantDeleted => "clients"
  | superAdminCreate | superAdminInvited | superAdminRoleChanged | superAdminAccessRevoked
  | messageTemplateUpdated => "team"
  | ticketReplied | ticketAssigned | ticketStatusChanged | ticketPriorityChanged => "tickets"

end AuditAction

namespace AuditEntry

/-- `metaString`. -/
def metaString (e : AuditEntry) (key : String) : String := (e.metadata.lookup key).getD ""

/-- `kindOf`. -/
def kind (e : AuditEntry) : String :=
  match AuditAction.ofString? e.action with
  | some a => a.kind
  | none => "team"

/-- `describeAction`. -/
def describe (e : AuditEntry) : String :=
  let subject := e.metaString "subject"
  match AuditAction.ofString? e.action with
  | none => e.action
  | some a =>
    match a with
    | .loginSuccess => "Вошёл в систему"
    | .loginFailure => "Неудачная попытка входа"
    | .logout => "Вышел из системы"
    | .tokenRefresh => "Обновил сессию"
    | .tokenReuse => "Обнаружено повторное использование refresh-токена — сессия отозвана"
    | .sessionsRevoked => "Завершил все сессии"
    | .tenantCreated => "Создал клиента, тариф " ++ e.metaString "plan"
    | .tenantUpdated => "Изменил данные клиента"
    | .tenantSuspended => "Приостановил доступ, причина: " ++ e.metaString "reason"
    | .tenantResumed => "Возобновил доступ"
    | .tenantActivationCodeIssued => "Сгенерировал новый код подтверждения"
    | .tenantDeleted => "Удалил клиента"
    | .superAdminCreate => "Создана учётная запись сотрудника"
    | .superAdminInvited => "Пригласил сотрудника в команду: " ++ e.metaString "email" ++
        ", роль «" ++ e.metaString "role" ++ "»"
    | .superAdminRoleChanged => "Изменил роль сотрудника " ++ e.metaString "email" ++ ": " ++
        e.metaString "from" ++ " → " ++ e.metaString "to"
    | .superAdminAccessRevoked => "Отозвал доступ сотрудника: " ++ e.metaString "email"
    | .messageTemplateUpdated => "Обновил шаблон сообщения с кодом подтверждения"
    | .ticketReplied => "Ответил в обращении «" ++ subject ++ "»"
    | .ticketAssigned => "Назначил на себя обращение «" ++ subject ++ "»"
    | .ticketStatusChanged => "Изменил статус обращения «" ++ subject ++ "»"
    | .ticketPriorityChanged => "Изменил приоритет обращения «" ++ subject ++ "»"

end AuditEntry

namespace Http.Handler

open Effects

/-! ### Journal -/

namespace Journal

/-- The name under which an entry shows its actor. -/
def actorName (users : List SuperAdminUser) (e : AuditEntry) : String :=
  match e.actorID.bind fun id => users.find? (·.id == id) with
  | some u => if u.fullName ≠ "" then u.fullName else e.actorEmail
  | none => e.actorEmail

/-- The client of an entry and its name. -/
def client (e : AuditEntry) : Option String × Option String :=
  if e.targetType = "tenant" ∧ e.targetID ≠ "" then
    (some e.targetID,
      if e.metaString "tenant_name" ≠ "" then some (e.metaString "tenant_name") else none)
  else (none, none)

/-- `toJournalEntryResponse`. -/
def toJournalEntryResponse (users : List SuperAdminUser) (e : AuditEntry) : Json := .obj [
  ("id", .num e.id),
  ("occurred_at", .time e.createdAt),
  ("actor", .str (actorName users e)),
  ("kind", .str e.kind),
  ("text", .str e.describe),
  ("client_id", .ofOption .str (client e).1),
  ("client_name", .ofOption .str (client e).2)]

/-- A query parameter that may be absent. -/
def optional {α : Type} (raw : String) (parse : String → Option α) (field message : String) :
    Except Error (Option α) :=
  if raw = "" then .ok none
  else match parse raw with
    | none => .error (.invalid field message)
    | some a => .ok (some a)

/-- `parseAuditFilter`. -/
def parseAuditFilter (d : Deps) (req : Request) : Except Error AuditFilter := do
  let actorID ← optional (req.query "actor_id") (fun s => (d.issuer.uuidParse s).toOption) "actor_id"
    "некорректный id сотрудника"
  let from_ ← optional (req.query "from") parseRFC3339 "from" "ожидается дата в формате RFC3339"
  let to_ ← optional (req.query "to") parseRFC3339 "to" "ожидается дата в формате RFC3339"
  let limit ← optional (req.query "limit") (fun s => (atoi s).filter fun n => decide (0 < n)) "limit"
    "должно быть положительным числом"
  let offset ← optional (req.query "offset") (fun s => (atoi s).filter fun n => decide (0 ≤ n))
    "offset" "должно быть неотрицательным числом"
  return {
    actorID := actorID
    action := req.query "action"
    targetType := req.query "target_type"
    targetID := req.query "target_id"
    from_ := from_
    to_ := to_
    limit := limit.getD 50
    offset := offset.getD 0 }

/-- `Journal.List`. -/
def list (d : Deps) (req : Request) : Proc Response :=
  respond (parseAuditFilter d req) fun filter => do
    let res ← Usecase.Journal.list filter
    respond res fun (entries, total) => do
      let res ← perform (.users .list)
      respond res fun users =>
        return .list (.arr (entries.map (toJournalEntryResponse users))) ⟨total, filter.limit, filter.offset⟩

end Journal

/-- `Tenant.Journal`. -/
def Tenant.journal (d : Deps) (req : Request) : Proc Response :=
  withInput (paramID d req Tenant.badID) fun id => do
    let res ← Usecase.Journal.list { targetType := "tenant", targetID := id.string, limit := 200 }
    respond res fun (entries, _) => return .ok (.arr (entries.map fun e => .obj [
      ("id", .str e.id.repr),
      ("occurred_at", .time e.createdAt),
      ("text", .str e.describe)]))

/-! ### Overview -/

namespace Overview

/-- `overviewEventKind`. -/
def overviewEventKind (e : AuditEntry) : String :=
  match AuditAction.ofString? e.action with
  | some .tenantCreated => "client_created"
  | some .tenantSuspended => "access_paused"
  | some .tenantResumed => "client_activated"
  | some .ticketReplied | some .ticketAssigned | some .ticketStatusChanged
  | some .ticketPriorityChanged => "ticket_opened"
  | _ => "other"

/-- `overviewMetricResponse`; the delta is always `null`. -/
def metric (key : String) (value : ℕ) : Json :=
  .obj [("key", .str key), ("value", .num value), ("delta", .null)]

/-- `overviewResponse`.  Every trial of the data has a date. -/
def toOverviewResponse (data : Usecase.Overview.Data) : Json := .obj [
  ("period_days", .num data.periodDays),
  ("total_clients", .num data.totalClients),
  ("metrics", .arr [
    metric "activeClients" data.metrics.activeClients,
    metric "trialClients" data.metrics.trialClients,
    metric "openTickets" data.metrics.openTickets,
    metric "pausedClients" data.metrics.pausedClients]),
  ("expiring_trials", .arr (data.expiringTrials.map fun t => .obj [
    ("client_id", .str t.id.string),
    ("name", .str t.name),
    ("ends_at", .ofOption .time t.trialEndsAt)])),
  ("events", .arr (data.events.map fun e => .obj [
    ("id", .num e.id),
    ("occurred_at", .time e.createdAt),
    ("kind", .str (overviewEventKind e)),
    ("text", .str e.describe)]))]

/-- `Overview.Get`. -/
def get : Proc Response := do
  let res ← Usecase.Overview.get
  respond res fun data => return .ok (toOverviewResponse data)

end Overview

end Http.Handler

end SuperAdmin
