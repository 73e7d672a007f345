import SuperAdmin.Lib.Redo
import SuperAdmin.Lib.Dict
import SuperAdmin.Users
import SuperAdmin.Access.Mediation

/-! # The seed

`cmd/seed/main.go` fills a database with a team, clients and tickets; its comment says that running it
again makes no duplicates.  It speaks to the database directly, so it is a program over statements of its
own; reading the configuration, connecting and printing are left out. -/

namespace SuperAdmin.Seed

open Effects

/-! ### The data -/

structure TeamSeed where
  name : String
  /-- Up to `@example.kz`. -/
  slug : String
  role : Role
  tfa : Bool

def team : List TeamSeed :=
  [⟨"Айдар Керимов", "a.kerimov", .owner, true⟩,
    ⟨"Динара Тлеубаева", "d.tleubaeva", .admin, true⟩,
    ⟨"Сауле Молдагалиева", "s.moldagalieva", .support, true⟩,
    ⟨"Руслан Алиев", "r.aliev", .support, false⟩,
    ⟨"Мария Штерн", "m.shtern", .viewer, false⟩]

structure TenantSeed where
  name : String
  city : String
  status : TenantStatus
  plan : TenantPlan
  employees : ℕ
  /-- Zero for a client that is not on trial. -/
  trialDays : ℕ

def tenants : List TenantSeed :=
  [⟨"Магнум Экспресс", "Алматы", .active, .growth, 34, 0⟩,
    ⟨"Продукты у дома №4", "Караганда", .trial, .starter, 6, 4⟩,
    ⟨"Светофор Тараз", "Тараз", .active, .growth, 51, 0⟩,
    ⟨"Айсберг Маркет", "Астана", .paused, .starter, 12, 0⟩,
    ⟨"Береке Супермаркет", "Шымкент", .active, .enterprise, 88, 0⟩,
    ⟨"Дастархан", "Актобе", .trial, .starter, 4, 2⟩,
    ⟨"Смак на Абая", "Алматы", .active, .starter, 19, 0⟩,
    ⟨"Гросс Опт", "Павлодар", .active, .enterprise, 126, 0⟩,
    ⟨"Ануар Фрукты", "Кызылорда", .paused, .starter, 8, 0⟩,
    ⟨"Небо Маркет", "Усть-Каменогорск", .active, .growth, 41, 0⟩,
    ⟨"Апельсин", "Семей", .trial, .growth, 11, 9⟩,
    ⟨"Титан Ритейл", "Атырау", .active, .growth, 63, 0⟩,
    ⟨"Куаныш Маркет", "Костанай", .active, .starter, 22, 0⟩,
    ⟨"Наурыз Продукты", "Уральск", .paused, .starter, 15, 0⟩,
    ⟨"Восточный Базар", "Туркестан", .active, .growth, 37, 0⟩,
    ⟨"Родник", "Актау", .trial, .starter, 9, 1⟩]

structure TicketMessageSeed where
  author : TicketMessageAuthor
  authorName : String
  /-- In tenths of a day. -/
  daysAgo : ℕ

structure TicketSeed where
  tenantName : String
  subject : String
  status : TicketStatus
  priority : TicketPriority
  /-- Empty for a ticket that is not assigned. -/
  assignee : String
  contactName : String
  messages : List TicketMessageSeed

def tickets : List TicketSeed :=
  [⟨"Береке Супермаркет", "Не приходит код подтверждения на почту", .inProgress, .high, "Айдар Керимов",
      "Ержан Сапаров", [⟨.client, "Ержан Сапаров", 48⟩, ⟨.team, "Айдар Керимов", 41⟩,
        ⟨.client, "Ержан Сапаров", 39⟩, ⟨.team, "Айдар Керимов", 38⟩]⟩,
    ⟨"Смак на Абая", "Добавить сотрудника сверх лимита тарифа", .opened, .normal, "", "Асель Нурланова",
      [⟨.client, "Асель Нурланова", 42⟩]⟩,
    ⟨"Магнум Экспресс", "Оператор не видит заявки после смены", .opened, .high, "", "Дамир Ералиев",
      [⟨.client, "Дамир Ералиев", 44⟩]⟩,
    ⟨"Гросс Опт", "Просим перенести дату списания", .inProgress, .normal, "Динара Тлеубаева", "Ольга Ким",
      [⟨.client, "Ольга Ким", 69⟩, ⟨.team, "Динара Тлеубаева", 59⟩]⟩,
    ⟨"Айсберг Маркет", "Восстановить доступ после приостановки", .inProgress, .high, "Айдар Керимов",
      "Тимур Абдиров", [⟨.client, "Тимур Абдиров", 61⟩, ⟨.team, "Айдар Керимов", 59⟩]⟩,
    ⟨"Небо Маркет", "Ошибка при входе оператора смены", .resolved, .normal, "Динара Тлеубаева",
      "Марат Жунусов", [⟨.client, "Марат Жунусов", 127⟩, ⟨.team, "Динара Тлеубаева", 126⟩,
        ⟨.client, "Марат Жунусов", 117⟩]⟩,
    ⟨"Титан Ритейл", "Как поменять владельца аккаунта", .resolved, .low, "Сауле Молдагалиева", "Ирина Пак",
      [⟨.client, "Ирина Пак", 146⟩, ⟨.team, "Сауле Молдагалиева", 145⟩]⟩,
    ⟨"Береке Супермаркет", "Перенос данных из старой системы", .closed, .low, "Айдар Керимов",
      "Ержан Сапаров", [⟨.client, "Ержан Сапаров", 690⟩, ⟨.team, "Айдар Керимов", 670⟩]⟩]

/-! ### The statements -/

/-- The parameters of the insert of a client. -/
structure TenantInsert where
  name : String
  city : String
  address : String
  status : TenantStatus
  plan : TenantPlan
  employees : ℕ
  ownerName : String
  phone : String
  email : String
  lastActiveAt : Time
  trialEndsAt : Option Time

inductive SeedOp where
  | now
  | userByEmail (email : String)
  | insertUser (email fullName passwordHash : String) (role : Role) (totpEnrolledAt : Option Time)
  | tenantByName (name : String)
  | insertTenant (t : TenantInsert)
  | ticketExists (tenantID : UUID) (subject : String)
  | insertTicket (tenantID : UUID) (subject : String) (status : TicketStatus) (priority : TicketPriority)
      (assigneeID : Option UUID) (contactName : String)
  | insertMessage (ticketID : UUID) (author : TicketMessageAuthor) (authorName : String)
      (authorID : Option UUID) (body : String) (sentAt : Time)

/-- No row is `pgx.ErrNoRows`, here `none`. -/
abbrev SeedOp.Res : SeedOp → Type
  | now => Time
  | userByEmail _ | tenantByName _ => Except Error (Option UUID)
  | insertUser .. | insertTenant .. | insertTicket .. => Except Error UUID
  | ticketExists _ _ => Except Error Bool
  | insertMessage .. => Except Error Unit

abbrev Sql : Sig := ⟨SeedOp, SeedOp.Res⟩

abbrev SeedProc (α : Type) : Type := Prog Sql α

abbrev sql (op : SeedOp) : SeedProc op.Res := Prog.perform (S := Sql) op

/-- The database, and how many ids the defaults of its columns have drawn. -/
structure Database (d : Deps) where
  world : World d
  drawn : ℕ

/-- An error of the driver. -/
def violation (constraint : String) : Error := .foreign ("violates constraint " ++ constraint)

variable {d : Deps}

/-! The rows that the statements insert. -/

def userRow (id : UUID) (email fullName passwordHash : String) (role : Role) (totpEnrolledAt : Option Time)
    (now : Time) : SuperAdminUser where
  id := id
  email := email
  fullName := fullName
  passwordHash := passwordHash
  role := role
  status := .active
  totpEnrolledAt := totpEnrolledAt.map Time.timestamptz
  failedLoginAttempts := 0
  lockedUntil := none
  lastLoginAt := none
  createdAt := now.timestamptz

def tenantRow (id : UUID) (t : TenantInsert) (now : Time) : SuperAdmin.Tenant where
  id := id
  name := t.name
  city := t.city
  address := t.address
  status := t.status
  plan := t.plan
  employees := t.employees
  ownerName := t.ownerName
  phone := t.phone
  email := t.email
  lastActiveAt := some t.lastActiveAt.timestamptz
  trialEndsAt := t.trialEndsAt.map Time.timestamptz
  suspendedReason := none
  activationCode := none
  activationCodeExpiresAt := none
  createdAt := now.timestamptz

def ticketRow (id tenantID : UUID) (subject : String) (status : TicketStatus) (priority : TicketPriority)
    (assigneeID : Option UUID) (contactName : String) (now : Time) : SuperAdmin.Ticket where
  id := id
  tenantID := tenantID
  subject := subject
  status := status
  priority := priority
  assigneeID := assigneeID
  contactName := contactName
  lastMessageAt := now.timestamptz
  createdAt := now.timestamptz

/-- The client that `SELECT id FROM tenants WHERE name = $1` returns.  Names are not unique and the query has no
`ORDER BY`, so it may be any of those with the name. -/
structure Scan (d : Deps) where
  first : World d → String → Option SuperAdmin.Tenant
  first_some {w : World d} {name : String} {t : SuperAdmin.Tenant} (h : first w name = some t) :
    t ∈ w.clients.tenants.rows ∧ t.name = name
  first_none {w : World d} {name : String} (h : first w name = none) :
    ∀ t ∈ w.clients.tenants.rows, t.name ≠ name

/-- What the statements do. -/
def exec (d : Deps) (scan : Scan d) (ids : ℕ → UUID) : Handler Sql (Database d)
  | .now, s => (s.world.clock, s)
  | .userByEmail email, s =>
      (.ok ((s.world.users.find? fun u => d.citextLower u.email == d.citextLower email).map (·.id)), s)
  | .insertUser email fullName passwordHash role totpEnrolledAt, s =>
      if role.valid then
        match s.world.users.insert?
            (userRow (ids s.drawn) email fullName passwordHash role totpEnrolledAt s.world.clock) with
        | none => (.error (violation "super_admin_users"), s)
        | some users => (.ok (ids s.drawn), ⟨{ s.world with users := users }, s.drawn + 1⟩)
      else (.error (invalidEnum "super_admin_role"), s)
  | .tenantByName name, s => (.ok ((scan.first s.world name).map (·.id)), s)
  | .insertTenant t, s =>
      if t.plan.valid then
        match s.world.clients.tenants.insert? (tenantRow (ids s.drawn) t s.world.clock) with
        | none => (.error (violation "tenants"), s)
        | some tenants =>
            (.ok (ids s.drawn),
              ⟨{ s.world with clients := { s.world.clients with tenants := tenants } }, s.drawn + 1⟩)
      else (.error (invalidEnum "tenant_plan"), s)
  | .ticketExists tenantID subject, s =>
      (.ok (s.world.clients.tickets.rows.any fun t => t.tenantID == tenantID && t.subject == subject), s)
  | .insertTicket tenantID subject status priority assigneeID contactName, s =>
      if status.valid && priority.valid && s.world.clients.tenants.rows.any (·.id == tenantID) &&
          assigneeID.all s.world.hasUser then
        match s.world.clients.tickets.insert?
            (ticketRow (ids s.drawn) tenantID subject status priority assigneeID contactName s.world.clock) with
        | none => (.error (violation "support_tickets_pkey"), s)
        | some tickets =>
            (.ok (ids s.drawn),
              ⟨{ s.world with clients := { s.world.clients with tickets := tickets } }, s.drawn + 1⟩)
      else (.error (violation "support_tickets"), s)
  | .insertMessage ticketID author authorName authorID body sentAt, s =>
      if s.world.clients.tickets.rows.any (·.id == ticketID) && authorID.all s.world.hasUser then
        match s.world.clients.messages.insert?
            ⟨ids s.drawn, ticketID, author, authorName, authorID, body, sentAt.timestamptz⟩ with
        | none => (.error (violation "support_ticket_messages_pkey"), s)
        | some messages =>
            (.ok (), ⟨{ s.world with clients := { s.world.clients with
              messages := messages
              tickets := s.world.clients.tickets.update (·.id == ticketID)
                (fun t => { t with lastMessageAt := sentAt.timestamptz }) fun _ => rfl } }, s.drawn + 1⟩)
      else (.error (violation "support_ticket_messages"), s)

/-! ### The program -/

/-- The insert of a member, with the time at which TOTP was enrolled. -/
def insertMember (pwHash : String) (m : TeamSeed) (userID : Dict String UUID) (totpEnrolledAt : Option Time) :
    SeedProc (Except Error (Dict String UUID)) := do
  match ← sql (.insertUser (m.slug ++ "@example.kz") m.name pwHash m.role totpEnrolledAt) with
  | .error e => return .error (.wrapf ("создание сотрудника " ++ m.name) e)
  | .ok id => return .ok (userID.set m.name id)

/-- A member who is not there yet. -/
def newMember (pwHash : String) (m : TeamSeed) (userID : Dict String UUID) :
    SeedProc (Except Error (Dict String UUID)) :=
  if m.tfa then do
    let now ← sql .now
    insertMember pwHash m userID (some now)
  else insertMember pwHash m userID none

/-- One turn of the loop over the team. -/
def seedMember (pwHash : String) (m : TeamSeed) (userID : Dict String UUID) :
    SeedProc (Except Error (Dict String UUID)) := do
  match ← sql (.userByEmail (m.slug ++ "@example.kz")) with
  | .error e => return .error (.wrapf ("поиск сотрудника " ++ m.name) e)
  | .ok (some id) => return .ok (userID.set m.name id)
  | .ok none => newMember pwHash m userID

/-- A client that is not there yet. -/
def newTenant (now : Time) (t : TenantSeed) (tenantID : Dict String UUID) :
    SeedProc (Except Error (Dict String UUID)) := do
  let n := tenantID.rows.length
  match ← sql (.insertTenant {
      name := t.name
      city := t.city
      address := t.city ++ ", " ++ "ул. Сатпаева " ++ toString (10 + n)
      status := t.status
      plan := t.plan
      employees := t.employees
      ownerName := "Владелец " ++ t.name
      phone := "+7 701 000 00 0" ++ toString (n % 10)
      email := "owner-" ++ toString (n + 1) ++ "@client.kz"
      lastActiveAt := now.add (-(Int64.ofNat (30 + n * 7)) * Duration.minute)
      trialEndsAt := if t.trialDays > 0 then some (now.addDays t.trialDays) else none }) with
  | .error e => return .error (.wrapf ("создание клиента " ++ t.name) e)
  | .ok id => return .ok (tenantID.set t.name id)

/-- One turn of the loop over the clients. -/
def seedTenant (now : Time) (t : TenantSeed) (tenantID : Dict String UUID) :
    SeedProc (Except Error (Dict String UUID)) := do
  match ← sql (.tenantByName t.name) with
  | .error e => return .error (.wrapf ("поиск клиента " ++ t.name) e)
  | .ok (some id) => return .ok (tenantID.set t.name id)
  | .ok none => newTenant now t tenantID

/-- `messageBody`. -/
def messageBody (subject : String) (m : TicketMessageSeed) : String :=
  if m.author = .client then "Добрый день! По обращению «" ++ subject ++ "» — ждём обновления."
  else "Приняли в работу, разбираемся с «" ++ subject ++ "»."

/-- One turn of the loop over the messages of a ticket. -/
def seedMessage (now : Time) (userID : Dict String UUID) (ticketID : UUID) (subject : String)
    (m : TicketMessageSeed) (_ : Unit) : SeedProc (Except Error Unit) := do
  -- the days become whole hours
  let sentAt := now.add (-(Int64.ofNat (m.daysAgo * 24 / 10)) * Duration.hour)
  let authorID := if m.author = .team then userID.get? m.authorName else none
  if m.author = .team ∧ authorID = none then
    return .error (.foreign ("сообщение в \"" ++ subject ++ "\" ссылается на неизвестного сотрудника \"" ++
      m.authorName ++ "\""))
  else
  match ← sql (.insertMessage ticketID m.author m.authorName authorID (messageBody subject m) sentAt) with
  | .error e => return .error (.wrapf ("создание сообщения в \"" ++ subject ++ "\"") e)
  | .ok () => return .ok ()

/-- A ticket that is not there yet. -/
def newTicket (now : Time) (userID : Dict String UUID) (tenantID : UUID) (tk : TicketSeed) :
    SeedProc (Except Error Unit) := do
  let assigneeID := if tk.assignee ≠ "" then userID.get? tk.assignee else none
  if tk.assignee ≠ "" ∧ assigneeID = none then
    return .error (.foreign ("обращение \"" ++ tk.subject ++ "\" ссылается на неизвестного сотрудника \"" ++
      tk.assignee ++ "\""))
  else
  match ← sql (.insertTicket tenantID tk.subject tk.status tk.priority assigneeID tk.contactName) with
  | .error e => return .error (.wrapf ("создание обращения \"" ++ tk.subject ++ "\"") e)
  | .ok ticketID => Prog.loop (seedMessage now userID ticketID tk.subject) tk.messages ()

/-- One turn of the loop over the tickets. -/
def seedTicket (now : Time) (userID tenantID : Dict String UUID) (tk : TicketSeed) (_ : Unit) :
    SeedProc (Except Error Unit) :=
  match tenantID.get? tk.tenantName with
  | none => return .error (.foreign ("обращение \"" ++ tk.subject ++
      "\" ссылается на неизвестного клиента \"" ++ tk.tenantName ++ "\""))
  | some tid => do
      match ← sql (.ticketExists tid tk.subject) with
      | .error e => return .error (.wrapf ("проверка обращения \"" ++ tk.subject ++ "\"") e)
      | .ok true => return .ok ()
      | .ok false => newTicket now userID tid tk

/-- `run`, for any data. -/
def seed (pwHash : String) (team : List TeamSeed) (tenants : List TenantSeed) (tickets : List TicketSeed) :
    SeedProc (Except Error Unit) := do
  match ← Prog.loop (seedMember pwHash) team Table.empty with
  | .error e => return .error e
  | .ok userID =>
  let now ← sql .now
  match ← Prog.loop (seedTenant now) tenants Table.empty with
  | .error e => return .error e
  | .ok tenantID => Prog.loop (seedTicket now userID tenantID) tickets ()

/-- `run`. -/
def run (pwHash : String) : SeedProc (Except Error Unit) := seed pwHash team tenants tickets

/-! ### What stays -/

/-- The rows that the seed looks for are still there. -/
structure Later (v w : World d) : Prop where
  users : (v.users.rows.map fun u => (u.id, u.email)) ⊆ w.users.rows.map fun u => (u.id, u.email)
  tenants : (v.clients.tenants.rows.map fun t => (t.id, t.name)) ⊆
    w.clients.tenants.rows.map fun t => (t.id, t.name)
  tickets : (v.clients.tickets.rows.map fun t => (t.tenantID, t.subject)) ⊆
    w.clients.tickets.rows.map fun t => (t.tenantID, t.subject)

theorem Later.rfl {w : World d} : Later w w := ⟨List.Subset.refl _, List.Subset.refl _, List.Subset.refl _⟩

theorem Later.trans {u v w : World d} (huv : Later u v) (hvw : Later v w) : Later u w where
  users := List.Subset.trans huv.users hvw.users
  tenants := List.Subset.trans huv.tenants hvw.tenants
  tickets := List.Subset.trans huv.tickets hvw.tickets

/-- Later databases. -/
abbrev later (s t : Database d) : Prop := Later s.world t.world

instance : IsPreorder (Database d) later where
  refl _ := .rfl
  trans _ _ _ := .trans

section rows

variable {Row K C : Type} {key : Row → K} {clash : K → K → Prop} {t : Table key clash} {col : Row → C}

theorem subset_update {p : Row → Bool} {f : Row → Row} (hf : ∀ x, key (f x) = key x)
    (hcol : ∀ x, col (f x) = col x) : t.rows.map col ⊆ (t.update p f hf).rows.map col := by
  have hsame : (t.update p f hf).rows.map col = t.rows.map col := by
    rw [Table.rows_update, List.map_map]
    refine List.map_congr_left fun x _ => ?_
    show col (if p x then f x else x) = col x
    split
    · exact hcol x
    · rfl
  rw [hsame]
  exact List.Subset.refl _

theorem subset_insert [DecidableRel clash] {u : Table key clash} {row : Row} (h : t.insert? row = some u) :
    t.rows.map col ⊆ u.rows.map col := by
  rw [(Table.insert?_eq_some h).1, List.map_append]
  exact List.subset_append_left _ _

/-- A row is found again by two of its columns. -/
theorem exists_mem_of_subset {A B : Type} {rows rows' : List Row} {f : Row → A} {g : Row → B}
    (h : (rows.map fun x => (f x, g x)) ⊆ rows'.map fun x => (f x, g x)) {x : Row} (hx : x ∈ rows) :
    ∃ y ∈ rows', f y = f x ∧ g y = g x := by
  obtain ⟨y, hy, heq⟩ := List.mem_map.mp (h (List.mem_map_of_mem hx))
  exact ⟨y, hy, Prod.mk.inj heq⟩

/-- A row that was inserted is there. -/
theorem mem_inserted [DecidableRel clash] {u : Table key clash} {row : Row} (h : t.insert? row = some u) :
    row ∈ u.rows := by
  rw [(Table.insert?_eq_some h).1]
  exact List.mem_append_right _ (List.mem_singleton_self row)

end rows

variable {scan scan' : Scan d} {ids ids' : ℕ → UUID}

/-- Every statement of the seed only adds. -/
theorem later_exec (op : SeedOp) (s : Database d) : later s (exec d scan ids op s).2 := by
  have hsame : later s s := Later.rfl
  cases op with
  | insertUser email fullName passwordHash role totpEnrolledAt =>
      simp only [exec]
      split
      · split
        · exact hsame
        · rename_i users hinsert
          exact ⟨subset_insert hinsert, List.Subset.refl _, List.Subset.refl _⟩
      · exact hsame
  | insertTenant t =>
      simp only [exec]
      split
      · split
        · exact hsame
        · rename_i tenants hinsert
          exact ⟨List.Subset.refl _, subset_insert hinsert, List.Subset.refl _⟩
      · exact hsame
  | insertTicket tenantID subject status priority assigneeID contactName =>
      simp only [exec]
      split
      · split
        · exact hsame
        · rename_i tickets hinsert
          exact ⟨List.Subset.refl _, List.Subset.refl _, subset_insert hinsert⟩
      · exact hsame
  | insertMessage ticketID author authorName authorID body sentAt =>
      simp only [exec]
      split
      · split
        · exact hsame
        · exact ⟨List.Subset.refl _, List.Subset.refl _, subset_update (fun _ => by rfl) fun _ => by rfl⟩
      · exact hsame
  | _ => exact hsame

theorem climbs {α : Type} (p : SeedProc α) : p.Climbs (exec d scan ids) later :=
  (Prog.only_true p).climbs fun op s _ => later_exec op s

/-! ### Every turn is found again -/

/-- A user has the email. -/
def HasUser (email : String) (id : UUID) (s : Database d) : Prop :=
  ∃ u ∈ s.world.users.rows, d.citextLower u.email = d.citextLower email ∧ u.id = id

/-- A client has the name. -/
def HasTenant (name : String) (id : UUID) (s : Database d) : Prop :=
  ∃ t ∈ s.world.clients.tenants.rows, t.name = name ∧ t.id = id

/-- A client has a ticket with the subject. -/
def HasTicket (tenantID : UUID) (subject : String) (s : Database d) : Prop :=
  ∃ t ∈ s.world.clients.tickets.rows, t.tenantID = tenantID ∧ t.subject = subject

/-- No two clients have one of the names. -/
def NamedOnce (names : List String) (w : World d) : Prop :=
  ∀ t ∈ w.clients.tenants.rows, ∀ u ∈ w.clients.tenants.rows, t.name ∈ names → u.name = t.name → u.id = t.id

theorem HasUser.later {email : String} {id : UUID} {s t : Database d} (h : later s t)
    (hs : HasUser email id s) : HasUser email id t := by
  obtain ⟨u, hu, hemail, rfl⟩ := hs
  obtain ⟨u', hu', hid, hsame⟩ := exists_mem_of_subset h.users hu
  exact ⟨u', hu', by rw [hsame, hemail], hid⟩

theorem HasTenant.later {name : String} {id : UUID} {s t : Database d} (h : later s t)
    (hs : HasTenant name id s) : HasTenant name id t := by
  obtain ⟨u, hu, rfl, rfl⟩ := hs
  obtain ⟨u', hu', hid, hname⟩ := exists_mem_of_subset h.tenants hu
  exact ⟨u', hu', hname, hid⟩

theorem HasTicket.later {tenantID : UUID} {subject : String} {s t : Database d} (h : later s t)
    (hs : HasTicket tenantID subject s) : HasTicket tenantID subject t := by
  obtain ⟨u, hu, rfl, rfl⟩ := hs
  exact exists_mem_of_subset h.tickets hu

/-- Emails are unique. -/
theorem HasUser.found {email : String} {id : UUID} {s : Database d} (h : HasUser email id s) :
    (exec d scan ids (.userByEmail email) s).1 = .ok (some id) := by
  obtain ⟨u, hu, hemail, rfl⟩ := h
  have hfind : s.world.users.find? (fun u => d.citextLower u.email == d.citextLower email) = some u :=
    Table.find?_of_mem (fun _ _ => EitherEq.symm) hu (beq_iff_eq.mpr hemail)
      fun x _ hx => .inr ((eq_of_beq hx).trans hemail.symm)
  show Except.ok (Option.map _ _) = _
  rw [hfind]
  rfl

/-- Whichever client with the name the query returns, it is the only one. -/
theorem HasTenant.found {names : List String} {name : String} {id : UUID} {s : Database d}
    (honce : NamedOnce names s.world) (hname : name ∈ names) (h : HasTenant name id s) :
    (exec d scan ids (.tenantByName name) s).1 = .ok (some id) := by
  obtain ⟨t, ht, rfl, rfl⟩ := h
  show Except.ok (Option.map _ (scan.first s.world t.name)) = _
  cases hfirst : scan.first s.world t.name with
  | none => exact absurd rfl (scan.first_none hfirst t ht)
  | some u =>
      obtain ⟨hu, hsame⟩ := scan.first_some hfirst
      exact congrArg (fun id => Except.ok (some id)) (honce t ht u hu hname hsame)

theorem ticketExists_iff {tenantID : UUID} {subject : String} {s : Database d} :
    (exec d scan ids (.ticketExists tenantID subject) s).1 = .ok true ↔ HasTicket tenantID subject s := by
  show Except.ok (List.any _ _) = _ ↔ _
  rw [Except.ok.injEq, List.any_eq_true]
  simp only [Bool.and_eq_true, beq_iff_eq, HasTicket]

theorem made_member {pwHash : String} {m : TeamSeed} {userID c : Dict String UUID} {totp : Option Time}
    {s s' : Database d} (hrun : (insertMember pwHash m userID totp).run (exec d scan ids) s = (.ok c, s')) :
    ∃ id, HasUser (m.slug ++ "@example.kz") id s' ∧ c = userID.set m.name id := by
  unfold insertMember at hrun
  rw [Prog.run_bind, Prog.run_perform] at hrun
  generalize hinsert : exec d scan ids (.insertUser _ _ _ _ _) s = res at hrun
  obtain ⟨e | id, s₁⟩ := res
  · cases hrun
  · cases hrun
    refine ⟨id, ?_, rfl⟩
    simp only [exec] at hinsert
    split at hinsert
    · split at hinsert
      · cases hinsert
      · rename_i users hrows
        cases hinsert
        exact ⟨_, mem_inserted hrows, rfl, rfl⟩
    · cases hinsert

theorem redone_seedMember (pwHash pwHash' : String) (m : TeamSeed) (userID : Dict String UUID)
    (good : Database d → Prop) :
    Prog.Redone (exec d scan ids) (exec d scan' ids') later good (seedMember pwHash m userID)
      (seedMember pwHash' m userID) := by
  refine Prog.Redone.lookup (newMember pwHash m userID) (HasUser (m.slug ++ "@example.kz"))
    (fun id => userID.set m.name id) (fun _ => rfl) (fun _ => rfl) (fun s => ?_) (fun s c s' hrun => ?_)
    (fun _ _ _ h => .later h) fun t id _ hid => by rw [hid.found]; rfl
  · show _ ∨ ∃ id, _
    cases hfind : s.world.users.find? (fun u => d.citextLower u.email ==
        d.citextLower (m.slug ++ "@example.kz")) with
    | none =>
        have hanswer : (exec d scan ids (.userByEmail (m.slug ++ "@example.kz")) s).1 = .ok none :=
          congrArg (fun u => Except.ok (Option.map _ u)) hfind
        rw [hanswer]
        exact .inl rfl
    | some u =>
        obtain ⟨hu, hemail⟩ := Table.mem_of_find? hfind
        have hthere : HasUser (m.slug ++ "@example.kz") u.id s := ⟨u, hu, eq_of_beq hemail, rfl⟩
        rw [hthere.found]
        exact .inr ⟨u.id, hthere, rfl⟩
  · unfold newMember at hrun
    split at hrun
    · exact made_member hrun
    · exact made_member hrun

theorem made_tenant {now : Time} {t : TenantSeed} {tenantID c : Dict String UUID} {s s' : Database d}
    (hrun : (newTenant now t tenantID).run (exec d scan ids) s = (.ok c, s')) :
    ∃ id, HasTenant t.name id s' ∧ c = tenantID.set t.name id := by
  unfold newTenant at hrun
  rw [Prog.run_bind, Prog.run_perform] at hrun
  generalize hinsert : exec d scan ids (.insertTenant _) s = res at hrun
  obtain ⟨e | id, s₁⟩ := res
  · cases hrun
  · cases hrun
    refine ⟨id, ?_, rfl⟩
    simp only [exec] at hinsert
    split at hinsert
    · split at hinsert
      · cases hinsert
      · rename_i tenants hrows
        cases hinsert
        exact ⟨_, mem_inserted hrows, rfl, rfl⟩
    · cases hinsert

theorem redone_seedTenant (now now' : Time) {names : List String} {t : TenantSeed} (ht : t.name ∈ names)
    (tenantID : Dict String UUID) :
    Prog.Redone (exec d scan ids) (exec d scan' ids') later (fun s => NamedOnce names s.world)
      (seedTenant now t tenantID) (seedTenant now' t tenantID) := by
  refine Prog.Redone.lookup (newTenant now t tenantID) (HasTenant t.name) (fun id => tenantID.set t.name id)
    (fun _ => rfl) (fun _ => rfl) (fun s => ?_) (fun _ _ _ => made_tenant) (fun _ _ _ h => .later h)
    fun s id honce hid => by rw [hid.found honce ht]; rfl
  have hanswer : (exec d scan ids (.tenantByName t.name) s).1 =
      .ok ((scan.first s.world t.name).map (·.id)) := rfl
  rw [hanswer]
  cases hfirst : scan.first s.world t.name with
  | none => exact .inl rfl
  | some u =>
      obtain ⟨hu, hname⟩ := scan.first_some hfirst
      exact .inr ⟨u.id, ⟨u, hu, hname, rfl⟩, rfl⟩

/-- A ticket is there as soon as its insert has succeeded, whatever becomes of its messages. -/
theorem made_ticket {now : Time} {userID : Dict String UUID} {tenantID : UUID} {tk : TicketSeed}
    {s s' : Database d} (hrun : (newTicket now userID tenantID tk).run (exec d scan ids) s = (.ok (), s')) :
    HasTicket tenantID tk.subject s' := by
  unfold newTicket at hrun
  dsimp only at hrun
  generalize (if tk.assignee ≠ "" then userID.get? tk.assignee else none) = assigneeID at hrun
  split at hrun
  · cases hrun
  · rw [Prog.run_bind, Prog.run_perform] at hrun
    generalize hinsert : exec d scan ids (.insertTicket tenantID tk.subject tk.status tk.priority _ _) s = res
      at hrun
    obtain ⟨e | id, s₁⟩ := res
    · cases hrun
    · have hthere : HasTicket tenantID tk.subject s₁ := by
        simp only [exec] at hinsert
        split at hinsert
        · split at hinsert
          · cases hinsert
          · rename_i tickets hrows
            cases hinsert
            exact ⟨_, mem_inserted hrows, rfl, rfl⟩
        · cases hinsert
      refine hthere.later ?_
      have hlater : later s₁ ((Prog.loop (seedMessage now userID id tk.subject) tk.messages ()).run
          (exec d scan ids) s₁).2 := climbs _ s₁
      rwa [hrun] at hlater

theorem redone_seedTicket (now now' : Time) (userID tenantID : Dict String UUID) (tk : TicketSeed) (x : Unit)
    (good : Database d → Prop) :
    Prog.Redone (exec d scan ids) (exec d scan' ids') later good (seedTicket now userID tenantID tk x)
      (seedTicket now' userID tenantID tk x) := by
  unfold seedTicket
  cases tenantID.get? tk.tenantName with
  | none => exact .error _ _
  | some tid =>
      refine Prog.Redone.lookup (newTicket now userID tid tk) (fun _ : Unit => HasTicket tid tk.subject)
        (fun _ => ()) (fun _ => rfl) (fun _ => rfl) (fun s => ?_)
        (fun _ _ _ hrun => ⟨(), made_ticket hrun, rfl⟩) (fun _ _ _ h => .later h)
        fun t _ _ hthere => by rw [ticketExists_iff.mpr hthere]; rfl
      cases hexists : (exec d scan ids (.ticketExists tid tk.subject) s).1 with
      | error e => cases hexists
      | ok b =>
          cases b with
          | false => exact .inl rfl
          | true => exact .inr ⟨(), ticketExists_iff.mp hexists, rfl⟩

/-- After a run that has succeeded, a run in any later database finds everything, as long as no two clients
have one of the names. -/
theorem redone_seed (pwHash pwHash' : String) (team : List TeamSeed) (tenants : List TenantSeed)
    (tickets : List TicketSeed) :
    Prog.Redone (exec d scan ids) (exec d scan' ids') later
      (fun s => NamedOnce (tenants.map (·.name)) s.world) (seed pwHash team tenants tickets)
      (seed pwHash' team tenants tickets) := by
  refine .bind (.loop (fun _ _ => climbs _) (fun m _ acc => redone_seedMember pwHash pwHash' m acc _) _)
    (fun e => ⟨e, rfl⟩) (fun _ => climbs _) fun userID => ?_
  refine .call (fun _ => rfl) (fun _ => rfl) fun now now' => ?_
  refine .bind (.loop (fun _ _ => climbs _) (fun t ht acc =>
    redone_seedTenant now now' (List.mem_map_of_mem ht) acc) _) (fun e => ⟨e, rfl⟩) (fun _ => climbs _)
    fun tenantID => ?_
  exact .loop (fun _ _ => climbs _) (fun tk _ acc => redone_seedTicket now now' userID tenantID tk acc _) ()

/-! ### What the console does in between -/

section console

open Http

variable {r : Draws} {w : World d}

theorem later_users (op : UsersOp) (T : UserTable d) :
    (T.rows.map fun u => (u.id, u.email)) ⊆ (op.exec d T).2.rows.map fun u => (u.id, u.email) := by
  obtain ⟨g, hrows, hmakes⟩ := UsersOp.rows_exec op T
  have hsame : ((op.exec d T).2.rows.map fun u => (u.id, u.email)) = T.rows.map fun u => (u.id, u.email) := by
    rw [hrows, List.map_map]
    refine List.map_congr_left fun u _ => ?_
    have hmake := hmakes u
    show ((g u).id, (g u).email) = (u.id, u.email)
    generalize g u = u' at hmake
    cases hmake <;> rfl
  rw [hsame]
  exact List.Subset.refl _

theorem later_tenants {op : TenantsOp} (hop : ∀ id, op ≠ .delete id) :
    Later w (SuperAdmin.exec d r (.tenants op) w).2 := by
  have hsame : Later w w := .rfl
  cases op with
  | delete id => exact absurd rfl (hop id)
  | create t =>
      simp only [SuperAdmin.exec, TenantsOp.exec]
      split
      · split
        · exact hsame
        · rename_i tenants hinsert
          exact ⟨List.Subset.refl _, subset_insert hinsert, List.Subset.refl _⟩
      · exact hsame
  | updateStatus id status reason =>
      exact ⟨List.Subset.refl _, subset_update (fun _ => by rfl) fun _ => by rfl, List.Subset.refl _⟩
  | setActivationCode id code expiresAt =>
      exact ⟨List.Subset.refl _, subset_update (fun _ => by rfl) fun _ => by rfl, List.Subset.refl _⟩
  | _ => exact hsame

theorem later_tickets (op : TicketsOp) : Later w (SuperAdmin.exec d r (.tickets op) w).2 := by
  have hsame : Later w w := .rfl
  cases op with
  | updateStatus id status =>
      simp only [SuperAdmin.exec, TicketsOp.exec]
      split
      · exact ⟨List.Subset.refl _, List.Subset.refl _, subset_update (fun _ => by rfl) fun _ => by rfl⟩
      · exact hsame
  | updatePriority id priority =>
      simp only [SuperAdmin.exec, TicketsOp.exec]
      split
      · exact ⟨List.Subset.refl _, List.Subset.refl _, subset_update (fun _ => by rfl) fun _ => by rfl⟩
      · exact hsame
  | assignTo id assigneeID =>
      simp only [SuperAdmin.exec, TicketsOp.exec]
      split
      · exact hsame
      · exact ⟨List.Subset.refl _, List.Subset.refl _, subset_update (fun _ => by rfl) fun _ => by rfl⟩
  | addMessage m =>
      simp only [SuperAdmin.exec, TicketsOp.exec]
      split
      · exact hsame
      · split
        · exact ⟨List.Subset.refl _, List.Subset.refl _, subset_update (fun _ => by rfl) fun _ => by rfl⟩
        · exact hsame
  | _ => exact hsame

/-- The deletion of a client. -/
def deletes : Op → Bool
  | .tenants (.delete _) => true
  | _ => false

/-- Only the deletion of a client takes away what the seed looks for. -/
theorem later_call {op : Op} (hop : deletes op = false) : Later w (SuperAdmin.exec d r op w).2 := by
  cases op with
  | users uop => exact ⟨later_users uop w.users, List.Subset.refl _, List.Subset.refl _⟩
  | tenants top =>
      refine later_tenants fun id h => ?_
      rw [h] at hop
      cases hop
  | tickets top => exact later_tickets top
  | audit e =>
      constructor
      · show _ ⊆ (w.writeAudit e).2.users.rows.map _
        rw [World.writeAudit_users]
        exact List.Subset.refl _
      · show _ ⊆ (w.writeAudit e).2.clients.tenants.rows.map _
        rw [World.writeAudit_clients]
        exact List.Subset.refl _
      · show _ ⊆ (w.writeAudit e).2.clients.tickets.rows.map _
        rw [World.writeAudit_clients]
        exact List.Subset.refl _
  | _ => exact ⟨List.Subset.refl _, List.Subset.refl _, List.Subset.refl _⟩

/-- **The seed is idempotent.** After a run that has succeeded the console may serve any requests, in any
interleaving, but deletes no client.  If then no two clients have one of the names of the seed, running it again
succeeds and changes nothing. -/
theorem seed_idempotent {ι : Type} [DecidableEq ι] {draws : ι → Draws} {web : Web} {requests : ι → Request}
    {team : List TeamSeed} {tenants : List TenantSeed} {tickets : List TicketSeed} {pwHash : String}
    {s s' : Database d} {P : Pool Eff (World d) ι Response}
    (hseed : (seed pwHash team tenants tickets).run (exec d scan ids) s = (.ok (), s'))
    (hr : Pool.Run (fun i => SuperAdmin.exec d (draws i)) Ticks (fun _ op _ => deletes op = false)
      ⟨s'.world, fun i => serve d web (requests i)⟩ P)
    (honce : NamedOnce (tenants.map (·.name)) P.state) (pwHash' : String) (drawn : ℕ) :
    (seed pwHash' team tenants tickets).run (exec d scan' ids') ⟨P.state, drawn⟩ =
      (.ok (), ⟨P.state, drawn⟩) := by
  have hlater : Later s'.world P.state := by
    refine hr.invariant (I := fun w => Later s'.world w) ?_ ?_ .rfl
    · exact fun i op w hop hw => hw.trans (later_call hop)
    · rintro w _ ⟨t, -, rfl⟩ hw
      exact ⟨hw.users, hw.tenants, hw.tickets⟩
  exact redone_seed pwHash pwHash' team tenants tickets s () s' hseed ⟨P.state, drawn⟩ hlater honce

/-! ### The seed, a login of a member, and the seed again -/

/-- An empty database. -/
def blank : Database Mediation.desk := ⟨{ Mediation.deskWorld with users := Table.empty }, 0⟩

def blankIDs (n : ℕ) : UUID := BitVec.ofNat 128 (n + 1)

/-- The query returns the oldest client with a name. -/
def oldest : Scan Mediation.desk where
  first w name := w.clients.tenants.rows.find? (·.name == name)
  first_some h := ⟨List.mem_of_find?_eq_some h, by simpa using List.find?_some h⟩
  first_none h t ht hname := List.find?_eq_none.mp h t ht (beq_iff_eq.mpr hname)

/-- It returns the newest one. -/
def newest : Scan Mediation.desk where
  first w name := w.clients.tenants.rows.reverse.find? (·.name == name)
  first_some h := ⟨List.mem_reverse.mp (List.mem_of_find?_eq_some h), by simpa using List.find?_some h⟩
  first_none h t ht hname := List.find?_eq_none.mp h t (List.mem_reverse.mpr ht) (beq_iff_eq.mpr hname)

/-- The database after the first run. -/
def seeded : Except Error Unit × Database Mediation.desk :=
  (run "argon2id$password123").run (exec Mediation.desk oldest blankIDs) blank

/-- A member logs in. -/
def memberLogin : Request := { Mediation.loginRequest with
  body := some (.obj [("email", .str "d.tleubaeva@example.kz"), ("password", .str "password123")]) }

theorem seeded_ok : seeded.1.isOk = true := by decide +kernel

/-- The console after a number of calls of the login. -/
def afterLogin (n : ℕ) : Pool Eff (World Mediation.desk) (Fin 1) Response :=
  (⟨seeded.2.world, fun _ => serve Mediation.desk ⟨fun _ => true⟩ memberLogin⟩ :
    Pool Eff (World Mediation.desk) (Fin 1) Response).play
    (fun _ => SuperAdmin.exec Mediation.desk (Sample.draws 0)) (List.replicate n 0)

theorem seed_idempotent_login :
    (afterLogin 10).state.tokens.rows.length = 1 ∧
      (run "another hash").run (exec Mediation.desk newest blankIDs) ⟨(afterLogin 10).state, 0⟩ =
        (.ok (), ⟨(afterLogin 10).state, 0⟩) := by
  have hseed : seeded = (.ok (), seeded.2) := by
    have hok := seeded_ok
    generalize seeded = res at hok
    obtain ⟨e | u, s'⟩ := res
    · cases hok
    · rfl
  have hr : Pool.Run (fun _ => SuperAdmin.exec Mediation.desk (Sample.draws 0)) Ticks
      (fun _ op _ => deletes op = false)
      ⟨seeded.2.world, fun _ => serve Mediation.desk ⟨fun _ => true⟩ memberLogin⟩ (afterLogin 10) :=
    Pool.play_meets (by decide +kernel)
  have honce : NamedOnce (tenants.map (·.name)) (afterLogin 10).state := by
    unfold NamedOnce
    decide +kernel
  exact ⟨by decide +kernel, seed_idempotent hseed hr honce "another hash" 0⟩

end console

end SuperAdmin.Seed
