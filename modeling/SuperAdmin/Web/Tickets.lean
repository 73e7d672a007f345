import SuperAdmin.Http.Handler
import SuperAdmin.Journal.Screen

/-! # The tickets in the browser

`fetchTickets` of `web/src/features/tickets/api.ts`, the filters of `TicketsPage.tsx` over what it returns,
and the badge that `AppShell.tsx` makes of it.  `fetchTickets_eq` says what the browser gets of the tables:
the names of the client and of the assignee instead of their ids. -/

namespace SuperAdmin.Web

open Effects Http Http.Handler

/-! ### fetchTickets -/

/-- `GlobalTicket`. -/
structure GlobalTicket where
  id : String
  clientId : String
  clientName : String
  city : String
  subject : String
  status : String
  priority : String
  assignee : Option String
  lastMessageAt : Time
  contactName : String
deriving DecidableEq, Repr

/-- `fromWire`; the fields of a `GlobalTicketWire` have these types. -/
def GlobalTicket.fromWire : Json → Option GlobalTicket
  | .obj w => do
      let .str id ← w.lookup "id" | none
      let .str clientId ← w.lookup "client_id" | none
      let .str clientName ← w.lookup "client_name" | none
      let .str city ← w.lookup "city" | none
      let .str subject ← w.lookup "subject" | none
      let .str status ← w.lookup "status" | none
      let .str priority ← w.lookup "priority" | none
      let assignee ← w.lookup "assignee"
      let .str contactName ← w.lookup "contact_name" | none
      let .time lastMessageAt ← w.lookup "last_message_at" | none
      some ⟨id, clientId, clientName, city, subject, status, priority, nullable assignee, lastMessageAt,
        contactName⟩
  | _ => none

/-- A request for `/tickets`. -/
def ticketsRequest (query : String → String) (browser : RequestContext) : Request where
  route := .ticketList
  query := query
  ip := browser.ip
  userAgent := browser.userAgent

/-- What `fetchTickets` makes of an answer. -/
def ticketsOf (resp : Response) : Option (List GlobalTicket) :=
  match resp.body with
  | .data (.arr items) => items.mapM GlobalTicket.fromWire
  | _ => none

/-- The tickets in the browser, where the server answers in the state `w`. -/
def fetchTickets (d : Deps) (r : Draws) (browser : RequestContext) (query : String → String) (w : World d) :
    Option (List GlobalTicket) :=
  ticketsOf ((Ticket.list d (ticketsRequest query browser)).run (exec d r) w).1

/-! ### TicketsPage and AppShell -/

/-- `filtered`. -/
def filteredTickets (status assignee : String) (tickets : List GlobalTicket) : List GlobalTicket :=
  tickets.filter fun ticket =>
    (status == "all" || ticket.status == status) &&
      (assignee == "all" ||
        if assignee == "unassigned" then ticket.assignee == none else ticket.assignee == some assignee)

/-- `openTicketsCount`, the badge of the sidebar. -/
def openTicketsCount (tickets : List GlobalTicket) : ℕ :=
  (tickets.filter fun ticket => ticket.status == "open").length

/-! ### What the server sends -/

/-- A ticket as the browser gets it. -/
def GlobalTicket.ofTicket (l : Ticket.Lookups) (t : SuperAdmin.Ticket) : GlobalTicket where
  id := t.id.string
  clientId := t.tenantID.string
  clientName := (l.client t.tenantID).1
  city := (l.client t.tenantID).2
  subject := t.subject
  status := t.status.string
  priority := t.priority.string
  assignee := l.assigneeName t.assigneeID
  lastMessageAt := t.lastMessageAt
  contactName := t.contactName

theorem GlobalTicket.ofTicket_id (l : Ticket.Lookups) (t : SuperAdmin.Ticket) :
    (ofTicket l t).id = t.id.string := rfl

theorem GlobalTicket.fromWire_toGlobalTicketResponse (l : Ticket.Lookups) (t : SuperAdmin.Ticket) :
    fromWire (.obj (Ticket.toGlobalTicketResponse l t)) = some (ofTicket l t) := by
  unfold Ticket.toGlobalTicketResponse ofTicket
  cases l.assigneeName t.assigneeID <;> rfl

section server

variable {d : Deps} (r : Draws) (browser : RequestContext) (w : World d)

/-- The lists that `buildLookups` reads. -/
def lookupsOf (w : World d) : Ticket.Lookups where
  users := w.users.rows.mergeSort fun a b => decide (a.createdAt ≤ b.createdAt)
  tenants := w.clients.tenants.rows.mergeSort fun a b => decide (b.createdAt ≤ a.createdAt)

/-- The tickets that `TicketRepo.List` returns. -/
def listed (w : World d) (f : TicketFilter) : List SuperAdmin.Ticket :=
  (w.clients.tickets.rows.mergeSort fun a b => decide (b.lastMessageAt ≤ a.lastMessageAt)).filter f.keeps

theorem mapM_fromWire (l : Ticket.Lookups) (tickets : List SuperAdmin.Ticket) :
    (tickets.map fun t => Json.obj (Ticket.toGlobalTicketResponse l t)).mapM GlobalTicket.fromWire =
      some (tickets.map (GlobalTicket.ofTicket l)) := by
  induction tickets with
  | nil => rfl
  | cons t tickets ih =>
      rw [List.map_cons, List.mapM_cons, ih, GlobalTicket.fromWire_toGlobalTicketResponse]
      rfl

/-- What the browser gets for a query that the server accepts. -/
theorem fetchTickets_eq {query : String → String} {f : TicketFilter}
    (hf : Ticket.parseTicketFilter d (ticketsRequest query browser) = .ok f) :
    fetchTickets d r browser query w = some ((listed w f).map (GlobalTicket.ofTicket (lookupsOf w))) := by
  rw [← mapM_fromWire]
  unfold fetchTickets Ticket.list
  rw [hf]
  rfl

end server

end SuperAdmin.Web
