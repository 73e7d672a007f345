import SuperAdmin.Statements
import SuperAdmin.Http.Handler
import SuperAdmin.Overview.Snapshot
import SuperAdmin.Web.Tickets
import SuperAdmin.Sample
import Mathlib.Algebra.Ring.Int.Defs

/-! # The numbers of open tickets

The overview, the card of a client and the badge in the sidebar each count open tickets.  The first two
take a ticket in progress for an open one, and agree: a ticket belongs to one client, so the cards
together count every ticket once.  The badge counts the tickets of status `open` alone. -/

namespace SuperAdmin

open Effects Http Web

variable {d : Deps}

/-! ### The foreign keys of `support_tickets` -/

namespace World

def hasTenant (w : World d) (id : UUID) : Bool := w.clients.tenants.rows.any (·.id == id)

/-- The client and the assignee of a ticket are stored. -/
structure TicketKeys (w : World d) : Prop where
  tenant : ∀ t ∈ w.clients.tickets.rows, w.hasTenant t.tenantID = true
  assignee : ∀ t ∈ w.clients.tickets.rows, t.assigneeID.all w.hasUser = true

end World

section keys

variable {rowID : UUID} {clock : Time} {hasUser : UUID → Bool} {c : Clients d}

theorem TenantsOp.exec_tenant (op : TenantsOp)
    (h : ∀ t ∈ c.tickets.rows, c.tenants.rows.any (·.id == t.tenantID) = true) :
    ∀ t ∈ (op.exec d rowID clock c).2.tickets.rows,
      (op.exec d rowID clock c).2.tenants.rows.any (·.id == t.tenantID) = true := by
  cases op with
  | create t =>
      simp only [exec]
      split
      · split
        · exact h
        · rename_i tenants hinsert
          intro t ht
          rw [(Table.insert?_eq_some hinsert).1, List.any_append, h t ht, Bool.true_or]
      · exact h
  | getByID id => exact h
  | list => exact h
  | isEmailTaken email => exact h
  | updateStatus id status suspendedReason =>
      intro t ht
      exact (any_update (fun _ => by rfl) fun _ => by rfl).trans (h t ht)
  | setActivationCode id code expiresAt =>
      intro t ht
      exact (any_update (fun _ => by rfl) fun _ => by rfl).trans (h t ht)
  | delete id =>
      intro t ht
      obtain ⟨ht, hother⟩ := List.mem_filter.mp ht
      obtain ⟨x, hx, hid⟩ := List.any_eq_true.mp (h t ht)
      have hne : (t.tenantID == id) = false := by simpa using hother
      refine List.any_eq_true.mpr ⟨x, List.mem_filter.mpr ⟨hx, ?_⟩, hid⟩
      show (!(x.id == id)) = true
      rw [eq_of_beq hid, hne]
      rfl

theorem TenantsOp.exec_tickets (op : TenantsOp) :
    ∀ t ∈ (op.exec d rowID clock c).2.tickets.rows, t ∈ c.tickets.rows := by
  cases op with
  | create t =>
      simp only [exec]
      split
      · split <;> exact fun _ ht => ht
      · exact fun _ ht => ht
  | delete id => exact fun _ ht => (List.mem_filter.mp ht).1
  | _ => exact fun _ ht => ht

theorem TicketsOp.exec_tenants (op : TicketsOp) :
    (op.exec d hasUser rowID clock c).2.tenants = c.tenants := by
  cases op with
  | list f => rfl
  | getByID id => rfl
  | updateStatus id status =>
      simp only [exec]
      split <;> rfl
  | updatePriority id priority =>
      simp only [exec]
      split <;> rfl
  | assignTo id assigneeID =>
      simp only [exec]
      split <;> rfl
  | addMessage m =>
      simp only [exec]
      split
      · rfl
      · split <;> rfl

/-- What a call makes of a ticket: the client stays, and a new assignee is stored. -/
def Keeps (hasUser : UUID → Bool) (t t' : Ticket) : Prop :=
  t'.tenantID = t.tenantID ∧ (t.assigneeID.all hasUser = true → t'.assigneeID.all hasUser = true)

theorem keeps_update {tbl : TicketTable} {p : Ticket → Bool} {f : Ticket → Ticket}
    (hf : ∀ t, (f t).id = t.id) (hkeeps : ∀ t ∈ tbl.rows, p t = true → Keeps hasUser t (f t)) :
    ∀ t' ∈ (tbl.update p f hf).rows, ∃ t ∈ tbl.rows, Keeps hasUser t t' := by
  intro t' ht'
  obtain ⟨t, ht, rfl⟩ := (Table.mem_update hf).mp ht'
  refine ⟨t, ht, ?_⟩
  by_cases hp : p t = true
  · rw [if_pos hp]
    exact hkeeps t ht hp
  · rw [if_neg hp]
    exact ⟨rfl, id⟩

theorem TicketsOp.exec_keeps (op : TicketsOp) :
    ∀ t' ∈ (op.exec d hasUser rowID clock c).2.tickets.rows, ∃ t ∈ c.tickets.rows, Keeps hasUser t t' := by
  have hsame : ∀ t' ∈ c.tickets.rows, ∃ t ∈ c.tickets.rows, Keeps hasUser t t' :=
    fun t ht => ⟨t, ht, rfl, id⟩
  cases op with
  | list f => exact hsame
  | getByID id => exact hsame
  | updateStatus id status =>
      simp only [exec]
      split
      · exact keeps_update (f := fun t => { t with status := status }) (fun _ => rfl)
          fun _ _ _ => ⟨rfl, fun h => h⟩
      · exact hsame
  | updatePriority id priority =>
      simp only [exec]
      split
      · exact keeps_update (f := fun t => { t with priority := priority }) (fun _ => rfl)
          fun _ _ _ => ⟨rfl, fun h => h⟩
      · exact hsame
  | assignTo id assigneeID =>
      simp only [exec]
      split
      · exact hsame
      · rename_i hchecked
        refine keeps_update (f := fun t => { t with assigneeID := assigneeID }) (fun _ => rfl)
          fun t ht hid => ⟨rfl, fun _ => ?_⟩
        have hany : c.tickets.rows.any (·.id == id) = true := List.any_eq_true.mpr ⟨t, ht, hid⟩
        simpa [hany] using hchecked
  | addMessage m =>
      simp only [exec]
      split
      · exact hsame
      · split
        · exact keeps_update (f := fun t => { t with lastMessageAt := clock.timestamptz }) (fun _ => rfl)
            fun _ _ _ => ⟨rfl, fun h => h⟩
        · exact hsame

end keys

/-- Every call keeps the foreign keys. -/
theorem exec_ticketKeys (r : Draws) (op : Op) {w : World d} (h : w.TicketKeys) :
    (exec d r op w).2.TicketKeys := by
  have husers : (exec d r op w).2.hasUser = w.hasUser := funext (exec_hasUser r op w)
  cases op with
  | tenants op =>
      exact ⟨op.exec_tenant h.tenant, fun t ht => h.assignee t (op.exec_tickets t ht)⟩
  | tickets op =>
      constructor
      · intro t' ht'
        obtain ⟨t, ht, htenant, -⟩ := op.exec_keeps t' ht'
        show ((op.exec d w.hasUser (r.uuid .row) w.clock w.clients).2.tenants.rows.any _) = true
        rw [op.exec_tenants, htenant]
        exact h.tenant t ht
      · intro t' ht'
        obtain ⟨t, ht, -, hassignee⟩ := op.exec_keeps t' ht'
        exact hassignee (h.assignee t ht)
  | users op => exact ⟨h.tenant, husers ▸ h.assignee⟩
  | audit e =>
      have hclients : (exec d r (.audit e) w).2.clients = w.clients := w.writeAudit_clients e
      refine ⟨?_, ?_⟩
      · unfold World.hasTenant
        rw [hclients]
        exact h.tenant
      · rw [hclients, husers]
        exact h.assignee
  | _ => exact ⟨h.tenant, h.assignee⟩

end SuperAdmin

namespace SuperAdmin.OpenTickets

open Effects Http Http.Handler Web

variable {d : Deps} (r : Draws) (browser : RequestContext) (w : World d)

/-! ### The three numbers -/

/-- The metric `openTickets` of `Overview.Get`. -/
def overviewCount : Option ℕ :=
  match (Usecase.Overview.get.run (exec d r) w).1 with
  | .ok data => some data.metrics.openTickets
  | .error _ => none

/-- The field `open_tickets` of the card of a client. -/
def cardCount (t : SuperAdmin.Tenant) : Option ℤ :=
  match ((Handler.Tenant.toTenantDetailResponse t).run (exec d r) w).1 with
  | .obj card => do
      let .num n ← card.lookup "open_tickets" | none
      some n
  | _ => none

/-- All cards together. -/
def cardsCount : Option ℤ := (w.clients.tenants.rows.mapM (cardCount r w)).map List.sum

/-- The badge over the answer of `GET /tickets`. -/
def badgeCount : Option ℕ := (fetchTickets d r browser (fun _ => "") w).map openTicketsCount

/-! ### What each counts -/

/-- A ticket that is not settled. -/
def isOpen (t : SuperAdmin.Ticket) : Bool := t.status == .opened || t.status == .inProgress

theorem countP_listed (f : TicketFilter) (p : SuperAdmin.Ticket → Bool) :
    (listed w f).countP p = w.clients.tickets.rows.countP fun t => p t && f.keeps t := by
  unfold listed
  rw [List.countP_filter, (List.mergeSort_perm _ _).countP_eq]

theorem keeps_all (t : SuperAdmin.Ticket) : ({} : TicketFilter).keeps t = true := rfl

theorem overviewCount_eq : overviewCount r w = some (w.clients.tickets.rows.countP isOpen) := by
  have hevents : ∃ page, ({ limit := Usecase.Overview.recentEventsShown } : AuditFilter).list w.audit = .ok page := by
    unfold AuditFilter.list
    rw [if_neg (by decide)]
    exact ⟨_, rfl⟩
  obtain ⟨page, hpage⟩ := hevents
  unfold overviewCount
  rw [Snapshot.get_run, Snapshot.overview, Snapshot.events, hpage]
  have hcount := countP_listed w {} isOpen
  simp only [keeps_all, Bool.and_true] at hcount
  rw [← hcount]
  rfl

theorem cardCount_eq (t : SuperAdmin.Tenant) : cardCount r w t =
    some ((w.clients.tickets.rows.countP fun k => isOpen k && k.tenantID == t.id : ℕ) : ℤ) := by
  have hkeeps : ∀ k, ({ tenantID := some t.id } : TicketFilter).keeps k = (k.tenantID == t.id) := by
    intro k
    simp [TicketFilter.keeps, Bool.beq_comm]
  have hcount := countP_listed w { tenantID := some t.id } isOpen
  simp only [hkeeps] at hcount
  rw [← hcount, List.countP_eq_length_filter]
  rfl

theorem sum_cardCount (tenants : List SuperAdmin.Tenant) : (tenants.mapM (cardCount r w)).map List.sum =
    some (((tenants.map fun t =>
      w.clients.tickets.rows.countP fun k => isOpen k && k.tenantID == t.id).sum : ℕ) : ℤ) := by
  induction tenants with
  | nil => rfl
  | cons t tenants ih =>
      obtain ⟨counts, hcounts, hsum⟩ := Option.map_eq_some_iff.mp ih
      rw [List.mapM_cons, cardCount_eq, hcounts, List.map_cons, List.sum_cons, Int.natCast_add, ← hsum]
      rfl

/-- The cards together count every open ticket once. -/
theorem cardsCount_eq (hkeys : w.TicketKeys) :
    cardsCount r w = some ((w.clients.tickets.rows.countP isOpen : ℕ) : ℤ) := by
  have hids : (w.clients.tenants.rows.map (·.id)).Nodup := by
    rw [List.Nodup, List.pairwise_map]
    exact w.clients.tenants.unclashed.imp fun h heq => h (.inl heq)
  have hstored : ∀ t ∈ w.clients.tickets.rows, t.tenantID ∈ w.clients.tenants.rows.map (·.id) := by
    intro t ht
    obtain ⟨c, hc, hid⟩ := List.any_eq_true.mp (hkeys.tenant t ht)
    exact List.mem_map.mpr ⟨c, hc, eq_of_beq hid⟩
  rw [countP_eq_sum_countP SuperAdmin.Ticket.tenantID isOpen hids hstored]
  unfold cardsCount
  rw [sum_cardCount, List.map_map]
  rfl

theorem badgeCount_eq : badgeCount r browser w = some (w.clients.tickets.rows.countP (·.status == .opened)) := by
  have hstatus : ∀ t : SuperAdmin.Ticket, (t.status.string == "open") = (t.status == .opened) := by
    intro t
    cases hs : t.status with
    | unknown name hname =>
        have hne : name ≠ "open" := by
          rintro rfl
          exact hname List.mem_cons_self
        simp [TicketStatus.string, hne]
    | _ => rfl
  have hcount := countP_listed w {} (·.status == .opened)
  simp only [keeps_all, Bool.and_true] at hcount
  unfold badgeCount
  rw [fetchTickets_eq r browser w (f := {}) rfl, Option.map_some, ← hcount]
  unfold openTicketsCount
  rw [List.filter_map, List.length_map, ← List.countP_eq_length_filter]
  simp only [Function.comp_def, GlobalTicket.ofTicket, hstatus]

/-- The three numbers agree exactly if no ticket is in progress. -/
theorem counts_agree_iff (hkeys : w.TicketKeys) :
    (∃ n : ℕ, overviewCount r w = some n ∧ cardsCount r w = some (n : ℤ) ∧ badgeCount r browser w = some n) ↔
      ∀ t ∈ w.clients.tickets.rows, t.status ≠ .inProgress := by
  have hsplit : w.clients.tickets.rows.countP isOpen = w.clients.tickets.rows.countP (·.status == .opened) +
      w.clients.tickets.rows.countP (·.status == .inProgress) := by
    induction w.clients.tickets.rows with
    | nil => rfl
    | cons t tickets ih =>
        rw [List.countP_cons, List.countP_cons, List.countP_cons, ih, isOpen]
        by_cases hopened : t.status = .opened
        · simp [hopened]
          omega
        · simp [hopened]
          omega
  rw [overviewCount_eq, cardsCount_eq r w hkeys, badgeCount_eq, hsplit]
  constructor
  · rintro ⟨n, hall, -, hopen⟩
    have hnone : w.clients.tickets.rows.countP (·.status == .inProgress) = 0 := by
      have hall := Option.some.inj hall
      have hopen := Option.some.inj hopen
      omega
    intro t ht hprogress
    exact List.countP_eq_zero.mp hnone t ht (beq_iff_eq.mpr hprogress)
  · intro hnone
    have hzero : w.clients.tickets.rows.countP (·.status == .inProgress) = 0 :=
      List.countP_eq_zero.mpr fun t ht h => hnone t ht (eq_of_beq h)
    rw [hzero]
    exact ⟨_, rfl, rfl, rfl⟩

/-! ### Two tables of tickets -/

def ticket (id : UUID) (status : TicketStatus) (assigneeID : Option UUID) : SuperAdmin.Ticket where
  id := id
  tenantID := 5
  subject := "Не приходит код"
  status := status
  priority := .normal
  assigneeID := assigneeID
  contactName := "Контакт"
  lastMessageAt := Sample.start
  createdAt := Sample.start

/-- The sample state with one client and its tickets. -/
def withTickets (tickets : TicketTable) : World Sample.deps :=
  { Sample.world with
    clients := ⟨⟨[Sample.onTrial 5 "cafe@example.com" 9], List.pairwise_singleton _ _⟩, tickets, Table.empty⟩ }

/-- An open ticket and a resolved one. -/
def noneInProgress : World Sample.deps :=
  withTickets ⟨[ticket 1 .opened none, ticket 2 .resolved none], by decide⟩

/-- An open ticket and one in progress. -/
def oneInProgress : World Sample.deps :=
  withTickets ⟨[ticket 1 .opened none, ticket 2 .inProgress none], by decide⟩

theorem counts_agree_none_in_progress :
    ∃ n : ℕ, overviewCount (Sample.draws 0) noneInProgress = some n ∧
      cardsCount (Sample.draws 0) noneInProgress = some (n : ℤ) ∧
      badgeCount (Sample.draws 0) Sample.context noneInProgress = some n :=
  (counts_agree_iff (Sample.draws 0) Sample.context noneInProgress ⟨by decide, by decide⟩).mpr (by decide)

/-- The overview counts two tickets and the badge one. -/
theorem counts_differ : oneInProgress.TicketKeys ∧
    ¬ ∃ n : ℕ, overviewCount (Sample.draws 0) oneInProgress = some n ∧
      cardsCount (Sample.draws 0) oneInProgress = some (n : ℤ) ∧
      badgeCount (Sample.draws 0) Sample.context oneInProgress = some n := by
  refine ⟨⟨by decide, by decide⟩, ?_⟩
  rintro ⟨n, hall, -, hopen⟩
  rw [overviewCount_eq, show oneInProgress.clients.tickets.rows.countP isOpen = 2 by decide] at hall
  rw [badgeCount_eq, show oneInProgress.clients.tickets.rows.countP (·.status == .opened) = 1 by decide] at hopen
  cases hall
  cases hopen

end SuperAdmin.OpenTickets
