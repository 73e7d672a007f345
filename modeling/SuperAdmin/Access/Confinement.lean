import SuperAdmin.Http.Repertoire
import SuperAdmin.Clients.OpenTickets
import SuperAdmin.Users

/-! # Requests change what they name

The routes that change a client, a ticket or a member of the team have its id in their path.  What the
console keeps of a client stays as it is until a request names the client or one of its tickets, and so do
the role and the status of a member, whatever else is served beside it. -/

namespace SuperAdmin

open Effects Usecase Http

/-! ### The rows of a client -/

/-- What the console keeps of a client. -/
@[ext] structure Dossier where
  tenants : List Tenant
  tickets : List Ticket
  messages : List TicketMessage
deriving DecidableEq

namespace Clients

variable {d : Deps} (c : Clients d) (id : UUID)

/-- The tickets of a client. -/
def ticketsOf : List Ticket := c.tickets.rows.filter (·.tenantID == id)

/-- The rows of a client in the three tables. -/
def dossier : Dossier where
  tenants := c.tenants.rows.filter (·.id == id)
  tickets := c.ticketsOf id
  messages := c.messages.rows.filter fun m => (c.ticketsOf id).any (·.id == m.ticketID)

/-- The target of a call is neither the client nor one of its tickets. -/
structure Spares (s : Option Target) : Prop where
  client : s ≠ some (.client id)
  ticket : ∀ t ∈ c.ticketsOf id, s ≠ some (.ticket t.id)

end Clients

namespace Confinement

section clients

variable {d : Deps} {c c' : Clients d} {id : UUID}

theorem spares_none : c.Spares id none where
  client := Option.some_ne_none _ |>.symm
  ticket _ _ := Option.some_ne_none _ |>.symm

theorem dossier_tenants {tenants : TenantTable d}
    (h : tenants.rows.filter (·.id == id) = c.tenants.rows.filter (·.id == id)) :
    Clients.dossier { c with tenants := tenants } id = c.dossier id := by
  ext1
  · exact h
  · rfl
  · rfl

/-- Another client is rewritten. -/
theorem dossier_tenant {id' : UUID} {f : SuperAdmin.Tenant → SuperAdmin.Tenant}
    {hf : ∀ t, ((f t).id, d.citextLower (f t).email) = (t.id, d.citextLower t.email)} (h : id' ≠ id) :
    Clients.dossier { c with tenants := c.tenants.update (·.id == id') f hf } id = c.dossier id := by
  refine dossier_tenants (Table.filter_update hf (fun t => ?_) fun t _ ht => ?_)
  · rw [(Prod.mk.inj (hf t)).1]
  · rw [eq_of_beq ht]
    exact beq_eq_false_iff_ne.mpr h.symm

/-- A ticket of another client is rewritten. -/
theorem dossier_tickets {ticketID : UUID} {f : SuperAdmin.Ticket → SuperAdmin.Ticket}
    {hf : ∀ t, (f t).id = t.id} (htenant : ∀ t, (f t).tenantID = t.tenantID)
    (hspares : c.Spares id (some (.ticket ticketID))) :
    Clients.dossier { c with tickets := c.tickets.update (·.id == ticketID) f hf } id = c.dossier id := by
  have htickets : Clients.ticketsOf { c with tickets := c.tickets.update (·.id == ticketID) f hf } id =
      c.ticketsOf id := by
    refine Table.filter_update hf (fun t => by rw [htenant]) fun t ht hid => ?_
    refine Bool.eq_false_iff.mpr fun hticket => ?_
    exact hspares.ticket t (List.mem_filter.mpr ⟨ht, hid⟩) (by rw [eq_of_beq hticket])
  ext1
  · rfl
  · exact htickets
  · show c.messages.rows.filter _ = c.messages.rows.filter _
    rw [htickets]

/-- A message is added to another ticket. -/
theorem dossier_message {m : TicketMessage} {messages : MessageTable} (h : c.messages.insert? m = some messages)
    (hspares : c.Spares id (some (.ticket m.ticketID))) :
    Clients.dossier { c with messages := messages } id = c.dossier id := by
  ext1
  · rfl
  · rfl
  · refine Table.filter_insert? h (Bool.eq_false_iff.mpr fun hany => ?_)
    obtain ⟨t, ht, hticket⟩ := List.any_eq_true.mp hany
    exact hspares.ticket t ht (by rw [eq_of_beq hticket])

/-- Another client is deleted with its tickets and their messages. -/
theorem dossier_delete {id' : UUID} {rowID : UUID} {clock : Time} (h : id' ≠ id) :
    ((TenantsOp.delete id').exec d rowID clock c).2.dossier id = c.dossier id := by
  have hother : ∀ t ∈ c.tickets.rows, (t.tenantID == id) = true → (t.tenantID == id') = false := by
    intro t _ ht
    rw [eq_of_beq ht]
    exact beq_eq_false_iff_ne.mpr h.symm
  have htickets : ((TenantsOp.delete id').exec d rowID clock c).2.ticketsOf id = c.ticketsOf id :=
    Table.filter_delete hother
  ext1
  · refine Table.filter_delete fun t _ ht => ?_
    rw [eq_of_beq ht]
    exact beq_eq_false_iff_ne.mpr h.symm
  · exact htickets
  · show List.filter _ _ = List.filter _ _
    rw [htickets]
    refine Table.filter_delete fun m _ hm => Bool.eq_false_iff.mpr fun hgone => ?_
    -- a ticket of both clients
    obtain ⟨t, ht, hticket⟩ := List.any_eq_true.mp hm
    obtain ⟨t', ht', hticket'⟩ := List.any_eq_true.mp hgone
    obtain ⟨ht, hid⟩ := List.mem_filter.mp ht
    obtain ⟨ht', hid'⟩ := List.mem_filter.mp ht'
    have heq : t = t' := Table.eq_of_clash (fun _ _ => Eq.symm) ht ht'
      ((eq_of_beq hticket).trans (eq_of_beq hticket').symm)
    rw [← heq, hother t ht hid] at hid'
    cases hid'

/-- A query about clients leaves the rows of a client alone that it is not about. -/
theorem dossier_tenantsOp {rowID : UUID} {clock : Time} (op : TenantsOp)
    (hstored : c.tenants.rows.any (·.id == id)) (hspares : c.Spares id (Op.tenants op).changes) :
    (op.exec d rowID clock c).2.dossier id = c.dossier id := by
  cases op with
  | create t =>
      simp only [TenantsOp.exec]
      split
      · split
        · rfl
        · rename_i tenants hinsert
          refine dossier_tenants (Table.filter_insert? hinsert (Bool.eq_false_iff.mpr fun hid => ?_))
          obtain ⟨t', ht', hid'⟩ := List.any_eq_true.mp hstored
          exact (Table.insert?_eq_some hinsert).2 t' ht' (.inl ((eq_of_beq hid').trans (eq_of_beq hid).symm))
      · rfl
  | updateStatus id' status reason => exact dossier_tenant fun hid => hspares.client (by rw [hid]; rfl)
  | setActivationCode id' code expiresAt => exact dossier_tenant fun hid => hspares.client (by rw [hid]; rfl)
  | delete id' => exact dossier_delete fun hid => hspares.client (by rw [hid]; rfl)
  | _ => rfl

/-- A query about tickets leaves the rows of a client alone that it is not about. -/
theorem dossier_ticketsOp {hasUser : UUID → Bool} {rowID : UUID} {clock : Time} (op : TicketsOp)
    (hspares : c.Spares id (Op.tickets op).changes) :
    (op.exec d hasUser rowID clock c).2.dossier id = c.dossier id := by
  cases op with
  | list f => rfl
  | getByID ticketID => rfl
  | updateStatus ticketID status =>
      simp only [TicketsOp.exec]
      split
      · exact dossier_tickets (fun _ => rfl) hspares
      · rfl
  | updatePriority ticketID priority =>
      simp only [TicketsOp.exec]
      split
      · exact dossier_tickets (fun _ => rfl) hspares
      · rfl
  | assignTo ticketID assigneeID =>
      simp only [TicketsOp.exec]
      split
      · rfl
      · exact dossier_tickets (fun _ => rfl) hspares
  | addMessage m =>
      simp only [TicketsOp.exec]
      split
      · rfl
      · rename_i messages hinsert
        split
        · have hmessage := dossier_message hinsert hspares
          exact (dossier_tickets (c := { c with messages := messages })
            (f := fun t => { t with lastMessageAt := clock.timestamptz }) (fun _ => rfl)
            ⟨hspares.client, hspares.ticket⟩).trans hmessage
        · rfl

end clients

/-! ### One call -/

section exec

variable {d : Deps} {r : Draws} {w : World d} {op : Op} {id : UUID}

/-- The role and the status of a member. -/
def standing (w : World d) (id : UUID) : List (Role × UserStatus) :=
  (w.users.rows.filter (·.id == id)).map fun u => (u.role, u.status)

theorem exec_dossier (hstored : w.hasTenant id = true) (hspares : w.clients.Spares id op.changes) :
    (exec d r op w).2.clients.dossier id = w.clients.dossier id := by
  cases op with
  | tenants op => exact dossier_tenantsOp op hstored hspares
  | tickets op => exact dossier_ticketsOp op hspares
  | audit e =>
      show (w.writeAudit e).2.clients.dossier id = _
      rw [World.writeAudit_clients]
  | _ => rfl

theorem exec_stored (hstored : w.hasTenant id = true) (hop : op.changes ≠ some (.client id)) :
    (exec d r op w).2.hasTenant id = true := by
  by_cases htenants : ∃ top, op = .tenants top
  · obtain ⟨top, rfl⟩ := htenants
    cases top with
    | create t =>
        show (TenantsOp.exec d (r.uuid .row) w.clock (.create t) w.clients).2.tenants.rows.any _ = true
        simp only [TenantsOp.exec]
        split
        · split
          · exact hstored
          · rename_i tenants hinsert
            rw [(Table.insert?_eq_some hinsert).1, List.any_append, Bool.or_eq_true]
            exact .inl hstored
        · exact hstored
    | updateStatus id' status reason => exact (any_update (fun _ => by rfl) fun _ => by rfl).trans hstored
    | setActivationCode id' code expiresAt => exact (any_update (fun _ => by rfl) fun _ => by rfl).trans hstored
    | delete id' =>
        obtain ⟨t, ht, hid⟩ := List.any_eq_true.mp hstored
        refine List.any_eq_true.mpr ⟨t, List.mem_filter.mpr ⟨ht, ?_⟩, hid⟩
        have hne : (t.id == id') = false := beq_eq_false_iff_ne.mpr fun h => hop (by rw [← h, eq_of_beq hid]; rfl)
        exact congrArg not hne
    | _ => exact hstored
  · unfold World.hasTenant
    rw [Tenants.exec_tenants fun top h => htenants ⟨top, h⟩]
    exact hstored

theorem exec_standing (hop : op.changes ≠ some (.member id)) :
    standing (exec d r op w).2 id = standing w id := by
  by_cases husers : ∃ uop, op = .users uop
  · obtain ⟨uop, rfl⟩ := husers
    obtain ⟨g, hrows, hmakes⟩ := UsersOp.rows_exec uop w.users
    have hids : ((·.id == id) ∘ g : SuperAdminUser → Bool) = (·.id == id) :=
      funext fun v => congrArg (· == id) (hmakes v).id_eq
    show ((uop.exec d w.users).2.rows.filter _).map _ = _
    rw [hrows, List.filter_map, hids, List.map_map]
    have hsame : ∀ v u : SuperAdminUser, v.id = id → UsersOp.Makes v uop u →
        (u.role, u.status) = (v.role, v.status) := by
      intro v u hid hmade
      cases hmade with
      | role role _ => exact absurd (by rw [hid]; rfl) hop
      | status status => exact absurd (by rw [hid]; rfl) hop
      | _ => rfl
    exact List.map_congr_left fun v hv => hsame v (g v) (eq_of_beq (List.mem_filter.mp hv).2) (hmakes v)
  · unfold standing
    rw [exec_users r op w fun uop h => husers ⟨uop, h⟩]

end exec

/-! ### Runs -/

variable {d : Deps} {web : Web} {ι : Type} [DecidableEq ι] {draws : ι → Draws} {requests : ι → Request}
  {w : World d} {P : Pool Eff (Recorded Eff (World d) ι) ι Response}

/-- **Requests change what they name.** However the calls of any requests interleave, what the console keeps
of a client is what it was unless a request names the client or one of its tickets, and the role and the
status of a member are what they were unless a request names the member. -/
theorem unnamed_unchanged
    (hr : Pool.Run (record fun i => exec d (draws i)) (recordEnv Ticks) (fun _ _ _ => True)
      (Mediation.serverPool d web requests w) P) :
    (∀ id, w.hasTenant id = true → (∀ i, w.clients.Spares id ((requests i).names d)) →
      P.state.now.clients.dossier id = w.clients.dossier id) ∧
    ∀ id, (∀ i, (requests i).names d ≠ some (.member id)) → standing P.state.now id = standing w id := by
  have hwithin := Repertoire.run_within hr
  constructor
  · intro id hstored hspares
    refine (Pool.Run.invariant (I := fun s : Recorded Eff (World d) ι =>
      s.now.hasTenant id = true ∧ s.now.clients.dossier id = w.clients.dossier id) ?_ ?_ hwithin ⟨hstored, rfl⟩).2
    · rintro i op s ⟨-, hop⟩ ⟨hstored', hsame⟩
      have htickets : s.now.clients.ticketsOf id = w.clients.ticketsOf id := congrArg Dossier.tickets hsame
      have hspares' : s.now.clients.Spares id op.changes := by
        rcases hop with h | h
        · rw [h]
          exact spares_none
        · rw [h]
          exact ⟨(hspares i).client, htickets ▸ (hspares i).ticket⟩
      exact ⟨exec_stored hstored' hspares'.client, (exec_dossier hstored' hspares').trans hsame⟩
    · rintro s s' ⟨⟨t, -, hnow⟩, -⟩ hs
      rw [hnow]
      exact hs
  · intro id hnames
    refine Pool.Run.invariant (I := fun s : Recorded Eff (World d) ι => standing s.now id = standing w id)
      ?_ ?_ hwithin rfl
    · rintro i op s ⟨-, hop⟩ hsame
      refine (exec_standing fun h => ?_).trans hsame
      rcases hop with h' | h'
      · rw [h] at h'
        cases h'
      · exact hnames i (h'.symm.trans h)
    · rintro s s' ⟨⟨t, -, hnow⟩, -⟩ hs
      rw [hnow]
      exact hs

/-! ### The owner suspends one of two clients -/

def twoClients : World Mediation.desk :=
  { Mediation.deskWorld with
    clients.tenants :=
      ⟨[Sample.onTrial 1 "first@example.com" 5, Sample.onTrial 2 "second@example.com" 9], by decide⟩ }

def suspendRequest : Request where
  route := .tenantSuspend
  id := UUID.string 1
  body := some (.obj [("reason", .str "не оплачено")])
  authorization := "Bearer owner-token"
  ip := Sample.context.ip
  userAgent := Sample.context.userAgent

/-- The request has made its first `n` calls. -/
def suspending (n : ℕ) : Pool Eff (Recorded Eff (World Mediation.desk) (Fin 1)) (Fin 1) Response :=
  (Mediation.serverPool Mediation.desk ⟨fun _ => true⟩ (fun _ : Fin 1 => suspendRequest) twoClients).play
    (record fun _ => exec Mediation.desk (Sample.draws 0)) (List.replicate n 0)

/-- The other client and the members of the team are as they were. -/
theorem unnamed_unchanged_suspend :
    (suspending 4).state.now.clients.dossier 1 ≠ twoClients.clients.dossier 1 ∧
    (suspending 4).state.now.clients.dossier 2 = twoClients.clients.dossier 2 ∧
    standing (suspending 4).state.now Sample.support.id = standing twoClients Sample.support.id := by
  have hnames : suspendRequest.names Mediation.desk = some (.client 1) := by decide
  obtain ⟨hclients, hmembers⟩ := unnamed_unchanged (Pool.play_run (List.replicate 4 0)
    (Mediation.serverPool Mediation.desk ⟨fun _ => true⟩ (fun _ : Fin 1 => suspendRequest) twoClients))
  refine ⟨by decide, hclients 2 (by decide) fun _ => ⟨?_, fun t ht => ?_⟩, hmembers _ fun _ => ?_⟩
  · rw [hnames]
    decide
  · cases ht
  · rw [hnames]
    decide

end Confinement

end SuperAdmin
