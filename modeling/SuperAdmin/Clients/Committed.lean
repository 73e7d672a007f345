import SuperAdmin.Access.Passing
import SuperAdmin.Audit.Completeness
import SuperAdmin.Clients.OpenTickets

/-! # Ticket changes that are answered by an error

The four requests that change a ticket run in no transaction, and any of their repository calls may fail
without effect.  A reply is answered with what was just written, so an error means that nothing was.  The
other three read the users and the clients after the change to build their answer: where one of these reads
fails, the answer is an error about a change that stays. -/

namespace SuperAdmin.Committed

open Effects Http

variable {d : Deps}

/-! ### Calls that fail -/

/-- The repository calls of the four requests.  A request makes each of them at most once. -/
inductive Site where
  | isRevoked
  | getTicket
  | getUser
  | addMessage
  | assignTo
  | updateStatus
  | updatePriority
  | getTenant
  | write
  | listUsers
  | listTenants
deriving DecidableEq

variable (fails : Site → Option Error)

/-- The answer to a call that fails. -/
def refused : (op : Op) → Option op.Res
  | .revoker (.isRevoked _) => (fails .isRevoked).map .error
  | .tickets (.getByID _) => (fails .getTicket).map .error
  | .users (.getByID _) => (fails .getUser).map .error
  | .tickets (.addMessage _) => (fails .addMessage).map .error
  | .tickets (.assignTo _ _) => (fails .assignTo).map .error
  | .tickets (.updateStatus _ _) => (fails .updateStatus).map .error
  | .tickets (.updatePriority _ _) => (fails .updatePriority).map .error
  | .tenants (.getByID _) => (fails .getTenant).map .error
  | .audit _ => (fails .write).map .error
  | .users .list => (fails .listUsers).map .error
  | .tenants .list => (fails .listTenants).map .error
  | _ => none

/-- The tables, with the column `updated_at` of `support_tickets`. -/
structure Stamped (d : Deps) where
  world : World d
  updatedAt : UUID → Time

/-- The ticket whose `updated_at` the triggers set. -/
def touched : (op : Op) → op.Res → Option UUID
  | .tickets (.assignTo id _), .ok _ => some id
  | .tickets (.updateStatus id _), .ok _ => some id
  | .tickets (.updatePriority id _), .ok _ => some id
  | .tickets (.addMessage m), .ok _ => some m.ticketID
  | _, _ => none

/-- The column after a call. -/
def Stamped.stamp (s : Stamped d) : Option UUID → UUID → Time
  | some id => Function.update s.updatedAt id s.world.clock.timestamptz
  | none => s.updatedAt

/-- The ports, of which some calls fail without effect. -/
def faulty (d : Deps) (r : Draws) : Handler Eff (Stamped d) := fun op s =>
  match refused fails op with
  | some res => (res, s)
  | none => ((exec d r op s.world).1,
      ⟨(exec d r op s.world).2, s.stamp (touched op (exec d r op s.world).1)⟩)

/-- The three tables are as they were. -/
structure SameTickets (s s' : Stamped d) : Prop where
  tickets : s'.world.clients.tickets = s.world.clients.tickets
  updatedAt : s'.updatedAt = s.updatedAt
  messages : s'.world.clients.messages = s.world.clients.messages
  audit : s'.world.audit = s.world.audit

theorem SameTickets.refl (s : Stamped d) : SameTickets s s := ⟨rfl, rfl, rfl, rfl⟩

section calls

variable {fails} (r : Draws) (s : Stamped d)

theorem faulty_refused (op : Op) {res : op.Res} (h : refused fails op = some res) :
    faulty fails d r op s = (res, s) := by
  unfold faulty
  rw [h]

theorem faulty_passed (op : Op) (h : refused fails op = none) : faulty fails d r op s =
    ((exec d r op s.world).1, ⟨(exec d r op s.world).2, s.stamp (touched op (exec d r op s.world).1)⟩) := by
  unfold faulty
  rw [h]

theorem touched_reads {op : Op} (h : op.reads = true) (res : op.Res) : touched op res = none := by
  cases op with
  | tickets op =>
      cases op with
      | list f => rfl
      | getByID id => rfl
      | _ => cases h
  | _ => rfl

theorem faulty_passed_reads (op : Op) (h : refused fails op = none) (hreads : op.reads = true) :
    faulty fails d r op s = ((exec d r op s.world).1, s) := by
  rw [faulty_passed r s op h, touched_reads hreads, exec_reads hreads]
  rfl

theorem faulty_reads (op : Op) (hreads : op.reads = true) : (faulty fails d r op s).2 = s := by
  cases h : refused fails op with
  | some res => rw [faulty_refused r s op h]
  | none => rw [faulty_passed_reads r s op h hreads]

/-- A call alone. -/
theorem run_faulty_op (op : Op) :
    Prog.run (α := no_index op.Res) (faulty fails d r) (perform op) s = faulty fails d r op s := rfl

/-- A program that only reads changes nothing, whatever fails. -/
theorem run_reads {α : Type} {p : Proc α} (hp : Reads p) : (p.run (faulty fails d r) s).2 = s :=
  Prog.Only.run (I := fun s' => s' = s) (fun _ _ hop hs => by rw [faulty_reads r _ _ hop, hs]) hp rfl

/-- A program that reads, and of which no call fails, runs as ever. -/
theorem run_unrefused {α : Type} {p : Proc α}
    (hp : p.Only fun op : Op => op.reads = true ∧ refused fails op = none) :
    p.run (faulty fails d r) s = ((p.run (exec d r) s.world).1, s) := by
  induction p with
  | pure a => rfl
  | call op k ih =>
      obtain ⟨⟨hreads, hrefused⟩, hk⟩ := hp
      rw [Prog.run_call, faulty_passed_reads r s op hrefused hreads, Prog.run_call, exec_reads hreads]
      exact ih _ (hk _)

end calls

/-! ### What follows the change of a ticket -/

section after

variable (r : Draws) (s : Stamped d) (actor : AccessClaims) (action : AuditAction) (rc : RequestContext)
  (extra : List (String × String))

/-- The entry of a change is written. -/
def Writes (fails : Site → Option Error) (s : Stamped d) (actor : AccessClaims) : Prop :=
  fails .write = none ∧ s.world.hasUser actor.userID = true

/-- A list that the answer needs is not read. -/
def ListFails (fails : Site → Option Error) : Prop := fails .listUsers ≠ none ∨ fails .listTenants ≠ none

theorem faulty_audit {e : AuditEntry} (he : e.actorID = some actor.userID) :
    ∃ audit, (faulty fails d r (.audit e) s).2 = ⟨{ s.world with audit := audit }, s.updatedAt⟩ ∧
      (audit = s.world.audit ↔ ¬ Writes fails s actor) := by
  cases hwrite : fails .write with
  | some err =>
      refine ⟨s.world.audit, ?_, iff_of_true rfl fun h => ?_⟩
      · rw [faulty_refused r s (.audit e) (congrArg (Option.map Except.error) hwrite)]
      · rw [h.1] at hwrite
        cases hwrite
  | none =>
      rw [faulty_passed r s (.audit e) (congrArg (Option.map Except.error) hwrite)]
      cases hactor : s.world.hasUser actor.userID with
      | false =>
          have hbarred : e.actorID.all s.world.hasUser = false := by rw [he, Option.all_some, hactor]
          refine ⟨s.world.audit, ?_, iff_of_true rfl fun h => ?_⟩
          · show (Stamped.mk (s.world.writeAudit e).2 s.updatedAt) = _
            rw [World.writeAudit, if_neg (Bool.eq_false_iff.mp hbarred)]
          · rw [h.2] at hactor
            cases hactor
      | true =>
          have hfree : e.actorID.all s.world.hasUser = true := by rw [he, Option.all_some, hactor]
          refine ⟨(s.world.writeAudit e).2.audit, ?_, iff_of_false ?_ fun h => h ⟨hwrite, hactor⟩⟩
          · show (Stamped.mk (s.world.writeAudit e).2 s.updatedAt) = _
            rw [World.writeAudit, if_pos hfree]
          · obtain ⟨entry, hentry⟩ := writeAudit_appends s.world hfree
            rw [hentry]
            exact fun h => absurd (congrArg List.length h) (by simp)

theorem writeAudit_run (ticket : SuperAdmin.Ticket) :
    ∃ audit, ((Usecase.Ticket.writeAudit actor action ticket rc extra).run (faulty fails d r) s).2 =
        ⟨{ s.world with audit := audit }, s.updatedAt⟩ ∧
      (audit = s.world.audit ↔ ¬ Writes fails s actor) := by
  unfold Usecase.Ticket.writeAudit SuperAdmin.writeAudit
  simp only [Prog.run_bind, run_faulty_op]
  rw [faulty_reads r s _ rfl, faulty_reads r s _ rfl]
  exact faulty_audit fails r s actor rfl

theorem changed_run (ticket : SuperAdmin.Ticket) :
    ((Handler.Ticket.changed (.ok ticket)).run (faulty fails d r) s).2 = s ∧
      (400 ≤ ((Handler.Ticket.changed (.ok ticket)).run (faulty fails d r) s).1.status ↔ ListFails fails) := by
  refine ⟨run_reads r s (Audit.reads_changed _), ?_⟩
  unfold Handler.Ticket.changed respond Handler.Ticket.buildLookups
  simp only [Prog.run_bind, run_faulty_op]
  cases husers : fails .listUsers with
  | some e =>
      rw [faulty_refused r s (.users .list) (congrArg (Option.map Except.error) husers)]
      exact iff_of_true (Response.error_status e) (.inl fun h => by rw [h] at husers; cases husers)
  | none =>
      rw [faulty_passed_reads r s (.users .list) (congrArg (Option.map Except.error) husers) rfl]
      simp only [exec, UsersOp.exec, Prog.run_bind, run_faulty_op]
      cases htenants : fails .listTenants with
      | some e =>
          rw [faulty_refused r s (.tenants .list) (congrArg (Option.map Except.error) htenants)]
          exact iff_of_true (Response.error_status e) (.inr fun h => by rw [h] at htenants; cases htenants)
      | none =>
          rw [faulty_passed_reads r s (.tenants .list) (congrArg (Option.map Except.error) htenants) rfl]
          refine iff_of_false (by decide : ¬ 400 ≤ 200) ?_
          rintro (h | h)
          · exact h husers
          · exact h htenants

/-- What a usecase does with the answer to its statement, and its handler with what it returns. -/
def finish (res : Except Error SuperAdmin.Ticket) : Proc Response :=
  match res with
  | .error e => Handler.Ticket.changed (.error e)
  | .ok ticket => do
      Usecase.Ticket.writeAudit actor action ticket rc extra
      Handler.Ticket.changed (.ok ticket)

/-- The table and the column after the row of a ticket is rewritten. -/
def rewritten (s : Stamped d) (id : UUID) (f : SuperAdmin.Ticket → SuperAdmin.Ticket)
    (hf : ∀ t, (f t).id = t.id) : Stamped d where
  world := { s.world with
    clients := { s.world.clients with tickets := s.world.clients.tickets.update (·.id == id) f hf } }
  updatedAt := Function.update s.updatedAt id s.world.clock.timestamptz

/-- How the statement of a request ends: it fails where something bars it, or rewrites the row. -/
inductive StatementEnd (s : Stamped d) (id : UUID) (f : SuperAdmin.Ticket → SuperAdmin.Ticket)
    (hf : ∀ t, (f t).id = t.id) (Bars : Prop) : Except Error SuperAdmin.Ticket × Stamped d → Prop
  | failed (e : Error) (h : s.world.clients.tickets.find? (·.id == id) = none ∨ Bars) :
      StatementEnd s id f hf Bars (.error e, s)
  | done (t : SuperAdmin.Ticket) (h : s.world.clients.tickets.find? (·.id == id) = some t) (hfree : ¬ Bars) :
      StatementEnd s id f hf Bars (.ok (f t), rewritten s id f hf)

/-- An error means that the three tables are as they were. -/
def Kept (s : Stamped d) (res : Response × Stamped d) : Prop :=
  400 ≤ res.1.status → SameTickets s res.2

theorem kept_of_same {res : Response × Stamped d} (h : res.2 = s) : Kept s res := fun _ => h ▸ .refl s

/-- A change of the ticket `t` leaves something other than it was. -/
def Changes (fails : Site → Option Error) (s : Stamped d) (actor : AccessClaims)
    (f : SuperAdmin.Ticket → SuperAdmin.Ticket) (t : SuperAdmin.Ticket) : Prop :=
  f t ≠ t ∨ s.updatedAt t.id ≠ s.world.clock.timestamptz ∨ Writes fails s actor

variable {s} {id : UUID} {f : SuperAdmin.Ticket → SuperAdmin.Ticket} {hf : ∀ t, (f t).id = t.id}
  {Bars : Prop} {res : Except Error SuperAdmin.Ticket × Stamped d}

theorem tickets_rewritten {t : SuperAdmin.Ticket}
    (h : s.world.clients.tickets.find? (·.id == id) = some t) :
    (rewritten s id f hf).world.clients.tickets = s.world.clients.tickets ↔ f t = t := by
  constructor
  · intro hsame
    have hfind := Table.find?_update (t := s.world.clients.tickets) (p := (·.id == id)) hf fun t => by
      rw [hf]
    have hrow : (rewritten s id f hf).world.clients.tickets.find? (·.id == id) = some (f t) := by
      rw [← Option.map_some, ← h]
      exact hfind
    rw [hsame, h] at hrow
    exact (Option.some.inj hrow).symm
  · intro hsame
    obtain ⟨hmem, hid⟩ := Table.mem_of_find? h
    ext1
    refine map_eq_self fun a ha => ?_
    by_cases haid : (a.id == id) = true
    · obtain rfl : a = t :=
        Table.eq_of_clash (fun _ _ => Eq.symm) ha hmem ((eq_of_beq haid).trans (eq_of_beq hid).symm)
      rw [if_pos haid, hsame]
    · rw [if_neg haid]

/-- After a change, the tables are as they were if it left nothing other than it was. -/
theorem sameTickets_iff {t : SuperAdmin.Ticket} (h : s.world.clients.tickets.find? (·.id == id) = some t)
    {audit : List AuditEntry} (haudit : audit = s.world.audit ↔ ¬ Writes fails s actor) :
    SameTickets s ⟨{ (rewritten s id f hf).world with audit := audit }, (rewritten s id f hf).updatedAt⟩ ↔
      ¬ Changes fails s actor f t := by
  have hid : t.id = id := eq_of_beq (Table.mem_of_find? h).2
  have hstamp : (rewritten s id f hf).updatedAt = s.updatedAt ↔
      s.updatedAt t.id = s.world.clock.timestamptz := by
    rw [hid, eq_comm (a := s.updatedAt id)]
    exact Function.update_eq_self_iff
  have hrow : (rewritten s id f hf).world.clients.tickets = s.world.clients.tickets ↔ f t = t :=
    tickets_rewritten h
  unfold Changes
  rw [not_or, not_or, not_not, not_not, ← hrow, ← hstamp, ← haudit]
  constructor
  · intro hsame
    exact ⟨hsame.tickets, hsame.updatedAt, hsame.audit⟩
  · rintro ⟨htickets, hupdated, haudit⟩
    exact ⟨htickets, hupdated, rfl, haudit⟩

/-- After the statement, an error about what has changed is an answer whose lists were not read. -/
theorem finish_kept_iff (h : StatementEnd s id f hf Bars res) :
    Kept s ((finish actor action rc extra res.1).run (faulty fails d r) res.2) ↔
      ¬ ((∃ t, s.world.clients.tickets.find? (·.id == id) = some t ∧ Changes fails s actor f t) ∧ ¬ Bars ∧
        ListFails fails) := by
  cases h with
  | failed e hbarred =>
      refine iff_of_true (kept_of_same s rfl) ?_
      rintro ⟨⟨t, ht, -⟩, hfree, -⟩
      rcases hbarred with hnone | hbars
      · rw [hnone] at ht
        cases ht
      · exact hfree hbars
  | done t ht hfree =>
      obtain ⟨audit, hafter, haudit⟩ := writeAudit_run fails r (rewritten s id f hf) actor action rc extra (f t)
      have hsame : SameTickets s ⟨{ (rewritten s id f hf).world with audit := audit }, _⟩ ↔ _ :=
        sameTickets_iff fails actor ht haudit
      obtain ⟨hstate, hstatus⟩ := changed_run fails r
        ⟨{ (rewritten s id f hf).world with audit := audit }, (rewritten s id f hf).updatedAt⟩ (f t)
      unfold finish
      dsimp only
      rw [Prog.run_bind, hafter]
      unfold Kept
      rw [hstate, hstatus, hsame]
      constructor
      · rintro hkept ⟨⟨t', ht', hchanges⟩, -, hlists⟩
        rw [ht] at ht'
        cases ht'
        exact hkept hlists hchanges
      · intro hlost hlists hchanges
        exact hlost ⟨⟨t, ht, hchanges⟩, hfree, hlists⟩

end after

/-! ### The statements -/

section statement

variable (r : Draws) (s : Stamped d) (id : UUID)

/-- `UPDATE support_tickets SET … WHERE id = $1 RETURNING *`. -/
theorem update_end (f : SuperAdmin.Ticket → SuperAdmin.Ticket) (hf : ∀ t, (f t).id = t.id) {Bars : Prop}
    (hfree : ∀ t ∈ s.world.clients.tickets.rows, t.id = id → ¬ Bars)
    (touches : Except Error SuperAdmin.Ticket → Option UUID) (hok : ∀ t, touches (.ok t) = some id)
    (herror : ∀ e, touches (.error e) = none) :
    StatementEnd s id f hf Bars
      (orNotFound ((rewritten s id f hf).world.clients.tickets.find? (·.id == id)),
        ⟨(rewritten s id f hf).world, s.stamp (touches (orNotFound
          ((rewritten s id f hf).world.clients.tickets.find? (·.id == id))))⟩) := by
  have hrow : (rewritten s id f hf).world.clients.tickets.find? (·.id == id) =
      (s.world.clients.tickets.find? (·.id == id)).map f :=
    Table.find?_update hf fun t => by rw [hf]
  rw [hrow]
  cases hfind : s.world.clients.tickets.find? (·.id == id) with
  | none =>
      have hsame : s.world.clients.tickets.update (·.id == id) f hf = s.world.clients.tickets :=
        Table.update_eq_self (Table.find?_eq_none.mp hfind)
      have hstate : (⟨(rewritten s id f hf).world, s.stamp none⟩ : Stamped d) = s := by
        unfold rewritten
        rw [hsame]
        rfl
      rw [Option.map_none, orNotFound_none, herror, hstate]
      exact .failed _ (.inl hfind)
  | some t =>
      rw [Option.map_some, orNotFound_some, hok]
      obtain ⟨hmem, hid⟩ := Table.mem_of_find? hfind
      exact .done t hfind (hfree t hmem (eq_of_beq hid))

theorem assignTo_end (actorID : UUID) :
    StatementEnd s id (fun t => { t with assigneeID := some actorID }) (fun _ => rfl)
      (fails .assignTo ≠ none ∨ s.world.hasUser actorID = false)
      (faulty fails d r (.tickets (.assignTo id (some actorID))) s) := by
  cases hfails : fails .assignTo with
  | some e =>
      rw [faulty_refused r s (.tickets (.assignTo id (some actorID)))
        (congrArg (Option.map Except.error) hfails)]
      exact .failed e (.inr (.inl (Option.some_ne_none e)))
  | none =>
      rw [faulty_passed r s (.tickets (.assignTo id (some actorID)))
        (congrArg (Option.map Except.error) hfails)]
      simp only [exec, TicketsOp.exec]
      split
      · rename_i hbarred
        have hactor : s.world.hasUser actorID = false := by simpa using (Bool.and_eq_true_iff.mp hbarred).2
        exact .failed _ (.inr (.inr hactor))
      · rename_i hfree
        refine update_end s id (fun t => { t with assigneeID := some actorID }) (fun _ => rfl) ?_
          (touched (.tickets (.assignTo id (some actorID)))) (fun _ => rfl) fun _ => rfl
        rintro t ht hid (h | h)
        · exact h rfl
        · have hstored : s.world.clients.tickets.rows.any (·.id == id) = true :=
            List.any_eq_true.mpr ⟨t, ht, beq_iff_eq.mpr hid⟩
          exact hfree (by simp [hstored, h])

theorem updateStatus_end {status : TicketStatus} (hvalid : status.valid = true) :
    StatementEnd s id (fun t => { t with status := status }) (fun _ => rfl) (fails .updateStatus ≠ none)
      (faulty fails d r (.tickets (.updateStatus id status)) s) := by
  cases hfails : fails .updateStatus with
  | some e =>
      rw [faulty_refused r s (.tickets (.updateStatus id status))
        (congrArg (Option.map Except.error) hfails)]
      exact .failed e (.inr (Option.some_ne_none e))
  | none =>
      rw [faulty_passed r s (.tickets (.updateStatus id status))
        (congrArg (Option.map Except.error) hfails)]
      simp only [exec, TicketsOp.exec, if_pos hvalid]
      exact update_end s id (fun t => { t with status := status }) (fun _ => rfl) (fun _ _ _ => not_not_intro rfl)
        (touched (.tickets (.updateStatus id status))) (fun _ => rfl) fun _ => rfl

theorem updatePriority_end {priority : TicketPriority} (hvalid : priority.valid = true) :
    StatementEnd s id (fun t => { t with priority := priority }) (fun _ => rfl) (fails .updatePriority ≠ none)
      (faulty fails d r (.tickets (.updatePriority id priority)) s) := by
  cases hfails : fails .updatePriority with
  | some e =>
      rw [faulty_refused r s (.tickets (.updatePriority id priority))
        (congrArg (Option.map Except.error) hfails)]
      exact .failed e (.inr (Option.some_ne_none e))
  | none =>
      rw [faulty_passed r s (.tickets (.updatePriority id priority))
        (congrArg (Option.map Except.error) hfails)]
      simp only [exec, TicketsOp.exec, if_pos hvalid]
      exact update_end s id (fun t => { t with priority := priority }) (fun _ => rfl)
        (fun _ _ _ => not_not_intro rfl) (touched (.tickets (.updatePriority id priority))) (fun _ => rfl)
        fun _ => rfl

end statement

/-! ### The middleware -/

section middleware

variable (r : Draws) (s : Stamped d) {req : Request}

/-- A request with some claims that its middleware passes, although calls fail. -/
structure Admitted (fails : Site → Option Error) (s : Stamped d) (req : Request) (res : Resource) (act : Action)
    (claims : AccessClaims) : Prop where
  passes : Middleware.Passes s.world req claims
  permitted : Middleware.require (Middleware.contextOf claims) res act = none
  checked : fails .isRevoked = none

/-- How the middleware of a route that asks for a permission ends. -/
inductive MiddlewareEnd (fails : Site → Option Error) (s : Stamped d) (req : Request) (res : Resource)
    (act : Action) : Except Response Context → Prop
  | refused (resp : Response) (h : ∀ claims, ¬ Admitted fails s req res act claims) :
      MiddlewareEnd fails s req res act (.error resp)
  | admitted (claims : AccessClaims) (h : Admitted fails s req res act claims) :
      MiddlewareEnd fails s req res act (.ok (Middleware.contextOf claims))

theorem Admitted.unique {res : Resource} {act : Action} {claims claims' : AccessClaims}
    (h : Admitted fails s req res act claims) (h' : Admitted fails s req res act claims') :
    claims' = claims := by
  obtain ⟨⟨raw, htoken, hparse⟩, -, -⟩ := h.passes
  obtain ⟨⟨raw', htoken', hparse'⟩, -, -⟩ := h'.passes
  rw [htoken] at htoken'
  cases htoken'
  rw [hparse] at hparse'
  exact (Except.ok.inj hparse').symm

/-- Where the revocation list does not answer, nobody passes. -/
theorem auth_unanswered (req : Request) {e : Error} (h : fails .isRevoked = some e) :
    ∃ resp, ((Middleware.auth req).run (faulty fails d r) s).1 = .error resp := by
  unfold Middleware.auth
  cases Middleware.bearerToken req.authorization with
  | none => exact ⟨_, rfl⟩
  | some raw =>
      dsimp only
      rw [Prog.run_bind, run_faulty_op]
      generalize faulty fails d r (.issuer (.parse raw)) s = parsed
      obtain ⟨e | claims, s'⟩ := parsed
      · exact ⟨_, rfl⟩
      · dsimp only
        rw [Prog.run_bind, run_faulty_op,
          faulty_refused r s' (.revoker (.isRevoked claims.tokenID)) (congrArg (Option.map Except.error) h)]
        exact ⟨_, rfl⟩

theorem middleware_end (req : Request) (res : Resource) (act : Action) :
    ((middleware req (.requires res act)).run (faulty fails d r) s).2 = s ∧
      MiddlewareEnd fails s req res act ((middleware req (.requires res act)).run (faulty fails d r) s).1 := by
  refine ⟨run_reads r s (middleware_only (fun _ => rfl) (fun _ => rfl) req _), ?_⟩
  cases hchecked : fails .isRevoked with
  | some e =>
      obtain ⟨resp, hresp⟩ := auth_unanswered fails r s req hchecked
      have hrun : ((middleware req (.requires res act)).run (faulty fails d r) s).1 = .error resp := by
        simp only [middleware, Prog.run_bind]
        generalize (Middleware.auth req).run (faulty fails d r) s = passed at hresp
        obtain ⟨passed, s'⟩ := passed
        cases hresp
        rfl
      rw [hrun]
      refine .refused resp fun claims h => ?_
      rw [h.checked] at hchecked
      cases hchecked
  | none =>
      have honly := middleware_only (C := fun op : Op => op.reads = true ∧ refused fails op = none)
        (fun _ => ⟨rfl, rfl⟩) (fun _ => ⟨rfl, congrArg (Option.map Except.error) hchecked⟩) req (.requires res act)
      rw [run_unrefused r s honly]
      dsimp only
      cases hrun : ((middleware req (.requires res act)).run (exec d r) s.world).1 with
      | error resp =>
          refine .refused resp fun claims h => ?_
          rw [h.passes.middleware r res act h.permitted] at hrun
          cases hrun
      | ok ctx =>
          obtain ⟨claims, rfl, hpasses, hpermitted⟩ := middleware_requires hrun
          exact .admitted claims ⟨hpasses, hpermitted, hchecked⟩

end middleware

/-! ### A reply -/

section reply

variable (r : Draws) (s : Stamped d) {req : Request}

theorem addMessage_error (m : TicketMessage) {e : Error} {s' : Stamped d}
    (h : faulty fails d r (.tickets (.addMessage m)) s = (.error e, s')) : s' = s := by
  cases hrefused : refused fails (.tickets (.addMessage m)) with
  | some res =>
      rw [faulty_refused r s _ hrefused] at h
      exact (congrArg Prod.snd h).symm
  | none =>
      rw [faulty_passed r s _ hrefused] at h
      have herror : (exec d r (.tickets (.addMessage m)) s.world).1 = .error e := congrArg Prod.fst h
      have hsame : (exec d r (.tickets (.addMessage m)) s.world).2 = s.world := by
        refine exec_failed r s.world ?_
        rw [herror]
        rfl
      rw [hsame, herror] at h
      exact (congrArg Prod.snd h).symm

/-- A reply that returns an error has written nothing: its message is what it writes first. -/
theorem reply_error (actor : AccessClaims) (id : UUID) (body : String) (rc : RequestContext) {e : Error}
    {s' : Stamped d}
    (h : (Usecase.Ticket.reply actor id body rc).run (faulty fails d r) s = (.error e, s')) : s' = s := by
  unfold Usecase.Ticket.reply at h
  by_cases hbody : body = ""
  · rw [if_pos hbody] at h
    exact (congrArg Prod.snd h).symm
  · rw [if_neg hbody, Prog.run_bind, run_faulty_op] at h
    have hgot : (faulty fails d r (.tickets (.getByID id)) s).2 = s := faulty_reads r s _ rfl
    generalize faulty fails d r (.tickets (.getByID id)) s = got at h hgot
    obtain ⟨e' | ⟨ticket, messages⟩, s₁⟩ := got
    · exact (congrArg Prod.snd h).symm.trans hgot
    · obtain rfl : s₁ = s := hgot
      dsimp only at h
      rw [Prog.run_bind, run_faulty_op, faulty_reads r s₁ (.users (.getByID actor.userID)) rfl,
        Prog.run_bind, run_faulty_op] at h
      generalize Usecase.Ticket.teamMessage actor id body _ = message at h
      cases hadded : faulty fails d r (.tickets (.addMessage message)) s₁ with
      | mk added s₂ =>
          rw [hadded] at h
          cases added with
          | error e' =>
              exact (congrArg Prod.snd h).symm.trans (addMessage_error fails r s₁ message hadded)
          | ok written =>
              rw [Prog.run_bind] at h
              cases congrArg Prod.fst h

theorem reply_kept (ctx : Context) :
    Kept s ((Handler.Ticket.reply d req ctx).run (faulty fails d r) s) := by
  unfold Handler.Ticket.reply withInput
  cases paramID d req Handler.Ticket.badID with
  | error resp => exact kept_of_same s rfl
  | ok id =>
      dsimp only
      cases bound (bindReply req) "text" "текст ответа обязателен" with
      | error resp => exact kept_of_same s rfl
      | ok text =>
          dsimp only
          cases claimsFrom ctx with
          | error resp => exact kept_of_same s rfl
          | ok claims =>
              dsimp only
              rw [Prog.run_bind]
              cases hreplied : (Usecase.Ticket.reply claims id text req.context).run (faulty fails d r) s with
              | mk res s' =>
                  cases res with
                  | error e => exact kept_of_same s (reply_error fails r s claims id text req.context hreplied)
                  | ok message => exact fun h => absurd h (by decide : ¬ 400 ≤ 201)

end reply

/-! ### The other three -/

/-- What one of the other three requests does to its ticket, and by which call. -/
structure Change where
  site : Site
  row : SuperAdmin.Ticket → SuperAdmin.Ticket

/-- The change that a request with a well-formed body asks for. -/
def changeOf (req : Request) (actor : AccessClaims) : Option Change :=
  match req.route with
  | .ticketAssign => some ⟨.assignTo, fun t => { t with assigneeID := some actor.userID }⟩
  | .ticketUpdateStatus => do
      let status ← bindStatus req
      if (TicketStatus.ofString status).valid then
        some ⟨.updateStatus, fun t => { t with status := .ofString status }⟩
      else none
  | .ticketUpdatePriority => do
      let priority ← bindPriority req
      if (TicketPriority.ofString priority).valid then
        some ⟨.updatePriority, fun t => { t with priority := .ofString priority }⟩
      else none
  | _ => none

/-- The statement of a change fails, or its foreign key bars it. -/
def Change.Barred (c : Change) (fails : Site → Option Error) (s : Stamped d) (actor : AccessClaims) : Prop :=
  fails c.site ≠ none ∨ c.site = .assignTo ∧ s.world.hasUser actor.userID = false

/-- A handler is called whose change of a stored ticket goes through and leaves something other than it was,
and one of the lists for its answer is not read. -/
structure Loses (fails : Site → Option Error) (s : Stamped d) (req : Request) (actor : AccessClaims) (c : Change)
    (t : SuperAdmin.Ticket) : Prop where
  change : changeOf req actor = some c
  ticket : ∃ id, d.issuer.uuidParse req.id = .ok id ∧ s.world.clients.tickets.find? (·.id == id) = some t
  free : ¬ c.Barred fails s actor
  changes : Changes fails s actor c.row t
  lists : ListFails fails

/-- An admitted request whose change is lost. -/
def Lost (fails : Site → Option Error) (s : Stamped d) (req : Request) : Prop :=
  ∃ actor c t, Admitted fails s req .supportTicket .update actor ∧ Loses fails s req actor c t

section changes

variable (r : Draws) (s : Stamped d) {req : Request} (actor : AccessClaims)

/-- A request that asks for no change. -/
theorem kept_iff_of_none {res : Response × Stamped d} (hres : res.2 = s)
    (h : changeOf req actor = none ∨ ∀ id, d.issuer.uuidParse req.id ≠ .ok id) :
    Kept s res ↔ ¬ ∃ c t, Loses fails s req actor c t := by
  refine iff_of_true (kept_of_same s hres) ?_
  rintro ⟨c, t, hloses⟩
  rcases h with hnone | hbad
  · rw [hloses.change] at hnone
    cases hnone
  · obtain ⟨id, hid, -⟩ := hloses.ticket
    exact hbad id hid

/-- A request that asks for a change, at its statement. -/
theorem kept_iff_of_end {c : Change} (hchange : changeOf req actor = some c) {id : UUID}
    (hid : d.issuer.uuidParse req.id = .ok id) {hf : ∀ t, (c.row t).id = t.id}
    {res : Except Error SuperAdmin.Ticket × Stamped d}
    (hend : StatementEnd s id c.row hf (c.Barred fails s actor) res) (action : AuditAction) (rc : RequestContext)
    (extra : List (String × String)) :
    Kept s ((finish actor action rc extra res.1).run (faulty fails d r) res.2) ↔
      ¬ ∃ c t, Loses fails s req actor c t := by
  rw [finish_kept_iff fails r actor action rc extra hend, not_iff_not]
  constructor
  · rintro ⟨⟨t, ht, hchanges⟩, hfree, hlists⟩
    exact ⟨c, t, hchange, ⟨id, hid, ht⟩, hfree, hchanges, hlists⟩
  · rintro ⟨c', t, hchange', ⟨id', hid', ht⟩, hfree, hchanges, hlists⟩
    rw [hchange] at hchange'
    cases hchange'
    rw [hid] at hid'
    cases hid'
    exact ⟨⟨t, ht, hchanges⟩, hfree, hlists⟩

theorem paramID_kept {k : UUID → Proc Response} (message : String)
    (hk : ∀ id, d.issuer.uuidParse req.id = .ok id →
      (Kept s ((k id).run (faulty fails d r) s) ↔ ¬ ∃ c t, Loses fails s req actor c t)) :
    Kept s ((withInput (paramID d req message) k).run (faulty fails d r) s) ↔
      ¬ ∃ c t, Loses fails s req actor c t := by
  unfold paramID
  cases hid : d.issuer.uuidParse req.id with
  | error e => exact kept_iff_of_none fails s actor rfl (.inr fun id h => by rw [hid] at h; cases h)
  | ok id => exact hk id hid

/-- A handler of a change runs its statement, and then what follows it. -/
theorem assignToSelf_finish (id : UUID) (rc : RequestContext) :
    (Usecase.Ticket.assignToSelf actor id rc >>= Handler.Ticket.changed).run (faulty fails d r) s =
      let res := faulty fails d r (.tickets (.assignTo id (some actor.userID))) s
      (finish actor .ticketAssigned rc [] res.1).run (faulty fails d r) res.2 := by
  unfold Usecase.Ticket.assignToSelf
  rw [Prog.run_bind, Prog.run_bind, run_faulty_op]
  generalize faulty fails d r (.tickets (.assignTo id (some actor.userID))) s = res
  obtain ⟨e | ticket, s'⟩ := res
  · rfl
  · simp only [finish, Prog.run_bind, Prog.pure_eq, Prog.run_pure]

theorem updateStatus_finish (id : UUID) {status : TicketStatus} (hvalid : status.valid = true)
    (rc : RequestContext) :
    (Usecase.Ticket.updateStatus actor id status rc >>= Handler.Ticket.changed).run (faulty fails d r) s =
      let res := faulty fails d r (.tickets (.updateStatus id status)) s
      (finish actor .ticketStatusChanged rc [("status", status.string)] res.1).run (faulty fails d r) res.2 := by
  unfold Usecase.Ticket.updateStatus
  rw [hvalid, Bool.not_true, if_neg Bool.false_ne_true, Prog.run_bind, Prog.run_bind, run_faulty_op]
  generalize faulty fails d r (.tickets (.updateStatus id status)) s = res
  obtain ⟨e | ticket, s'⟩ := res
  · rfl
  · simp only [finish, Prog.run_bind, Prog.pure_eq, Prog.run_pure]

theorem updatePriority_finish (id : UUID) {priority : TicketPriority} (hvalid : priority.valid = true)
    (rc : RequestContext) :
    (Usecase.Ticket.updatePriority actor id priority rc >>= Handler.Ticket.changed).run (faulty fails d r) s =
      let res := faulty fails d r (.tickets (.updatePriority id priority)) s
      (finish actor .ticketPriorityChanged rc [("priority", priority.string)] res.1).run (faulty fails d r)
        res.2 := by
  unfold Usecase.Ticket.updatePriority
  rw [hvalid, Bool.not_true, if_neg Bool.false_ne_true, Prog.run_bind, Prog.run_bind, run_faulty_op]
  generalize faulty fails d r (.tickets (.updatePriority id priority)) s = res
  obtain ⟨e | ticket, s'⟩ := res
  · rfl
  · simp only [finish, Prog.run_bind, Prog.pure_eq, Prog.run_pure]

theorem assign_kept_iff (hroute : req.route = .ticketAssign) :
    Kept s ((Handler.Ticket.assignToSelf d req (Middleware.contextOf actor)).run (faulty fails d r) s) ↔
      ¬ ∃ c t, Loses fails s req actor c t := by
  refine paramID_kept fails r s actor _ fun id hid => ?_
  have hchange : changeOf req actor = some ⟨.assignTo, fun t => { t with assigneeID := some actor.userID }⟩ := by
    unfold changeOf
    rw [hroute]
  have hend : StatementEnd s id (fun t => { t with assigneeID := some actor.userID }) (fun _ => rfl)
      (Change.Barred ⟨.assignTo, fun t => { t with assigneeID := some actor.userID }⟩ fails s actor)
      (faulty fails d r (.tickets (.assignTo id (some actor.userID))) s) := by
    simpa [Change.Barred] using assignTo_end fails r s id actor.userID
  show Kept s ((Usecase.Ticket.assignToSelf actor id req.context >>= Handler.Ticket.changed).run _ s) ↔ _
  rw [assignToSelf_finish]
  exact kept_iff_of_end fails r s actor hchange hid hend _ _ _

/-- A handler whose body names the new value of a column. -/
theorem updating_kept_iff {body : Option String} (field message : String) (valid : String → Bool)
    (c : String → Change) {usecase : String → Proc (Except Error SuperAdmin.Ticket)}
    (hchange : changeOf req actor = body.bind fun text => if valid text = true then some (c text) else none)
    (hinvalid : ∀ text, valid text = false → ∃ e, usecase text = pure (.error e))
    (hvalid : ∀ text, valid text = true → changeOf req actor = some (c text) →
      (Kept s ((usecase text >>= Handler.Ticket.changed).run (faulty fails d r) s) ↔
        ¬ ∃ c t, Loses fails s req actor c t)) :
    Kept s ((withInput (bound body field message) fun text =>
        withInput (claimsFrom (Middleware.contextOf actor)) fun _ =>
          usecase text >>= Handler.Ticket.changed).run (faulty fails d r) s) ↔
      ¬ ∃ c t, Loses fails s req actor c t := by
  cases body with
  | none => exact kept_iff_of_none fails s actor rfl (.inl hchange)
  | some text =>
      cases htext : valid text with
      | true => exact hvalid text htext (hchange.trans (if_pos htext))
      | false =>
          obtain ⟨e, he⟩ := hinvalid text htext
          refine kept_iff_of_none fails s actor ?_ (.inl (hchange.trans (if_neg (Bool.eq_false_iff.mp htext))))
          show (Prog.run (faulty fails d r) (usecase text >>= Handler.Ticket.changed) s).2 = s
          rw [he]
          rfl

theorem updateStatus_kept_iff (hroute : req.route = .ticketUpdateStatus) :
    Kept s ((Handler.Ticket.updateStatus d req (Middleware.contextOf actor)).run (faulty fails d r) s) ↔
      ¬ ∃ c t, Loses fails s req actor c t := by
  refine paramID_kept fails r s actor _ fun id hid => updating_kept_iff fails r s actor _ _
    (fun text => (TicketStatus.ofString text).valid)
    (fun text => ⟨.updateStatus, fun t => { t with status := .ofString text }⟩) ?_ ?_ ?_
  · unfold changeOf
    rw [hroute]
    rfl
  · intro text hinvalid
    unfold Usecase.Ticket.updateStatus
    rw [hinvalid, Bool.not_false, if_pos rfl]
    exact ⟨_, rfl⟩
  · intro text hvalid hchange
    have hend : StatementEnd s id (fun t => { t with status := .ofString text }) (fun _ => rfl)
        (Change.Barred ⟨.updateStatus, fun t => { t with status := .ofString text }⟩ fails s actor)
        (faulty fails d r (.tickets (.updateStatus id (.ofString text))) s) := by
      simpa [Change.Barred] using updateStatus_end fails r s id hvalid
    rw [updateStatus_finish fails r s actor id hvalid req.context]
    exact kept_iff_of_end fails r s actor hchange hid hend _ _ _

theorem updatePriority_kept_iff (hroute : req.route = .ticketUpdatePriority) :
    Kept s ((Handler.Ticket.updatePriority d req (Middleware.contextOf actor)).run (faulty fails d r) s) ↔
      ¬ ∃ c t, Loses fails s req actor c t := by
  refine paramID_kept fails r s actor _ fun id hid => updating_kept_iff fails r s actor _ _
    (fun text => (TicketPriority.ofString text).valid)
    (fun text => ⟨.updatePriority, fun t => { t with priority := .ofString text }⟩) ?_ ?_ ?_
  · unfold changeOf
    rw [hroute]
    rfl
  · intro text hinvalid
    unfold Usecase.Ticket.updatePriority
    rw [hinvalid, Bool.not_false, if_pos rfl]
    exact ⟨_, rfl⟩
  · intro text hvalid hchange
    have hend : StatementEnd s id (fun t => { t with priority := .ofString text }) (fun _ => rfl)
        (Change.Barred ⟨.updatePriority, fun t => { t with priority := .ofString text }⟩ fails s actor)
        (faulty fails d r (.tickets (.updatePriority id (.ofString text))) s) := by
      simpa [Change.Barred] using updatePriority_end fails r s id hvalid
    rw [updatePriority_finish fails r s actor id hvalid req.context]
    exact kept_iff_of_end fails r s actor hchange hid hend _ _ _

end changes

/-! ### The requests -/

section requests

variable (r : Draws) (s : Stamped d) (web : Web) (req : Request)

/-- A refused request changes nothing, and an admitted one is handled where it came. -/
theorem serve_kept_iff {res : Resource} {act : Action} (haccess : req.route.access = .requires res act)
    {P : AccessClaims → Prop}
    (hhandle : ∀ claims, Kept s ((handle d web req (Middleware.contextOf claims)).run (faulty fails d r) s) ↔
      ¬ P claims) :
    Kept s ((serve d web req).run (faulty fails d r) s) ↔
      ¬ ∃ claims, Admitted fails s req res act claims ∧ P claims := by
  obtain ⟨hstate, hend⟩ := middleware_end fails r s req res act
  unfold serve
  rw [Prog.run_bind, haccess, hstate]
  generalize ((middleware req (.requires res act)).run (faulty fails d r) s).1 = passed at hend
  cases hend with
  | refused resp hnobody =>
      refine iff_of_true (kept_of_same s rfl) ?_
      rintro ⟨claims, hadmitted, -⟩
      exact hnobody claims hadmitted
  | admitted claims hadmitted =>
      dsimp only
      rw [hhandle, not_iff_not]
      constructor
      · exact fun h => ⟨claims, hadmitted, h⟩
      · rintro ⟨claims', hadmitted', h⟩
        rwa [hadmitted.unique fails s hadmitted'] at h

/-- The requests that change a ticket. -/
def changing : List Route := [.ticketReply, .ticketAssign, .ticketUpdateStatus, .ticketUpdatePriority]

/-- An error is about nothing that was changed, unless a change was lost. -/
theorem kept_iff_not_lost (hroute : req.route ∈ changing) :
    Kept s ((serve d web req).run (faulty fails d r) s) ↔ ¬ Lost fails s req := by
  have hlost : Lost fails s req ↔ ∃ actor, Admitted fails s req .supportTicket .update actor ∧
      ∃ c t, Loses fails s req actor c t := by
    simp only [Lost, exists_and_left]
  simp only [changing, List.mem_cons, List.not_mem_nil, or_false] at hroute
  rcases hroute with hroute | hroute | hroute | hroute
  · have haccess : req.route.access = .requires .supportTicket .create := by rw [hroute]; rfl
    have hnone : ¬ Lost fails s req := by
      rintro ⟨actor, c, t, -, hloses⟩
      have hchange := hloses.change
      unfold changeOf at hchange
      rw [hroute] at hchange
      cases hchange
    refine iff_of_true ?_ hnone
    refine (serve_kept_iff fails r s web req haccess (P := fun _ => False) fun claims => ?_).mpr fun ⟨_, _, h⟩ => h
    unfold handle
    rw [hroute]
    exact iff_of_true (reply_kept fails r s _) not_false
  · rw [hlost]
    refine serve_kept_iff fails r s web req (by rw [hroute]; rfl) fun claims => ?_
    unfold handle
    simp only [hroute]
    exact assign_kept_iff fails r s claims hroute
  · rw [hlost]
    refine serve_kept_iff fails r s web req (by rw [hroute]; rfl) fun claims => ?_
    unfold handle
    simp only [hroute]
    exact updateStatus_kept_iff fails r s claims hroute
  · rw [hlost]
    refine serve_kept_iff fails r s web req (by rw [hroute]; rfl) fun claims => ?_
    unfold handle
    simp only [hroute]
    exact updatePriority_kept_iff fails r s claims hroute

end requests

/-! ### An assignment with failing reads -/

/-- The owner of the sample deployment takes an open ticket. -/
def assignment : Request := { Sample.request .ticketAssign Sample.firstClaims with id := UUID.string 1 }

def oneTicket : Stamped Sample.deps where
  world := OpenTickets.withTickets ⟨[OpenTickets.ticket 1 .opened none], by decide⟩
  updatedAt _ := Sample.start

def noneFails : Site → Option Error := fun _ => none

/-- The users cannot be listed. -/
def listFails : Site → Option Error
  | .listUsers => some (.foreign "connection reset")
  | _ => none

theorem kept_assignment : Kept oneTicket
    ((serve Sample.deps ⟨fun _ => true⟩ assignment).run
      (faulty noneFails Sample.deps (Sample.draws 0)) oneTicket) := by
  refine (kept_iff_not_lost (d := Sample.deps) noneFails (Sample.draws 0) oneTicket _ assignment
    (by decide)).mpr ?_
  rintro ⟨actor, c, t, -, hloses⟩
  rcases hloses.lists with h | h
  · exact h rfl
  · exact h rfl

theorem admitted_assignment : Admitted listFails oneTicket assignment .supportTicket .update
    (Issuer.parsed Sample.firstClaims) where
  passes := by
    have h := Sample.passes_request (w := oneTicket.world) .ticketAssign (c := Sample.firstClaims)
      (by decide) (by decide) (by decide) (by decide)
    exact ⟨h.token, h.up, h.unlisted⟩
  permitted := by decide
  checked := rfl

/-- The ticket is assigned, and the answer is an error. -/
theorem assignment_lost : ¬ ∀ (d : Deps) (web : Web) (fails : Site → Option Error) (r : Draws) (s : Stamped d)
    (req : Request), req.route ∈ changing → Kept s ((serve d web req).run (faulty fails d r) s) := by
  intro hclaim
  have hkept := hclaim Sample.deps ⟨fun _ => true⟩ listFails (Sample.draws 0) oneTicket assignment (by decide)
  have hiff := serve_kept_iff (d := Sample.deps) listFails (Sample.draws 0) oneTicket ⟨fun _ => true⟩
    assignment rfl fun claims => assign_kept_iff listFails (Sample.draws 0) oneTicket claims rfl
  refine hiff.mp hkept ⟨_, admitted_assignment, _, _, rfl, ⟨1, Sample.readsBackUUIDs 1, rfl⟩, ?_, ?_, ?_⟩
  · rintro (h | ⟨-, h⟩)
    · exact h rfl
    · revert h
      decide
  · refine .inl fun h => ?_
    cases congrArg SuperAdmin.Ticket.assigneeID h
  · exact .inl (Option.some_ne_none _)

end SuperAdmin.Committed
