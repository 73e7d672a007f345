import SuperAdmin.Audit.Completeness
import SuperAdmin.Access.Mediation

/-! # What the server can call

Of the values that the ports take, the server passes some only: nobody is made active again and nobody is
made an owner, a client is suspended for a reason and resumed without one, and tickets get the statuses and
the priorities that exist.  A request that changes a client, a ticket or a member of the team has its id in
the path, and no other row of theirs is changed; sign-in, renewal and sign-out alone touch the sessions. -/

namespace SuperAdmin

open Effects Usecase Http

/-- The calls that the server may make for some request. -/
def Op.regular : Op → Bool
  | .users (.updateStatus _ status) => status == .suspended
  | .users (.updateRole _ role) => Team.invitableRoles role
  | .tokens top => top.keepsRows
  | .tenants (.updateStatus _ status reason) =>
      (status == .paused && reason.any (· != "")) || (status == .active && reason.isNone)
  | .tenants (.create t) => t.plan.valid
  | .tickets (.updateStatus _ status) => status.valid
  | .tickets (.updatePriority _ priority) => priority.valid
  | .tickets (.assignTo _ assigneeID) => assigneeID.isSome
  | .invites (.create inv) => Team.invitableRoles inv.role
  | _ => true

/-- What a request is there to change: what stands in its path, or the sessions and the counters of failed
logins. -/
inductive Target where
  | client (id : UUID)
  | ticket (id : UUID)
  | member (id : UUID)
  | sessions
deriving DecidableEq

/-- What a call changes of them. -/
def Op.changes : Op → Option Target
  | .tenants (.updateStatus id _ _) | .tenants (.setActivationCode id _ _) | .tenants (.delete id) =>
      some (.client id)
  | .tickets (.updateStatus id _) | .tickets (.updatePriority id _) | .tickets (.assignTo id _) => some (.ticket id)
  | .tickets (.addMessage m) => some (.ticket m.ticketID)
  | .users (.updateRole id _) | .users (.updateStatus id _) | .tokens (.revokeAllForUser id _ _) => some (.member id)
  | .users (.registerFailedLogin _ _) | .users (.registerSuccessfulLogin _ _) => some .sessions
  | .tokens (.create _) | .tokens (.markUsed _ _ _) | .tokens (.revokeSession _ _ _) => some .sessions
  | .tokens (.deleteExpired _) | .revoker (.revoke _ _) => some .sessions
  | _ => none

/-- What the id in the path is the id of, on the routes that change something. -/
def Http.Route.target : Route → Option (UUID → Target)
  | .tenantSuspend | .tenantResume | .tenantIssueCode | .tenantDelete => some .client
  | .ticketReply | .ticketAssign | .ticketUpdateStatus | .ticketUpdatePriority => some .ticket
  | .teamUpdateRole | .teamRevoke => some .member
  | _ => none

/-- What a request that changes something names. -/
def Http.Request.names (d : Deps) (req : Request) : Option Target :=
  match req.route.target with
  | some f => (d.issuer.uuidParse req.id).toOption.map f
  | none => if req.route = .login ∨ req.route = .refresh ∨ req.route = .logout then some .sessions else none

/-- A call of the repertoire that changes nothing but its target. -/
def Op.within (s : Option Target) (op : Op) : Prop := op.regular = true ∧ (op.changes = none ∨ op.changes = s)

/-- The calls of sign-in, renewal and sign-out. -/
def Op.signsIn : Op → Bool
  | .now | .newUUID _ | .randRead _ | .issuer (.issue _) | .revoker (.revoke _ _) => true
  | .users (.getByID _) | .users (.getByEmail _) => true
  | .users (.registerFailedLogin _ _) | .users (.registerSuccessfulLogin _ _) => true
  | .tokens (.getByHash _) | .tokens (.create _) => true
  | .tokens (.markUsed _ _ _) | .tokens (.revokeSession _ _ _) => true
  | .audit e => decide (e.action ∈ signInActions.map AuditAction.string)
  | _ => false

/-- The actions of the entries about tickets. -/
def ticketActions : List AuditAction :=
  [.ticketReplied, .ticketAssigned, .ticketStatusChanged, .ticketPriorityChanged]

/-- The calls that answer and change one ticket. -/
def Op.onTickets (id : UUID) : Op → Bool
  | .now | .users (.getByID _) | .tenants (.getByID _) => true
  | .tickets (.getByID _) => true
  | .tickets (.addMessage m) => m.ticketID == id
  | .tickets (.updateStatus ticketID status) => ticketID == id && status.valid
  | .tickets (.updatePriority ticketID priority) => ticketID == id && priority.valid
  | .tickets (.assignTo ticketID assigneeID) => ticketID == id && assigneeID.isSome
  | .audit e => decide (e.action ∈ ticketActions.map AuditAction.string)
  | _ => false

theorem Op.within_of_signsIn {op : Op} (h : op.signsIn = true) : op.within (some .sessions) := by
  unfold Op.signsIn at h
  split at h <;> first | exact ⟨rfl, .inl rfl⟩ | exact ⟨rfl, .inr rfl⟩ | cases h

theorem Op.within_of_onTickets {id : UUID} {op : Op} (h : op.onTickets id = true) :
    op.within (some (.ticket id)) := by
  unfold Op.onTickets at h
  split at h
  · exact ⟨rfl, .inl rfl⟩
  · exact ⟨rfl, .inl rfl⟩
  · exact ⟨rfl, .inl rfl⟩
  · exact ⟨rfl, .inl rfl⟩
  · exact ⟨rfl, .inr (congrArg (some ∘ Target.ticket) (eq_of_beq h))⟩
  all_goals first
    | (obtain ⟨hid, hvalue⟩ := Bool.and_eq_true_iff.mp h
       exact ⟨hvalue, .inr (congrArg (some ∘ Target.ticket) (eq_of_beq hid))⟩)
    | exact ⟨rfl, .inl rfl⟩
    | cases h

theorem Op.within_of_reads {s : Option Target} {op : Op} (h : op.reads = true) : op.within s := by
  cases op with
  | users op => cases op <;> first | exact ⟨rfl, .inl rfl⟩ | cases h
  | tokens op => cases op <;> first | exact ⟨rfl, .inl rfl⟩ | cases h
  | invites op => cases op <;> first | exact ⟨rfl, .inl rfl⟩ | cases h
  | tenants op => cases op <;> first | exact ⟨rfl, .inl rfl⟩ | cases h
  | tickets op => cases op <;> first | exact ⟨rfl, .inl rfl⟩ | cases h
  | revoker op => cases op <;> first | exact ⟨rfl, .inl rfl⟩ | cases h
  | _ => exact ⟨rfl, .inl rfl⟩

namespace Repertoire

variable {d : Deps} (rc : RequestContext)

/-- The programs that make calls of the repertoire and change no other row. -/
abbrev Within (s : Option Target) {α : Type} (p : Proc α) : Prop := p.Only fun op : Op => op.within s

/-! ### Sessions -/

/-- The programs of sign-in, renewal and sign-out. -/
abbrev SignsIn {α : Type} (p : Proc α) : Prop := p.Only fun op : Op => op.signsIn = true

theorem signsIn_writeAudit {e : AuditEntry} {a : AuditAction} (haction : e.action = a.string)
    (ha : a ∈ signInActions) : SignsIn (writeAudit e) :=
  .step (decide_eq_true (List.mem_map.mpr ⟨a, ha, haction.symm⟩)) fun _ => trivial

theorem signsIn_issuePairWithID (user : SuperAdminUser) (sessionID : UUID) (now : Time) :
    SignsIn (Auth.issuePairWithID d user sessionID rc now) := by
  refine (Auth.issues_issuePairWithID d user rc now sessionID).mono fun op hop => ?_
  unfold Op.issues at hop
  split at hop <;> first | rfl | cases hop

theorem signsIn_loginUser (user : SuperAdminUser) (now : Time) : SignsIn (Auth.loginUser d user rc now) := by
  unfold Auth.loginUser
  split
  · exact .bind (signsIn_writeAudit (a := .loginFailure) rfl (by decide)) fun _ => trivial
  · refine .step rfl fun res => ?_
    cases res with
    | error e => trivial
    | ok _ =>
        refine .step rfl fun sessionID => .bind (.bind (signsIn_issuePairWithID rc user sessionID now)
          fun res => ?_) fun res => ?_
        · cases res <;> trivial
        · cases res with
          | error e => trivial
          | ok pair => exact .bind (signsIn_writeAudit (a := .loginSuccess) rfl (by decide)) fun _ => trivial

theorem signsIn_login (creds : Credentials) : SignsIn (Auth.login d creds rc) := by
  refine .step rfl fun now => .bind ?_ fun res => ?_
  · refine .step rfl fun res => ?_
    cases res with
    | error e =>
        dsimp only
        split <;> trivial
    | ok user =>
        dsimp only
        split
        · trivial
        · split <;> trivial
  · cases res with
    | ok user => exact signsIn_loginUser rc user now
    | error ue =>
        dsimp only
        split
        · have hregister : SignsIn (Auth.registerFailureOf d ue.1 now) := by
            cases ue.1 with
            | none => trivial
            | some user => exact .perform rfl
          refine .bind hregister fun res => ?_
          cases res with
          | error e => trivial
          | ok _ => exact .bind (signsIn_writeAudit (a := .loginFailure) rfl (by decide)) fun _ => trivial
        · trivial

theorem signsIn_refresh (raw : String) : SignsIn (Auth.refresh d raw rc) := by
  refine .step rfl fun now => .step rfl fun res => ?_
  cases res with
  | error e => trivial
  | ok stored =>
      dsimp only
      split
      · refine .step rfl fun res => ?_
        cases res with
        | error e => trivial
        | ok _ => exact .bind (signsIn_writeAudit (a := .tokenReuse) rfl (by decide)) fun _ => trivial
      · split
        · trivial
        · refine .step rfl fun res => ?_
          cases res with
          | error e => trivial
          | ok user =>
              dsimp only
              split
              · refine .step rfl fun res => ?_
                cases res <;> trivial
              · refine .bind (signsIn_issuePairWithID rc user _ now) fun res => ?_
                cases res with
                | error e => trivial
                | ok p =>
                    refine .step rfl fun res => ?_
                    cases res with
                    | error e => trivial
                    | ok _ => exact .bind (signsIn_writeAudit (a := .tokenRefresh) rfl (by decide)) fun _ => trivial

theorem signsIn_logout (raw : String) (claims : Option AccessClaims) :
    SignsIn (Auth.logout raw claims rc) := by
  have hsession : ∀ now sessionID, SignsIn (Auth.logoutSession sessionID claims rc now) := by
    intro now sessionID
    have hknown : SignsIn (Auth.revokeKnown sessionID now) := by
      unfold Auth.revokeKnown
      split
      · exact .perform rfl
      · trivial
    refine .bind hknown fun res => ?_
    cases res with
    | error e => trivial
    | ok _ =>
        cases claims with
        | none => trivial
        | some claims =>
            have halive : SignsIn (Auth.listAlive claims now) := by
              unfold Auth.listAlive
              split
              · exact .perform rfl
              · trivial
            refine .bind halive fun res => ?_
            cases res with
            | error e => trivial
            | ok _ => exact .bind (signsIn_writeAudit (a := .logout) rfl (by decide)) fun _ => trivial
  refine .step rfl fun now => ?_
  dsimp only
  split
  · exact hsession now _
  · refine .step rfl fun res => ?_
    cases res with
    | ok stored => exact hsession now _
    | error e =>
        dsimp only
        split
        · exact hsession now _
        · trivial

/-! ### The team and the template -/

variable (actor : AccessClaims) {s : Option Target}

theorem within_writeAudit (e : AuditEntry) : Within s (writeAudit e) := .step ⟨rfl, .inl rfl⟩ fun _ => trivial

theorem within_invite (email : String) (role : Role) : Within s (Team.invite actor email role rc) := by
  unfold Team.invite
  by_cases hrole : (!Team.invitableRoles role) = true
  · rw [if_pos hrole]
    trivial
  · have hinvitable : Team.invitableRoles role = true := by simpa using hrole
    rw [if_neg hrole]
    refine .step ⟨rfl, .inl rfl⟩ fun res => ?_
    cases res with
    | ok _ => trivial
    | error e =>
        dsimp only
        split
        · trivial
        · refine .step ⟨rfl, .inl rfl⟩ fun res => ?_
          cases res with
          | error e => trivial
          | ok pending =>
              dsimp only
              split
              · trivial
              · have hsecure : Within s generateSecureToken := by
                  refine .step ⟨rfl, .inl rfl⟩ fun res => ?_
                  cases res <;> trivial
                refine .bind hsecure fun res => ?_
                cases res with
                | error e => trivial
                | ok rawToken =>
                    refine .step ⟨rfl, .inl rfl⟩ fun now => .step ⟨hinvitable, .inl rfl⟩ fun res => ?_
                    cases res with
                    | error e => trivial
                    | ok inv => exact .bind (within_writeAudit _) fun _ => trivial

theorem within_updateRole (memberID : UUID) (role : Role) :
    Within (some (.member memberID)) (Team.updateRole actor memberID role rc) := by
  unfold Team.updateRole
  by_cases hrole : (!Team.invitableRoles role) = true
  · rw [if_pos hrole]
    trivial
  · have hinvitable : Team.invitableRoles role = true := by simpa using hrole
    rw [if_neg hrole]
    refine .step ⟨rfl, .inl rfl⟩ fun res => ?_
    cases res with
    | error e => trivial
    | ok member =>
        dsimp only
        split
        · trivial
        · refine .step ⟨hinvitable, .inr rfl⟩ fun res => ?_
          cases res with
          | error e => trivial
          | ok updated => exact .step ⟨rfl, .inl rfl⟩ fun now => .bind (within_writeAudit _) fun _ => trivial

theorem within_revoke (memberID : UUID) : Within (some (.member memberID)) (Team.revoke actor memberID rc) := by
  refine .step ⟨rfl, .inl rfl⟩ fun res => ?_
  cases res with
  | error e => trivial
  | ok member =>
      dsimp only
      split
      · trivial
      · refine .step ⟨rfl, .inl rfl⟩ fun now => .step ⟨rfl, .inr rfl⟩ fun res => ?_
        cases res with
        | error e => trivial
        | ok _ =>
            refine .step ⟨rfl, .inr rfl⟩ fun res => ?_
            cases res with
            | error e => trivial
            | ok _ => exact .bind (within_writeAudit _) fun _ => trivial

theorem within_saveTemplate (body : String) : Within s (Settings.saveTemplate actor body rc) := by
  refine .step ⟨rfl, .inl rfl⟩ fun now => .step ⟨rfl, .inl rfl⟩ fun res => ?_
  cases res with
  | error e => trivial
  | ok tpl => exact .bind (within_writeAudit _) fun _ => trivial

/-! ### Clients -/

theorem within_tenantAudit (action : AuditAction) (tenant : SuperAdmin.Tenant) (extra : List (String × String)) :
    Within s (Tenant.writeAudit actor action tenant rc extra) := .step ⟨rfl, .inl rfl⟩ fun _ => within_writeAudit _

theorem within_generateActivationCode : Within s Tenant.generateActivationCode :=
  Tenant.reads_generateActivationCode.mono fun _ => Op.within_of_reads

theorem within_create (input : NewTenant) : Within s (Tenant.create actor input rc) := by
  unfold Tenant.create
  by_cases hplan : (!input.plan.valid) = true
  · rw [if_pos hplan]
    trivial
  · have hvalid : input.plan.valid = true := by simpa using hplan
    rw [if_neg hplan]
    refine .step ⟨rfl, .inl rfl⟩ fun now => .bind within_generateActivationCode fun res => ?_
    cases res with
    | error e => trivial
    | ok code =>
        refine .step ⟨hvalid, .inl rfl⟩ fun res => ?_
        cases res with
        | error e => trivial
        | ok tenant => exact .bind (within_tenantAudit rc actor _ _ _) fun _ => trivial

theorem within_suspend (id : UUID) (reason : String) :
    Within (some (.client id)) (Tenant.suspend actor id reason rc) := by
  unfold Tenant.suspend
  by_cases hreason : reason = ""
  · rw [if_pos hreason]
    trivial
  · rw [if_neg hreason]
    refine .step ⟨by simpa [Op.regular] using hreason, .inr rfl⟩ fun res => ?_
    cases res with
    | error e => trivial
    | ok tenant => exact .bind (within_tenantAudit rc actor _ _ _) fun _ => trivial

theorem within_resume (id : UUID) : Within (some (.client id)) (Tenant.resume actor id rc) := by
  refine .step ⟨rfl, .inr rfl⟩ fun res => ?_
  cases res with
  | error e => trivial
  | ok tenant => exact .bind (within_tenantAudit rc actor _ _ _) fun _ => trivial

theorem within_issueActivationCode (id : UUID) :
    Within (some (.client id)) (Tenant.issueActivationCode actor id rc) := by
  refine .bind within_generateActivationCode fun res => ?_
  cases res with
  | error e => trivial
  | ok code =>
      refine .step ⟨rfl, .inl rfl⟩ fun now => .step ⟨rfl, .inr rfl⟩ fun res => ?_
      cases res with
      | error e => trivial
      | ok tenant => exact .bind (within_tenantAudit rc actor _ _ _) fun _ => trivial

theorem within_delete (id : UUID) : Within (some (.client id)) (Tenant.delete actor id rc) := by
  refine .step ⟨rfl, .inl rfl⟩ fun res => ?_
  cases res with
  | error e => trivial
  | ok tenant =>
      refine .step ⟨rfl, .inr rfl⟩ fun res => ?_
      cases res with
      | error e => trivial
      | ok _ => exact .bind (within_tenantAudit rc actor _ _ _) fun _ => trivial

/-! ### Tickets -/

/-- The programs about one ticket. -/
abbrev OnTickets (id : UUID) {α : Type} (p : Proc α) : Prop := p.Only fun op : Op => op.onTickets id = true

theorem onTickets_writeAudit {action : AuditAction} {id : UUID} (h : action ∈ ticketActions)
    (ticket : SuperAdmin.Ticket) (extra : List (String × String)) :
    OnTickets id (Ticket.writeAudit actor action ticket rc extra) :=
  .step rfl fun _ => .step rfl fun _ =>
    .step (decide_eq_true (List.mem_map_of_mem h)) fun _ => trivial

theorem onTickets_reply (id : UUID) (body : String) : OnTickets id (Ticket.reply actor id body rc) := by
  unfold Ticket.reply
  split
  · trivial
  · refine .step rfl fun res => ?_
    cases res with
    | error e => trivial
    | ok found =>
        refine .step rfl fun _ => .step (beq_self_eq_true id) fun res => ?_
        cases res with
        | error e => trivial
        | ok message => exact .bind (onTickets_writeAudit rc actor (by decide) _ _) fun _ => trivial

theorem onTickets_assignToSelf (id : UUID) : OnTickets id (Ticket.assignToSelf actor id rc) := by
  refine .step (Bool.and_eq_true_iff.mpr ⟨beq_self_eq_true id, rfl⟩) fun res => ?_
  cases res with
  | error e => trivial
  | ok ticket => exact .bind (onTickets_writeAudit rc actor (by decide) _ _) fun _ => trivial

theorem onTickets_updateStatus (id : UUID) (status : TicketStatus) :
    OnTickets id (Ticket.updateStatus actor id status rc) := by
  unfold Ticket.updateStatus
  by_cases hstatus : (!status.valid) = true
  · rw [if_pos hstatus]
    trivial
  · have hvalid : status.valid = true := by simpa using hstatus
    rw [if_neg hstatus]
    refine .step (Bool.and_eq_true_iff.mpr ⟨beq_self_eq_true id, hvalid⟩) fun res => ?_
    cases res with
    | error e => trivial
    | ok ticket => exact .bind (onTickets_writeAudit rc actor (by decide) _ _) fun _ => trivial

theorem onTickets_updatePriority (id : UUID) (priority : TicketPriority) :
    OnTickets id (Ticket.updatePriority actor id priority rc) := by
  unfold Ticket.updatePriority
  by_cases hpriority : (!priority.valid) = true
  · rw [if_pos hpriority]
    trivial
  · have hvalid : priority.valid = true := by simpa using hpriority
    rw [if_neg hpriority]
    refine .step (Bool.and_eq_true_iff.mpr ⟨beq_self_eq_true id, hvalid⟩) fun res => ?_
    cases res with
    | error e => trivial
    | ok ticket => exact .bind (onTickets_writeAudit rc actor (by decide) _ _) fun _ => trivial

/-! ### Requests -/

section serve

variable {web : Web} {req : Request} {ctx : Context}

theorem target_cases {route : Route} {f : UUID → Target} (h : route.target = some f) : f = .client ∨ f = .ticket ∨
    f = .member ∧ (route = .teamUpdateRole ∨ route = .teamRevoke) := by
  cases route with
  | tenantSuspend | tenantResume | tenantIssueCode | tenantDelete => exact .inl (Option.some.inj h).symm
  | ticketReply | ticketAssign | ticketUpdateStatus | ticketUpdatePriority =>
      exact .inr (.inl (Option.some.inj h).symm)
  | teamUpdateRole => exact .inr (.inr ⟨(Option.some.inj h).symm, .inl rfl⟩)
  | teamRevoke => exact .inr (.inr ⟨(Option.some.inj h).symm, .inr rfl⟩)
  | _ => cases h

/-- What a request can name. -/
theorem names_cases {t : Target} (h : req.names d = some t) :
    (∃ f id, req.route.target = some f ∧ d.issuer.uuidParse req.id = .ok id ∧ t = f id) ∨
      t = .sessions ∧ (req.route = .login ∨ req.route = .refresh ∨ req.route = .logout) := by
  unfold Request.names at h
  split at h
  · rename_i f htarget
    cases hid : d.issuer.uuidParse req.id with
    | error e =>
        rw [hid] at h
        cases h
    | ok id =>
        rw [hid] at h
        exact .inl ⟨f, id, htarget, rfl, (Option.some.inj h).symm⟩
  · split at h
    · rename_i hopen
      exact .inr ⟨(Option.some.inj h).symm, hopen⟩
    · cases h

theorem names_eq {f : UUID → Target} {id : UUID} (htarget : req.route.target = some f)
    (hid : d.issuer.uuidParse req.id = .ok id) : req.names d = some (f id) := by
  rw [Request.names, htarget]
  dsimp only
  rw [hid]
  rfl

theorem names_open (h : req.route = .login ∨ req.route = .refresh ∨ req.route = .logout) :
    req.names d = some .sessions := by
  have htarget : req.route.target = none := by rcases h with h | h | h <;> rw [h] <;> rfl
  rw [Request.names, htarget]
  exact if_pos h

/-- What holds of programs that only read, and of programs one after the other. -/
structure Discipline where
  holds : {α : Type} → Proc α → Prop
  reads : ∀ {α : Type} {p : Proc α}, Reads p → holds p
  bind : ∀ {α β : Type} {p : Proc α} {f : α → Proc β}, holds p → (∀ a, holds (f a)) → holds (p >>= f)

namespace Discipline

variable (D : Discipline)

/-- The usecases that change something keep to the discipline when the request names what they are given. -/
structure Covers (d : Deps) (req : Request) : Prop where
  login : ∀ creds, req.names d = some .sessions → D.holds (Auth.login d creds req.context)
  refresh : ∀ raw, req.names d = some .sessions → D.holds (Auth.refresh d raw req.context)
  logout : ∀ raw claims, req.names d = some .sessions → D.holds (Auth.logout raw claims req.context)
  invite : ∀ actor email role, D.holds (Team.invite actor email role req.context)
  updateRole : ∀ actor id role, req.names d = some (.member id) → D.holds (Team.updateRole actor id role req.context)
  revoke : ∀ actor id, req.names d = some (.member id) → D.holds (Team.revoke actor id req.context)
  saveTemplate : ∀ actor body, D.holds (Settings.saveTemplate actor body req.context)
  create : ∀ actor input, D.holds (Tenant.create actor input req.context)
  suspend : ∀ actor id reason, req.names d = some (.client id) → D.holds (Tenant.suspend actor id reason req.context)
  resume : ∀ actor id, req.names d = some (.client id) → D.holds (Tenant.resume actor id req.context)
  issueActivationCode : ∀ actor id, req.names d = some (.client id) →
    D.holds (Tenant.issueActivationCode actor id req.context)
  delete : ∀ actor id, req.names d = some (.client id) → D.holds (Tenant.delete actor id req.context)
  reply : ∀ actor id body, req.names d = some (.ticket id) → D.holds (Ticket.reply actor id body req.context)
  assignToSelf : ∀ actor id, req.names d = some (.ticket id) → D.holds (Ticket.assignToSelf actor id req.context)
  updateStatus : ∀ actor id status, req.names d = some (.ticket id) →
    D.holds (Ticket.updateStatus actor id status req.context)
  updatePriority : ∀ actor id priority, req.names d = some (.ticket id) →
    D.holds (Ticket.updatePriority actor id priority req.context)

variable {D}

theorem withInput {α : Type} {input : Except Response α} {k : α → Proc Response}
    (hk : ∀ a, input = .ok a → D.holds (k a)) : D.holds (withInput input k) := by
  cases input with
  | error resp => exact D.reads (p := Http.withInput (.error resp) k) trivial
  | ok a => exact hk a rfl

/-- A handler that reads the id in the path. -/
theorem withID {message : String} {k : UUID → Proc Response}
    (hk : ∀ id, d.issuer.uuidParse req.id = .ok id → D.holds (k id)) :
    D.holds (Http.withInput (paramID d req message) k) := by
  refine withInput fun id h => hk id ?_
  unfold paramID at h
  split at h
  · cases h
  · rename_i hparse
    rw [hparse, Except.ok.inj h]

/-- A handler that acts in the name of the caller and then reads. -/
theorem acting {α : Type} {p : AccessClaims → Proc (Except Error α)}
    {k : AccessClaims → Except Error α → Proc Response} (hp : ∀ claims, D.holds (p claims))
    (hk : ∀ claims res, Reads (k claims res)) :
    D.holds (Http.withInput (claimsFrom ctx) fun claims => p claims >>= k claims) :=
  withInput fun claims _ => D.bind (hp claims) fun res => D.reads (hk claims res)

/-- A handler keeps to what its usecase keeps to. -/
theorem handle (hD : D.Covers d req) : D.holds (handle d web req ctx) := by
  by_cases hreading : Audit.reading req.route = true
  · exact D.reads (Audit.handle_reads hreading)
  · unfold Http.handle
    cases h : req.route with
    | login =>
        exact withInput fun input _ => D.bind (hD.login _ (names_open (.inl h))) fun _ =>
          D.reads (Audit.reads_respond fun _ => trivial)
    | refresh =>
        dsimp only [Handler.Auth.refresh]
        cases req.cookie with
        | none => exact D.reads trivial
        | some raw =>
            dsimp only
            split
            · exact D.reads trivial
            · refine D.bind (hD.refresh raw (names_open (.inr (.inl h)))) fun res => D.reads ?_
              cases res with
              | error err =>
                  dsimp only
                  split <;> trivial
              | ok pair => trivial
    | logout =>
        exact D.bind (hD.logout _ _ (names_open (.inr (.inr h)))) fun _ =>
          D.reads (Audit.reads_respond fun _ => trivial)
    | teamInvite =>
        exact withInput fun input _ => acting (fun claims => hD.invite claims _ _)
          fun _ _ => Audit.reads_respond fun _ => trivial
    | teamUpdateRole =>
        exact withID fun id hid => withInput fun role _ =>
          acting (fun claims => hD.updateRole claims id _ (names_eq (congrArg Route.target h) hid))
          fun _ _ => Audit.reads_respond fun _ => trivial
    | teamRevoke =>
        exact withID fun id hid =>
          acting (fun claims => hD.revoke claims id (names_eq (congrArg Route.target h) hid))
          fun _ _ => Audit.reads_respond fun _ => trivial
    | settingsSaveTemplate =>
        exact withInput fun text _ => acting (fun claims => hD.saveTemplate claims text)
          fun _ _ => Audit.reads_respond fun _ => trivial
    | tenantCreate =>
        exact withInput fun input _ => acting (fun claims => hD.create claims _) fun _ => Audit.reads_detail _
    | tenantSuspend =>
        exact withID fun id hid => withInput fun reason _ =>
          acting (fun claims => hD.suspend claims id reason (names_eq (congrArg Route.target h) hid))
          fun _ => Audit.reads_detail _
    | tenantResume =>
        exact withID fun id hid =>
          acting (fun claims => hD.resume claims id (names_eq (congrArg Route.target h) hid))
          fun _ => Audit.reads_detail _
    | tenantIssueCode =>
        exact withID fun id hid =>
          acting (fun claims => hD.issueActivationCode claims id (names_eq (congrArg Route.target h) hid))
          fun _ => Audit.reads_detail _
    | tenantDelete =>
        exact withID fun id hid =>
          acting (fun claims => hD.delete claims id (names_eq (congrArg Route.target h) hid))
          fun _ _ => Audit.reads_respond fun _ => trivial
    | ticketReply =>
        exact withID fun id hid => withInput fun text _ =>
          acting (fun claims => hD.reply claims id text (names_eq (congrArg Route.target h) hid))
          fun _ _ => Audit.reads_respond fun _ => trivial
    | ticketAssign =>
        exact withID fun id hid =>
          acting (fun claims => hD.assignToSelf claims id (names_eq (congrArg Route.target h) hid))
          fun _ => Audit.reads_changed
    | ticketUpdateStatus =>
        exact withID fun id hid => withInput fun status _ =>
          acting (fun claims => hD.updateStatus claims id _ (names_eq (congrArg Route.target h) hid))
          fun _ => Audit.reads_changed
    | ticketUpdatePriority =>
        exact withID fun id hid => withInput fun priority _ =>
          acting (fun claims => hD.updatePriority claims id _ (names_eq (congrArg Route.target h) hid))
          fun _ => Audit.reads_changed
    | _ => exact absurd (by rw [h]; rfl) hreading

end Discipline

theorem reads_middleware (access : Access) : Reads (middleware req access) :=
  middleware_only (fun _ => rfl) (fun _ => rfl) req access

/-- The server keeps to what its usecases keep to. -/
theorem Discipline.serve {D : Discipline} (hD : D.Covers d req) : D.holds (serve d web req) := by
  refine D.bind (D.reads (reads_middleware _)) fun res => ?_
  cases res with
  | error resp => exact D.reads trivial
  | ok ctx => exact handle hD

/-- To make calls of the repertoire and to change one row only. -/
def within (s : Option Target) : Discipline where
  holds := Within s
  reads hp := hp.mono fun _ => Op.within_of_reads
  bind hp hf := .bind hp hf

theorem within_covers : (within (req.names d)).Covers d req where
  login creds h := h ▸ (signsIn_login req.context creds).mono fun _ => Op.within_of_signsIn
  refresh raw h := h ▸ (signsIn_refresh req.context raw).mono fun _ => Op.within_of_signsIn
  logout raw claims h := h ▸ (signsIn_logout req.context raw claims).mono fun _ => Op.within_of_signsIn
  invite actor := within_invite req.context actor
  updateRole actor id role h := h ▸ within_updateRole req.context actor id role
  revoke actor id h := h ▸ within_revoke req.context actor id
  saveTemplate actor := within_saveTemplate req.context actor
  create actor := within_create req.context actor
  suspend actor id reason h := h ▸ within_suspend req.context actor id reason
  resume actor id h := h ▸ within_resume req.context actor id
  issueActivationCode actor id h := h ▸ within_issueActivationCode req.context actor id
  delete actor id h := h ▸ within_delete req.context actor id
  reply actor id body h := h ▸ (onTickets_reply req.context actor id body).mono fun _ => Op.within_of_onTickets
  assignToSelf actor id h := h ▸ (onTickets_assignToSelf req.context actor id).mono fun _ => Op.within_of_onTickets
  updateStatus actor id status h :=
    h ▸ (onTickets_updateStatus req.context actor id status).mono fun _ => Op.within_of_onTickets
  updatePriority actor id priority h :=
    h ▸ (onTickets_updatePriority req.context actor id priority).mono fun _ => Op.within_of_onTickets

/-- Whatever the request is, the server makes calls of its repertoire only and changes no row but the one that
the request names. -/
theorem within_serve : Within (req.names d) (serve d web req) := Discipline.serve within_covers

/-- Along every run of requests the server makes calls of its repertoire, each within what its request
names. -/
theorem run_within {ι : Type} [DecidableEq ι] {draws : ι → Draws} {requests : ι → Request} {w : World d}
    {C : ι → Op → Recorded Eff (World d) ι → Prop} {P : Pool Eff (Recorded Eff (World d) ι) ι Response}
    (hr : Pool.Run (record fun i => exec d (draws i)) (recordEnv Ticks) C
      (Mediation.serverPool d web requests w) P) :
    Pool.Run (record fun i => exec d (draws i)) (recordEnv Ticks)
      (fun i op _ => op.within ((requests i).names d)) (Mediation.serverPool d web requests w) P := by
  have hserve : ∀ i, (serve d web (requests i)).Only fun op : Op => op.within ((requests i).names d) :=
    fun _ => within_serve
  exact (hr.only hserve).1.mono fun _ _ _ h => h.2

end serve

end Repertoire

end SuperAdmin
