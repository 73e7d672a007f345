import SuperAdmin.Endings
import SuperAdmin.Usecase.Clients

/-! # How the calls about clients and settings end

Each of them executes one statement, returns its error, and logs its success; what it reads before
and after changes nothing. -/

namespace SuperAdmin.Usecase

open Effects

variable {d : Deps} (r : Draws) (w : World d) (actor : AccessClaims) (rc : RequestContext)

/-! ### Tenants -/

namespace Tenant

/-- `generateActivationCode` changes nothing. -/
theorem reads_generateActivationCode : Reads generateActivationCode := by
  have hgroup : ∀ site, Reads (randomAlphabetString site) := by
    intro site
    refine .step rfl fun res => ?_
    cases res <;> trivial
  refine .bind (hgroup .codeGroup) fun res => ?_
  cases res with
  | error e => trivial
  | ok group =>
      refine .bind (hgroup .codeGroup2) fun res => ?_
      cases res <;> trivial

theorem create_run (input : NewTenant) :
    Logged r w (fun op => ∃ t, op = .tenants (.create t)) actor.userID
      ((create actor input rc).run (exec d r) w) := by
  unfold create
  by_cases hplan : (!input.plan.valid) = true
  · rw [if_pos hplan]
    exact .failed _
  · rw [if_neg hplan, Prog.run_bind, run_op, exec_now, Prog.run_bind,
      reads_generateActivationCode.run r w]
    cases (generateActivationCode.run (exec d r) w).1 with
    | error e => exact .failed e
    | ok code =>
        exact logged_statement r w ⟨_, rfl⟩ rfl
          (fun _ he => congrArg (fun res => !Except.isOk res) he) (fun _ => rfl)
          fun _ _ => ⟨_, _, rfl, rfl⟩

theorem suspend_run (id : UUID) (reason : String) :
    Logged r w (· = .tenants (.updateStatus id .paused (some reason))) actor.userID
      ((suspend actor id reason rc).run (exec d r) w) := by
  unfold suspend
  by_cases hreason : reason = ""
  · rw [if_pos hreason]
    exact .failed _
  · rw [if_neg hreason]
    exact logged_statement r w rfl rfl (fun _ he => congrArg (fun res => !Except.isOk res) he)
      (fun _ => rfl) fun _ _ => ⟨_, _, rfl, rfl⟩

theorem resume_run (id : UUID) :
    Logged r w (· = .tenants (.updateStatus id .active none)) actor.userID
      ((resume actor id rc).run (exec d r) w) :=
  logged_statement r w rfl rfl (fun _ he => congrArg (fun res => !Except.isOk res) he)
    (fun _ => rfl) fun _ _ => ⟨_, _, rfl, rfl⟩

theorem issueActivationCode_run (id : UUID) :
    Logged r w (fun op => ∃ code expiresAt, op = .tenants (.setActivationCode id code expiresAt))
      actor.userID ((issueActivationCode actor id rc).run (exec d r) w) := by
  unfold issueActivationCode
  rw [Prog.run_bind, reads_generateActivationCode.run r w]
  cases (generateActivationCode.run (exec d r) w).1 with
  | error e => exact .failed e
  | ok code =>
      dsimp only
      rw [Prog.run_bind, run_op, exec_now]
      exact logged_statement r w ⟨_, _, rfl⟩ rfl
        (fun _ he => congrArg (fun res => !Except.isOk res) he) (fun _ => rfl)
        fun _ _ => ⟨_, _, rfl, rfl⟩

theorem delete_run (id : UUID) :
    Logged r w (· = .tenants (.delete id)) actor.userID
      ((delete actor id rc).run (exec d r) w) := by
  unfold delete
  rw [Prog.run_bind, run_op, exec_reads rfl]
  cases (exec d r (.tenants (.getByID id)) w).1 with
  | error e => exact .failed e
  | ok tenant =>
      exact logged_statement r w rfl rfl (fun _ he => congrArg (fun res => !Except.isOk res) he)
        (fun _ => rfl) fun _ _ => ⟨_, _, rfl, rfl⟩

/-! ### What a tenant call has done when it succeeds -/

section ok

variable {r : Draws} {w w' : World d} {actor : AccessClaims} {rc : RequestContext}

/-- The entry that `writeAudit` writes. -/
def auditEntry (actor : AccessClaims) (action : AuditAction) (tenant : SuperAdmin.Tenant) (rc : RequestContext)
    (extra : List (String × String)) (now : Time) : AuditEntry where
  actorID := some actor.userID
  actorEmail := actor.email
  action := action.string
  targetType := "tenant"
  targetID := tenant.id.string
  metadata := ("tenant_name", tenant.name) :: extra
  ip := rc.ip
  userAgent := rc.userAgent
  createdAt := now

/-- A tenant that `Create` returns is a new row, and what else has changed is the log. -/
theorem create_ok {input : NewTenant} {t : SuperAdmin.Tenant}
    (h : (create actor input rc).run (exec d r) w = (.ok t, w')) :
    ∃ code T, t = (newTenant input w.clock code).inserted (r.uuid .row) w.clock ∧
      w.clients.tenants.insert? t = some T ∧
      w' = World.audited { w with clients := { w.clients with tenants := T } }
        (auditEntry actor .tenantCreated t rc [("plan", input.plan.string)] w.clock) := by
  unfold create at h
  by_cases hplan : (!input.plan.valid) = true
  · rw [if_pos hplan] at h
    cases h
  · rw [if_neg hplan, Prog.run_bind, run_op, exec_now, Prog.run_bind,
      reads_generateActivationCode.run r w] at h
    cases hcode : (generateActivationCode.run (exec d r) w).1 with
    | error e =>
        rw [hcode] at h
        cases h
    | ok code =>
        rw [hcode] at h
        dsimp only at h
        rw [Prog.run_bind, run_op] at h
        have hvalid : input.plan.valid = true := by simpa using hplan
        have hplan' : (newTenant input w.clock code).plan.valid = true := hvalid
        cases hinsert : w.clients.tenants.insert?
            ((newTenant input w.clock code).inserted (r.uuid .row) w.clock) with
        | none =>
            simp only [exec, TenantsOp.exec, if_pos hplan', hinsert] at h
            cases h
        | some T =>
            simp only [exec, TenantsOp.exec, if_pos hplan', hinsert] at h
            obtain ⟨hres, rfl⟩ := Prod.mk.inj h
            cases hres
            exact ⟨code, T, rfl, hinsert, rfl⟩

/-- What `Delete` deletes was a row, and what else has changed is the log. -/
theorem delete_ok {id : UUID} (h : (delete actor id rc).run (exec d r) w = (.ok (), w')) :
    ∃ t, w.clients.tenants.find? (·.id == id) = some t ∧
      w' = World.audited (w.after r (.tenants (.delete id)))
        (auditEntry actor .tenantDeleted t rc [] w.clock) := by
  unfold delete at h
  rw [Prog.run_bind, run_op] at h
  cases hfind : w.clients.tenants.find? (·.id == id) with
  | none =>
      simp only [exec, TenantsOp.exec, hfind, orNotFound] at h
      cases h
  | some t =>
      simp only [exec, TenantsOp.exec, hfind, orNotFound] at h
      exact ⟨t, rfl, (Prod.mk.inj h).2.symm⟩
end ok

end Tenant

/-! ### Tickets -/

namespace Ticket

theorem reply_run (ticketID : UUID) (body : String) :
    Logged r w (fun op => ∃ m, op = .tickets (.addMessage m)) actor.userID
      ((reply actor ticketID body rc).run (exec d r) w) := by
  unfold reply
  by_cases hbody : body = ""
  · rw [if_pos hbody]
    exact .failed _
  · rw [if_neg hbody, Prog.run_bind, run_op, exec_reads rfl]
    cases (exec d r (.tickets (.getByID ticketID)) w).1 with
    | error e => exact .failed e
    | ok found =>
        dsimp only
        rw [Prog.run_bind, run_op, exec_reads rfl]
        exact logged_statement r w ⟨_, rfl⟩ rfl
          (fun _ he => congrArg (fun res => !Except.isOk res) he) (fun _ => rfl)
          fun _ _ => ⟨_, _, rfl, rfl⟩

theorem assignToSelf_run (ticketID : UUID) :
    Logged r w (· = .tickets (.assignTo ticketID (some actor.userID))) actor.userID
      ((assignToSelf actor ticketID rc).run (exec d r) w) :=
  logged_statement r w rfl rfl (fun _ he => congrArg (fun res => !Except.isOk res) he)
    (fun _ => rfl) fun _ _ => ⟨_, _, rfl, rfl⟩

theorem updateStatus_run (ticketID : UUID) (status : TicketStatus) :
    Logged r w (· = .tickets (.updateStatus ticketID status)) actor.userID
      ((updateStatus actor ticketID status rc).run (exec d r) w) := by
  unfold updateStatus
  by_cases hstatus : (!status.valid) = true
  · rw [if_pos hstatus]
    exact .failed _
  · rw [if_neg hstatus]
    exact logged_statement r w rfl rfl (fun _ he => congrArg (fun res => !Except.isOk res) he)
      (fun _ => rfl) fun _ _ => ⟨_, _, rfl, rfl⟩

theorem updatePriority_run (ticketID : UUID) (priority : TicketPriority) :
    Logged r w (· = .tickets (.updatePriority ticketID priority)) actor.userID
      ((updatePriority actor ticketID priority rc).run (exec d r) w) := by
  unfold updatePriority
  by_cases hpriority : (!priority.valid) = true
  · rw [if_pos hpriority]
    exact .failed _
  · rw [if_neg hpriority]
    exact logged_statement r w rfl rfl (fun _ he => congrArg (fun res => !Except.isOk res) he)
      (fun _ => rfl) fun _ _ => ⟨_, _, rfl, rfl⟩

end Ticket

/-! ### Settings -/

theorem Settings.saveTemplate_run (body : String) :
    Logged r w (· = .templates (.update messageTemplateKey body actor.userID w.clock)) actor.userID
      ((Settings.saveTemplate actor body rc).run (exec d r) w) := by
  unfold Settings.saveTemplate
  rw [Prog.run_bind, run_op, exec_now]
  exact logged_statement r w rfl rfl (fun _ he => congrArg (fun res => !Except.isOk res) he)
    (fun _ => rfl) fun _ _ => ⟨_, _, rfl, rfl⟩

end SuperAdmin.Usecase
