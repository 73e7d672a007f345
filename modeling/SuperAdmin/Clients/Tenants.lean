import SuperAdmin.Audit.Clients
import SuperAdmin.Sample

/-! # The rows of `tenants`

The comments of migration 0003 tie the columns of a row to its status.  The operations keep the
columns about the suspension and about the activation code together.  The end of the trial is set by
`Create` only: `Suspend` and `Resume` change the status of a trial and leave it there. -/

namespace SuperAdmin.Tenants

open Effects Usecase

variable {d : Deps}

/-! ### What the tenant queries do to a row -/

/-- A row after a query, by where it comes from. -/
inductive Makes (rows : List SuperAdmin.Tenant) : TenantsOp → SuperAdmin.Tenant → Prop
  | kept (op : TenantsOp) (t : SuperAdmin.Tenant) (ht : t ∈ rows) : Makes rows op t
  | created (t : SuperAdmin.Tenant) (id : UUID) (now : Time) :
      Makes rows (.create t) (t.inserted id now)
  | status (t : SuperAdmin.Tenant) (ht : t ∈ rows) (status : TenantStatus) (reason : Option String) :
      Makes rows (.updateStatus t.id status reason)
        { t with status := status, suspendedReason := reason }
  | code (t : SuperAdmin.Tenant) (ht : t ∈ rows) (code : String) (expiresAt : Time) :
      Makes rows (.setActivationCode t.id code expiresAt)
        { t with activationCode := some code, activationCodeExpiresAt := some expiresAt.timestamptz }

theorem mem_exec {rowID : UUID} {clock : Time} {op : TenantsOp} {c : Clients d}
    {t : SuperAdmin.Tenant} (ht : t ∈ (op.exec d rowID clock c).2.tenants.rows) :
    Makes c.tenants.rows op t := by
  have hupdate : ∀ (op : TenantsOp) (id : UUID) (f : SuperAdmin.Tenant → SuperAdmin.Tenant)
      (hf : ∀ r, ((f r).id, d.citextLower (f r).email) = (r.id, d.citextLower r.email)),
      (∀ v ∈ c.tenants.rows, v.id = id → Makes c.tenants.rows op (f v)) →
      t ∈ (c.tenants.update (·.id == id) f hf).rows → Makes c.tenants.rows op t := by
    intro op id f hf hmakes ht
    obtain ⟨v, hv, rfl⟩ := (Table.mem_update hf).mp ht
    by_cases hid : (v.id == id) = true
    · rw [if_pos hid]
      exact hmakes v hv (eq_of_beq hid)
    · rw [if_neg hid]
      exact .kept op v hv
  cases op with
  | getByID id => exact .kept _ t ht
  | list => exact .kept _ t ht
  | isEmailTaken email => exact .kept _ t ht
  | create n =>
      simp only [TenantsOp.exec] at ht
      split at ht
      · split at ht
        · exact .kept _ t ht
        · rename_i tenants hinsert
          have hrows : t ∈ tenants.rows := ht
          rw [(Table.insert?_eq_some hinsert).1, List.mem_append, List.mem_singleton] at hrows
          rcases hrows with hold | rfl
          · exact .kept _ t hold
          · exact .created n rowID clock
      · exact .kept _ t ht
  | updateStatus id status reason =>
      refine hupdate _ id (fun t => { t with status := status, suspendedReason := reason })
        (fun _ => rfl) ?_ ht
      rintro v hv rfl
      exact .status v hv status reason
  | setActivationCode id code expiresAt =>
      refine hupdate _ id (fun t => { t with activationCode := some code,
                                             activationCodeExpiresAt := some expiresAt.timestamptz })
        (fun _ => rfl) ?_ ht
      rintro v hv rfl
      exact .code v hv code expiresAt
  | delete id => exact .kept _ t (List.mem_of_mem_filter ht)

/-- Only a tenant query touches `tenants`. -/
theorem exec_tenants {r : Draws} {op : Op} {w : World d} (h : ∀ top, op ≠ .tenants top) :
    (exec d r op w).2.clients.tenants = w.clients.tenants := by
  cases op with
  | tenants top => exact absurd rfl (h top)
  | audit e =>
      show (w.writeAudit e).2.clients.tenants = w.clients.tenants
      rw [World.writeAudit_clients]
  | tickets top =>
      show (top.exec d w.hasUser (r.uuid .row) w.clock w.clients).2.tenants = w.clients.tenants
      cases top with
      | addMessage m =>
          simp only [TicketsOp.exec]
          split
          · rfl
          · split <;> rfl
      | list f => rfl
      | getByID id => rfl
      | _ => simp only [TicketsOp.exec]; split <;> rfl
  | _ => rfl

/-! ### The operations -/

/-- The operations of `usecase.Tenant` that change something. -/
inductive TenantCall where
  | create (actor : AccessClaims) (input : NewTenant) (rc : RequestContext)
  | suspend (actor : AccessClaims) (id : UUID) (reason : String) (rc : RequestContext)
  | resume (actor : AccessClaims) (id : UUID) (rc : RequestContext)
  | issueActivationCode (actor : AccessClaims) (id : UUID) (rc : RequestContext)
  | delete (actor : AccessClaims) (id : UUID) (rc : RequestContext)

/-- What such an operation returns. -/
inductive TenantReply where
  | tenant (res : Except Error SuperAdmin.Tenant)
  | deleted (res : Except Error Unit)

/-- The program of an operation. -/
def TenantCall.proc : TenantCall → Proc TenantReply
  | create actor input rc => TenantReply.tenant <$> Tenant.create actor input rc
  | suspend actor id reason rc => TenantReply.tenant <$> Tenant.suspend actor id reason rc
  | resume actor id rc => TenantReply.tenant <$> Tenant.resume actor id rc
  | issueActivationCode actor id rc => TenantReply.tenant <$> Tenant.issueActivationCode actor id rc
  | delete actor id rc => TenantReply.deleted <$> Tenant.delete actor id rc

/-- The pool of some operations. -/
def tenantPool (d : Deps) {ι : Type} (calls : ι → TenantCall) (w : World d) :
    Pool Eff (World d) ι TenantReply := ⟨w, fun i => (calls i).proc⟩

/-! ### The columns and the status -/

/-- What the comments of migration 0003 say about a row. -/
structure Agrees (t : SuperAdmin.Tenant) : Prop where
  trial : t.trialEndsAt.isSome = true ↔ t.status = .trial
  paused : (∃ reason, t.suspendedReason = some reason ∧ reason ≠ "") ↔ t.status = .paused
  code : t.activationCode.isSome = true ↔ t.activationCodeExpiresAt.isSome = true

/-- The statements that the operations of `usecase.Tenant` execute: a new tenant is a trial exactly
when it has an end of the trial, and a status comes with its reason. -/
def byTenant : Op → Prop
  | .tenants (.create t) => (t.trialEndsAt.isSome = true ↔ t.status = .trial) ∧ t.status ≠ .paused ∧
      (t.activationCode.isSome = true ↔ t.activationCodeExpiresAt.isSome = true)
  | .tenants (.updateStatus _ status reason) => status ≠ .trial ∧
      ((∃ text, reason = some text ∧ text ≠ "") ↔ status = .paused)
  | _ => True

section programs

variable (actor : AccessClaims) (rc : RequestContext)

theorem byTenant_of_reads {op : Op} (h : op.reads = true) : byTenant op := by
  unfold byTenant
  split
  · cases h
  · cases h
  · trivial

theorem byTenant_generateActivationCode : Tenant.generateActivationCode.Only byTenant :=
  Tenant.reads_generateActivationCode.mono fun _ => byTenant_of_reads

theorem byTenant_writeAudit (action : AuditAction) (t : SuperAdmin.Tenant)
    (extra : List (String × String)) :
    (Tenant.writeAudit actor action t rc extra).Only byTenant :=
  .step trivial fun _ => .step trivial fun _ => trivial

theorem newTenant_byTenant (input : NewTenant) (now : Time) (code : String) :
    byTenant (.tenants (.create (Tenant.newTenant input now code))) := by
  by_cases h : input.trialDays > 0
  · simp [byTenant, Tenant.newTenant, h]
  · simp [byTenant, Tenant.newTenant, h]

theorem byTenant_proc (call : TenantCall) : call.proc.Only byTenant := by
  cases call with
  | create actor input rc =>
      refine .map ?_ _
      unfold Tenant.create
      split
      · trivial
      · refine .step trivial fun now => .bind byTenant_generateActivationCode fun res => ?_
        cases res with
        | error e => trivial
        | ok code =>
            refine .step (newTenant_byTenant input now code) fun res => ?_
            cases res with
            | error e => trivial
            | ok t => exact .bind (byTenant_writeAudit actor rc _ t _) fun _ => trivial
  | suspend actor id reason rc =>
      refine .map ?_ _
      unfold Tenant.suspend
      split
      · trivial
      · rename_i hreason
        have hop : byTenant (.tenants (.updateStatus id .paused (some reason))) := by
          simp [byTenant, hreason]
        refine .step hop fun res => ?_
        cases res with
        | error e => trivial
        | ok t => exact .bind (byTenant_writeAudit actor rc _ t _) fun _ => trivial
  | resume actor id rc =>
      have hop : byTenant (.tenants (.updateStatus id .active none)) := by
        simp [byTenant]
      refine .map (.step hop fun res => ?_) _
      cases res with
      | error e => trivial
      | ok t => exact .bind (byTenant_writeAudit actor rc _ t _) fun _ => trivial
  | issueActivationCode actor id rc =>
      refine .map (.bind byTenant_generateActivationCode fun res => ?_) _
      cases res with
      | error e => trivial
      | ok code =>
          refine .step trivial fun now => .step trivial fun res => ?_
          cases res with
          | error e => trivial
          | ok t => exact .bind (byTenant_writeAudit actor rc _ t _) fun _ => trivial
  | delete actor id rc =>
      refine .map (.step trivial fun res => ?_) _
      cases res with
      | error e => trivial
      | ok t =>
          refine .step trivial fun res => ?_
          cases res with
          | error e => trivial
          | ok _ => exact .bind (byTenant_writeAudit actor rc _ t _) fun _ => trivial

end programs

/-! ### Along a run -/

/-- A change of the status finds no tenant with an end of the trial. -/
def leavesTrials (op : Op) (w : World d) : Bool :=
  match op with
  | .tenants (.updateStatus id _ _) => w.clients.tenants.rows.all fun t =>
      t.id != id || t.trialEndsAt.isNone
  | _ => true

/-- Every stored tenant agrees with the comments. -/
def AllAgree (w : World d) : Prop := ∀ t ∈ w.clients.tenants.rows, Agrees t

theorem allAgree_step {r : Draws} {op : Op} {w : World d} (hop : byTenant op)
    (hleaves : leavesTrials op w = true) (hw : AllAgree w) : AllAgree (exec d r op w).2 := by
  intro t ht
  by_cases htop : ∃ top, op = .tenants top
  · obtain ⟨top, rfl⟩ := htop
    have hmakes : Makes w.clients.tenants.rows top t := mem_exec ht
    cases hmakes with
    | kept _ _ hold => exact hw t hold
    | created n id now =>
        obtain ⟨htrial, hactive, hcode⟩ := hop
        constructor
        · simpa [SuperAdmin.Tenant.inserted] using htrial
        · simpa [SuperAdmin.Tenant.inserted] using hactive
        · simpa [SuperAdmin.Tenant.inserted] using hcode
    | status v hv status reason =>
        obtain ⟨hnew, hreason⟩ := hop
        have hleft := List.all_eq_true.mp hleaves v hv
        have hnone : v.trialEndsAt = none := by simpa using hleft
        constructor
        · simp [hnone, hnew]
        · exact hreason
        · exact (hw v hv).code
    | code v hv code expiresAt =>
        obtain ⟨htrial, hpaused, -⟩ := hw v hv
        exact ⟨htrial, hpaused, by simp⟩
  · rw [exec_tenants fun top h => htop ⟨top, h⟩] at ht
    exact hw t ht

/-- Whatever its arguments, a change of the status of a tenant with an end of the trial leaves a row
that disagrees. -/
theorem disagrees_of_not_leavesTrials {r : Draws} {op : Op} {w : World d} (hop : byTenant op)
    (hleaves : leavesTrials op w = false) : ¬ AllAgree (exec d r op w).2 := by
  intro hagree
  unfold leavesTrials at hleaves
  split at hleaves
  · rename_i id status reason
    obtain ⟨v, hv, hends⟩ := List.all_eq_false.mp hleaves
    have hid : v.id = id ∧ v.trialEndsAt.isSome = true := by
      simpa [Option.isSome_iff_ne_none] using hends
    have hmem : { v with status := status, suspendedReason := reason } ∈
        (exec d r (.tenants (.updateStatus id status reason)) w).2.clients.tenants.rows :=
      List.mem_map.mpr ⟨v, hv, if_pos (beq_iff_eq.mpr hid.1)⟩
    exact hop.1 ((hagree _ hmem).trial.mp hid.2)
  · cases hleaves

/-- In every run, in any interleaving and with any arguments, in which the status of no tenant with an
end of the trial is changed, all stored tenants agree with the comments of their columns. -/
theorem tenants_agree {ι : Type} [DecidableEq ι] {draws : ι → Draws} {calls : ι → TenantCall}
    {w : World d} {P : Pool Eff (World d) ι TenantReply} (hempty : w.clients.tenants.rows = [])
    (hr : Pool.Run (fun i => exec d (draws i)) Ticks (fun _ op w => leavesTrials op w = true)
      (tenantPool d calls w) P) : AllAgree P.state := by
  obtain ⟨hrun, -⟩ := hr.only (K := fun _ => byTenant) fun i => byTenant_proc (calls i)
  refine hrun.invariant (I := AllAgree) ?_ ?_ ?_
  · rintro i op w' ⟨hleaves, hop⟩ hw'
    exact allAgree_step hop hleaves hw'
  · rintro w' w'' ⟨t, -, rfl⟩ hw'
    exact hw'
  · intro t ht
    have hnone : t ∈ w.clients.tenants.rows := ht
    rw [hempty] at hnone
    cases hnone

/-- A form for a new client. -/
def newClient (trialDays : Int64) : NewTenant where
  name := "Кафе"
  city := "Алматы"
  address := "Алматы, Абая 1"
  ownerName := "Владелец"
  phone := "+7"
  email := "cafe@example.com"
  plan := .growth
  trialDays := trialDays

/-- A client is created, suspended and resumed, one call after the other. -/
def lifeOfClient (trialDays : Int64) (calls : ℕ) : Pool Eff (World Sample.deps) (Fin 3) TenantReply :=
  (tenantPool Sample.deps
    (fun i => match i with
      | 0 => .create Sample.firstClaims (newClient trialDays) Sample.context
      | 1 => .suspend Sample.firstClaims ((Sample.draws 0).uuid .row) "долг" Sample.context
      | 2 => .resume Sample.firstClaims ((Sample.draws 0).uuid .row) Sample.context) Sample.world).play
    (fun i => exec Sample.deps (Sample.draws (i.castLE (by decide))))
    (((List.finRange 3).take calls).flatMap (List.replicate 6))

/-- A client without a trial. -/
theorem tenants_agree_paused :
    (lifeOfClient 0 2).state.clients.tenants.rows.map (fun t => (t.status, t.suspendedReason)) =
        [(.paused, some "долг")] ∧ AllAgree (lifeOfClient 0 2).state :=
  ⟨by decide, tenants_agree rfl (Pool.play_meets (by decide))⟩

/-- A trial that is suspended keeps the end of its trial. -/
theorem suspended_trial_disagrees :
    ¬ ∀ (d : Deps) (draws : Fin 3 → Draws) (calls : Fin 3 → TenantCall) (w : World d)
        (P : Pool Eff (World d) (Fin 3) TenantReply), w.clients.tenants.rows = [] →
      Pool.Run (fun i => exec d (draws i)) Ticks (fun _ _ _ => True) (tenantPool d calls w) P →
      AllAgree P.state := by
  intro hclaim
  have hagree := hclaim _ _ _ Sample.world (lifeOfClient 14 2) rfl (Pool.play_run _ _)
  have hrow : ∃ t ∈ (lifeOfClient 14 2).state.clients.tenants.rows,
      t.status = .paused ∧ t.trialEndsAt.isSome = true := by decide
  obtain ⟨t, ht, hstatus, hends⟩ := hrow
  have htrial := (hagree t ht).trial.mp hends
  rw [hstatus] at htrial
  cases htrial

end SuperAdmin.Tenants
