import SuperAdmin.Lib.EventLog
import SuperAdmin.Clients.Tenants
import SuperAdmin.Http.Repertoire

/-! # The journal tells what has happened

Whoever knows the roles and the statuses of the team, the invitations, the clients and the last change of
the template at some moment, and reads the entries that the journal got since then, knows them again: in
a sequential run of requests nothing of this changes without an entry, and the entry says what has
changed.  The other entries are about sessions and tickets and tell nothing of it.  The server drops the
error of an entry that the database refuses, so this is so as long as the database refuses none. -/

namespace SuperAdmin.Audit

open Effects Usecase Http

variable {d : Deps}

/-! ### What the journal tells -/

/-- What it tells about a client. -/
structure ClientRecord where
  name : String
  plan : TenantPlan
  /-- The reason, while the client is suspended. -/
  suspended : Option String

structure Ledger where
  roles : UUID → Option Role
  statuses : UUID → Option UserStatus
  /-- The email, the role and the inviter of each invitation. -/
  invited : List (String × Role × Option UUID)
  clients : UUID → Option ClientRecord
  /-- When and by whom the template was saved last. -/
  edited : Option (Option Time × Option UUID)

/-- Change what is known about the id that an entry names. -/
def changeAt {α : Type} (target : String) (f : Option α → Option α) (known : UUID → Option α) :
    UUID → Option α :=
  fun id => if id.string = target then f (known id) else known id

namespace Ledger

def changeClient (b : Ledger) (e : AuditEntry) (f : Option ClientRecord → Option ClientRecord) : Ledger :=
  { b with clients := changeAt e.targetID f b.clients }

/-- What is known after an entry about an action. -/
def amend (b : Ledger) (a : AuditAction) (e : AuditEntry) : Ledger :=
  match a with
  | .superAdminRoleChanged =>
      { b with roles := changeAt e.targetID (Option.map fun _ => .ofString (e.metaString "to")) b.roles }
  | .superAdminAccessRevoked =>
      { b with statuses := changeAt e.targetID (Option.map fun _ => .suspended) b.statuses }
  | .superAdminInvited =>
      { b with invited := b.invited ++
          [(e.metaString "email", .ofString (e.metaString "role"), e.actorID)] }
  | .tenantCreated => b.changeClient e fun _ =>
      some ⟨e.metaString "tenant_name", .ofString (e.metaString "plan"), none⟩
  | .tenantSuspended => b.changeClient e (Option.map fun c =>
      { c with suspended := some (e.metaString "reason") })
  | .tenantResumed => b.changeClient e (Option.map fun c => { c with suspended := none })
  | .tenantDeleted => b.changeClient e fun _ => none
  | .messageTemplateUpdated => { b with edited := b.edited.map fun _ => (some e.createdAt, e.actorID) }
  | _ => b

/-- Read an entry. -/
def tell (b : Ledger) (e : AuditEntry) : Ledger :=
  match AuditAction.ofString? e.action with
  | some a => b.amend a e
  | none => b

theorem tell_eq {b : Ledger} {e : AuditEntry} {a : AuditAction} (h : e.action = a.string) :
    b.tell e = b.amend a e := by
  rw [tell, h, AuditAction.ofString?_string]

end Ledger

/-- The actions whose entries change what is known. -/
def telling : AuditAction → Bool
  | .superAdminRoleChanged | .superAdminAccessRevoked | .superAdminInvited | .tenantCreated
  | .tenantSuspended | .tenantResumed | .tenantDeleted | .messageTemplateUpdated => true
  | _ => false

theorem Ledger.amend_of_not_telling {b : Ledger} {a : AuditAction} {e : AuditEntry} (h : telling a = false) :
    b.amend a e = b := by
  cases a <;> first | exact absurd h (by decide) | rfl

/-! ### What the tables say -/

/-- A column of a table with an id. -/
def column {Row K C : Type} {key : Row → K} {clash : K → K → Prop} (idOf : Row → UUID) (col : Row → C)
    (t : Table key clash) : UUID → Option C :=
  fun id => (t.find? fun x => idOf x == id).map col

/-- What is known about a client. -/
def ClientRecord.of (t : SuperAdmin.Tenant) : ClientRecord where
  name := t.name
  plan := t.plan
  suspended := if t.status = .paused then t.suspendedReason else none

/-- What the tables say about what the journal tells. -/
def ledger (w : World d) : Ledger where
  roles := column SuperAdminUser.id SuperAdminUser.role w.users
  statuses := column SuperAdminUser.id SuperAdminUser.status w.users
  invited := w.invitations.rows.map fun i => (i.email, i.role, i.invitedBy)
  clients := column Tenant.id ClientRecord.of w.clients.tenants
  edited := (w.templates.find? (·.key == messageTemplateKey)).map fun t => (t.updatedAt, t.updatedBy)

/-- The journal as a log of what the tables say. -/
def journal (d : Deps) : Telling (World d) Ledger AuditEntry where
  log := World.audit
  view := ledger
  tell := Ledger.tell

/-- The entries between two states tell what has changed. -/
abbrev Told (w w' : World d) : Prop := (journal d).Told w w'

/-! ### Columns under statements -/

section column

variable {Row K C : Type} {key : Row → K} {clash : K → K → Prop} {t : Table key clash}
  {idOf : Row → UUID} {col : Row → C}

theorem string_inj {a b : UUID} : a.string = b.string ↔ a = b :=
  ⟨Sample.readsBackUUIDs.string_inj, congrArg UUID.string⟩

theorem changeAt_string (id other : UUID) (f : Option C → Option C) (known : UUID → Option C) :
    changeAt id.string f known other = if other = id then f (known id) else known other := by
  unfold changeAt
  by_cases h : other = id
  · subst h
    rw [if_pos rfl, if_pos rfl]
  · rw [if_neg fun hs => h (string_inj.mp hs), if_neg h]

theorem column_updated {p : Row → Bool} {f : Row → Row} (hf : ∀ x, key (f x) = key x)
    (hid : ∀ x, idOf (f x) = idOf x) (id : UUID) :
    column idOf col (t.update p f hf) id =
      (t.find? fun x => idOf x == id).map fun x => col (if p x then f x else x) := by
  unfold column Table.find?
  rw [Table.rows_update, List.find?_map, Option.map_map]
  have hsame : ((fun x => idOf x == id) ∘ fun x => if p x then f x else x) = fun x => idOf x == id := by
    funext x
    by_cases hx : p x = true
    · rw [Function.comp_apply, if_pos hx, hid]
    · rw [Function.comp_apply, if_neg hx]
  rw [hsame]
  rfl

/-- An update of other columns. -/
theorem column_same {p : Row → Bool} {f : Row → Row} (hf : ∀ x, key (f x) = key x)
    (hid : ∀ x, idOf (f x) = idOf x) (hcol : ∀ x, col (f x) = col x) :
    column idOf col (t.update p f hf) = column idOf col t := by
  funext id
  rw [column_updated hf hid, column]
  congr 1
  funext x
  split
  · exact hcol x
  · rfl

/-- An update of the row with an id. -/
theorem column_changed {id : UUID} {f : Row → Row} {g : C → C} (hf : ∀ x, key (f x) = key x)
    (hid : ∀ x, idOf (f x) = idOf x) (hcol : ∀ x, col (f x) = g (col x)) :
    column idOf col (t.update (fun x => idOf x == id) f hf) =
      changeAt id.string (Option.map g) (column idOf col t) := by
  funext other
  rw [column_updated hf hid, changeAt_string]
  by_cases hother : other = id
  · subst hother
    rw [if_pos rfl, column, Option.map_map]
    refine Option.map_congr fun x hx => ?_
    rw [if_pos (Table.mem_of_find? hx).2, hcol]
    rfl
  · rw [if_neg hother, column]
    refine Option.map_congr fun x hx => ?_
    obtain rfl : idOf x = other := eq_of_beq (Table.mem_of_find? hx).2
    rw [if_neg fun h => hother (eq_of_beq h)]

theorem column_deleted {id : UUID} :
    column idOf col (t.delete fun x => idOf x == id) =
      changeAt id.string (fun _ => none) (column idOf col t) := by
  funext other
  rw [changeAt_string]
  unfold column Table.find?
  rw [Table.rows_delete, List.find?_filter]
  by_cases hother : other = id
  · subst hother
    rw [if_pos rfl, Option.map_eq_none_iff, List.find?_eq_none]
    intro x _
    simp
  · rw [if_neg hother]
    congr 2
    funext x
    by_cases hx : idOf x = other
    · simp [hx, hother]
    · simp [hx]

theorem column_inserted [DecidableRel clash] {u : Table key clash} {row : Row}
    (hclash : ∀ x, idOf x = idOf row → clash (key x) (key row)) (h : t.insert? row = some u) :
    column idOf col u = changeAt (idOf row).string (fun _ => some (col row)) (column idOf col t) := by
  obtain ⟨hrows, hfree⟩ := Table.insert?_eq_some h
  funext other
  rw [changeAt_string]
  unfold column Table.find?
  rw [hrows, List.find?_append]
  by_cases hother : other = idOf row
  · subst hother
    have hnone : (t.rows.find? fun x => idOf x == idOf row) = none := by
      rw [List.find?_eq_none]
      intro x hx hid
      exact hfree x hx (hclash x (eq_of_beq hid))
    rw [if_pos rfl, hnone]
    simp
  · have hrow : (idOf row == other) = false := beq_false_of_ne (Ne.symm hother)
    rw [if_neg hother, List.find?_cons, hrow]
    simp

end column

/-! ### Silent calls -/

/-- The calls that change nothing that the journal tells. -/
def silent : Op → Bool
  | .users (.updateRole _ _) | .users (.updateStatus _ _) | .invites (.create _) => false
  | .tenants (.create _) | .tenants (.updateStatus _ _ _) | .tenants (.delete _) => false
  | .templates (.update _ _ _ _) => false
  | .audit e => (AuditAction.ofString? e.action).all fun a => !telling a
  | _ => true

section exec

variable {r : Draws} {w : World d}

theorem ledger_audited (e : AuditEntry) : ledger (w.audited e) = ledger w := by
  simp [ledger, World.audited]

/-- The row of an entry. -/
def stored (w : World d) (e : AuditEntry) : AuditEntry :=
  { e with id := w.audit.length + 1
           createdAt := if e.createdAt = Time.zero then w.clock.timestamptz else e.createdAt.timestamptz }

/-- An entry of a user that tells what has been changed before. -/
theorem told_audited (w₁ : World d) {e : AuditEntry} (haudit : w₁.audit = w.audit)
    (hactor : e.actorID.all w₁.hasUser = true)
    (htell : ledger w₁ = (ledger w).tell (stored w₁ e)) : Told w (w₁.audited e) := by
  refine .entry (e := stored w₁ e) ?_ ((ledger_audited e).trans htell)
  show (w₁.writeAudit e).2.audit = w.audit ++ [stored w₁ e]
  rw [World.writeAudit, if_pos hactor, ← haudit]
  rfl

theorem ledger_withUsers (T : UserTable d) :
    ledger { w with users := T } = { ledger w with
      roles := column SuperAdminUser.id SuperAdminUser.role T
      statuses := column SuperAdminUser.id SuperAdminUser.status T } := rfl

/-- An update of the users that is none of their roles and statuses. -/
theorem ledger_users {p : SuperAdminUser → Bool} {f : SuperAdminUser → SuperAdminUser}
    (hf : ∀ u, ((f u).id, d.citextLower (f u).email) = (u.id, d.citextLower u.email))
    (hsame : ∀ u, (f u).id = u.id ∧ (f u).role = u.role ∧ (f u).status = u.status) :
    ledger { w with users := w.users.update p f hf } = ledger w := by
  rw [ledger_withUsers, column_same hf (fun u => (hsame u).1) fun u => (hsame u).2.1,
    column_same hf (fun u => (hsame u).1) fun u => (hsame u).2.2]
  rfl

theorem told_silent {op : Op} (h : silent op = true) : Told w (exec d r op w).2 := by
  cases op with
  | audit e =>
      by_cases hactor : e.actorID.all w.hasUser = true
      · refine told_audited _ rfl hactor ?_
        unfold Ledger.tell
        show ledger w = match AuditAction.ofString? e.action with
          | some a => (ledger w).amend a (stored w e)
          | none => ledger w
        cases ha : AuditAction.ofString? e.action with
        | none => rfl
        | some a =>
            have hsilent : (!telling a) = true := by simpa [silent, ha] using h
            exact (Ledger.amend_of_not_telling (by simpa using hsilent)).symm
      · have hsame : (exec d r (.audit e) w).2 = w := by
          show (w.writeAudit e).2 = w
          rw [World.writeAudit, if_neg hactor]
        rw [hsame]
        exact .refl w
  | users uop =>
      refine .silent rfl ?_
      cases uop with
      | registerFailedLogin id lockedUntil => exact ledger_users (fun _ => by rfl) (fun _ => ⟨rfl, rfl, rfl⟩)
      | registerSuccessfulLogin id now => exact ledger_users (fun _ => by rfl) (fun _ => ⟨rfl, rfl, rfl⟩)
      | updateRole id role => cases h
      | updateStatus id status => cases h
      | _ => rfl
  | invites iop =>
      cases iop with
      | create inv => cases h
      | hasPending email => exact .refl w
  | tenants top =>
      refine .silent rfl ?_
      cases top with
      | setActivationCode id code expiresAt =>
          show ({ ledger w with clients := _ } : Ledger) = ledger w
          refine congrArg (fun c => { ledger w with clients := c }) ?_
          exact column_same (fun _ => by rfl) (fun _ => by rfl) fun _ => by rfl
      | create t => cases h
      | updateStatus id status reason => cases h
      | delete id => cases h
      | _ => rfl
  | tickets top =>
      refine .silent rfl ?_
      have htenants : (exec d r (.tickets top) w).2.clients.tenants = w.clients.tenants :=
        Tenants.exec_tenants fun _ h => by cases h
      show ({ ledger w with clients := column _ _ (exec d r (.tickets top) w).2.clients.tenants } : Ledger) = _
      rw [htenants]
      rfl
  | templates top =>
      cases top with
      | update key body by_ now => cases h
      | get key => exact .refl w
  | _ => exact .silent rfl rfl

/-! ### Statements that the journal tells -/

theorem ledger_updateRole {role : Role} (hrole : role.valid = true) (id : UUID) :
    ledger (w.after r (.users (.updateRole id role))) =
      { ledger w with roles := changeAt id.string (Option.map fun _ => role) (ledger w).roles } := by
  have hupdated : (exec d r (.users (.updateRole id role)) w).2 = { w with
      users := w.users.update (·.id == id) (fun u => { u with role := role }) fun _ => rfl } := by
    simp only [exec, UsersOp.exec, if_pos hrole]
  rw [World.after, hupdated, ledger_withUsers,
    column_changed (g := fun _ => role) (fun _ => by rfl) (fun _ => by rfl) fun _ => by rfl,
    column_same (fun _ => by rfl) (fun _ => by rfl) fun _ => by rfl]
  rfl

theorem ledger_updateStatus (id : UUID) (status : UserStatus) :
    ledger (w.after r (.users (.updateStatus id status))) =
      { ledger w with statuses := changeAt id.string (Option.map fun _ => status) (ledger w).statuses } := by
  have hupdated : (exec d r (.users (.updateStatus id status)) w).2 = { w with
      users := w.users.update (·.id == id) (fun u => { u with status := status }) fun _ => rfl } := rfl
  rw [World.after, hupdated, ledger_withUsers, column_same (fun _ => by rfl) (fun _ => by rfl) fun _ => by rfl,
    column_changed (g := fun _ => status) (fun _ => by rfl) (fun _ => by rfl) fun _ => by rfl]
  rfl

/-- The status of a client, with the reason that goes with it. -/
theorem ledger_tenantStatus (id : UUID) (status : TenantStatus) (reason : Option String) :
    ledger (w.after r (.tenants (.updateStatus id status reason))) =
      { ledger w with clients := changeAt id.string (Option.map fun c =>
          { c with suspended := if status = .paused then reason else none }) (ledger w).clients } :=
  congrArg (fun c => { ledger w with clients := c })
    (column_changed (fun _ => by rfl) (fun _ => by rfl) fun _ => by rfl)

theorem ledger_tenantDelete (id : UUID) :
    ledger (w.after r (.tenants (.delete id))) =
      { ledger w with clients := changeAt id.string (fun _ => none) (ledger w).clients } :=
  congrArg (fun c => { ledger w with clients := c }) column_deleted

theorem ledger_tenantInserted {t : SuperAdmin.Tenant} {T : TenantTable d}
    (h : w.clients.tenants.insert? t = some T) :
    ledger { w with clients := { w.clients with tenants := T } } =
      { ledger w with clients := changeAt t.id.string (fun _ => some (.of t)) (ledger w).clients } :=
  congrArg (fun c => { ledger w with clients := c }) (column_inserted (fun _ h => .inl h) h)

theorem ledger_template (body : String) (updatedBy : UUID) (now : Time)
    (huser : w.hasUser updatedBy = true) :
    ledger (w.after r (.templates (.update messageTemplateKey body updatedBy now))) =
      { ledger w with edited := (ledger w).edited.map fun _ => (some now.timestamptz, some updatedBy) } := by
  have hupdated : (exec d r (.templates (.update messageTemplateKey body updatedBy now)) w).2 =
      { w with templates := w.templates.update (·.key == messageTemplateKey) (fun t => { t with
          body := body, updatedAt := some now.timestamptz, updatedBy := some updatedBy }) fun _ => rfl } := by
    simp only [exec, TemplatesOp.exec, huser, Bool.not_true, Bool.and_false, Bool.false_eq_true, if_false]
  rw [World.after, hupdated]
  refine congrArg (fun edited => { ledger w with edited := edited }) ?_
  rw [Table.find?_update (fun _ => by rfl) fun _ => by rfl, Option.map_map]
  show _ = (Option.map _ _).map _
  rw [Option.map_map]
  rfl

theorem ledger_invited {inv inv' : Invitation} (h : (exec d r (.invites (.create inv)) w).1 = .ok inv') :
    ledger (w.after r (.invites (.create inv))) =
      { ledger w with invited := (ledger w).invited ++ [(inv.email, inv.role, inv.invitedBy)] } := by
  have hinserted : ∃ T, w.invitations.insert? (inv.inserted (r.uuid .row) w.clock) = some T ∧
      (exec d r (.invites (.create inv)) w).2 = { w with invitations := T } := by
    by_cases hrole : inv.role.valid = true
    · simp only [exec, InvitesOp.exec, if_pos hrole] at h ⊢
      cases hinsert : w.invitations.insert? (inv.inserted (r.uuid .row) w.clock) with
      | none =>
          rw [hinsert] at h
          cases h
      | some T =>
          rw [hinsert] at h
          dsimp only at h ⊢
          by_cases hby : inv.invitedBy.all w.hasUser = true
          · rw [if_pos hby]
            exact ⟨T, rfl, rfl⟩
          · rw [if_neg hby] at h
            cases h
    · simp only [exec, InvitesOp.exec, if_neg hrole] at h
      cases h
  obtain ⟨T, hinsert, hafter⟩ := hinserted
  obtain ⟨hrows, -⟩ := Table.insert?_eq_some hinsert
  rw [World.after, hafter]
  refine congrArg (fun l => { ledger w with invited := l }) ?_
  rw [hrows, List.map_append]
  rfl

/-- What `UpdateTenantStatus` returns is the client that it names. -/
theorem updateStatus_id {id : UUID} {status : TenantStatus} {reason : Option String} {t : SuperAdmin.Tenant}
    (h : (exec d r (.tenants (.updateStatus id status reason)) w).1 = .ok t) : t.id = id :=
  eq_of_beq (Table.mem_of_find? (orNotFound_eq_ok.mp h)).2

theorem plan_ofString_string (p : TenantPlan) : TenantPlan.ofString p.string = p := by
  cases p with
  | unknown name h =>
      simp only [List.mem_cons, List.not_mem_nil, or_false, not_or] at h
      obtain ⟨h₁, h₂, h₃⟩ := h
      simp [TenantPlan.string, TenantPlan.ofString, h₁, h₂, h₃]
  | _ => rfl

/-! ### Calls -/

theorem actor_after {op : Op} {actor : UUID} (hactor : w.hasUser actor = true) :
    (some actor).all (w.after r op).hasUser = true := by
  show (exec d r op w).2.hasUser actor = true
  rw [exec_hasUser, hactor]

variable {actor : AccessClaims} (hactor : w.hasUser actor.userID = true) (rc : RequestContext)
include hactor

/-- A statement whose error is returned and whose success is told. -/
theorem told_statement {α β : Type} (op : Op) {p : Proc (Except Error β)}
    {f : Except Error β → Proc (Except Error α)} (hop : ∀ e, op ≠ .audit e)
    (hstate : (p.run (exec d r) w).2 = w.after r op)
    (hfails : ∀ e, (p.run (exec d r) w).1 = .error e → op.failed (exec d r op w).1 = true)
    (herror : ∀ e, f (.error e) = .pure (.error e))
    (hok : ∀ b, (p.run (exec d r) w).1 = .ok b → ∃ e,
      ((f (.ok b)).run (exec d r) (w.after r op)).2 = (w.after r op).audited e ∧
        e.actorID = some actor.userID ∧
        ledger (w.after r op) = (ledger w).tell (stored (w.after r op) e)) :
    Told w ((p >>= f).run (exec d r) w).2 := by
  rw [Prog.run_bind, hstate]
  cases hres : (p.run (exec d r) w).1 with
  | error e =>
      rw [herror, World.after, exec_failed r w (hfails e hres)]
      exact .refl w
  | ok b =>
      obtain ⟨e, hrun, hauthor, htell⟩ := hok b hres
      rw [hrun]
      refine told_audited _ (exec_audit r op w hop) ?_ htell
      rw [hauthor]
      exact actor_after hactor

theorem told_updateRole (memberID : UUID) (role : Role) :
    Told w ((Team.updateRole actor memberID role rc).run (exec d r) w).2 := by
  unfold Team.updateRole
  by_cases hrole : (!Team.invitableRoles role) = true
  · rw [if_pos hrole]
    exact .refl w
  · rw [if_neg hrole, Prog.run_bind, run_op, exec_getByID]
    cases w.userByID memberID with
    | none => exact .refl w
    | some member =>
        rw [orNotFound_some]
        dsimp only
        by_cases howner : member.role = .owner
        · rw [if_pos howner]
          exact .refl w
        · rw [if_neg howner]
          refine told_statement hactor (.users (.updateRole memberID role)) (fun _ h => by cases h) rfl
            (fun _ he => congrArg (fun res => !Except.isOk res) he) (fun _ => rfl)
            fun updated _ => ⟨_, rfl, rfl, ?_⟩
          have hvalid : role.valid = true := by cases role <;> first | rfl | simp [Team.invitableRoles] at hrole
          refine (ledger_updateRole hvalid memberID).trans ?_
          rw [Ledger.tell_eq (a := .superAdminRoleChanged) rfl]
          refine congrArg (fun role => { ledger w with
            roles := changeAt memberID.string (Option.map fun _ => role) (ledger w).roles }) ?_
          exact (Role.ofString_string role).symm

theorem told_revoke (memberID : UUID) :
    Told w ((Team.revoke actor memberID rc).run (exec d r) w).2 := by
  unfold Team.revoke
  rw [Prog.run_bind, run_op, exec_getByID]
  cases w.userByID memberID with
  | none => exact .refl w
  | some member =>
      rw [orNotFound_some]
      dsimp only
      by_cases howner : member.role = .owner
      · rw [if_pos howner]
        exact .refl w
      · rw [if_neg howner, Prog.run_bind, run_op, exec_now, Prog.run_bind, run_op]
        cases hupdate : (exec d r (.users (.updateStatus memberID .suspended)) w).1 with
        | error e =>
            have hfailed : Op.failed (.users (.updateStatus memberID .suspended))
                (exec d r (.users (.updateStatus memberID .suspended)) w).1 = true := by
              rw [hupdate]
              rfl
            rw [exec_failed r w hfailed]
            exact .refl w
        | ok updated =>
            -- the sessions are revoked as well, of which the tables above know nothing
            refine told_audited ((w.after r (.users (.updateStatus memberID .suspended))).after r
              (.tokens (.revokeAllForUser memberID RevokeReason.userDisabled w.clock))) ?_ ?_ ?_
            · exact (exec_audit r _ _ fun _ h => by cases h).trans (exec_audit r _ w fun _ h => by cases h)
            · refine actor_after ?_
              show (exec d r _ w).2.hasUser actor.userID = true
              rw [exec_hasUser, hactor]
            · rw [Ledger.tell_eq (a := .superAdminAccessRevoked) rfl]
              exact ledger_updateStatus (r := r) memberID .suspended

theorem told_inviteFree (email : String) (role : Role) :
    Told w ((Team.inviteFree actor email role rc).run (exec d r) w).2 := by
  unfold Team.inviteFree generateSecureToken
  rw [Prog.run_bind, Prog.run_bind, run_op, exec_randRead]
  cases r.rand .secureToken with
  | error e => exact .refl w
  | ok raw =>
      dsimp only
      rw [Prog.pure_eq, Prog.run_pure]
      dsimp only
      rw [Prog.run_bind, run_op, exec_now]
      refine told_statement hactor (.invites (.create _)) (fun _ h => by cases h) rfl
        (fun _ he => congrArg (fun res => !Except.isOk res) he) (fun _ => rfl)
        fun inv hinv => ⟨_, rfl, rfl, ?_⟩
      refine (ledger_invited hinv).trans ?_
      rw [Ledger.tell_eq (a := .superAdminInvited) rfl]
      refine congrArg (fun role => { ledger w with
        invited := (ledger w).invited ++ [(email, role, some actor.userID)] }) ?_
      exact (Role.ofString_string role).symm

theorem told_invite (email : String) (role : Role) :
    Told w ((Team.invite actor email role rc).run (exec d r) w).2 := by
  unfold Team.invite
  by_cases hrole : (!Team.invitableRoles role) = true
  · rw [if_pos hrole]
    exact .refl w
  · rw [if_neg hrole, Prog.run_bind, run_op, exec_getByEmail]
    cases w.userByEmail email with
    | some user => exact .refl w
    | none =>
        show Told w (Prog.run (exec d r) (perform (.invites (.hasPending email)) >>= _) w).2
        rw [Prog.run_bind, run_op]
        show Told w (Prog.run (exec d r) (if _ then _ else _) w).2
        split
        · exact .refl w
        · exact told_inviteFree hactor rc email role

theorem told_saveTemplate (body : String) :
    Told w ((Settings.saveTemplate actor body rc).run (exec d r) w).2 := by
  unfold Settings.saveTemplate
  rw [Prog.run_bind, run_op, exec_now]
  refine told_statement hactor (.templates (.update messageTemplateKey body actor.userID w.clock))
    (fun _ h => by cases h) rfl (fun _ he => congrArg (fun res => !Except.isOk res) he) (fun _ => rfl)
    fun tpl _ => ⟨_, rfl, rfl, ?_⟩
  refine (ledger_template body actor.userID w.clock hactor).trans ?_
  rw [Ledger.tell_eq (a := .messageTemplateUpdated) rfl]
  refine congrArg (fun now => { ledger w with
    edited := (ledger w).edited.map fun _ => (some now, some actor.userID) }) ?_
  show w.clock.timestamptz = if w.clock = Time.zero then _ else _
  split <;> rfl

theorem told_create (input : NewTenant) :
    Told w ((Tenant.create actor input rc).run (exec d r) w).2 := by
  have hend := Tenant.create_run r w actor rc input
  generalize hrun : (Tenant.create actor input rc).run (exec d r) w = res at hend
  cases hend with
  | failed e => exact .refl w
  | done t op entry hop hauthor =>
      obtain ⟨code, T, ht, hinsert, hw⟩ := Tenant.create_ok hrun
      rw [hw]
      refine told_audited { w with clients := { w.clients with tenants := T } } rfl hactor ?_
      refine (ledger_tenantInserted hinsert).trans ?_
      rw [Ledger.tell_eq (a := .tenantCreated) rfl]
      refine congrArg (fun c => { ledger w with
        clients := changeAt t.id.string (fun _ => some c) (ledger w).clients }) ?_
      have hnew : ClientRecord.of t = ⟨t.name, input.plan, none⟩ := by
        subst ht
        unfold ClientRecord.of
        congr 1
        split <;> rfl
      rw [hnew]
      exact congrArg (fun p => (⟨t.name, p, none⟩ : ClientRecord)) (plan_ofString_string input.plan).symm

theorem told_suspend (id : UUID) (reason : String) :
    Told w ((Tenant.suspend actor id reason rc).run (exec d r) w).2 := by
  unfold Tenant.suspend
  by_cases hreason : reason = ""
  · rw [if_pos hreason]
    exact .refl w
  · rw [if_neg hreason]
    refine told_statement hactor (.tenants (.updateStatus id .paused (some reason)))
      (fun _ h => by cases h) rfl (fun _ he => congrArg (fun res => !Except.isOk res) he) (fun _ => rfl)
      fun t ht => ⟨_, rfl, rfl, ?_⟩
    obtain rfl := updateStatus_id ht
    refine (ledger_tenantStatus t.id .paused (some reason)).trans ?_
    rw [Ledger.tell_eq (a := .tenantSuspended) rfl]
    rfl

theorem told_resume (id : UUID) :
    Told w ((Tenant.resume actor id rc).run (exec d r) w).2 := by
  refine told_statement hactor (.tenants (.updateStatus id .active none))
    (fun _ h => by cases h) rfl (fun _ he => congrArg (fun res => !Except.isOk res) he) (fun _ => rfl)
    fun t ht => ⟨_, rfl, rfl, ?_⟩
  obtain rfl := updateStatus_id ht
  refine (ledger_tenantStatus t.id .active none).trans ?_
  rw [Ledger.tell_eq (a := .tenantResumed) rfl]
  rfl

theorem told_delete (id : UUID) :
    Told w ((Tenant.delete actor id rc).run (exec d r) w).2 := by
  have hend := Tenant.delete_run r w actor rc id
  generalize hrun : (Tenant.delete actor id rc).run (exec d r) w = res at hend
  cases hend with
  | failed e => exact .refl w
  | done _ op entry hop hauthor =>
      obtain ⟨t, ht, hw⟩ := Tenant.delete_ok hrun
      obtain rfl : t.id = id := eq_of_beq (Table.mem_of_find? ht).2
      rw [hw]
      refine told_audited _ (exec_audit r _ w fun _ h => by cases h) (actor_after hactor) ?_
      refine (ledger_tenantDelete t.id).trans ?_
      rw [Ledger.tell_eq (a := .tenantDeleted) rfl]
      rfl

end exec

/-! ### Calls that the journal does not tell -/

/-- The programs whose entries are about sessions and tickets, and which change nothing else. -/
abbrev Silent {α : Type} (p : Proc α) : Prop := p.Only fun op : Op => silent op = true

theorem Silent.told {α : Type} {p : Proc α} (hp : Silent p) (r : Draws) (w : World d) :
    Told w (p.run (exec d r) w).2 := .only hp (fun _ _ => told_silent) w

theorem silent_of_reads {op : Op} (h : op.reads = true) : silent op = true := by
  cases op with
  | users op => cases op <;> first | rfl | cases h
  | tokens op => rfl
  | invites op => cases op <;> first | rfl | cases h
  | tenants op => cases op <;> first | rfl | cases h
  | tickets op => rfl
  | templates op => cases op <;> first | rfl | cases h
  | audit e => cases h
  | _ => rfl

theorem silent_reads {α : Type} {p : Proc α} (hp : Reads p) : Silent p := hp.mono fun _ => silent_of_reads

theorem silent_audit {e : AuditEntry} {l : List AuditAction} (hl : ∀ a ∈ l, telling a = false)
    (h : e.action ∈ l.map AuditAction.string) : silent (.audit e) = true := by
  obtain ⟨a, ha, haction⟩ := List.mem_map.mp h
  show (AuditAction.ofString? e.action).all (fun a => !telling a) = true
  rw [← haction, AuditAction.ofString?_string, Option.all_some, hl a ha]
  rfl

theorem silent_of_signsIn {op : Op} (h : op.signsIn = true) : silent op = true := by
  unfold Op.signsIn at h
  split at h <;> first | rfl | exact silent_audit (by decide) (of_decide_eq_true h) | cases h

theorem silent_of_onTickets {id : UUID} {op : Op} (h : op.onTickets id = true) : silent op = true := by
  unfold Op.onTickets at h
  split at h <;> first | rfl | exact silent_audit (by decide) (of_decide_eq_true h) | cases h

theorem told_signsIn {α : Type} {p : Proc α} (hp : Repertoire.SignsIn p) {r : Draws} {w : World d} :
    Told w (p.run (exec d r) w).2 := Silent.told (hp.mono fun _ => silent_of_signsIn) r w

theorem told_onTickets {id : UUID} {α : Type} {p : Proc α} (hp : Repertoire.OnTickets id p) {r : Draws}
    {w : World d} : Told w (p.run (exec d r) w).2 := Silent.told (hp.mono fun _ => silent_of_onTickets) r w

theorem silent_issueActivationCode (actor : AccessClaims) (rc : RequestContext) (id : UUID) :
    Silent (Tenant.issueActivationCode actor id rc) := by
  refine .bind (silent_reads Tenant.reads_generateActivationCode) fun res => ?_
  cases res with
  | error e => trivial
  | ok code =>
      refine .step rfl fun now => .step rfl fun res => ?_
      cases res with
      | error e => trivial
      | ok tenant =>
          refine .bind (.step rfl fun _ => .step ?_ fun _ => trivial) fun _ => trivial
          exact silent_audit (l := [.tenantActivationCodeIssued]) (by decide) (List.mem_singleton.mpr rfl)

/-! ### Requests -/

section serve

open Repertoire

variable {web : Web} {req : Request} {ctx : Context} {r : Draws} {w : World d}

theorem told_withInput {α : Type} {input : Except Response α} {k : α → Proc Response}
    (hk : ∀ a, input = .ok a → Told w ((k a).run (exec d r) w).2) :
    Told w ((withInput input k).run (exec d r) w).2 := by
  cases input with
  | error resp => exact .refl w
  | ok a => exact hk a rfl

/-- What a handler reads after its usecase is not told. -/
theorem told_then {α β : Type} {p : Proc α} {k : α → Proc β} (hp : Told w (p.run (exec d r) w).2)
    (hk : ∀ a, Reads (k a)) : Told w ((p >>= k).run (exec d r) w).2 := by
  rw [Prog.run_bind, (hk _).run]
  exact hp

/-- A handler that acts in the name of the caller. -/
theorem told_acting {α : Type} {p : AccessClaims → Proc (Except Error α)}
    {k : AccessClaims → Except Error α → Proc Response}
    (hctx : ∀ claims, ctx.claims = some claims → w.hasUser claims.userID = true)
    (hp : ∀ claims, w.hasUser claims.userID = true → Told w ((p claims).run (exec d r) w).2)
    (hk : ∀ claims res, Reads (k claims res)) :
    Told w ((withInput (claimsFrom ctx) fun claims => p claims >>= k claims).run (exec d r) w).2 :=
  told_withInput fun claims hclaims => told_then (hp claims (hctx claims (claimsFrom_eq_ok hclaims))) (hk claims)

theorem told_handle (hctx : ∀ claims, ctx.claims = some claims → w.hasUser claims.userID = true) :
    Told w ((handle d web req ctx).run (exec d r) w).2 := by
  by_cases hreading : reading req.route = true
  · rw [(handle_reads hreading).run]
    exact .refl w
  · unfold handle
    cases h : req.route with
    | login =>
        refine told_withInput fun input _ => told_then (told_signsIn (signsIn_login req.context _)) fun _ => ?_
        exact reads_respond fun _ => trivial
    | refresh =>
        dsimp only [Handler.Auth.refresh]
        cases req.cookie with
        | none => exact .refl w
        | some raw =>
            dsimp only
            split
            · exact .refl w
            · refine told_then (told_signsIn (signsIn_refresh req.context raw)) fun res => ?_
              cases res with
              | error err =>
                  dsimp only
                  split <;> trivial
              | ok pair => trivial
    | logout =>
        exact told_then (told_signsIn (signsIn_logout req.context _ _)) fun _ => reads_respond fun _ => trivial
    | teamInvite =>
        exact told_withInput fun input _ => told_acting hctx
          (fun _ hactor => told_invite hactor req.context input.email (.ofString input.role))
          fun _ _ => reads_respond fun _ => trivial
    | teamUpdateRole =>
        exact told_withInput fun id _ => told_withInput fun role _ => told_acting hctx
          (fun _ hactor => told_updateRole hactor req.context id (.ofString role))
          fun _ _ => reads_respond fun _ => trivial
    | teamRevoke =>
        exact told_withInput fun id _ => told_acting hctx
          (fun _ hactor => told_revoke hactor req.context id) fun _ _ => reads_respond fun _ => trivial
    | settingsSaveTemplate =>
        exact told_withInput fun text _ => told_acting hctx
          (fun _ hactor => told_saveTemplate hactor req.context text) fun _ _ => reads_respond fun _ => trivial
    | tenantCreate =>
        exact told_withInput fun input _ => told_acting hctx
          (fun _ hactor => told_create hactor req.context _) fun _ => reads_detail _
    | tenantSuspend =>
        exact told_withInput fun id _ => told_withInput fun reason _ => told_acting hctx
          (fun _ hactor => told_suspend hactor req.context id reason) fun _ => reads_detail _
    | tenantResume =>
        exact told_withInput fun id _ => told_acting hctx
          (fun _ hactor => told_resume hactor req.context id) fun _ => reads_detail _
    | tenantIssueCode =>
        exact told_withInput fun id _ => told_acting hctx
          (fun claims _ => (silent_issueActivationCode claims req.context id).told r w) fun _ => reads_detail _
    | tenantDelete =>
        exact told_withInput fun id _ => told_acting hctx
          (fun _ hactor => told_delete hactor req.context id) fun _ _ => reads_respond fun _ => trivial
    | ticketReply =>
        exact told_withInput fun id _ => told_withInput fun text _ => told_acting hctx
          (fun claims _ => told_onTickets (onTickets_reply req.context claims id text))
          fun _ _ => reads_respond fun _ => trivial
    | ticketAssign =>
        exact told_withInput fun id _ => told_acting hctx
          (fun claims _ => told_onTickets (onTickets_assignToSelf req.context claims id)) fun _ => reads_changed
    | ticketUpdateStatus =>
        exact told_withInput fun id _ => told_withInput fun status _ => told_acting hctx
          (fun claims _ => told_onTickets (onTickets_updateStatus req.context claims id (.ofString status)))
          fun _ => reads_changed
    | ticketUpdatePriority =>
        exact told_withInput fun id _ => told_withInput fun priority _ => told_acting hctx
          (fun claims _ => told_onTickets (onTickets_updatePriority req.context claims id (.ofString priority)))
          fun _ => reads_changed
    | _ => exact absurd (by rw [h]; rfl) hreading

/-- Every access token that a request carries, if it is accepted, names a user. -/
def NamesUser (w : World d) (req : Request) : Prop :=
  ∀ raw now claims, Middleware.bearerToken req.authorization = some raw →
    d.issuer.parse now raw = .ok claims → w.hasUser claims.userID = true

theorem told_serve (hnames : NamesUser w req) : Told w ((serve d web req).run (exec d r) w).2 := by
  by_cases haccess : req.route.access = .anyone
  · unfold serve
    rw [haccess]
    exact told_handle fun _ h => by cases h
  · obtain hsame | ⟨claims, hpasses, hrun⟩ := serve_run (d := d) (r := r) (w := w) web haccess
    · rw [hsame]
      exact .refl w
    · rw [hrun]
      refine told_handle fun claims' hclaims => ?_
      cases hclaims
      obtain ⟨raw, hraw, hparse⟩ := hpasses.token
      exact hnames raw w.clock claims hraw hparse

end serve

/-! ### Runs -/

/-- A request of a sequential run, with the time at which it is served and the random values. -/
structure Visit where
  now : Time
  draws : Draws
  request : Request

/-- The database, which takes an entry of the journal only if it accepts its texts. -/
def execTaking (accepts : AuditEntry → Bool) (d : Deps) (r : Draws) : Handler Eff (World d)
  | .audit e, w => if accepts e then exec d r (.audit e) w else (.error (.foreign "refused by PostgreSQL"), w)
  | op, w => exec d r op w

/-- A call that is not refused. -/
def taken (accepts : AuditEntry → Bool) : Op → Bool
  | .audit e => accepts e
  | _ => true

theorem execTaking_taken {accepts : AuditEntry → Bool} (r : Draws) (op : Op) (w : World d)
    (h : taken accepts op = true) : execTaking accepts d r op w = exec d r op w := by
  cases op with
  | audit e => exact if_pos h
  | _ => rfl

variable (accepts : AuditEntry → Bool)

/-- Serve a request. -/
def Visit.serve (d : Deps) (web : Web) (w : World d) (v : Visit) : World d :=
  ((Http.serve d web v.request).run (execTaking accepts d v.draws) { w with clock := v.now }).2

/-- Serve some requests one after the other. -/
def serveAll (d : Deps) (web : Web) (l : List Visit) (w : World d) : World d :=
  l.foldl (Visit.serve accepts d web) w

/-- The database refuses no entry that is written while a request is served. -/
def Visit.Taken (d : Deps) (web : Web) (w : World d) (v : Visit) : Prop :=
  (Http.serve d web v.request).Calls (execTaking accepts d v.draws) (fun op => taken accepts op = true)
    { w with clock := v.now }

instance decidableTaken (d : Deps) (web : Web) (w : World d) (v : Visit) :
    Decidable (v.Taken accepts d web w) := Prog.decidableCalls _ _ _ _

section run

variable {accepts} {web : Web} {w : World d}

theorem told_visit {v : Visit} (hnames : NamesUser w v.request) (htaken : v.Taken accepts d web w) :
    Told w (v.serve accepts d web w) := by
  have hclock : Told w { w with clock := v.now } := .silent rfl rfl
  have hsame : v.serve accepts d web w =
      ((Http.serve d web v.request).run (exec d v.draws) { w with clock := v.now }).2 :=
    congrArg Prod.snd (Prog.Calls.run_congr (fun op w => execTaking_taken v.draws op w) htaken)
  rw [hsame]
  exact hclock.trans (told_serve hnames)

/-- No request adds or removes a user. -/
theorem visit_hasUser (v : Visit) (id : UUID) : (v.serve accepts d web w).hasUser id = w.hasUser id := by
  refine Prog.Only.run (C := fun _ => True) (I := fun s : World d => s.hasUser id = w.hasUser id)
    (fun op s _ hs => ?_) (Prog.only_true _) rfl
  cases op with
  | audit e =>
      rw [execTaking]
      split
      · exact (exec_hasUser v.draws _ s id).trans hs
      · exact hs
  | _ => exact (exec_hasUser v.draws _ s id).trans hs

/-- **The journal tells the state.** In a sequential run of requests, none of whose entries the database
refuses, the journal only grows, and whoever knew what the tables say at the start and reads the entries since
then knows what they say at the end. -/
theorem journal_tells_state {l : List Visit} (hnames : ∀ v ∈ l, NamesUser w v.request)
    (htaken : Along (Visit.serve accepts d web) (Visit.Taken accepts d web) l w) :
    w.audit <+: (serveAll accepts d web l w).audit ∧ ledger (serveAll accepts d web l w) =
      ((serveAll accepts d web l w).audit.drop w.audit.length).foldl Ledger.tell (ledger w) := by
  have htold : Told w (serveAll accepts d web l w) := by
    refine Telling.Told.foldl (I := fun s => ∀ id, s.hasUser id = w.hasUser id) (fun v hv s hs hvisit => ?_)
      (fun _ => rfl) htaken
    have hnames' : NamesUser s v.request := fun raw now claims hraw hparse =>
      (hs claims.userID).trans (hnames v hv raw now claims hraw hparse)
    exact ⟨told_visit hnames' hvisit, fun id => (visit_hasUser v id).trans (hs id)⟩
  exact htold.read

end run

/-! ### Two requests of the owner -/

/-- The owner makes the other member a viewer and then takes the access away. -/
def deskVisits : List Visit :=
  [⟨Sample.start, Sample.draws 0, { Mediation.revokeRequest with
      route := .teamUpdateRole, body := some (.obj [("role", .str "viewer")]) }⟩,
    ⟨Sample.start, Sample.draws 1, Mediation.revokeRequest⟩]

/-- The only token that the sample library knows is the one of the owner. -/
theorem desk_names {req : Request} : NamesUser Mediation.deskWorld req := by
  intro raw now claims _ hparse
  obtain ⟨hd, c, -, hdec, -, -, -, -, -, huser, -⟩ := Issuer.parse_ok hparse
  have hclaims : c = Sample.deps.issuer.codedClaims Mediation.deskClaims := by
    change (if raw = "owner-token" then _ else _ : Except Error (JwtHeader × JwtClaims)) = _ at hdec
    split at hdec
    · cases hdec
      rfl
    · cases hdec
  rw [hclaims] at huser
  have hread : Sample.uuidParse Sample.owner.id.string = .ok claims.userID := huser
  rw [Sample.readsBackUUIDs] at hread
  rw [← Except.ok.inj hread]
  decide

/-- PostgreSQL refuses an entry with U+0000 in the User-Agent. -/
def plainAgent (e : AuditEntry) : Bool := !e.userAgent.toList.contains (Char.ofNat 0)

/-- The state after the two requests. -/
def deskAfter : World Mediation.desk :=
  serveAll plainAgent Mediation.desk ⟨fun _ => true⟩ deskVisits Mediation.deskWorld

/-- Their two entries tell the role and the status of the member. -/
theorem journal_tells_state_desk :
    deskAfter.audit.length = 2 ∧ (ledger deskAfter).roles Sample.support.id = some .viewer ∧
      ledger deskAfter = (deskAfter.audit.drop 0).foldl Ledger.tell (ledger Mediation.deskWorld) := by
  have htaken : Along (Visit.serve plainAgent Mediation.desk ⟨fun _ => true⟩)
      (Visit.Taken plainAgent Mediation.desk ⟨fun _ => true⟩) deskVisits Mediation.deskWorld := by decide
  exact ⟨by decide, by decide, (journal_tells_state (fun _ _ => desk_names) htaken).2⟩

end SuperAdmin.Audit
