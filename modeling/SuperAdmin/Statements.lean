import SuperAdmin.Store

/-! # What a statement leaves alone

Every call of a repository is one statement: a query changes nothing, and a statement that fails
changes nothing.  No statement adds or removes a user, and only `AuditRepo.Write` touches the journal. -/

namespace SuperAdmin

open Effects

/-! ### Queries -/

/-- The calls that only read. -/
def UsersOp.reads : UsersOp → Bool
  | .getByID _ | .getByEmail _ | .list => true
  | _ => false

def TokensOp.reads : TokensOp → Bool
  | .getByHash _ => true
  | _ => false

def TenantsOp.reads : TenantsOp → Bool
  | .getByID _ | .list | .isEmailTaken _ => true
  | _ => false

def TicketsOp.reads : TicketsOp → Bool
  | .list _ | .getByID _ => true
  | _ => false

def Op.reads : Op → Bool
  | .now | .newUUID _ | .randRead _ | .issuer _ => true
  | .users op => op.reads
  | .tokens op => op.reads
  | .revoker op => match op with
      | .isRevoked _ => true
      | .revoke _ _ => false
  | .invites op => match op with
      | .hasPending _ => true
      | .create _ => false
  | .tenants op => op.reads
  | .tickets op => op.reads
  | .templates op => match op with
      | .get _ => true
      | .update _ _ _ _ => false
  | .audit _ => false
  | .journal _ => true

theorem exec_reads {d : Deps} {op : Op} (h : op.reads = true) (r : Draws) (w : World d) :
    (exec d r op w).2 = w := by
  cases op with
  | users op => cases op <;> first | rfl | cases h
  | tokens op => cases op <;> first | rfl | cases h
  | revoker op =>
      cases op with
      | revoke tokenID ttl => cases h
      | isRevoked tokenID =>
          have hredis : (RevokerOp.exec w.clock (.isRevoked tokenID) w.redis).2 = w.redis := by
            simp only [RevokerOp.exec]
            split <;> rfl
          show { w with redis := _ } = w
          rw [hredis]
  | invites op => cases op <;> first | rfl | cases h
  | tenants op => cases op <;> first | rfl | cases h
  | tickets op => cases op <;> first | rfl | cases h
  | templates op => cases op <;> first | rfl | cases h
  | audit e => cases h
  | _ => rfl

/-- The programs that only read. -/
abbrev Reads {α : Type} (p : Proc α) : Prop := p.Only fun op : Op => op.reads = true

theorem Reads.run {d : Deps} {α : Type} {p : Proc α} (hp : Reads p) (r : Draws) (w : World d) :
    (p.run (exec d r) w).2 = w :=
  Prog.Only.run (I := fun w' => w' = w) (fun _ _ hop hs => by rw [exec_reads hop, hs]) hp rfl

/-! ### The row that a query finds -/

section find

variable {d : Deps}

namespace World

/-- The user that `GetByEmail` finds. -/
def userByEmail (w : World d) (email : String) : Option SuperAdminUser :=
  w.users.find? fun u => d.citextLower u.email == d.citextLower email

/-- The user that `GetByID` finds. -/
def userByID (w : World d) (id : UUID) : Option SuperAdminUser := w.users.find? (·.id == id)

/-- The token that `GetByHash` finds. -/
def tokenByHash (w : World d) (hash : Bytes) : Option RefreshToken :=
  w.tokens.find? (·.tokenHash == hash)

variable {w : World d}

theorem userByID_some {id : UUID} {u : SuperAdminUser} (h : w.userByID id = some u) :
    u ∈ w.users.rows ∧ u.id = id := by
  obtain ⟨hu, hp⟩ := Table.mem_of_find? h
  exact ⟨hu, eq_of_beq hp⟩

theorem userByEmail_some {email : String} {u : SuperAdminUser} (h : w.userByEmail email = some u) :
    u ∈ w.users.rows ∧ d.citextLower u.email = d.citextLower email := by
  obtain ⟨hu, hp⟩ := Table.mem_of_find? h
  exact ⟨hu, eq_of_beq hp⟩

theorem tokenByHash_some {hash : Bytes} {t : RefreshToken} (h : w.tokenByHash hash = some t) :
    t ∈ w.tokens.rows ∧ t.tokenHash = hash := by
  obtain ⟨ht, hp⟩ := Table.mem_of_find? h
  exact ⟨ht, eq_of_beq hp⟩

/-- A stored token is found by its hash. -/
theorem tokenByHash_of_mem {t : RefreshToken} (ht : t ∈ w.tokens.rows) :
    w.tokenByHash t.tokenHash = some t :=
  Table.find?_of_mem (fun _ _ => EitherEq.symm) ht (beq_self_eq_true _)
    fun _ _ hx => .inr (eq_of_beq hx)

/-- The email of a stored user finds that user. -/
theorem userByEmail_of_mem {email : String} {user : SuperAdminUser}
    (hu : user ∈ w.users.rows) (hemail : d.citextLower user.email = d.citextLower email) :
    w.userByEmail email = some user := by
  refine Table.find?_of_mem (fun _ _ => EitherEq.symm) hu (by simp [hemail]) ?_
  intro x _ hx
  have hx' : d.citextLower x.email = d.citextLower email := eq_of_beq hx
  exact .inr (hx'.trans hemail.symm)

end World

variable (r : Draws) (w : World d)

theorem exec_getByEmail (email : String) :
    exec d r (.users (.getByEmail email)) w = (orNotFound (w.userByEmail email), w) := rfl

theorem exec_getByID (id : UUID) :
    exec d r (.users (.getByID id)) w = (orNotFound (w.userByID id), w) := rfl

theorem exec_getByHash (hash : Bytes) :
    exec d r (.tokens (.getByHash hash)) w = (orNotFound (w.tokenByHash hash), w) := rfl

end find

/-! ### Statements that fail -/

/-- The answer to a statement is an error. -/
def UsersOp.failed : (op : UsersOp) → op.Res → Bool
  | .getByID _, res | .getByEmail _, res | .updateRole _ _, res | .updateStatus _ _, res => !res.isOk
  | .list, res => !res.isOk
  | .registerFailedLogin _ _, res | .registerSuccessfulLogin _ _, res => !res.isOk

def TokensOp.failed : (op : TokensOp) → op.Res → Bool
  | .create _, res | .getByHash _, res => !res.isOk
  | .markUsed _ _ _, res | .revokeSession _ _ _, res | .revokeAllForUser _ _ _, res => !res.isOk
  | .deleteExpired _, res => !res.isOk

def RevokerOp.failed : (op : RevokerOp) → op.Res → Bool
  | .revoke _ _, res => !res.isOk
  | .isRevoked _, res => !res.isOk

def InvitesOp.failed : (op : InvitesOp) → op.Res → Bool
  | .create _, res => !res.isOk
  | .hasPending _, res => !res.isOk

def TenantsOp.failed : (op : TenantsOp) → op.Res → Bool
  | .create _, res | .getByID _, res | .updateStatus _ _ _, res | .setActivationCode _ _ _, res =>
      !res.isOk
  | .list, res => !res.isOk
  | .isEmailTaken _, res => !res.isOk
  | .delete _, res => !res.isOk

def TicketsOp.failed : (op : TicketsOp) → op.Res → Bool
  | .list _, res => !res.isOk
  | .getByID _, res => !res.isOk
  | .updateStatus _ _, res | .updatePriority _ _, res | .assignTo _ _, res => !res.isOk
  | .addMessage _, res => !res.isOk

def TemplatesOp.failed : (op : TemplatesOp) → op.Res → Bool
  | .get _, res | .update _ _ _ _, res => !res.isOk

def Op.failed : (op : Op) → op.Res → Bool
  | .now, _ | .newUUID _, _ | .issuer _, _ => false
  | .randRead _, res => !res.isOk
  | .users op, res => op.failed res
  | .tokens op, res => op.failed res
  | .revoker op, res => op.failed res
  | .invites op, res => op.failed res
  | .tenants op, res => op.failed res
  | .tickets op, res => op.failed res
  | .templates op, res => op.failed res
  | .audit _, res => !res.isOk
  | .journal _, res => !res.isOk

section failed

variable {d : Deps} {hasUser : UUID → Bool} {rowID : UUID} {clock : Time}

/-- An answer that is not there is an error. -/
theorem orNotFound_failed {α : Type} {o : Option α} (h : (!(orNotFound o).isOk) = true) :
    o = none := by
  cases o with
  | none => rfl
  | some a => cases h

/-- An update that returns no row has changed none. -/
theorem update_failed {Row K : Type} {key : Row → K} {clash : K → K → Prop}
    {t : Table key clash} {p : Row → Bool} {f : Row → Row} {hf : ∀ r, key (f r) = key r}
    (hp : ∀ r, p (f r) = p r)
    (h : (!(orNotFound ((t.update p f hf).find? p)).isOk) = true) : t.update p f hf = t :=
  Table.update_of_find?_none hf hp (orNotFound_failed h)

theorem UsersOp.exec_failed {op : UsersOp} {t : UserTable d}
    (h : op.failed (op.exec d t).1 = true) : (op.exec d t).2 = t := by
  cases op with
  | getByID id => rfl
  | getByEmail email => rfl
  | list => rfl
  | registerFailedLogin id lockedUntil => cases h
  | registerSuccessfulLogin id now => cases h
  | updateRole id role =>
      by_cases hrole : role.valid = true
      · simp only [exec, if_pos hrole] at h ⊢
        exact update_failed (fun _ => by rfl) h
      · simp only [exec, if_neg hrole]
  | updateStatus id status => exact update_failed (fun _ => by rfl) h

theorem TokensOp.exec_failed {op : TokensOp} {t : TokenTable}
    (h : op.failed (op.exec hasUser clock t).1 = true) : (op.exec hasUser clock t).2 = t := by
  cases op with
  | create token =>
      revert h
      simp only [exec]
      split
      · exact fun _ => rfl
      · split
        · intro h
          cases h
        · exact fun _ => rfl
  | getByHash hash => rfl
  | markUsed id replacedBy now =>
      revert h
      simp only [exec]
      split
      · exact fun _ => rfl
      · intro h
        cases h
  | revokeSession sessionID reason now => cases h
  | revokeAllForUser userID reason now => cases h
  | deleteExpired before => cases h

theorem RevokerOp.exec_failed {op : RevokerOp} {redis : Redis}
    (h : op.failed (op.exec clock redis).1 = true) : (op.exec clock redis).2 = redis := by
  cases op with
  | revoke tokenID ttl =>
      revert h
      simp only [exec]
      split
      · exact fun _ => rfl
      · split
        · intro h
          cases h
        · exact fun _ => rfl
  | isRevoked tokenID =>
      simp only [exec]
      split <;> rfl

theorem InvitesOp.exec_failed {op : InvitesOp} {t : InvitationTable d}
    (h : op.failed (op.exec d hasUser rowID clock t).1 = true) :
    (op.exec d hasUser rowID clock t).2 = t := by
  cases op with
  | hasPending email => rfl
  | create inv =>
      revert h
      simp only [exec]
      split
      · split
        · exact fun _ => rfl
        · split
          · intro h
            cases h
          · exact fun _ => rfl
      · exact fun _ => rfl

theorem TenantsOp.exec_failed {op : TenantsOp} {c : Clients d}
    (h : op.failed (op.exec d rowID clock c).1 = true) : (op.exec d rowID clock c).2 = c := by
  cases op with
  | getByID id => rfl
  | list => rfl
  | isEmailTaken email => rfl
  | create t =>
      revert h
      simp only [exec]
      split
      · split
        · exact fun _ => rfl
        · intro h
          cases h
      · exact fun _ => rfl
  | updateStatus id status suspendedReason =>
      have hsame := update_failed (fun _ => by rfl) h
      simp only [exec, hsame]
  | setActivationCode id code expiresAt =>
      have hsame := update_failed (fun _ => by rfl) h
      simp only [exec, hsame]
  | delete id => cases h

theorem TicketsOp.exec_failed {op : TicketsOp} {c : Clients d}
    (h : op.failed (op.exec d hasUser rowID clock c).1 = true) :
    (op.exec d hasUser rowID clock c).2 = c := by
  cases op with
  | list f => rfl
  | getByID id => rfl
  | updateStatus id status =>
      by_cases hstatus : status.valid = true
      · simp only [exec, if_pos hstatus] at h ⊢
        rw [update_failed (fun _ => by rfl) h]
      · simp only [exec, if_neg hstatus]
  | updatePriority id priority =>
      by_cases hpriority : priority.valid = true
      · simp only [exec, if_pos hpriority] at h ⊢
        rw [update_failed (fun _ => by rfl) h]
      · simp only [exec, if_neg hpriority]
  | assignTo id assigneeID =>
      revert h
      simp only [exec]
      split
      · exact fun _ => rfl
      · intro h
        rw [update_failed (fun _ => by rfl) h]
  | addMessage m =>
      revert h
      simp only [exec]
      split
      · exact fun _ => rfl
      · split
        · intro h
          cases h
        · exact fun _ => rfl

theorem TemplatesOp.exec_failed {op : TemplatesOp} {t : TemplateTable}
    (h : op.failed (op.exec hasUser t).1 = true) : (op.exec hasUser t).2 = t := by
  cases op with
  | get key => rfl
  | update key body updatedBy now =>
      revert h
      simp only [exec]
      split
      · exact fun _ => rfl
      · exact update_failed fun _ => by rfl

/-- A statement that fails changes nothing. -/
theorem exec_failed (r : Draws) (w : World d) {op : Op}
    (h : op.failed (exec d r op w).1 = true) : (exec d r op w).2 = w := by
  cases op with
  | users op =>
      show { w with users := _ } = w
      rw [UsersOp.exec_failed h]
  | tokens op =>
      show { w with tokens := _ } = w
      rw [TokensOp.exec_failed h]
  | revoker op =>
      show { w with redis := _ } = w
      rw [RevokerOp.exec_failed h]
  | invites op =>
      show { w with invitations := _ } = w
      rw [InvitesOp.exec_failed h]
  | tenants op =>
      show { w with clients := _ } = w
      rw [TenantsOp.exec_failed h]
  | tickets op =>
      show { w with clients := _ } = w
      rw [TicketsOp.exec_failed h]
  | templates op =>
      show { w with templates := _ } = w
      rw [TemplatesOp.exec_failed h]
  | audit e =>
      have hres : (!(w.writeAudit e).1.isOk) = true := h
      show (w.writeAudit e).2 = w
      revert hres
      unfold World.writeAudit
      split
      · intro hres
        cases hres
      · exact fun _ => rfl
  | _ => rfl

end failed

/-! ### Users and the journal -/

section frame

variable {d : Deps} (r : Draws) (op : Op) (w : World d)

/-- Only a call that writes an entry touches the journal. -/
theorem exec_audit (h : ∀ e, op ≠ .audit e) : (exec d r op w).2.audit = w.audit := by
  cases op with
  | audit e => exact absurd rfl (h e)
  | _ => rfl

theorem any_update {Row K : Type} {key : Row → K} {clash : K → K → Prop} {t : Table key clash}
    {p q : Row → Bool} {f : Row → Row} (hf : ∀ r, key (f r) = key r) (hq : ∀ r, q (f r) = q r) :
    (t.update p f hf).rows.any q = t.rows.any q := by
  rw [Table.rows_update, List.any_map]
  congr 1
  funext r
  show q (if p r then f r else r) = q r
  split
  · exact hq r
  · rfl

/-- No call adds or removes a user. -/
@[simp] theorem exec_hasUser (id : UUID) : (exec d r op w).2.hasUser id = w.hasUser id := by
  cases op with
  | audit e =>
      show ((w.writeAudit e).2.users.rows.any _) = _
      rw [World.writeAudit_users]
      rfl
  | users uop =>
      cases uop with
      | registerFailedLogin uid lockedUntil => exact any_update (fun _ => by rfl) fun _ => by rfl
      | registerSuccessfulLogin uid now => exact any_update (fun _ => by rfl) fun _ => by rfl
      | updateStatus uid status => exact any_update (fun _ => by rfl) fun _ => by rfl
      | updateRole uid role =>
          by_cases hrole : role.valid = true
          · show ((UsersOp.exec d (.updateRole uid role) w.users).2.rows.any _) = _
            simp only [UsersOp.exec, if_pos hrole]
            exact any_update (fun _ => by rfl) fun _ => by rfl
          · show ((UsersOp.exec d (.updateRole uid role) w.users).2.rows.any _) = _
            simp only [UsersOp.exec, if_neg hrole]
            rfl
      | _ => rfl
  | _ => rfl

/-- An entry whose actor is a user is appended. -/
theorem writeAudit_appends {e : AuditEntry} (h : e.actorID.all w.hasUser = true) :
    ∃ entry, (w.writeAudit e).2.audit = w.audit ++ [entry] := by
  unfold World.writeAudit
  rw [if_pos h]
  exact ⟨_, rfl⟩

end frame

end SuperAdmin
