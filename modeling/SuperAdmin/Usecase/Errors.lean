import SuperAdmin.Usecase.Team
import SuperAdmin.Usecase.Journal
import SuperAdmin.Statements

/-! # The errors of the usecases

A usecase behind an authenticated route ends with an error of a port, wrapped or not, or with one of the
few errors of its own; and but for those of the journal and of the overview it does not read the
journal. -/

namespace SuperAdmin

open Effects

/-! ### Answers with an error in a set -/

section within

variable (E : Error → Prop)

/-- The error of a result, if there is one, is in `E`. -/
def Within {α : Type} : Except Error α → Prop
  | .error e => E e
  | .ok _ => True

/-- The error of an answer, if there is one, is in `E`. -/
def UsersOp.Within : (op : UsersOp) → op.Res → Prop
  | .getByID _, res | .getByEmail _, res | .updateRole _ _, res | .updateStatus _ _, res =>
      SuperAdmin.Within E res
  | .list, res => SuperAdmin.Within E res
  | .registerFailedLogin _ _, res | .registerSuccessfulLogin _ _, res => SuperAdmin.Within E res

def TokensOp.Within : (op : TokensOp) → op.Res → Prop
  | .create _, res | .getByHash _, res => SuperAdmin.Within E res
  | .markUsed _ _ _, res | .revokeSession _ _ _, res | .revokeAllForUser _ _ _, res =>
      SuperAdmin.Within E res
  | .deleteExpired _, res => SuperAdmin.Within E res

def RevokerOp.Within : (op : RevokerOp) → op.Res → Prop
  | .revoke _ _, res => SuperAdmin.Within E res
  | .isRevoked _, res => SuperAdmin.Within E res

def InvitesOp.Within : (op : InvitesOp) → op.Res → Prop
  | .create _, res => SuperAdmin.Within E res
  | .hasPending _, res => SuperAdmin.Within E res

def TenantsOp.Within : (op : TenantsOp) → op.Res → Prop
  | .create _, res | .getByID _, res | .updateStatus _ _ _, res | .setActivationCode _ _ _, res =>
      SuperAdmin.Within E res
  | .list, res => SuperAdmin.Within E res
  | .isEmailTaken _, res => SuperAdmin.Within E res
  | .delete _, res => SuperAdmin.Within E res

def TicketsOp.Within : (op : TicketsOp) → op.Res → Prop
  | .list _, res => SuperAdmin.Within E res
  | .getByID _, res => SuperAdmin.Within E res
  | .updateStatus _ _, res | .updatePriority _ _, res | .assignTo _ _, res => SuperAdmin.Within E res
  | .addMessage _, res => SuperAdmin.Within E res

def TemplatesOp.Within : (op : TemplatesOp) → op.Res → Prop
  | .get _, res | .update _ _ _ _, res => SuperAdmin.Within E res

/-- The signer and the parser of access tokens may answer with any error. -/
def Op.Within : (op : Op) → op.Res → Prop
  | .now, _ | .newUUID _, _ | .issuer _, _ => True
  | .randRead _, res => SuperAdmin.Within E res
  | .users op, res => op.Within E res
  | .tokens op, res => op.Within E res
  | .revoker op, res => op.Within E res
  | .invites op, res => op.Within E res
  | .tenants op, res => op.Within E res
  | .tickets op, res => op.Within E res
  | .templates op, res => op.Within E res
  | .audit _, res => SuperAdmin.Within E res
  | .journal _, res => SuperAdmin.Within E res

end within

theorem within_true {α : Type} (res : Except Error α) : Within (fun _ => True) res := by
  cases res <;> trivial

theorem Op.within_true (op : Op) (res : op.Res) : op.Within (fun _ => True) res := by
  cases op with
  | now | newUUID site | issuer op => trivial
  | randRead site => exact SuperAdmin.within_true _
  | users op => cases op <;> exact SuperAdmin.within_true _
  | tokens op => cases op <;> exact SuperAdmin.within_true _
  | revoker op => cases op <;> exact SuperAdmin.within_true _
  | invites op => cases op <;> exact SuperAdmin.within_true _
  | tenants op => cases op <;> exact SuperAdmin.within_true _
  | tickets op => cases op <;> exact SuperAdmin.within_true _
  | templates op => cases op <;> exact SuperAdmin.within_true _
  | audit e => exact SuperAdmin.within_true _
  | journal f => exact SuperAdmin.within_true _

/-- A set with the errors that the usecases make themselves. -/
structure Closed (E : Error → Prop) : Prop where
  invalid : ∀ field message, E (.invalid field message)
  conflict : E (.sentinel .conflict)
  forbidden : E (.sentinel .forbidden)
  errorf : ∀ text e, E e → E (.errorf text [e])

/-- Every call but the one that reads the journal. -/
def Op.skipsLog : Op → Bool
  | .journal _ => false
  | _ => true

/-- `p` does not read the journal, and it ends with an error in `E` if the ports answer with such. -/
abbrev EndsIn {α : Type} (E : Error → Prop) (p : Proc (Except Error α)) : Prop :=
  p.Meets (fun op : Op => op.skipsLog = true) (fun (op : Op) (res : op.Res) => op.Within E res) (Within E)

namespace Usecase

variable {E : Error → Prop} {rc : RequestContext} {actor : AccessClaims}

theorem endsIn_writeAudit (e : AuditEntry) :
    (SuperAdmin.writeAudit e).Meets (fun op : Op => op.skipsLog = true)
      (fun (op : Op) (res : op.Res) => op.Within E res) fun _ => True :=
  .step rfl fun _ _ => trivial

/-! ### The team -/

theorem endsIn_me (userID : UUID) : EndsIn E (Auth.me userID) := ⟨rfl, fun _ h => h⟩

theorem endsIn_generateSecureToken (hE : Closed E) : EndsIn E generateSecureToken := by
  refine .step rfl fun r hr => ?_
  cases r with
  | error e => exact hE.errorf _ e hr
  | ok b => trivial

namespace Team

theorem endsIn_list : EndsIn E list := by
  refine .step rfl fun r hr => ?_
  cases r with
  | error e => exact hr
  | ok all => trivial

theorem endsIn_inviteFree (hE : Closed E) (email : String) (role : Role) :
    EndsIn E (inviteFree actor email role rc) := by
  refine .bind (endsIn_generateSecureToken hE) fun r hr => ?_
  cases r with
  | error e => exact hr
  | ok rawToken =>
      refine .step rfl fun now _ => .step rfl fun r hr => ?_
      cases r with
      | error e => exact hr
      | ok inv => exact .bind (endsIn_writeAudit _) fun _ _ => trivial

theorem endsIn_invite (hE : Closed E) (email : String) (role : Role) :
    EndsIn E (invite actor email role rc) := by
  unfold invite
  split
  · exact hE.invalid _ _
  · refine .step rfl fun r hr => ?_
    cases r with
    | ok _ => exact hE.errorf _ _ hE.conflict
    | error e =>
        dsimp only
        split
        · exact hr
        · refine .step rfl fun r hr => ?_
          cases r with
          | error e => exact hr
          | ok pending =>
              dsimp only
              split
              · exact hE.errorf _ _ hE.conflict
              · exact endsIn_inviteFree hE email role

theorem endsIn_updateRole (hE : Closed E) (memberID : UUID) (role : Role) :
    EndsIn E (updateRole actor memberID role rc) := by
  unfold updateRole
  split
  · exact hE.invalid _ _
  · refine .step rfl fun r hr => ?_
    cases r with
    | error e => exact hr
    | ok member =>
        dsimp only
        split
        · exact hE.errorf _ _ hE.forbidden
        · refine .step rfl fun r hr => ?_
          cases r with
          | error e => exact hr
          | ok updated =>
              exact .step rfl fun now _ => .bind (endsIn_writeAudit _) fun _ _ => trivial

theorem endsIn_revoke (hE : Closed E) (memberID : UUID) : EndsIn E (revoke actor memberID rc) := by
  refine .step rfl fun r hr => ?_
  cases r with
  | error e => exact hr
  | ok member =>
      dsimp only
      split
      · exact hE.errorf _ _ hE.forbidden
      · refine .step rfl fun now _ => .step rfl fun r hr => ?_
        cases r with
        | error e => exact hr
        | ok _ =>
            refine .step rfl fun r hr => ?_
            cases r with
            | error e => exact hr
            | ok _ => exact .bind (endsIn_writeAudit _) fun _ _ => trivial

end Team

/-! ### Clients -/

namespace Tenant

theorem endsIn_writeAudit (action : AuditAction) (tenant : Tenant) (extra : List (String × String)) :
    (writeAudit actor action tenant rc extra).Meets (fun op : Op => op.skipsLog = true)
      (fun (op : Op) (res : op.Res) => op.Within E res) fun _ => True :=
  .step rfl fun _ _ => Usecase.endsIn_writeAudit _

/-- The end of a usecase that reports a change of a client. -/
theorem endsIn_report {α : Type} (action : AuditAction) (tenant : Tenant)
    (extra : List (String × String)) (a : α) :
    EndsIn E (do writeAudit actor action tenant rc extra; return .ok a) :=
  .bind (endsIn_writeAudit action tenant extra) fun _ _ => trivial

theorem endsIn_generateActivationCode (hE : Closed E) : EndsIn E generateActivationCode := by
  have hgroup : ∀ site, EndsIn E (randomAlphabetString site) := by
    intro site
    refine .step rfl fun r hr => ?_
    cases r with
    | error e => exact hE.errorf _ e hr
    | ok b => trivial
  refine .bind (hgroup _) fun r hr => ?_
  cases r with
  | error e => exact hr
  | ok group =>
      refine .bind (hgroup _) fun r hr => ?_
      cases r with
      | error e => exact hr
      | ok group2 => trivial

theorem endsIn_list : EndsIn E list := ⟨rfl, fun _ h => h⟩

theorem endsIn_get (id : UUID) : EndsIn E (get id) := ⟨rfl, fun _ h => h⟩

theorem endsIn_isEmailTaken (email : String) : EndsIn E (isEmailTaken email) :=
  ⟨rfl, fun _ h => h⟩

theorem endsIn_create (hE : Closed E) (input : NewTenant) : EndsIn E (create actor input rc) := by
  unfold create
  split
  · exact hE.invalid _ _
  · refine .step rfl fun now _ => .bind (endsIn_generateActivationCode hE) fun r hr => ?_
    cases r with
    | error e => exact hr
    | ok code =>
        refine .step rfl fun r hr => ?_
        cases r with
        | error e => exact hr
        | ok tenant => exact endsIn_report _ _ _ _

theorem endsIn_suspend (hE : Closed E) (id : UUID) (reason : String) :
    EndsIn E (suspend actor id reason rc) := by
  unfold suspend
  split
  · exact hE.invalid _ _
  · refine .step rfl fun r hr => ?_
    cases r with
    | error e => exact hr
    | ok tenant => exact endsIn_report _ _ _ _

theorem endsIn_resume (id : UUID) : EndsIn E (resume actor id rc) := by
  refine .step rfl fun r hr => ?_
  cases r with
  | error e => exact hr
  | ok tenant => exact endsIn_report _ _ _ _

theorem endsIn_issueActivationCode (hE : Closed E) (id : UUID) :
    EndsIn E (issueActivationCode actor id rc) := by
  refine .bind (endsIn_generateActivationCode hE) fun r hr => ?_
  cases r with
  | error e => exact hr
  | ok code =>
      refine .step rfl fun now _ => .step rfl fun r hr => ?_
      cases r with
      | error e => exact hr
      | ok tenant => exact endsIn_report _ _ _ _

theorem endsIn_delete (id : UUID) : EndsIn E (delete actor id rc) := by
  refine .step rfl fun r hr => ?_
  cases r with
  | error e => exact hr
  | ok tenant =>
      refine .step rfl fun r hr => ?_
      cases r with
      | error e => exact hr
      | ok _ => exact endsIn_report _ _ _ _

end Tenant

/-! ### Tickets -/

namespace Ticket

/-- The end of a usecase that reports a change of a ticket. -/
theorem endsIn_report {α : Type} (action : AuditAction) (ticket : Ticket)
    (extra : List (String × String)) (a : α) :
    EndsIn E (do writeAudit actor action ticket rc extra; return .ok a) :=
  .step rfl fun _ _ => .step rfl fun _ _ => .bind (Usecase.endsIn_writeAudit _) fun _ _ => trivial

theorem endsIn_list (f : TicketFilter) : EndsIn E (list f) := ⟨rfl, fun _ h => h⟩

theorem endsIn_get (id : UUID) : EndsIn E (get id) := ⟨rfl, fun _ h => h⟩

theorem endsIn_reply (hE : Closed E) (ticketID : UUID) (body : String) :
    EndsIn E (reply actor ticketID body rc) := by
  unfold reply
  split
  · exact hE.invalid _ _
  · refine .step rfl fun r hr => ?_
    cases r with
    | error e => exact hr
    | ok found =>
        refine .step rfl fun user _ => .step rfl fun r hr => ?_
        cases r with
        | error e => exact hr
        | ok message => exact endsIn_report _ _ _ _

theorem endsIn_assignToSelf (ticketID : UUID) : EndsIn E (assignToSelf actor ticketID rc) := by
  refine .step rfl fun r hr => ?_
  cases r with
  | error e => exact hr
  | ok ticket => exact endsIn_report _ _ _ _

theorem endsIn_updateStatus (hE : Closed E) (ticketID : UUID) (status : TicketStatus) :
    EndsIn E (updateStatus actor ticketID status rc) := by
  unfold updateStatus
  split
  · exact hE.invalid _ _
  · refine .step rfl fun r hr => ?_
    cases r with
    | error e => exact hr
    | ok ticket => exact endsIn_report _ _ _ _

theorem endsIn_updatePriority (hE : Closed E) (ticketID : UUID) (priority : TicketPriority) :
    EndsIn E (updatePriority actor ticketID priority rc) := by
  unfold updatePriority
  split
  · exact hE.invalid _ _
  · refine .step rfl fun r hr => ?_
    cases r with
    | error e => exact hr
    | ok ticket => exact endsIn_report _ _ _ _

end Ticket

/-! ### Settings -/

namespace Settings

theorem endsIn_template : EndsIn E template := ⟨rfl, fun _ h => h⟩

theorem endsIn_saveTemplate (body : String) : EndsIn E (saveTemplate actor body rc) := by
  refine .step rfl fun now _ => .step rfl fun r hr => ?_
  cases r with
  | error e => exact hr
  | ok tpl => exact .bind (endsIn_writeAudit _) fun _ _ => trivial

end Settings

end Usecase

end SuperAdmin
