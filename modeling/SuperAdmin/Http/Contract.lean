import SuperAdmin.Http.Answers
import SuperAdmin.Store

/-! # What the ports promise, and what the server does with it

`Contract` says of each port what the server builds on: which errors it does not answer with, that the
issuer signs and parses, and that a user is the one asked for.  `Served` are the answers that a request
can get over such ports, whatever else happens to the state while it is served, each with the mark
whether the usecase behind its route was called. -/

namespace SuperAdmin

open Effects

/-! ### The contract of the ports -/

/-- An error that is answered with 401. -/
def Error.unauthorized (e : Error) : Bool :=
  e.is .invalidCredentials || e.is .sessionRevoked || e.is .unauthenticated

/-- An error that is not answered with 401. -/
abbrev Error.Plain (e : Error) : Prop := e.unauthorized = false

theorem closed_plain : Closed Error.Plain where
  invalid field message := rfl
  conflict := rfl
  forbidden := rfl
  errorf text e h := by
    unfold Error.Plain Error.unauthorized at h ⊢
    simpa using h

theorem status_of_plain {e : Error} (h : e.Plain) : (Http.Response.error e).status ≠ 401 := by
  unfold Error.Plain Error.unauthorized at h
  simp only [Bool.or_eq_false_iff] at h
  obtain ⟨⟨hcreds, hrevoked⟩, hunauth⟩ := h
  unfold Http.Response.error Http.mapError
  dsimp only
  split
  · simp
  · rw [hcreds, hrevoked, hunauth]
    simp only [Bool.false_eq_true, if_false]
    repeat' split
    all_goals simp

/-- What the server may expect of an answer of a port. -/
def Contract (d : Deps) : (op : Op) → op.Res → Prop
  | .issuer (.issue claims), res => res = d.issuer.issue claims
  | .issuer (.parse token), res => ∀ claims, res = .ok claims → ∃ now, d.issuer.parse now token = .ok claims
  | .users (.getByID id), res => Within Error.Plain res ∧ ∀ user, res = .ok user → user.id = id
  | op, res => op.Within Error.Plain res

theorem Contract.within {d : Deps} {op : Op} {res : op.Res} (h : Contract d op res) :
    op.Within Error.Plain res := by
  cases op with
  | issuer op => trivial
  | users op =>
      cases op with
      | getByID id => exact h.1
      | _ => exact h
  | _ => exact h

/-! ### The ports keep the contract -/

section exec

variable {d : Deps} {hasUser : UUID → Bool} {rowID : UUID} {clock : Time}

theorem within_orNotFound {α : Type} (o : Option α) : Within Error.Plain (orNotFound o) := by
  cases o with
  | none => exact (by decide : Error.Plain (.sentinel .notFound))
  | some a => trivial

theorem UsersOp.within_exec (op : UsersOp) (t : UserTable d) :
    op.Within Error.Plain (op.exec d t).1 := by
  cases op with
  | getByID id => exact within_orNotFound _
  | getByEmail email => exact within_orNotFound _
  | list => trivial
  | registerFailedLogin id lockedUntil => trivial
  | registerSuccessfulLogin id now => trivial
  | updateRole id role =>
      simp only [exec]
      split
      · exact within_orNotFound _
      · rfl
  | updateStatus id status => exact within_orNotFound _

theorem TokensOp.within_exec (op : TokensOp) (t : TokenTable) :
    op.Within Error.Plain (op.exec hasUser clock t).1 := by
  cases op with
  | create token =>
      simp only [exec]
      split
      · rfl
      · split
        · trivial
        · rfl
  | getByHash hash => exact within_orNotFound _
  | markUsed id replacedBy now =>
      simp only [exec]
      split
      · rfl
      · trivial
  | _ => trivial

theorem RevokerOp.within_exec (op : RevokerOp) (redis : Redis) :
    op.Within Error.Plain (op.exec clock redis).1 := by
  cases op with
  | revoke tokenID ttl =>
      simp only [exec]
      split
      · trivial
      · split
        · trivial
        · rfl
  | isRevoked tokenID =>
      simp only [exec]
      split
      · trivial
      · rfl

theorem InvitesOp.within_exec (op : InvitesOp) (t : InvitationTable d) :
    op.Within Error.Plain (op.exec d hasUser rowID clock t).1 := by
  cases op with
  | create inv =>
      simp only [exec]
      split
      · split
        · rfl
        · split
          · trivial
          · rfl
      · rfl
  | hasPending email => trivial

theorem TenantsOp.within_exec (op : TenantsOp) (c : Clients d) :
    op.Within Error.Plain (op.exec d rowID clock c).1 := by
  cases op with
  | create t =>
      simp only [exec]
      split
      · split
        · rfl
        · trivial
      · rfl
  | getByID id => exact within_orNotFound _
  | updateStatus id status reason => exact within_orNotFound _
  | setActivationCode id code expiresAt => exact within_orNotFound _
  | _ => trivial

theorem TicketsOp.within_exec (op : TicketsOp) (c : Clients d) :
    op.Within Error.Plain (op.exec d hasUser rowID clock c).1 := by
  cases op with
  | list f => trivial
  | getByID id =>
      show SuperAdmin.Within _ ((orNotFound (c.tickets.find? (·.id == id))).map _)
      cases c.tickets.find? (·.id == id) with
      | none => rfl
      | some t => trivial
  | updateStatus id status =>
      simp only [exec]
      split
      · exact within_orNotFound _
      · rfl
  | updatePriority id priority =>
      simp only [exec]
      split
      · exact within_orNotFound _
      · rfl
  | assignTo id assigneeID =>
      simp only [exec]
      split
      · rfl
      · exact within_orNotFound _
  | addMessage m =>
      simp only [exec]
      split
      · rfl
      · split
        · trivial
        · rfl

theorem TemplatesOp.within_exec (op : TemplatesOp) (t : TemplateTable) :
    op.Within Error.Plain (op.exec hasUser t).1 := by
  cases op with
  | get key => exact within_orNotFound _
  | update key body updatedBy now =>
      simp only [exec]
      split
      · rfl
      · exact within_orNotFound _

/-- The store, the clock and the issuer keep the contract, with a source of random bytes that fails with
errors of its own. -/
theorem contract_exec {r : Draws} (hrand : ∀ site, Within Error.Plain (r.rand site)) (op : Op)
    (w : World d) : Contract d op (exec d r op w).1 := by
  cases op with
  | now | newUUID site => trivial
  | randRead site => exact hrand site
  | users op =>
      have hwithin := UsersOp.within_exec op w.users
      cases op with
      | getByID id =>
          refine ⟨hwithin, fun user huser => ?_⟩
          have hfound : w.users.find? (·.id == id) = some user := orNotFound_eq_ok.mp huser
          exact eq_of_beq (Table.mem_of_find? hfound).2
      | _ => exact hwithin
  | tokens op => exact TokensOp.within_exec op w.tokens
  | revoker op => exact RevokerOp.within_exec op w.redis
  | issuer op =>
      cases op with
      | issue claims => rfl
      | parse token => exact fun claims h => ⟨w.clock, h⟩
  | invites op => exact InvitesOp.within_exec op w.invitations
  | tenants op => exact TenantsOp.within_exec op w.clients
  | tickets op => exact TicketsOp.within_exec op w.clients
  | templates op => exact TemplatesOp.within_exec op w.templates
  | audit e =>
      show SuperAdmin.Within _ (w.writeAudit e).1
      unfold World.writeAudit
      split
      · trivial
      · rfl
  | journal f =>
      show SuperAdmin.Within _ (f.list w.audit)
      unfold AuditFilter.list
      split
      · rfl
      · trivial

end exec

end SuperAdmin
