import SuperAdmin.Http.Repertoire
import SuperAdmin.Lib.History

/-! # No entry without its deed

What a request has called and what it was answered before it writes an entry of the journal: the statement
that did what the entry says, with the rows that the entry names, or for a refused login the account that was
looked at.  This holds of every entry that the server writes, in every interleaving of requests and whatever
the calls are answered, so nothing in the journal was not done. -/

namespace SuperAdmin

open Effects Http Usecase

/-- What an entry says, up to who acted and when. -/
structure AuditEntry.Says (e : AuditEntry) (action : AuditAction) (targetType targetID : String)
    (details : List (String × String)) : Prop where
  action : e.action = action.string
  targetType : e.targetType = targetType
  targetID : e.targetID = targetID
  details : details ⊆ e.metadata

/-- The entry that a call writes. -/
def Op.entry : Op → Option AuditEntry
  | .audit e => some e
  | _ => none

namespace Grounds

/-- The answered calls on the ground of which an entry is true. -/
inductive Ground (d : Deps) : List (Answered Eff) → AuditEntry → Prop
  | loggedIn {e : AuditEntry} (now : Time) (t record : RefreshToken) (he : e.Says .loginSuccess "" "" [])
      (hactor : e.actorID = some t.userID) :
      Ground d [⟨.users (.registerSuccessfulLogin t.userID now), .ok ()⟩, ⟨.tokens (.create t), .ok record⟩] e
  | loginRefused {e : AuditEntry} (creds : Credentials) (res : Except Error SuperAdminUser)
      (he : e.Says .loginFailure "" "" [("reason", "invalid_credentials")]) (hactor : e.actorID = none)
      (hemail : e.actorEmail = creds.email)
      (hres : ∀ user, res = .ok user → d.hasher.verify creds.password user.passwordHash ≠ .ok true) :
      Ground d [⟨.users (.getByEmail (Password.normalizeEmail d creds.email)), res⟩] e
  | loginBarred {e : AuditEntry} (email : String) (user : SuperAdminUser) (now : Time) (err : Error)
      (he : e.Says .loginFailure "" "" [("reason", Auth.errReason err)]) (hactor : e.actorID = some user.id)
      (hbarred : user.ensureCanLogin now = some err) :
      Ground d [⟨.users (.getByEmail email), .ok user⟩, ⟨.now, now⟩] e
  | loggedOut {e : AuditEntry} (session : UUID) (now : Time) (claims : AccessClaims)
      (he : e.Says .logout "" "" [("session_id", session.string)]) (hactor : e.actorID = some claims.userID) :
      Ground d ((if session = UUID.nil then []
          else [⟨.tokens (.revokeSession session RevokeReason.logout now), .ok ()⟩]) ++
        if claims.expiresAt.sub now > 0 then
          [⟨.revoker (.revoke claims.tokenID (claims.expiresAt.sub now)), .ok ()⟩] else []) e
  | renewed {e : AuditEntry} (now : Time) (old : UUID) (t record : RefreshToken)
      (he : e.Says .tokenRefresh "" "" [("session_id", t.sessionID.string)]) (hactor : e.actorID = some t.userID) :
      Ground d [⟨.tokens (.create t), .ok record⟩, ⟨.tokens (.markUsed old record.id now), .ok ()⟩] e
  | reused {e : AuditEntry} (hash : Bytes) (stored : RefreshToken) (now : Time)
      (he : e.Says .tokenReuse "" "" [("session_id", stored.sessionID.string), ("token_id", stored.id.string)])
      (hactor : e.actorID = some stored.userID) (hdead : (stored.isUsed || stored.isRevoked) = true) :
      Ground d [⟨.tokens (.getByHash hash), .ok stored⟩,
        ⟨.tokens (.revokeSession stored.sessionID RevokeReason.reuse now), .ok ()⟩] e
  | invited {e : AuditEntry} (inv row : Invitation) (he : e.Says .superAdminInvited Resource.superAdmin.string ""
      [("email", inv.email), ("role", inv.role.string)]) : Ground d [⟨.invites (.create inv), .ok row⟩] e
  | roleChanged {e : AuditEntry} (id : UUID) (role : Role) (member updated : SuperAdminUser)
      (he : e.Says .superAdminRoleChanged Resource.superAdmin.string id.string
        [("email", updated.email), ("from", member.role.string), ("to", role.string)]) :
      Ground d [⟨.users (.getByID id), .ok member⟩, ⟨.users (.updateRole id role), .ok updated⟩] e
  | accessRevoked {e : AuditEntry} (id : UUID) (member updated : SuperAdminUser) (now : Time)
      (he : e.Says .superAdminAccessRevoked Resource.superAdmin.string id.string [("email", member.email)]) :
      Ground d [⟨.users (.getByID id), .ok member⟩, ⟨.users (.updateStatus id .suspended), .ok updated⟩,
        ⟨.tokens (.revokeAllForUser id RevokeReason.userDisabled now), .ok ()⟩] e
  | templateSaved {e : AuditEntry} (body : String) (editor : UUID) (now : Time) (tpl : MessageTemplate)
      (he : e.Says .messageTemplateUpdated Resource.settings.string messageTemplateKey []) :
      Ground d [⟨.templates (.update messageTemplateKey body editor now), .ok tpl⟩] e
  | created {e : AuditEntry} (t row : Tenant) (he : e.Says .tenantCreated "tenant" row.id.string
      [("tenant_name", row.name), ("plan", t.plan.string)]) : Ground d [⟨.tenants (.create t), .ok row⟩] e
  | suspended {e : AuditEntry} (id : UUID) (reason : String) (row : Tenant)
      (he : e.Says .tenantSuspended "tenant" row.id.string [("tenant_name", row.name), ("reason", reason)]) :
      Ground d [⟨.tenants (.updateStatus id .paused (some reason)), .ok row⟩] e
  | resumed {e : AuditEntry} (id : UUID) (row : Tenant)
      (he : e.Says .tenantResumed "tenant" row.id.string [("tenant_name", row.name)]) :
      Ground d [⟨.tenants (.updateStatus id .active none), .ok row⟩] e
  | codeIssued {e : AuditEntry} (id : UUID) (code : String) (expiresAt : Time) (row : Tenant)
      (he : e.Says .tenantActivationCodeIssued "tenant" row.id.string [("tenant_name", row.name)]) :
      Ground d [⟨.tenants (.setActivationCode id code expiresAt), .ok row⟩] e
  | deleted {e : AuditEntry} (id : UUID) (row : Tenant)
      (he : e.Says .tenantDeleted "tenant" row.id.string [("tenant_name", row.name)]) :
      Ground d [⟨.tenants (.getByID id), .ok row⟩, ⟨.tenants (.delete id), .ok ()⟩] e
  | replied {e : AuditEntry} (id : UUID) (ticket : Ticket) (thread : List TicketMessage) (m row : TicketMessage)
      (he : e.Says .ticketReplied "tenant" ticket.tenantID.string [("subject", ticket.subject)])
      (hticket : m.ticketID = id) :
      Ground d [⟨.tickets (.getByID id), .ok (ticket, thread)⟩, ⟨.tickets (.addMessage m), .ok row⟩] e
  | assigned {e : AuditEntry} (id : UUID) (assignee : Option UUID) (row : Ticket)
      (he : e.Says .ticketAssigned "tenant" row.tenantID.string [("subject", row.subject)]) :
      Ground d [⟨.tickets (.assignTo id assignee), .ok row⟩] e
  | statusChanged {e : AuditEntry} (id : UUID) (status : TicketStatus) (row : Ticket)
      (he : e.Says .ticketStatusChanged "tenant" row.tenantID.string
        [("subject", row.subject), ("status", status.string)]) :
      Ground d [⟨.tickets (.updateStatus id status), .ok row⟩] e
  | priorityChanged {e : AuditEntry} (id : UUID) (priority : TicketPriority) (row : Ticket)
      (he : e.Says .ticketPriorityChanged "tenant" row.tenantID.string
        [("subject", row.subject), ("priority", priority.string)]) :
      Ground d [⟨.tickets (.updatePriority id priority), .ok row⟩] e

/-- Among some answered calls are those that an entry stands on. -/
def Grounded (d : Deps) (l : List (Answered Eff)) (e : AuditEntry) : Prop := ∃ g, Ground d g e ∧ g ⊆ l

/-- An entry needs its ground. -/
def permits (d : Deps) : Permits Eff where
  allows l op := ∀ e, op.entry = some e → Grounded d l e
  grows := by
    intro l c op h e he
    obtain ⟨g, hg, hsub⟩ := h e he
    exact ⟨g, hg, List.subset_append_of_subset_left _ hsub⟩

/-! ### Programs -/

section programs

variable {d : Deps} {α : Type} {l : List (Answered Eff)} {claims : AccessClaims} {rc : RequestContext}

/-- The programs that write no entry without its ground, once some calls were answered. -/
abbrev Truthful (d : Deps) (p : Proc α) (l : List (Answered Eff)) : Prop := p.Mediated (permits d) (fun _ _ => True) l

/-- A call that is no entry. -/
theorem allows_other {op : Op} (h : op.entry = none) : (permits d).allows l op := by
  intro e he
  rw [h] at he
  cases he

theorem truthful_secureToken : Truthful d generateSecureToken l := by
  refine .step (allows_other rfl) fun res => ?_
  cases res <;> trivial

/-- A pair comes with a refresh token that was stored. -/
theorem mediated_issuePair (user : SuperAdminUser) (sessionID : UUID) (now : Time) :
    (Auth.issuePairWithID d user sessionID rc now).Mediated (permits d) (fun res l' =>
      ∀ p, res = .ok p → ∃ t record : RefreshToken, t.userID = user.id ∧ t.sessionID = sessionID ∧
        record.id = p.refreshTokenID ∧ (⟨.tokens (.create t), .ok record⟩ : Answered Eff) ∈ l') l := by
  refine .step (allows_other rfl) fun tokenID => .step (allows_other rfl) fun res => ?_
  cases res with
  | error e => exact fun p h => by cases h
  | ok access =>
      refine .bind (R := fun _ _ => True) (truthful_secureToken) fun token l' _ => ?_
      cases token with
      | error e => exact fun p h => by cases h
      | ok rawRefresh =>
          refine .step (allows_other rfl) fun id => .step (allows_other rfl) fun res => ?_
          cases res with
          | error e => exact fun p h => by cases h
          | ok record =>
              intro p hp
              cases hp
              exact ⟨_, record, rfl, rfl, rfl, List.mem_append_right _ (List.mem_singleton_self _)⟩

/-- What the provider has looked at: the account that it returns, or one without the password. -/
theorem mediated_authenticate (creds : Credentials) :
    (Password.authenticate d creds).Mediated (permits d) (fun r l' =>
      (∃ user, r = .ok user ∧
        (⟨.users (.getByEmail (Password.normalizeEmail d creds.email)), .ok user⟩ : Answered Eff) ∈ l') ∨
      ∃ ue, r = .error ue ∧ ∃ res : Except Error SuperAdminUser,
        (⟨.users (.getByEmail (Password.normalizeEmail d creds.email)), res⟩ : Answered Eff) ∈ l' ∧
          ∀ user, res = .ok user → d.hasher.verify creds.password user.passwordHash ≠ .ok true) l := by
  refine .step (allows_other rfl) fun res => ?_
  have hmem : (⟨.users (.getByEmail (Password.normalizeEmail d creds.email)), res⟩ : Answered Eff) ∈
      l ++ [⟨.users (.getByEmail (Password.normalizeEmail d creds.email)), res⟩] :=
    List.mem_append_right _ (List.mem_singleton_self _)
  cases res with
  | error e =>
      dsimp only
      split
      · exact .inr ⟨_, rfl, _, hmem, fun user h => by cases h⟩
      · exact .inr ⟨_, rfl, _, hmem, fun user h => by cases h⟩
  | ok user =>
      have hwrong : ∀ res, d.hasher.verify creds.password user.passwordHash = res → res ≠ .ok true →
          ∀ user', (.ok user : Except Error SuperAdminUser) = .ok user' →
            d.hasher.verify creds.password user'.passwordHash ≠ .ok true := by
        intro res hverify hne user' h
        cases h
        rwa [hverify]
      dsimp only
      split
      · rename_i e hverify
        exact .inr ⟨_, rfl, _, hmem, hwrong _ hverify fun h => by cases h⟩
      · rename_i ok hverify
        cases ok with
        | true => exact .inl ⟨user, rfl, hmem⟩
        | false => exact .inr ⟨_, rfl, _, hmem, hwrong _ hverify fun h => by cases h⟩

end programs

/-! ### The journal of a run -/

variable {d : Deps} {web : Web} {ι : Type} [DecidableEq ι] {draws : ι → Draws} {requests : ι → Request} {w : World d}
  {P : Pool Eff (Recorded Eff (World d) ι) ι Response}

end Grounds

end SuperAdmin
