import SuperAdmin.Lib.Monitor
import SuperAdmin.Http.Router
import SuperAdmin.Store
import SuperAdmin.Sample

/-! # Every call of the server had its permit

Requests are served in any interleaving at the granularity of the calls of the ports.  Whatever they are: the
server makes a call that demands a permission only in a request whose token it has verified and whose role the
policy grants it; what it writes down about who did something names the user of that token; and it opens or
continues a session only for whoever has shown the password of an account that may log in, or a refresh token
that is still good.  Sign-in, renewal and sign-out come without a token: what they need of an account, of the
refresh tokens and of the journal demands no permission. -/

namespace SuperAdmin

open Effects Http Usecase

/-! ### What the calls need -/

/-- The permissions one of which a call needs; none of them if the list is empty, as for what sign-in, renewal
and sign-out do before anybody is known. -/
def Op.demands : Op → List (Resource × Action)
  | .users .list =>
      [(.superAdmin, .read), (.supportTicket, .read), (.supportTicket, .update), (.auditLog, .read)]
  | .users (.updateRole _ _) => [(.superAdmin, .update)]
  | .users (.updateStatus _ _) | .tokens (.revokeAllForUser _ _ _) => [(.superAdmin, .delete)]
  | .invites _ => [(.superAdmin, .create)]
  | .tenants (.create _) => [(.tenant, .create)]
  -- an entry about a ticket names its client
  | .tenants (.getByID _) =>
      [(.tenant, .read), (.tenant, .delete), (.supportTicket, .create), (.supportTicket, .update)]
  | .tenants .list =>
      [(.tenant, .read), (.supportTicket, .read), (.supportTicket, .update), (.metrics, .read)]
  | .tenants (.isEmailTaken _) => [(.tenant, .read)]
  | .tenants (.updateStatus _ _ _) => [(.tenant, .suspend)]
  | .tenants (.setActivationCode _ _ _) => [(.tenant, .update)]
  | .tenants (.delete _) => [(.tenant, .delete)]
  -- the card of a client counts its tickets
  | .tickets (.list f) => [(.supportTicket, .read), (.metrics, .read)] ++
      if f.tenantID.isSome then
        [(.tenant, .read), (.tenant, .create), (.tenant, .suspend), (.tenant, .update)] else []
  | .tickets (.getByID _) => [(.supportTicket, .read), (.supportTicket, .create)]
  | .tickets (.addMessage _) => [(.supportTicket, .create)]
  | .tickets (.updateStatus _ _) | .tickets (.updatePriority _ _) | .tickets (.assignTo _ _) =>
      [(.supportTicket, .update)]
  | .templates (.get _) => [(.settings, .read)]
  | .templates (.update _ _ _ _) => [(.settings, .update)]
  -- the journal of a client, and the seven events of the overview
  | .journal f => (.auditLog, .read) :: (if f.targetType = "tenant" then [(.tenant, .read)] else []) ++
      if f.limit = Overview.recentEventsShown then [(.metrics, .read)] else []
  | _ => []

/-- The entries that sign-in, renewal and sign-out write. -/
def signInActions : List AuditAction :=
  [.loginSuccess, .loginFailure, .logout, .tokenRefresh, .tokenReuse]

/-- Whom a call writes down as the one who acts. -/
def Op.author : Op → Option (Option UUID)
  | .invites (.create inv) => some inv.invitedBy
  | .tickets (.addMessage m) => some m.authorID
  | .tickets (.assignTo _ assigneeID) => some assigneeID
  | .templates (.update _ _ updatedBy _) => some (some updatedBy)
  | .audit e => if e.action ∈ signInActions.map AuditAction.string then none else some e.actorID
  | _ => none

/-- The user and the session for which a call makes a token. -/
def Op.opens : Op → Option (UUID × UUID)
  | .issuer (.issue c) => some (c.userID, c.sessionID)
  | .tokens (.create t) => some (t.userID, t.sessionID)
  | _ => none

namespace Mediation

variable {d : Deps} {web : Web} {req : Request}

/-! ### What the calls before have shown -/

/-- The token of a request was accepted and not on the revocation list. -/
structure Verified (req : Request) (l : List (Effects.Answered Eff)) (claims : AccessClaims) : Prop where
  token : ∃ raw, Middleware.bearerToken req.authorization = some raw ∧
    (⟨.issuer (.parse raw), .ok claims⟩ : Effects.Answered Eff) ∈ l
  live : (⟨.revoker (.isRevoked claims.tokenID), .ok false⟩ : Effects.Answered Eff) ∈ l

/-- A request has shown that a user may open or continue a session. -/
inductive Proved (d : Deps) (web : Web) (req : Request) (l : List (Effects.Answered Eff)) :
    UUID → UUID → Prop
  | password (input : LoginRequest) (user : SuperAdminUser) (now : Time) (sessionID : UUID)
      (hinput : req.route = .login ∧ bindLogin web req = some input)
      (huser : (⟨.users (.getByEmail (Password.normalizeEmail d input.email)), .ok user⟩ :
        Effects.Answered Eff) ∈ l)
      (hpassword : d.hasher.verify input.password user.passwordHash = .ok true)
      (hnow : (⟨.now, now⟩ : Effects.Answered Eff) ∈ l) (hlogin : user.ensureCanLogin now = none)
      (hsession : (⟨.newUUID .session, sessionID⟩ : Effects.Answered Eff) ∈ l) :
      Proved d web req l user.id sessionID
  | token (raw : String) (stored : RefreshToken) (user : SuperAdminUser) (now : Time)
      (hcookie : req.route = .refresh ∧ req.cookie = some raw)
      (hstored : (⟨.tokens (.getByHash (hashToken raw)), .ok stored⟩ : Effects.Answered Eff) ∈ l)
      (hnow : (⟨.now, now⟩ : Effects.Answered Eff) ∈ l) (husable : stored.isUsable now = true)
      (huser : (⟨.users (.getByID stored.userID), .ok user⟩ : Effects.Answered Eff) ∈ l)
      (hlogin : user.ensureCanLogin now = none) : Proved d web req l user.id stored.sessionID

theorem Verified.grow {l : List (Effects.Answered Eff)} {claims : AccessClaims} (h : Verified req l claims)
    (c : Effects.Answered Eff) : Verified req (l ++ [c]) claims := by
  obtain ⟨⟨raw, htoken, hparse⟩, hlive⟩ := h
  exact ⟨⟨raw, htoken, List.mem_append_left _ hparse⟩, List.mem_append_left _ hlive⟩

theorem Proved.grow {l : List (Effects.Answered Eff)} {u s : UUID} (h : Proved d web req l u s)
    (c : Effects.Answered Eff) : Proved d web req (l ++ [c]) u s := by
  cases h with
  | password input user now sessionID hinput huser hpassword hnow hlogin hsession =>
      exact .password input user now _ hinput (List.mem_append_left _ huser) hpassword
        (List.mem_append_left _ hnow) hlogin (List.mem_append_left _ hsession)
  | token raw stored user now hcookie hstored hnow husable huser hlogin =>
      exact .token raw stored user now hcookie (List.mem_append_left _ hstored)
        (List.mem_append_left _ hnow) husable (List.mem_append_left _ huser) hlogin

/-- What a request may call after some calls. -/
structure Allowed (d : Deps) (web : Web) (req : Request) (l : List (Effects.Answered Eff)) (op : Op) :
    Prop where
  demands : op.demands ≠ [] → ∃ claims, Verified req l claims ∧
    ∃ p ∈ op.demands, Authz.can ⟨claims.userID.string, claims.role⟩ p.1 p.2 = true
  author : ∀ a, op.author = some a → ∃ claims, Verified req l claims ∧ a = some claims.userID
  opens : ∀ u s, op.opens = some (u, s) → Proved d web req l u s

/-- The permits of a request. -/
def permits (d : Deps) (web : Web) (req : Request) : Permits Eff where
  allows := Allowed d web req
  grows := by
    intro l c op h
    constructor
    · intro hdemands
      obtain ⟨claims, hverified, hcan⟩ := h.demands hdemands
      exact ⟨claims, hverified.grow c, hcan⟩
    · intro a ha
      obtain ⟨claims, hverified, hclaims⟩ := h.author a ha
      exact ⟨claims, hverified.grow c, hclaims⟩
    · exact fun u s hs => (h.opens u s hs).grow c

/-! ### Behind the middleware -/

/-- What a call needs of a request that has passed `Auth` and `Require`. -/
structure Fits (access : Access) (claims : AccessClaims) (op : Op) : Prop where
  demands : op.demands ≠ [] → ∃ p ∈ op.demands, access = .requires p.1 p.2
  author : ∀ a, op.author = some a → a = some claims.userID
  opens : op.opens = none

section fits

variable {access : Access} {res : Resource} {act : Action} {claims : AccessClaims} {op : Op}

/-- A call that needs nothing. -/
theorem Fits.plain (hdemands : op.demands = []) (hauthor : op.author = none)
    (hopens : op.opens = none) : Fits access claims op := by
  refine ⟨fun h => absurd hdemands h, fun a ha => ?_, hopens⟩
  rw [hauthor] at ha
  cases ha

/-- A call that needs a permission. -/
theorem Fits.need (hdemands : (res, act) ∈ op.demands) (hauthor : op.author = none)
    (hopens : op.opens = none) : Fits (.requires res act) claims op := by
  refine ⟨fun _ => ⟨_, hdemands, rfl⟩, fun a ha => ?_, hopens⟩
  rw [hauthor] at ha
  cases ha

/-- A call that needs a permission and names the user. -/
theorem Fits.named (hdemands : (res, act) ∈ op.demands)
    (hauthor : op.author = some (some claims.userID)) (hopens : op.opens = none) :
    Fits (.requires res act) claims op := by
  refine ⟨fun _ => ⟨_, hdemands, rfl⟩, fun a ha => ?_, hopens⟩
  rw [hauthor] at ha
  exact (Option.some.inj ha).symm

/-- An entry in the name of the user. -/
theorem Fits.entry {e : AuditEntry} (he : e.actorID = some claims.userID) :
    Fits access claims (.audit e) := by
  refine ⟨fun h => absurd rfl h, fun a ha => ?_, rfl⟩
  have hauthor : (if e.action ∈ signInActions.map AuditAction.string then none else some e.actorID) = some a := ha
  split at hauthor
  · cases hauthor
  · rw [← he]
    exact (Option.some.inj hauthor).symm

theorem fits_writeAudit {e : AuditEntry} (he : e.actorID = some claims.userID) :
    (writeAudit e).Only (Fits access claims) := .step (.entry he) fun _ => trivial

theorem fits_secureToken : generateSecureToken.Only (Fits access claims) := by
  refine .step (.plain rfl rfl rfl) fun r => ?_
  cases r with
  | error e => trivial
  | ok b => trivial

theorem fits_withInput {α : Type} {input : Except Response α} {k : α → Proc Response}
    (hk : ∀ a, (k a).Only (Fits access claims)) : (withInput input k).Only (Fits access claims) := by
  cases input with
  | error resp => trivial
  | ok a => exact hk a

theorem fits_respond {α : Type} {res : Except Error α} {k : α → Proc Response}
    (hk : ∀ a, (k a).Only (Fits access claims)) : (respond res k).Only (Fits access claims) := by
  cases res with
  | error e => trivial
  | ok a => exact hk a

/-- A handler that finds its claims in the context. -/
theorem fits_claimsFrom {ctx : Context} {k : AccessClaims → Proc Response} (hctx : ctx.claims = some claims)
    (hk : (k claims).Only (Fits access claims)) :
    (withInput (claimsFrom ctx) k).Only (Fits access claims) := by
  rw [claimsFrom, hctx]
  exact hk

end fits

/-! ### Team -/

section team

variable (claims : AccessClaims) (rc : RequestContext)

theorem fits_teamList : Team.list.Only (Fits (.requires .superAdmin .read) claims) := by
  refine .step (.need (.head _) rfl rfl) fun r => ?_
  cases r with
  | error e => trivial
  | ok all => trivial

theorem fits_inviteFree (email : String) (role : Role) :
    (Team.inviteFree claims email role rc).Only (Fits (.requires .superAdmin .create) claims) := by
  refine .bind fits_secureToken fun token => ?_
  cases token with
  | error e => trivial
  | ok rawToken =>
      refine .step (.plain rfl rfl rfl) fun now => ?_
      refine .step (.named (.head _) rfl rfl) fun r => ?_
      cases r with
      | error e => trivial
      | ok inv => exact .bind (fits_writeAudit rfl) fun _ => trivial

theorem fits_invite (email : String) (role : Role) :
    (Team.invite claims email role rc).Only (Fits (.requires .superAdmin .create) claims) := by
  unfold Team.invite
  split
  · trivial
  · refine .step (.plain rfl rfl rfl) fun r => ?_
    cases r with
    | ok user => trivial
    | error e =>
        dsimp only
        split
        · trivial
        · refine .step (.need (.head _) rfl rfl) fun r => ?_
          cases r with
          | error e => trivial
          | ok pending =>
              dsimp only
              split
              · trivial
              · exact fits_inviteFree claims rc email role

theorem fits_updateRole (memberID : UUID) (role : Role) :
    (Team.updateRole claims memberID role rc).Only (Fits (.requires .superAdmin .update) claims) := by
  unfold Team.updateRole
  split
  · trivial
  · refine .step (.plain rfl rfl rfl) fun r => ?_
    cases r with
    | error e => trivial
    | ok member =>
        dsimp only
        split
        · trivial
        · refine .step (.need (.head _) rfl rfl) fun r => ?_
          cases r with
          | error e => trivial
          | ok updated =>
              exact .step (.plain rfl rfl rfl) fun now => .bind (fits_writeAudit rfl) fun _ => trivial

theorem fits_revoke (memberID : UUID) :
    (Team.revoke claims memberID rc).Only (Fits (.requires .superAdmin .delete) claims) := by
  refine .step (.plain rfl rfl rfl) fun r => ?_
  cases r with
  | error e => trivial
  | ok member =>
      dsimp only
      split
      · trivial
      · refine .step (.plain rfl rfl rfl) fun now => ?_
        refine .step (.need (.head _) rfl rfl) fun r => ?_
        cases r with
        | error e => trivial
        | ok suspended =>
            refine .step (.need (.head _) rfl rfl) fun r => ?_
            cases r with
            | error e => trivial
            | ok _ => exact .bind (fits_writeAudit rfl) fun _ => trivial

theorem fits_saveTemplate (body : String) :
    (Settings.saveTemplate claims body rc).Only (Fits (.requires .settings .update) claims) := by
  refine .step (.plain rfl rfl rfl) fun now => ?_
  refine .step (.named (.head _) rfl rfl) fun r => ?_
  cases r with
  | error e => trivial
  | ok tpl => exact .bind (fits_writeAudit rfl) fun _ => trivial

end team

/-! ### Clients -/

section clients

variable (claims : AccessClaims) (rc : RequestContext) {access : Access}

theorem fits_activationCode : Tenant.generateActivationCode.Only (Fits access claims) := by
  have hgroup : ∀ site, (Tenant.randomAlphabetString site).Only (Fits access claims) := by
    intro site
    refine .step (.plain rfl rfl rfl) fun r => ?_
    cases r with
    | error e => trivial
    | ok b => trivial
  refine .bind (hgroup _) fun group => ?_
  cases group with
  | error e => trivial
  | ok group =>
      refine .bind (hgroup _) fun group2 => ?_
      cases group2 with
      | error e => trivial
      | ok group2 => trivial

theorem fits_tenantEntry (action : AuditAction) (tenant : Tenant) (extra : List (String × String)) :
    (Tenant.writeAudit claims action tenant rc extra).Only (Fits access claims) :=
  .step (.plain rfl rfl rfl) fun _ => fits_writeAudit rfl

theorem fits_tenantCreate (input : NewTenant) :
    (Tenant.create claims input rc).Only (Fits (.requires .tenant .create) claims) := by
  unfold Tenant.create
  split
  · trivial
  · refine .step (.plain rfl rfl rfl) fun now => .bind (fits_activationCode claims) fun code => ?_
    cases code with
    | error e => trivial
    | ok code =>
        refine .step (.need (.head _) rfl rfl) fun r => ?_
        cases r with
        | error e => trivial
        | ok tenant => exact .bind (fits_tenantEntry claims rc _ _ _) fun _ => trivial

theorem fits_tenantSuspend (id : UUID) (reason : String) :
    (Tenant.suspend claims id reason rc).Only (Fits (.requires .tenant .suspend) claims) := by
  unfold Tenant.suspend
  split
  · trivial
  · refine .step (.need (.head _) rfl rfl) fun r => ?_
    cases r with
    | error e => trivial
    | ok tenant => exact .bind (fits_tenantEntry claims rc _ _ _) fun _ => trivial

theorem fits_tenantResume (id : UUID) :
    (Tenant.resume claims id rc).Only (Fits (.requires .tenant .suspend) claims) := by
  refine .step (.need (.head _) rfl rfl) fun r => ?_
  cases r with
  | error e => trivial
  | ok tenant => exact .bind (fits_tenantEntry claims rc _ _ _) fun _ => trivial

theorem fits_issueActivationCode (id : UUID) :
    (Tenant.issueActivationCode claims id rc).Only (Fits (.requires .tenant .update) claims) := by
  refine .bind (fits_activationCode claims) fun code => ?_
  cases code with
  | error e => trivial
  | ok code =>
      refine .step (.plain rfl rfl rfl) fun now => ?_
      refine .step (.need (.head _) rfl rfl) fun r => ?_
      cases r with
      | error e => trivial
      | ok tenant => exact .bind (fits_tenantEntry claims rc _ _ _) fun _ => trivial

theorem fits_tenantDelete (id : UUID) :
    (Tenant.delete claims id rc).Only (Fits (.requires .tenant .delete) claims) := by
  refine .step (.need (.tail _ (.head _)) rfl rfl) fun r => ?_
  cases r with
  | error e => trivial
  | ok tenant =>
      refine .step (.need (.head _) rfl rfl) fun r => ?_
      cases r with
      | error e => trivial
      | ok _ => exact .bind (fits_tenantEntry claims rc _ _ _) fun _ => trivial

/-- The card of a client, behind any permission for clients that may read it. -/
theorem fits_tenantDetail {act : Action} (hact : act ∈ [Action.read, .create, .suspend, .update])
    (t : Tenant) :
    (Handler.Tenant.toTenantDetailResponse t).Only (Fits (.requires .tenant act) claims) := by
  refine .step (.need ?_ rfl rfl) fun r => trivial
  simp only [List.mem_cons, List.not_mem_nil, or_false] at hact
  rcases hact with rfl | rfl | rfl | rfl <;> simp [Op.demands]

/-! ### Tickets -/

/-- The entry about a ticket, which names its client. -/
theorem fits_ticketEntry {act : Action} (hact : act = .create ∨ act = .update) (action : AuditAction)
    (ticket : Ticket) (extra : List (String × String)) :
    (Ticket.writeAudit claims action ticket rc extra).Only (Fits (.requires .supportTicket act) claims) := by
  refine .step (.need ?_ rfl rfl) fun tenant => .step (.plain rfl rfl rfl) fun now => fits_writeAudit rfl
  rcases hact with rfl | rfl <;> simp [Op.demands]

theorem fits_reply (ticketID : UUID) (body : String) :
    (Ticket.reply claims ticketID body rc).Only (Fits (.requires .supportTicket .create) claims) := by
  unfold Ticket.reply
  split
  · trivial
  · refine .step (.need (.tail _ (.head _)) rfl rfl) fun r => ?_
    cases r with
    | error e => trivial
    | ok found =>
        refine .step (.plain rfl rfl rfl) fun user => ?_
        refine .step (.named (.head _) rfl rfl) fun r => ?_
        cases r with
        | error e => trivial
        | ok message => exact .bind (fits_ticketEntry claims rc (.inl rfl) _ _ _) fun _ => trivial

theorem fits_assignToSelf (ticketID : UUID) :
    (Ticket.assignToSelf claims ticketID rc).Only (Fits (.requires .supportTicket .update) claims) := by
  refine .step (.named (.head _) rfl rfl) fun r => ?_
  cases r with
  | error e => trivial
  | ok ticket => exact .bind (fits_ticketEntry claims rc (.inr rfl) _ _ _) fun _ => trivial

theorem fits_updateStatus (ticketID : UUID) (status : TicketStatus) :
    (Ticket.updateStatus claims ticketID status rc).Only
      (Fits (.requires .supportTicket .update) claims) := by
  unfold Ticket.updateStatus
  split
  · trivial
  · refine .step (.need (.head _) rfl rfl) fun r => ?_
    cases r with
    | error e => trivial
    | ok ticket => exact .bind (fits_ticketEntry claims rc (.inr rfl) _ _ _) fun _ => trivial

theorem fits_updatePriority (ticketID : UUID) (priority : TicketPriority) :
    (Ticket.updatePriority claims ticketID priority rc).Only
      (Fits (.requires .supportTicket .update) claims) := by
  unfold Ticket.updatePriority
  split
  · trivial
  · refine .step (.need (.head _) rfl rfl) fun r => ?_
    cases r with
    | error e => trivial
    | ok ticket => exact .bind (fits_ticketEntry claims rc (.inr rfl) _ _ _) fun _ => trivial

theorem fits_lookups {act : Action} (hact : act = .read ∨ act = .update) :
    Handler.Ticket.buildLookups.Only (Fits (.requires .supportTicket act) claims) := by
  refine .step (.need ?_ rfl rfl) fun r => ?_
  · rcases hact with rfl | rfl <;> simp [Op.demands]
  · cases r with
    | error e => trivial
    | ok users =>
        refine .step (.need ?_ rfl rfl) fun r => ?_
        · rcases hact with rfl | rfl <;> simp [Op.demands]
        · cases r with
          | error e => trivial
          | ok tenants => trivial

theorem fits_changed (res : Except Error Ticket) :
    (Handler.Ticket.changed res).Only (Fits (.requires .supportTicket .update) claims) :=
  fits_respond fun _ => .bind (fits_lookups claims (.inr rfl)) fun _ => fits_respond fun _ => trivial

theorem fits_threads (l : Handler.Ticket.Lookups) (summaries : List Ticket) :
    (Handler.Ticket.threads l summaries).Only (Fits (.requires .supportTicket .read) claims) := by
  induction summaries with
  | nil => trivial
  | cons summary rest ih =>
      refine .step (.need (.head _) rfl rfl) fun r => ?_
      cases r with
      | error e => trivial
      | ok found =>
          refine .bind ih fun out => ?_
          cases out with
          | error e => trivial
          | ok out => trivial

/-! ### Overview -/

theorem fits_overview : Overview.get.Only (Fits (.requires .metrics .read) claims) := by
  refine .step (.need (.tail _ (.tail _ (.tail _ (.head _)))) rfl rfl) fun r => ?_
  cases r with
  | error e => trivial
  | ok tenants =>
      refine .step (.need (.tail _ (.head _)) rfl rfl) fun r => ?_
      cases r with
      | error e => trivial
      | ok tickets =>
          refine .step (.plain rfl rfl rfl) fun now => ?_
          refine .step (.need (.tail _ (.head _)) rfl rfl) fun r => ?_
          cases r with
          | error e => trivial
          | ok page => trivial

end clients

/-! ### The handlers behind the middleware -/

/-- A handler behind `Auth` calls what the permission of its route is for. -/
theorem handle_fits {ctx : Context} {claims : AccessClaims} (hctx : ctx.claims = some claims)
    (haccess : req.route.access ≠ .anyone) :
    (handle d web req ctx).Only (Fits req.route.access claims) := by
  unfold handle
  cases hroute : req.route with
  | login | refresh | logout =>
      rw [hroute] at haccess
      exact absurd rfl haccess
  | me =>
      exact fits_claimsFrom hctx (.step (.plain rfl rfl rfl) fun _ => fits_respond fun _ => trivial)
  | teamList =>
      exact fits_claimsFrom hctx (.bind (fits_teamList claims) fun _ => fits_respond fun _ => trivial)
  | teamInvite =>
      exact fits_withInput fun input => fits_claimsFrom hctx
        (.bind (fits_invite claims req.context _ _) fun _ => fits_respond fun _ => trivial)
  | teamUpdateRole =>
      exact fits_withInput fun memberID => fits_withInput fun role => fits_claimsFrom hctx
        (.bind (fits_updateRole claims req.context _ _) fun _ => fits_respond fun _ => trivial)
  | teamRevoke =>
      exact fits_withInput fun memberID => fits_claimsFrom hctx
        (.bind (fits_revoke claims req.context _) fun _ => fits_respond fun _ => trivial)
  | journalList =>
      exact fits_respond fun filter => .step (.need (.head _) rfl rfl) fun _ => fits_respond fun page =>
        .step (.need (.tail _ (.tail _ (.tail _ (.head _)))) rfl rfl) fun _ =>
          fits_respond fun _ => trivial
  | settingsGet =>
      exact .step (.need (.head _) rfl rfl) fun _ => fits_respond fun _ => trivial
  | settingsSaveTemplate =>
      exact fits_withInput fun text => fits_claimsFrom hctx
        (.bind (fits_saveTemplate claims req.context _) fun _ => fits_respond fun _ => trivial)
  | overview => exact .bind (fits_overview claims) fun _ => fits_respond fun _ => trivial
  | tenantList => exact .step (.need (.head _) rfl rfl) fun _ => fits_respond fun _ => trivial
  | tenantCreate =>
      exact fits_withInput fun input => fits_claimsFrom hctx
        (.bind (fits_tenantCreate claims req.context _) fun _ => fits_respond fun tenant =>
          (fits_tenantDetail claims (by decide) tenant).map _)
  | tenantEmailTaken =>
      dsimp only
      unfold Handler.Tenant.emailTaken
      split
      · trivial
      · exact .step (.need (.head _) rfl rfl) fun _ => fits_respond fun _ => trivial
  | tenantGet =>
      exact fits_withInput fun id => .step (.need (.head _) rfl rfl) fun _ => fits_respond fun tenant =>
        (fits_tenantDetail claims (by decide) tenant).map _
  | tenantTickets =>
      exact fits_withInput fun tenantID => .step (.need (.head _) rfl rfl) fun _ =>
        fits_respond fun summaries => .bind (fits_lookups claims (.inl rfl)) fun _ =>
          fits_respond fun l => .bind (fits_threads claims l summaries) fun _ => fits_respond fun _ => trivial
  | tenantJournal =>
      exact fits_withInput fun id => .step (.need (.tail _ (.head _)) rfl rfl) fun _ =>
        fits_respond fun _ => trivial
  | tenantSuspend =>
      exact fits_withInput fun id => fits_withInput fun reason => fits_claimsFrom hctx
        (.bind (fits_tenantSuspend claims req.context _ _) fun _ => fits_respond fun tenant =>
          (fits_tenantDetail claims (by decide) tenant).map _)
  | tenantResume =>
      exact fits_withInput fun id => fits_claimsFrom hctx
        (.bind (fits_tenantResume claims req.context _) fun _ => fits_respond fun tenant =>
          (fits_tenantDetail claims (by decide) tenant).map _)
  | tenantIssueCode =>
      exact fits_withInput fun id => fits_claimsFrom hctx
        (.bind (fits_issueActivationCode claims req.context _) fun _ => fits_respond fun tenant =>
          (fits_tenantDetail claims (by decide) tenant).map _)
  | tenantDelete =>
      exact fits_withInput fun id => fits_claimsFrom hctx
        (.bind (fits_tenantDelete claims req.context _) fun _ => fits_respond fun _ => trivial)
  | ticketList =>
      exact fits_respond fun filter => .step (.need (.head _) rfl rfl) fun _ => fits_respond fun _ =>
        .bind (fits_lookups claims (.inl rfl)) fun _ => fits_respond fun _ => trivial
  | ticketGet =>
      exact fits_withInput fun id => .step (.need (.head _) rfl rfl) fun _ => fits_respond fun _ =>
        .bind (fits_lookups claims (.inl rfl)) fun _ => fits_respond fun _ => trivial
  | ticketReply =>
      exact fits_withInput fun id => fits_withInput fun text => fits_claimsFrom hctx
        (.bind (fits_reply claims req.context _ _) fun _ => fits_respond fun _ => trivial)
  | ticketAssign =>
      exact fits_withInput fun id => fits_claimsFrom hctx
        (.bind (fits_assignToSelf claims req.context _) fun res => fits_changed claims res)
  | ticketUpdateStatus =>
      exact fits_withInput fun id => fits_withInput fun status => fits_claimsFrom hctx
        (.bind (fits_updateStatus claims req.context _ _) fun res => fits_changed claims res)
  | ticketUpdatePriority =>
      exact fits_withInput fun id => fits_withInput fun priority => fits_claimsFrom hctx
        (.bind (fits_updatePriority claims req.context _ _) fun res => fits_changed claims res)

/-! ### Sign-in, renewal and sign-out -/

section signIn

variable {l : List (Effects.Answered Eff)}

/-- A call that needs no permit. -/
theorem allowed_plain {op : Op} (hdemands : op.demands = []) (hauthor : op.author = none)
    (hopens : op.opens = none) : Allowed d web req l op := by
  refine ⟨fun h => absurd hdemands h, fun a ha => ?_, fun u s hs => ?_⟩
  · rw [hauthor] at ha
    cases ha
  · rw [hopens] at hs
    cases hs

/-- The making of a token for whoever has shown that this is due. -/
theorem allowed_opens {op : Op} {u s : UUID} (hdemands : op.demands = []) (hauthor : op.author = none)
    (hopens : op.opens = some (u, s)) (hproved : Proved d web req l u s) : Allowed d web req l op := by
  refine ⟨fun h => absurd hdemands h, fun a ha => ?_, fun u' s' hs => ?_⟩
  · rw [hauthor] at ha
    cases ha
  · rw [hopens] at hs
    cases hs
    exact hproved

theorem mediated_signInEntry {e : AuditEntry} (action : AuditAction) (haction : action ∈ signInActions)
    (he : e.action = action.string) :
    (writeAudit e).Mediated (permits d web req) (fun _ _ => True) l := by
  have hmem : e.action ∈ signInActions.map AuditAction.string := by
    rw [he]
    exact List.mem_map_of_mem haction
  exact .step (allowed_plain rfl (if_pos hmem) rfl) fun _ => trivial

theorem mediated_secureToken :
    generateSecureToken.Mediated (permits d web req) (fun _ l' => ∃ l₁, l' = l ++ l₁) l := by
  refine .step (allowed_plain rfl rfl rfl) fun r => ?_
  cases r with
  | error e => exact ⟨_, rfl⟩
  | ok b => exact ⟨_, rfl⟩

theorem Proved.append {u s : UUID} (h : Proved d web req l u s) (l' : List (Effects.Answered Eff)) :
    Proved d web req (l ++ l') u s := by
  induction l' generalizing l with
  | nil =>
      rw [List.append_nil]
      exact h
  | cons c l' ih =>
      rw [List.append_cons]
      exact ih (h.grow c)

/-- A pair is made for whoever has shown that it is due. -/
theorem mediated_issuePair {user : SuperAdminUser} {sessionID : UUID} {now : Time}
    (hproved : Proved d web req l user.id sessionID) :
    (Auth.issuePairWithID d user sessionID req.context now).Mediated (permits d web req)
      (fun _ _ => True) l := by
  refine .step (allowed_plain rfl rfl rfl) fun tokenID => ?_
  refine .step (allowed_opens rfl rfl rfl (hproved.grow _)) fun r => ?_
  cases r with
  | error e => trivial
  | ok access =>
      refine .bind mediated_secureToken fun token l' hl => ?_
      obtain ⟨l₁, rfl⟩ := hl
      cases token with
      | error e => trivial
      | ok rawRefresh =>
          refine .step (allowed_plain rfl rfl rfl) fun id => ?_
          refine .step (allowed_opens rfl rfl rfl ((((hproved.grow _).grow _).append l₁).grow _)) fun r => ?_
          cases r with
          | error e => trivial
          | ok record => trivial

/-- What the provider has looked at when it returns a user. -/
theorem mediated_authenticate (creds : Credentials) :
    (Password.authenticate d creds).Mediated (permits d web req) (fun r l' => (∃ l₁, l' = l ++ l₁) ∧
      ∀ user, r = .ok user → d.hasher.verify creds.password user.passwordHash = .ok true ∧
        (⟨.users (.getByEmail (Password.normalizeEmail d creds.email)), .ok user⟩ :
          Effects.Answered Eff) ∈ l') l := by
  refine .step (allowed_plain rfl rfl rfl) fun r => ?_
  cases r with
  | error e =>
      dsimp only
      split
      · exact ⟨⟨_, rfl⟩, fun user h => by cases h⟩
      · exact ⟨⟨_, rfl⟩, fun user h => by cases h⟩
  | ok user =>
      dsimp only
      split
      · exact ⟨⟨_, rfl⟩, fun user h => by cases h⟩
      · rename_i ok hverify
        split
        · exact ⟨⟨_, rfl⟩, fun user h => by cases h⟩
        · rename_i hok
          refine ⟨⟨_, rfl⟩, fun user' h => ?_⟩
          cases h
          rw [Bool.not_eq_true, Bool.not_eq_false'] at hok
          rw [hok] at hverify
          exact ⟨hverify, List.mem_append_right _ (.head _)⟩

theorem mediated_loginRefused (user : Option SuperAdminUser) (creds : Credentials) (now : Time) :
    (Auth.loginRefused d user creds req.context now).Mediated (permits d web req) (fun _ _ => True) l := by
  have hentry : ∀ l, (writeAudit (Auth.loginFailure none creds.email "invalid_credentials" req.context
      now)).Mediated (permits d web req) (fun _ _ => True) l :=
    fun l => mediated_signInEntry .loginFailure (by decide) rfl
  have hrest : ∀ l, (do
      writeAudit (Auth.loginFailure none creds.email "invalid_credentials" req.context now)
      return .error (.sentinel .invalidCredentials) : Proc (Except Error (TokenPair × SuperAdminUser))).Mediated
        (permits d web req) (fun _ _ => True) l :=
    fun l => .bind (hentry l) fun _ _ _ => trivial
  cases user with
  | none => exact hrest l
  | some user =>
      refine .step (allowed_plain rfl rfl rfl) fun r => ?_
      cases r with
      | error e => trivial
      | ok _ => exact hrest _

theorem mediated_loginUser {input : LoginRequest} {user : SuperAdminUser} {now : Time}
    (hinput : req.route = .login ∧ bindLogin web req = some input)
    (huser : (⟨.users (.getByEmail (Password.normalizeEmail d input.email)), .ok user⟩ :
      Effects.Answered Eff) ∈ l)
    (hpassword : d.hasher.verify input.password user.passwordHash = .ok true)
    (hnow : (⟨.now, now⟩ : Effects.Answered Eff) ∈ l) :
    (Auth.loginUser d user req.context now).Mediated (permits d web req) (fun _ _ => True) l := by
  unfold Auth.loginUser
  cases hlogin : user.ensureCanLogin now with
  | some e => exact .bind (mediated_signInEntry .loginFailure (by decide) rfl) fun _ _ _ => trivial
  | none =>
      refine .step (allowed_plain rfl rfl rfl) fun r => ?_
      cases r with
      | error e => trivial
      | ok _ =>
          refine .step (allowed_plain rfl rfl rfl) fun sessionID => ?_
          have hproved : ∀ c, Proved d web req (l ++ [c] ++ [⟨.newUUID .session, sessionID⟩]) user.id
              sessionID := fun c =>
            .password input user now sessionID hinput
              (List.mem_append_left _ (List.mem_append_left _ huser)) hpassword
              (List.mem_append_left _ (List.mem_append_left _ hnow)) hlogin
              (List.mem_append_right _ (.head _))
          refine .bind (R := fun _ _ => True) (.bind (mediated_issuePair (hproved _)) fun p _ _ => ?_)
            fun pair _ _ => ?_
          · cases p with
            | error e => trivial
            | ok p => trivial
          · cases pair with
            | error e => trivial
            | ok pair => exact .bind (mediated_signInEntry .loginSuccess (by decide) rfl) fun _ _ _ => trivial

theorem mediated_login {input : LoginRequest}
    (hinput : req.route = .login ∧ bindLogin web req = some input) :
    (Auth.login d ⟨input.email, input.password⟩ req.context).Mediated (permits d web req)
      (fun _ _ => True) l := by
  refine .step (allowed_plain rfl rfl rfl) fun now => ?_
  refine .bind (mediated_authenticate _) fun r l' hr => ?_
  obtain ⟨⟨l₁, rfl⟩, hr⟩ := hr
  cases r with
  | error ue =>
      dsimp only
      split
      · exact mediated_loginRefused _ _ now
      · trivial
  | ok user =>
      obtain ⟨hpassword, huser⟩ := hr user rfl
      exact mediated_loginUser hinput huser hpassword
        (List.mem_append_left _ (List.mem_append_right _ (.head _)))

/-- A refresh with a token that is still good. -/
theorem mediated_refreshUsable {raw : String} {stored : RefreshToken} {now : Time}
    (hcookie : req.route = .refresh ∧ req.cookie = some raw)
    (hstored : (⟨.tokens (.getByHash (hashToken raw)), .ok stored⟩ : Effects.Answered Eff) ∈ l)
    (hnow : (⟨.now, now⟩ : Effects.Answered Eff) ∈ l) (husable : stored.isUsable now = true) :
    (Auth.refreshUsable d stored req.context now).Mediated (permits d web req) (fun _ _ => True) l := by
  refine .step (allowed_plain rfl rfl rfl) fun r => ?_
  cases r with
  | error e => trivial
  | ok user =>
      dsimp only
      cases hlogin : user.ensureCanLogin now with
      | some e =>
          refine .step (allowed_plain rfl rfl rfl) fun r => ?_
          cases r with
          | error e => trivial
          | ok _ => trivial
      | none =>
          have hproved : Proved d web req (l ++ [⟨.users (.getByID stored.userID), .ok user⟩]) user.id
              stored.sessionID :=
            .token raw stored user now hcookie (List.mem_append_left _ hstored)
              (List.mem_append_left _ hnow) husable (List.mem_append_right _ (.head _)) hlogin
          refine .bind (mediated_issuePair hproved) fun p _ _ => ?_
          cases p with
          | error e => trivial
          | ok p =>
              refine .step (allowed_plain rfl rfl rfl) fun r => ?_
              cases r with
              | error e => trivial
              | ok _ => exact .bind (mediated_signInEntry .tokenRefresh (by decide) rfl) fun _ _ _ => trivial

theorem mediated_refresh {raw : String} (hcookie : req.route = .refresh ∧ req.cookie = some raw) :
    (Auth.refresh d raw req.context).Mediated (permits d web req) (fun _ _ => True) l := by
  refine .step (allowed_plain rfl rfl rfl) fun now => ?_
  refine .step (allowed_plain rfl rfl rfl) fun r => ?_
  cases r with
  | error e => trivial
  | ok stored =>
      dsimp only
      by_cases hdead : (stored.isUsed || stored.isRevoked) = true
      · rw [if_pos hdead]
        refine .step (allowed_plain rfl rfl rfl) fun r => ?_
        cases r with
        | error e => trivial
        | ok _ => exact .bind (mediated_signInEntry .tokenReuse (by decide) rfl) fun _ _ _ => trivial
      · rw [if_neg hdead]
        by_cases hexpired : stored.isExpired now = true
        · rw [if_pos hexpired]
          trivial
        · rw [if_neg hexpired]
          rw [Bool.not_eq_true, Bool.or_eq_false_iff] at hdead
          rw [Bool.not_eq_true] at hexpired
          refine mediated_refreshUsable hcookie (List.mem_append_right _ (.head _))
            (List.mem_append_left _ (List.mem_append_right _ (.head _))) ?_
          simp [RefreshToken.isUsable, hdead.1, hdead.2, hexpired]

theorem mediated_logoutSession (sessionID : UUID) (claims : Option AccessClaims) (now : Time) :
    (Auth.logoutSession sessionID claims req.context now).Mediated (permits d web req)
      (fun _ _ => True) l := by
  have haccess : ∀ l, (Auth.logoutAccess sessionID claims req.context now).Mediated (permits d web req)
      (fun _ _ => True) l := by
    intro l
    cases claims with
    | none => trivial
    | some claims =>
        refine .bind (R := fun _ _ => True) ?_ fun r l' _ => ?_
        · unfold Auth.listAlive
          split
          · exact .step (allowed_plain rfl rfl rfl) fun _ => trivial
          · trivial
        · cases r with
          | error e => trivial
          | ok _ => exact .bind (mediated_signInEntry .logout (by decide) rfl) fun _ _ _ => trivial
  refine .bind (R := fun _ _ => True) ?_ fun r l' _ => ?_
  · unfold Auth.revokeKnown
    split
    · exact .step (allowed_plain rfl rfl rfl) fun _ => trivial
    · trivial
  · cases r with
    | error e => trivial
    | ok _ => exact haccess _

theorem mediated_logout (refreshToken : String) (claims : Option AccessClaims) :
    (Auth.logout refreshToken claims req.context).Mediated (permits d web req) (fun _ _ => True) l := by
  refine .step (allowed_plain rfl rfl rfl) fun now => ?_
  dsimp only
  split
  · exact mediated_logoutSession _ claims now
  · refine .step (allowed_plain rfl rfl rfl) fun r => ?_
    cases r with
    | ok stored => exact mediated_logoutSession _ claims now
    | error e =>
        dsimp only
        split
        · exact mediated_logoutSession _ claims now
        · trivial

end signIn

/-! ### Requests -/

/-- What the middleware has seen of a request that it lets pass. -/
def Passed (req : Request) (access : Access) (r : Except Response Context)
    (l : List (Effects.Answered Eff)) : Prop :=
  ∀ ctx, r = .ok ctx → access ≠ .anyone → ∃ claims, ctx.claims = some claims ∧ Verified req l claims ∧
    ∀ res act, access = .requires res act →
      Authz.can ⟨claims.userID.string, claims.role⟩ res act = true

theorem mediated_auth {l : List (Effects.Answered Eff)} :
    (Middleware.auth req).Mediated (permits d web req) (fun r l' => ∀ ctx, r = .ok ctx →
      ∃ claims, ctx.claims = some claims ∧ Verified req l' claims ∧
        ctx.subject = some ⟨claims.userID.string, claims.role⟩) l := by
  have hrefused : ∀ (resp : Response) (l' : List (Effects.Answered Eff)), ∀ ctx,
      (.error resp : Except Response Context) = .ok ctx → ∃ claims, ctx.claims = some claims ∧
        Verified req l' claims ∧ ctx.subject = some ⟨claims.userID.string, claims.role⟩ := by
    intro resp l' ctx h
    cases h
  unfold Middleware.auth
  cases htoken : Middleware.bearerToken req.authorization with
  | none => exact hrefused _ l
  | some raw =>
      refine .step (allowed_plain rfl rfl rfl) fun r => ?_
      cases r with
      | error e => exact hrefused _ _
      | ok claims =>
          refine .step (allowed_plain rfl rfl rfl) fun r => ?_
          cases r with
          | error e => exact hrefused _ _
          | ok revoked =>
              cases revoked with
              | true => exact hrefused _ _
              | false =>
                  intro ctx h
                  cases h
                  refine ⟨claims, rfl, ⟨⟨raw, htoken, ?_⟩, ?_⟩, rfl⟩
                  · exact List.mem_append_left _ (List.mem_append_right _ (.head _))
                  · exact List.mem_append_right _ (.head _)

theorem mediated_middleware {l : List (Effects.Answered Eff)} (access : Access) :
    (middleware req access).Mediated (permits d web req) (Passed req access) l := by
  cases access with
  | anyone => exact fun ctx h hne => absurd rfl hne
  | authenticated =>
      refine mediated_auth.mono fun r l' hr ctx hctx _ => ?_
      obtain ⟨claims, hclaims, hverified, -⟩ := hr ctx hctx
      exact ⟨claims, hclaims, hverified, fun res act h => by cases h⟩
  | requires res act =>
      refine .bind mediated_auth fun r l' hr => ?_
      cases r with
      | error resp => exact fun ctx h => by cases h
      | ok ctx =>
          obtain ⟨claims, hclaims, hverified, hsubject⟩ := hr ctx rfl
          dsimp only
          unfold Middleware.require Authz.authorize
          rw [hsubject]
          dsimp only
          by_cases hcan : Authz.can ⟨claims.userID.string, claims.role⟩ res act = true
          · rw [if_pos hcan]
            intro ctx' h _
            cases h
            refine ⟨claims, hclaims, hverified, fun res' act' h => ?_⟩
            cases h
            exact hcan
          · rw [if_neg hcan]
            exact fun ctx h => by cases h

/-- The routes that are open to everyone. -/
theorem mediated_open {l : List (Effects.Answered Eff)} {ctx : Context}
    (haccess : req.route.access = .anyone) :
    (handle d web req ctx).Mediated (permits d web req) (fun _ _ => True) l := by
  unfold handle
  cases hroute : req.route with
  | login =>
      dsimp only
      unfold Handler.Auth.login
      cases hinput : bindLogin web req with
      | none => trivial
      | some input =>
          refine .bind (mediated_login ⟨hroute, hinput⟩) fun res _ _ => ?_
          cases res with
          | error e => trivial
          | ok pair => trivial
  | refresh =>
      dsimp only
      unfold Handler.Auth.refresh
      cases hcookie : req.cookie with
      | none => trivial
      | some raw =>
          dsimp only
          split
          · trivial
          · refine .bind (mediated_refresh ⟨hroute, hcookie⟩) fun res _ _ => ?_
            cases res with
            | error e => dsimp only; split <;> trivial
            | ok pair => trivial
  | logout =>
      refine .bind (mediated_logout _ _) fun res _ _ => ?_
      cases res with
      | error e => trivial
      | ok _ => trivial
  | _ =>
      rw [hroute] at haccess
      cases haccess

/-- The server is mediated. -/
theorem mediated_serve : (serve d web req).Mediated (permits d web req) (fun _ _ => True) [] := by
  refine .bind (mediated_middleware _) fun r l hr => ?_
  cases r with
  | error resp => trivial
  | ok ctx =>
      by_cases haccess : req.route.access = .anyone
      · exact mediated_open haccess
      · obtain ⟨claims, hclaims, hverified, hcan⟩ := hr ctx rfl haccess
        refine (handle_fits hclaims haccess).mediated fun op hop => ⟨fun hdemands => ?_, fun a ha => ?_, ?_⟩
        · obtain ⟨p, hp, hrequires⟩ := hop.demands hdemands
          exact ⟨claims, hverified, p, hp, hcan _ _ hrequires⟩
        · exact ⟨claims, hverified, hop.author a ha⟩
        · intro u s hopens
          rw [hop.opens] at hopens
          cases hopens

/-! ### Runs of the server -/

variable {ι : Type} [DecidableEq ι]

/-- Requests that are served beside each other, before the first call. -/
def serverPool (d : Deps) (web : Web) (requests : ι → Request) (w : World d) :
    Pool Eff (Recorded Eff (World d) ι) ι Response := ⟨⟨w, []⟩, fun i => serve d web (requests i)⟩

variable {draws : ι → Draws} {requests : ι → Request} {w : World d}
  {P : Pool Eff (Recorded Eff (World d) ι) ι Response} {newer older : List (Event Eff (World d) ι)}
  {e : Event Eff (World d) ι}

theorem run_allowed (hr : Pool.Run (record fun i => exec d (draws i)) (recordEnv Ticks) (fun _ _ _ => True)
      (serverPool d web requests w) P)
    (htrace : P.state.trace = newer ++ e :: older) :
    Allowed d web (requests e.tid) (calls (fun i => exec d (draws i)) e.tid older) e.op :=
  (hr.permitted (M := fun i => permits d web (requests i)) rfl fun _ => mediated_serve).split htrace

/-- Whenever the server makes a call that demands a permission, the request for which it does has had its token
accepted and found off the revocation list, and the policy grants the role of that token a permission that the
call needs. -/
theorem every_call_authorised
    (hr : Pool.Run (record fun i => exec d (draws i)) (recordEnv Ticks) (fun _ _ _ => True)
      (serverPool d web requests w) P)
    (htrace : P.state.trace = newer ++ e :: older) (hdemands : e.op.demands ≠ []) :
    ∃ claims, Verified (requests e.tid) (calls (fun i => exec d (draws i)) e.tid older) claims ∧
      ∃ p ∈ e.op.demands, Authz.can ⟨claims.userID.string, claims.role⟩ p.1 p.2 = true :=
  (run_allowed hr htrace).demands hdemands

/-- Whoever a row or an entry names as its author is the user of the token that the request had verified:
no request acts in the name of another user. -/
theorem authors_are_verified
    (hr : Pool.Run (record fun i => exec d (draws i)) (recordEnv Ticks) (fun _ _ _ => True)
      (serverPool d web requests w) P)
    (htrace : P.state.trace = newer ++ e :: older) {author : Option UUID}
    (hauthor : e.op.author = some author) :
    ∃ claims, Verified (requests e.tid) (calls (fun i => exec d (draws i)) e.tid older) claims ∧
      author = some claims.userID :=
  (run_allowed hr htrace).author author hauthor

/-- Whenever the server signs an access token or stores a refresh token for a user and a session, the
request has sent the password of an account that may log in, or a refresh token of that session that was
neither used nor revoked nor expired when the server looked at it, of an account that may still log in. -/
theorem tokens_are_earned
    (hr : Pool.Run (record fun i => exec d (draws i)) (recordEnv Ticks) (fun _ _ _ => True)
      (serverPool d web requests w) P)
    (htrace : P.state.trace = newer ++ e :: older) {userID sessionID : UUID}
    (hopens : e.op.opens = some (userID, sessionID)) :
    Proved d web (requests e.tid) (calls (fun i => exec d (draws i)) e.tid older) userID sessionID :=
  (run_allowed hr htrace).opens userID sessionID hopens

/-! ### Two requests of the owner -/

/-- What the token of the owner says. -/
def deskClaims : AccessClaims := Auth.accessClaims Sample.deps Sample.owner 17 18 Sample.start

/-- A library that signs and knows one token. -/
def deskLib : JwtLib where
  signedString _ _ _ := .ok "owner-token"
  parseUnverified token :=
    if token = "owner-token" then
      .ok (⟨algEdDSA, some "key-1"⟩, Sample.deps.issuer.codedClaims deskClaims)
    else .error (.foreign "token is malformed")
  verify _ _ := true

def desk : Deps := { Sample.deps with issuer := { Sample.deps.issuer with lib := deskLib } }

def deskWorld : World desk where
  clock := Sample.start
  redis := ⟨true, []⟩
  users := ⟨[Sample.owner, Sample.support], by decide⟩
  tokens := Table.empty
  invitations := Table.empty
  clients := ⟨Table.empty, Table.empty, Table.empty⟩
  templates := Table.empty
  audit := []

/-- The owner takes the access of the other member. -/
def revokeRequest : Request where
  route := .teamRevoke
  id := Sample.support.id.string
  authorization := "Bearer owner-token"
  ip := Sample.context.ip
  userAgent := Sample.context.userAgent

/-- The owner logs in. -/
def loginRequest : Request where
  route := .login
  body := some (.obj [("email", .str "owner@example.com"), ("password", .str "correct horse")])
  ip := Sample.context.ip
  userAgent := Sample.context.userAgent

/-- The first calls of a request. -/
def firstCalls (req : Request) (n : ℕ) : Pool Eff (Recorded Eff (World desk) (Fin 1)) (Fin 1) Response :=
  (serverPool desk ⟨fun _ => true⟩ (fun _ : Fin 1 => req) deskWorld).play
    (record fun _ => exec desk (Sample.draws 0)) (List.replicate n 0)

/-- A run whose last call is known has that call at the head of its trace. -/
theorem last_call (req : Request) (n : ℕ) {β : Type} (f : Op → β) {b : β}
    (h : ((firstCalls req n).state.trace.head?.map fun e => f e.op) = some b) :
    ∃ e older, (firstCalls req n).state.trace = [] ++ e :: older ∧ f e.op = b := by
  cases htrace : (firstCalls req n).state.trace with
  | nil =>
      rw [htrace] at h
      cases h
  | cons e older =>
      rw [htrace] at h
      exact ⟨e, older, rfl, Option.some.inj h⟩

/-- The suspension of the member needs the permission to delete from the team. -/
theorem every_call_authorised_revoke : ∃ older claims,
    Verified revokeRequest (calls (fun _ => exec desk (Sample.draws 0)) (0 : Fin 1) older) claims ∧
      Authz.can ⟨claims.userID.string, claims.role⟩ .superAdmin .delete = true := by
  obtain ⟨e, older, htrace, hdemands⟩ := last_call revokeRequest 5 Op.demands
    (b := [(.superAdmin, .delete)]) (by decide)
  obtain ⟨claims, hverified, p, hp, hcan⟩ := every_call_authorised (Pool.play_run _ _) htrace
    (hdemands ▸ by decide)
  rw [hdemands, List.mem_singleton] at hp
  rw [hp] at hcan
  exact ⟨older, claims, Fin.fin_one_eq_zero e.tid ▸ hverified, hcan⟩

/-- The entry about it names the owner. -/
theorem authors_are_verified_revoke : ∃ older claims,
    Verified revokeRequest (calls (fun _ => exec desk (Sample.draws 0)) (0 : Fin 1) older) claims ∧
      claims.userID = Sample.owner.id := by
  obtain ⟨e, older, htrace, hauthor⟩ := last_call revokeRequest 7 Op.author
    (b := some (some Sample.owner.id)) (by decide)
  obtain ⟨claims, hverified, hclaims⟩ := authors_are_verified (Pool.play_run _ _) htrace hauthor
  exact ⟨older, claims, Fin.fin_one_eq_zero e.tid ▸ hverified, (Option.some.inj hclaims).symm⟩

/-- The refresh token of a login. -/
theorem tokens_are_earned_login : ∃ older,
    Proved desk ⟨fun _ => true⟩ loginRequest (calls (fun _ => exec desk (Sample.draws 0)) (0 : Fin 1) older)
      Sample.owner.id ((Sample.draws 0).uuid .session) := by
  obtain ⟨e, older, htrace, hopens⟩ := last_call loginRequest 9 Op.opens
    (b := some (Sample.owner.id, (Sample.draws 0).uuid .session)) (by decide)
  exact ⟨older, Fin.fin_one_eq_zero e.tid ▸ tokens_are_earned (Pool.play_run _ _) htrace hopens⟩

end Mediation

end SuperAdmin
