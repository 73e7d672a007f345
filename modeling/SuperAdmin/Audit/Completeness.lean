import SuperAdmin.Access.Logout
import SuperAdmin.Access.Staleness
import SuperAdmin.Audit.Clients

/-! # Which requests are in the journal

A request that changes a row of a table writes one entry into the journal, with two exceptions.
`Logout` writes its entry only when it is called with claims, and the handler calls it without; and
`Refresh` revokes the session of a user who may no longer log in and writes nothing. -/

namespace SuperAdmin.Audit

open Effects Usecase Http

variable {d : Deps}

/-! ### Changes and entries -/

/-- The tables are the same; the journal is not one of them. -/
structure SameTables (w w' : World d) : Prop where
  users : w'.users = w.users
  tokens : w'.tokens = w.tokens
  invitations : w'.invitations = w.invitations
  clients : w'.clients = w.clients
  templates : w'.templates = w.templates

theorem SameTables.refl (w : World d) : SameTables w w := ⟨rfl, rfl, rfl, rfl, rfl⟩

/-- If a row has changed, exactly one entry has been written. -/
def Audits (w w' : World d) : Prop :=
  ¬ SameTables w w' → ∃ entry, w'.audit = w.audit ++ [entry]

theorem Audits.refl (w : World d) : Audits w w := fun h => absurd (.refl w) h

/-- A state in which an entry of a user was written last. -/
theorem audits_audited {w w₁ : World d} {entry : AuditEntry} (haudit : w₁.audit = w.audit)
    (hactor : entry.actorID.all w₁.hasUser = true) : Audits w (w₁.audited entry) := by
  intro _
  obtain ⟨written, hwritten⟩ := writeAudit_appends w₁ hactor
  exact ⟨written, by rw [World.audited, hwritten, haudit]⟩

/-- A change without an entry. -/
theorem not_audits {w w' : World d} (haudit : w'.audit = w.audit) (hchanged : w'.tokens ≠ w.tokens) :
    ¬ Audits w w' := by
  intro h
  obtain ⟨entry, hentry⟩ := h fun hsame => hchanged hsame.tokens
  rw [haudit] at hentry
  have hlength := congrArg List.length hentry
  rw [List.length_append, List.length_singleton] at hlength
  omega

/-- After a statement on behalf of a user, an entry of that user is written. -/
theorem audits_after {r : Draws} {w w₁ : World d} {op : Op} {entry : AuditEntry} {actor : UUID}
    (haudit : w₁.audit = w.audit) (hop : ∀ e, op ≠ .audit e) (hentry : entry.actorID = some actor)
    (hactor : w₁.hasUser actor = true) : Audits w ((w₁.after r op).audited entry) := by
  refine audits_audited ((exec_audit r op w₁ hop).trans haudit) ?_
  rw [hentry]
  show (exec d r op w₁).2.hasUser actor = true
  rw [exec_hasUser, hactor]

/-! ### What the code relies on -/

/-- Nothing outside of the code fails: tokens are signed, there are random bytes, and what is drawn
for a refresh token was not drawn before. -/
structure NoFailure (r : Draws) (w : World d) : Prop where
  signs : ∀ c, ∃ token, d.issuer.issue c = .ok token
  random : ∃ raw, r.rand .secureToken = .ok raw
  freshID : ∀ t ∈ w.tokens.rows, t.id ≠ r.uuid .refreshToken
  freshHash : ∀ t ∈ w.tokens.rows, ∀ raw, r.rand .secureToken = .ok raw →
    t.tokenHash ≠ hashToken (rawURLEncodeToString raw)

/-- Users are never deleted: the foreign key of a refresh token and the claims of an access token
name a user that is there. -/
structure NamesUsers (w : World d) (req : Request) : Prop where
  tokens : ∀ t ∈ w.tokens.rows, w.hasUser t.userID = true
  claims : ∀ claims, Middleware.Passes w req claims → w.hasUser claims.userID = true

/-- The foreign key of the refresh tokens is kept. -/
theorem tokens_name_users {r : Draws} {w : World d} {op : Op} (hop : op.keepsRows = true)
    (h : ∀ t ∈ w.tokens.rows, w.hasUser t.userID = true) :
    ∀ t ∈ (exec d r op w).2.tokens.rows, (exec d r op w).2.hasUser t.userID = true := by
  intro u hu
  rw [exec_hasUser]
  by_cases htop : ∃ top, op = .tokens top
  · obtain ⟨top, rfl⟩ := htop
    obtain ⟨t, ht, htu⟩ | ⟨t, rfl, rfl⟩ := TokensOp.mem_exec w.hasUser w.clock hop hu
    · rw [htu.userID]
      exact h t ht
    · obtain ⟨U, -, huser, -⟩ | ⟨_, _, he⟩ := TokensOp.exec_create w.hasUser w.clock
        (T := w.tokens) (t := t)
      · exact huser
      · have hold : t.inserted w.clock ∈
            (TokensOp.exec w.hasUser w.clock (.create t) w.tokens).2.rows := hu
        rw [he] at hold
        exact h _ hold
  · rw [exec_tokens r op w fun top ht => htop ⟨top, ht⟩] at hu
    exact h u hu

/-- The requests of a run, with tokens that the run has signed, find the users that are named. -/
theorem namesUsers_run {ι : Type} [DecidableEq ι] {draws : ι → Draws} {calls : ι → Call}
    {w : World d} {P : Pool Eff (Recorded Eff (World d) ι) ι Reply}
    (hlib : Issuer.DecodesSigned d.issuer.lib) (huuid : Issuer.ReadsBackUUIDs d.issuer.uuidParse)
    (hr : Pool.Run (record fun i => exec d (draws i)) (recordEnv Ticks) (fun _ _ _ => True)
      (Access.tracedPool d calls w) P)
    (hw : ∀ t ∈ w.tokens.rows, w.hasUser t.userID = true) {req : Request}
    (hissued : ∀ token, Middleware.bearerToken req.authorization = some token →
      Access.Issued token P.state) : NamesUsers P.state.now req := by
  obtain ⟨hrun, -⟩ := hr.only (K := fun _ (op : Op) => op.keepsRows = true) fun i =>
    Call.keepsRows d (calls i)
  constructor
  · refine hrun.invariant (I := fun s => ∀ t ∈ s.now.tokens.rows, s.now.hasUser t.userID = true)
      ?_ ?_ hw
    · exact fun i op s hop hs => tokens_name_users hop.2 hs
    · rintro s s' ⟨⟨t, -, hnow⟩, -⟩ hs
      rw [hnow]
      exact hs
  · -- whoever was a user at some call still is
    have hkept : ∀ e ∈ P.state.trace, ∀ id, e.before.hasUser id = P.state.now.hasUser id := by
      refine hrun.invariant (I := fun s => ∀ e ∈ s.trace, ∀ id,
        e.before.hasUser id = s.now.hasUser id) ?_ ?_ fun e he => by cases he
      · intro i op s _ hs e he id
        rw [record_now, exec_hasUser]
        rw [record_trace, List.mem_cons] at he
        rcases he with rfl | he
        · rfl
        · exact hs e he id
      · rintro s s' ⟨⟨t, -, hnow⟩, htrace⟩ hs e he id
        rw [htrace] at he
        rw [hnow]
        exact hs e he id
    intro claims hpasses
    obtain ⟨token, htoken, hparse⟩ := hpasses.token
    obtain ⟨c, hc, hissue⟩ := hissued token htoken
    obtain ⟨e, he, hop⟩ := Access.mem_signed.mp hc
    obtain ⟨huserID, -⟩ := Issuer.parse_issue hlib huuid hissue hparse
    obtain ⟨e, he, -, -, u, hu, hid, -⟩ := Access.signed_supported hr e he c hop
    rw [← hkept e he, huserID, ← hid]
    exact List.any_eq_true.mpr ⟨u, hu, beq_self_eq_true _⟩

section run

variable {r : Draws} {w : World d}

theorem canIssue {user : SuperAdminUser} (hfree : NoFailure r w) (huser : w.hasUser user.id = true)
    (sessionID : UUID) (rc : RequestContext) (now : Time) :
    Auth.CanIssue r w user sessionID rc now where
  signs := hfree.signs _
  inserts := by
    obtain ⟨raw, hraw⟩ := hfree.random
    have hfree' : ∀ x ∈ w.tokens.rows, ¬ EitherEq (x.id, x.tokenHash)
        (r.uuid .refreshToken, hashToken (rawURLEncodeToString raw)) := by
      rintro x hx (hid | hhash)
      · exact hfree.freshID x hx hid
      · exact hfree.freshHash x hx raw hraw hhash
    obtain ⟨T, hT⟩ := Table.insert?_isSome (r := (Auth.refreshRecord d user (r.uuid .refreshToken)
      sessionID (rawURLEncodeToString raw) rc now).inserted w.clock) hfree'
    exact ⟨raw, T, hraw, hT⟩
  stored := huser

theorem hasUser_of_mem {u : SuperAdminUser} (hu : u ∈ w.users.rows) : w.hasUser u.id = true :=
  List.any_eq_true.mpr ⟨u, hu, beq_self_eq_true _⟩

/-! ### Calls -/

theorem audits_logged {α : Type} {K : Op → Prop} {actor : UUID} {res : Except Error α × World d}
    (hK : ∀ op, K op → ∀ e, op ≠ .audit e) (hactor : w.hasUser actor = true)
    (h : Logged r w K actor res) : Audits w res.2 := by
  cases h with
  | failed e => exact .refl w
  | done a op entry hop hentry => exact audits_after rfl (hK op hop) hentry hactor

theorem NoFailure.after (h : NoFailure r w) (op : Op) (hop : ∀ top, op ≠ .tokens top) :
    NoFailure r (w.after r op) where
  signs := h.signs
  random := h.random
  freshID := by
    rw [World.after, exec_tokens r op w hop]
    exact h.freshID
  freshHash := by
    rw [World.after, exec_tokens r op w hop]
    exact h.freshHash

/-- The state after a pair was issued has the users and the journal of the state before. -/
theorem issued_frame {user : SuperAdminUser} {sessionID : UUID} {rc : RequestContext} {now : Time}
    {p : Auth.IssuedPair} {w' : World d}
    (h : Auth.IssueEnd r w user sessionID rc now (.ok p, w')) :
    w'.audit = w.audit ∧ w'.users = w.users := by
  cases h with
  | issued access raw T hissue hraw hinsert huser => exact ⟨rfl, rfl⟩

theorem loginRefused_audits (user : Option SuperAdminUser) (creds : Credentials)
    (rc : RequestContext) :
    Audits w ((Auth.loginRefused d user creds rc w.clock).run (exec d r) w).2 := by
  rw [Auth.loginRefused_run]
  have haudit : (Auth.failed w r user).audit = w.audit := by
    cases user with
    | none => rfl
    | some user => exact exec_audit r _ w fun _ h => by cases h
  exact audits_audited haudit rfl

theorem loginUser_audits (hfree : NoFailure r w) {user : SuperAdminUser}
    (huser : w.hasUser user.id = true) (rc : RequestContext) :
    Audits w ((Auth.loginUser d user rc w.clock).run (exec d r) w).2 := by
  have hend := Auth.loginUser_run r w user rc
  generalize (Auth.loginUser d user rc w.clock).run (exec d r) w = res at hend
  have hstored : (w.after r (.users (.registerSuccessfulLogin user.id w.clock))).hasUser user.id =
      true := by
    rw [World.after, exec_hasUser, huser]
  cases hend with
  | refused e hcan => exact audits_audited rfl huser
  | failed e hcan hissue =>
      -- this would be a change without an entry, but the pair can be issued
      have hfree' := hfree.after (.users (.registerSuccessfulLogin user.id w.clock))
        fun _ h => by cases h
      exact absurd (canIssue hfree' hstored _ _ _) hissue
  | issued p w' entry hcan hissue hactor =>
      obtain ⟨haudit, husers⟩ := issued_frame hissue
      refine audits_audited ?_ ?_
      · rw [haudit]
        exact exec_audit r _ w fun _ h => by cases h
      · rw [hactor]
        show w'.users.rows.any (·.id == user.id) = true
        rw [husers]
        exact hstored

theorem login_audits (hfree : NoFailure r w) (creds : Credentials) (rc : RequestContext) :
    Audits w ((Auth.login d creds rc).run (exec d r) w).2 := by
  rw [Auth.login_run]
  cases hfound : w.userByEmail (Password.normalizeEmail d creds.email) with
  | none => exact loginRefused_audits none creds rc
  | some user =>
      have huser := hasUser_of_mem (World.userByEmail_some hfound).1
      simp only [Auth.outcome]
      cases d.hasher.verify creds.password user.passwordHash with
      | error e =>
          dsimp only
          split
          · exact loginRefused_audits none creds rc
          · exact .refl w
      | ok ok =>
          cases ok with
          | true => exact loginUser_audits hfree huser rc
          | false => exact loginRefused_audits (some user) creds rc

/-- `Refresh` with a token that could be exchanged, but whose user may not log in. -/
def RefusesUser (w : World d) (refreshToken : String) : Prop :=
  ∃ stored user, w.tokenByHash (hashToken refreshToken) = some stored ∧
    (stored.isUsed || stored.isRevoked) = false ∧ stored.isExpired w.clock = false ∧
    w.userByID stored.userID = some user ∧ user.ensureCanLogin w.clock ≠ none

theorem refresh_audits (htokens : ∀ t ∈ w.tokens.rows, w.hasUser t.userID = true)
    {refreshToken : String} (hrefuses : ¬ RefusesUser w refreshToken) (rc : RequestContext) :
    Audits w ((Auth.refresh d refreshToken rc).run (exec d r) w).2 := by
  rw [Auth.refresh_run]
  cases hstored : w.tokenByHash (hashToken refreshToken) with
  | none => exact .refl w
  | some stored =>
      dsimp only
      by_cases hreuse : (stored.isUsed || stored.isRevoked) = true
      · rw [if_pos hreuse]
        exact audits_after rfl (fun _ h => by cases h) rfl
          (htokens _ (World.tokenByHash_some hstored).1)
      · rw [if_neg hreuse]
        by_cases hexpired : stored.isExpired w.clock = true
        · rw [if_pos hexpired]
          exact .refl w
        · rw [if_neg hexpired]
          cases huser : w.userByID stored.userID with
          | none => exact .refl w
          | some user =>
              dsimp only
              cases hcan : user.ensureCanLogin w.clock with
              | some e =>
                  refine absurd ⟨stored, user, hstored, ?_, ?_, huser, ?_⟩ hrefuses
                  · simpa using hreuse
                  · simpa using hexpired
                  · rw [hcan]
                    exact Option.some_ne_none e
              | none =>
                  have hend := Auth.refreshRotate_run r w stored user rc
                  generalize (Auth.refreshRotate d stored user rc w.clock).run (exec d r) w = res
                    at hend
                  cases hend with
                  | failed text operands => exact .refl w
                  | rotated p w' entry hissue hactor =>
                      obtain ⟨haudit, husers⟩ := issued_frame hissue
                      have hstored' : w'.hasUser user.id = true := by
                        show w'.users.rows.any (·.id == user.id) = true
                        rw [husers]
                        exact hasUser_of_mem (World.userByID_some huser).1
                      exact audits_after haudit (fun _ h => by cases h) hactor hstored'

theorem revoke_audits {actor : AccessClaims} (hactor : w.hasUser actor.userID = true)
    (memberID : UUID) (rc : RequestContext) :
    Audits w ((Team.revoke actor memberID rc).run (exec d r) w).2 := by
  have hend := Team.revoke_run r w actor memberID rc
  generalize (Team.revoke actor memberID rc).run (exec d r) w = res at hend
  cases hend with
  | failed e => exact .refl w
  | done entry hentry =>
      refine audits_after ?_ (fun _ h => by cases h) hentry ?_
      · exact exec_audit r _ w fun _ h => by cases h
      · rw [World.after, exec_hasUser, hactor]

/-! ### Handlers -/

theorem audits_reads {α : Type} {p : Proc α} (hp : Reads p) : Audits w (p.run (exec d r) w).2 := by
  rw [hp.run]
  exact .refl w

theorem audits_then {α β : Type} {p : Proc α} {k : α → Proc β}
    (hp : Audits w (p.run (exec d r) w).2) (hk : ∀ a, Reads (k a)) :
    Audits w ((p >>= k).run (exec d r) w).2 := by
  rw [Prog.run_bind, (hk _).run]
  exact hp

theorem audits_withInput {α : Type} {input : Except Response α} {k : α → Proc Response}
    (hk : ∀ a, input = .ok a → Audits w ((k a).run (exec d r) w).2) :
    Audits w ((withInput input k).run (exec d r) w).2 := by
  cases input with
  | error resp => exact .refl w
  | ok a => exact hk a rfl

theorem reads_withInput {α : Type} {input : Except Response α} {k : α → Proc Response}
    (hk : ∀ a, Reads (k a)) : Reads (withInput input k) := by
  cases input with
  | error resp => trivial
  | ok a => exact hk a

theorem reads_respond {α : Type} {res : Except Error α} {k : α → Proc Response}
    (hk : ∀ a, Reads (k a)) : Reads (respond res k) := by
  cases res with
  | error e => trivial
  | ok a => exact hk a

theorem claimsFrom_eq_ok {ctx : Context} {claims : AccessClaims} (h : claimsFrom ctx = .ok claims) :
    ctx.claims = some claims := by
  unfold claimsFrom at h
  split at h
  · cases h
  · rename_i c hc
    cases h
    exact hc

theorem reads_toTenantDetailResponse (t : SuperAdmin.Tenant) :
    Reads (Handler.Tenant.toTenantDetailResponse t) := .step rfl fun _ => trivial

theorem reads_detail (answer : Json → Response) (res : Except Error SuperAdmin.Tenant) :
    Reads (respond res fun tenant => answer <$> Handler.Tenant.toTenantDetailResponse tenant) :=
  reads_respond fun t => .map (reads_toTenantDetailResponse t) answer

theorem reads_buildLookups : Reads Handler.Ticket.buildLookups := by
  refine .step rfl fun res => ?_
  cases res with
  | error e => trivial
  | ok users =>
      refine .step rfl fun res => ?_
      cases res <;> trivial

theorem reads_threads (l : Handler.Ticket.Lookups) (tickets : List SuperAdmin.Ticket) :
    Reads (Handler.Ticket.threads l tickets) := by
  induction tickets with
  | nil => trivial
  | cons summary rest ih =>
      refine .step rfl fun res => ?_
      cases res with
      | error e => trivial
      | ok found =>
          refine .bind ih fun res => ?_
          cases res <;> trivial

theorem reads_overview : Reads Usecase.Overview.get := by
  refine .step rfl fun res => ?_
  cases res with
  | error e => trivial
  | ok tenants =>
      refine .step rfl fun res => ?_
      cases res with
      | error e => trivial
      | ok tickets =>
          refine .step rfl fun now => .step rfl fun res => ?_
          cases res <;> trivial

theorem reads_changed (res : Except Error SuperAdmin.Ticket) : Reads (Handler.Ticket.changed res) :=
  reads_respond fun _ => .bind reads_buildLookups fun _ => reads_respond fun _ => trivial

/-- A handler that acts in the name of the caller. -/
theorem audits_acting {α : Type} {ctx : Context} {K : AccessClaims → Op → Prop}
    {p : AccessClaims → Proc (Except Error α)} {k : AccessClaims → Except Error α → Proc Response}
    (hctx : ∀ claims, ctx.claims = some claims → w.hasUser claims.userID = true)
    (hK : ∀ claims op, K claims op → ∀ e, op ≠ .audit e)
    (hp : ∀ claims, Logged r w (K claims) claims.userID ((p claims).run (exec d r) w))
    (hk : ∀ claims res, Reads (k claims res)) :
    Audits w ((withInput (claimsFrom ctx) fun claims => p claims >>= k claims).run
      (exec d r) w).2 := by
  refine audits_withInput fun claims hclaims => audits_then ?_ (hk claims)
  exact audits_logged (hK claims) (hctx claims (claimsFrom_eq_ok hclaims)) (hp claims)

variable {web : Web} {req : Request} {ctx : Context}

/-- The routes whose handlers only read. -/
def reading : Route → Bool
  | .me | .teamList | .journalList | .settingsGet | .overview | .tenantList | .tenantEmailTaken
  | .tenantGet | .tenantTickets | .tenantJournal | .ticketList | .ticketGet => true
  | _ => false

theorem handle_reads (hroute : reading req.route = true) : Reads (handle d web req ctx) := by
  unfold handle
  cases h : req.route with
  | me => exact reads_withInput fun _ => .step rfl fun _ => reads_respond fun _ => trivial
  | teamList =>
      refine reads_withInput fun _ => .bind (.step rfl fun res => ?_) fun _ =>
        reads_respond fun _ => trivial
      cases res <;> trivial
  | journalList =>
      exact reads_respond fun _ => .step rfl fun _ => reads_respond fun _ =>
        .step rfl fun _ => reads_respond fun _ => trivial
  | settingsGet => exact .step rfl fun _ => reads_respond fun _ => trivial
  | overview =>
      refine .bind reads_overview fun _ => reads_respond fun _ => trivial
  | tenantList => exact .step rfl fun _ => reads_respond fun _ => trivial
  | tenantEmailTaken =>
      dsimp only [Handler.Tenant.emailTaken]
      split
      · trivial
      · exact .step rfl fun _ => reads_respond fun _ => trivial
  | tenantGet =>
      exact reads_withInput fun _ => .step rfl fun _ => reads_detail _ _
  | tenantTickets =>
      refine reads_withInput fun _ => .step rfl fun _ => reads_respond fun summaries =>
        .bind reads_buildLookups fun _ => reads_respond fun l => ?_
      exact .bind (reads_threads l summaries) fun _ => reads_respond fun _ => trivial
  | tenantJournal =>
      exact reads_withInput fun _ => .step rfl fun _ => reads_respond fun _ => trivial
  | ticketList =>
      exact reads_respond fun _ => .step rfl fun _ => reads_respond fun _ =>
        .bind reads_buildLookups fun _ => reads_respond fun _ => trivial
  | ticketGet =>
      exact reads_withInput fun _ => .step rfl fun _ => reads_respond fun _ =>
        .bind reads_buildLookups fun _ => reads_respond fun _ => trivial
  | _ =>
      rw [h] at hroute
      cases hroute

/-- Behind the middleware, every handler of a changing route logs what it does. -/
theorem handle_audits (hctx : ∀ claims, ctx.claims = some claims → w.hasUser claims.userID = true)
    (hroute : req.route.access ≠ .anyone) :
    Audits w ((handle d web req ctx).run (exec d r) w).2 := by
  by_cases hreading : reading req.route = true
  · exact audits_reads (handle_reads hreading)
  · unfold handle
    cases h : req.route with
    | teamInvite =>
        refine audits_withInput fun input _ => audits_acting hctx ?_
          (fun claims => Team.invite_run r w claims input.email (.ofString input.role) req.context)
          fun _ _ => reads_respond fun _ => trivial
        rintro _ _ ⟨inv, rfl⟩ e h
        cases h
    | teamUpdateRole =>
        refine audits_withInput fun id _ => audits_withInput fun role _ => audits_acting hctx ?_
          (fun claims => Team.updateRole_run r w claims id (.ofString role) req.context)
          fun _ _ => reads_respond fun _ => trivial
        rintro _ _ rfl e h
        cases h
    | teamRevoke =>
        refine audits_withInput fun id _ => audits_withInput fun claims hclaims => ?_
        exact audits_then (revoke_audits (hctx claims (claimsFrom_eq_ok hclaims)) id req.context)
          fun _ => reads_respond fun _ => trivial
    | settingsSaveTemplate =>
        refine audits_withInput fun text _ => audits_acting hctx ?_
          (fun claims => Settings.saveTemplate_run r w claims req.context text)
          fun _ _ => reads_respond fun _ => trivial
        rintro _ _ rfl e h
        cases h
    | tenantCreate =>
        refine audits_withInput fun input _ => audits_acting hctx ?_
          (fun claims => Tenant.create_run r w claims req.context _)
          fun _ => reads_detail _
        rintro _ _ ⟨t, rfl⟩ e h
        cases h
    | tenantSuspend =>
        refine audits_withInput fun id _ => audits_withInput fun reason _ => audits_acting hctx ?_
          (fun claims => Tenant.suspend_run r w claims req.context id reason)
          fun _ => reads_detail _
        rintro _ _ rfl e h
        cases h
    | tenantResume =>
        refine audits_withInput fun id _ => audits_acting hctx ?_
          (fun claims => Tenant.resume_run r w claims req.context id)
          fun _ => reads_detail _
        rintro _ _ rfl e h
        cases h
    | tenantIssueCode =>
        refine audits_withInput fun id _ => audits_acting hctx ?_
          (fun claims => Tenant.issueActivationCode_run r w claims req.context id)
          fun _ => reads_detail _
        rintro _ _ ⟨code, expiresAt, rfl⟩ e h
        cases h
    | tenantDelete =>
        refine audits_withInput fun id _ => audits_acting hctx ?_
          (fun claims => Tenant.delete_run r w claims req.context id)
          fun _ _ => reads_respond fun _ => trivial
        rintro _ _ rfl e h
        cases h
    | ticketReply =>
        refine audits_withInput fun id _ => audits_withInput fun text _ => audits_acting hctx ?_
          (fun claims => Ticket.reply_run r w claims req.context id text)
          fun _ _ => reads_respond fun _ => trivial
        rintro _ _ ⟨m, rfl⟩ e h
        cases h
    | ticketAssign =>
        refine audits_withInput fun id _ => audits_acting hctx ?_
          (fun claims => Ticket.assignToSelf_run r w claims req.context id) fun _ => reads_changed
        rintro _ _ rfl e h
        cases h
    | ticketUpdateStatus =>
        refine audits_withInput fun id _ => audits_withInput fun status _ => audits_acting hctx ?_
          (fun claims => Ticket.updateStatus_run r w claims req.context id (.ofString status))
          fun _ => reads_changed
        rintro _ _ rfl e h
        cases h
    | ticketUpdatePriority =>
        refine audits_withInput fun id _ => audits_withInput fun priority _ => audits_acting hctx ?_
          (fun claims => Ticket.updatePriority_run r w claims req.context id (.ofString priority))
          fun _ => reads_changed
        rintro _ _ rfl e h
        cases h
    | login => exact absurd (by rw [h]; rfl) hroute
    | refresh => exact absurd (by rw [h]; rfl) hroute
    | logout => exact absurd (by rw [h]; rfl) hroute
    | _ => exact absurd (by rw [h]; rfl) hreading

/-! ### Requests -/

/-- A request to a route behind the middleware is refused, or handled with the claims of its token. -/
theorem serve_run (web : Web) (haccess : req.route.access ≠ .anyone) :
    ((serve d web req).run (exec d r) w).2 = w ∨
      ∃ claims, Middleware.Passes w req claims ∧ (serve d web req).run (exec d r) w =
        (handle d web req (Middleware.contextOf claims)).run (exec d r) w := by
  unfold serve
  rw [Prog.run_bind]
  have hend := middleware_run r w req haccess
  generalize (middleware req req.route.access).run (exec d r) w = res at hend
  cases hend with
  | refused resp => exact .inl rfl
  | passed claims hpasses => exact .inr ⟨claims, hpasses, rfl⟩

theorem serve_login (hroute : req.route = .login) :
    (serve d web req).run (exec d r) w = (Handler.Auth.login d web req).run (exec d r) w := by
  unfold serve
  simp only [hroute, Route.access, middleware, Prog.pure_eq, Prog.pure_bind, handle]

theorem serve_refresh (hroute : req.route = .refresh) :
    (serve d web req).run (exec d r) w = (Handler.Auth.refresh d req).run (exec d r) w := by
  unfold serve
  simp only [hroute, Route.access, middleware, Prog.pure_eq, Prog.pure_bind, handle]

/-- The state after a refresh: without a cookie the usecase is not called. -/
theorem serve_refresh_state (hroute : req.route = .refresh) :
    ((serve d web req).run (exec d r) w).2 =
      match req.cookie with
      | none => w
      | some raw =>
          if raw = "" then w else ((Auth.refresh d raw req.context).run (exec d r) w).2 := by
  rw [serve_refresh hroute, Handler.Auth.refresh]
  cases req.cookie with
  | none => rfl
  | some raw =>
      dsimp only
      by_cases hraw : raw = ""
      · rw [if_pos hraw, if_pos hraw]
        rfl
      · rw [if_neg hraw, if_neg hraw, Prog.run_bind]
        generalize (Auth.refresh d raw req.context).run (exec d r) w = res
        obtain ⟨e | pair, w'⟩ := res
        · dsimp only
          split <;> rfl
        · rfl

/-- `Logout` revokes a token that was not revoked. -/
def RevokesSession (w : World d) (refreshToken : String) : Prop :=
  ∃ stored, w.tokenByHash (hashToken refreshToken) = some stored ∧ stored.sessionID ≠ UUID.nil ∧
    ∃ t ∈ w.tokens.rows, t.sessionID = stored.sessionID ∧ t.isRevoked = false

/-- The requests that change a row and write no entry. -/
def Unlogged (w : World d) (req : Request) : Prop :=
  ∃ raw, req.cookie = some raw ∧ raw ≠ "" ∧
    (req.route = .logout ∧ RevokesSession w raw ∨ req.route = .refresh ∧ RefusesUser w raw)

/-- A revocation of a session with an unrevoked token changes the table. -/
theorem revokeSession_changes {sessionID : UUID} {reason : String} {now : Time} {t : RefreshToken}
    (ht : t ∈ w.tokens.rows) (hs : t.sessionID = sessionID) (hrevoked : t.isRevoked = false) :
    (w.after r (.tokens (.revokeSession sessionID reason now))).tokens ≠ w.tokens := by
  intro hsame
  have ht' : t ∈ (w.after r (.tokens (.revokeSession sessionID reason now))).tokens.rows := by
    rw [hsame]
    exact ht
  rw [revokeSession_revoked r ht' hs] at hrevoked
  cases hrevoked

/-- A revocation of a session without an unrevoked token changes nothing. -/
theorem revokeSession_same {sessionID : UUID} {reason : String} {now : Time}
    (h : ∀ t ∈ w.tokens.rows, t.sessionID = sessionID → t.isRevoked = true) :
    w.after r (.tokens (.revokeSession sessionID reason now)) = w := by
  have htable : (TokensOp.exec w.hasUser w.clock (.revokeSession sessionID reason now) w.tokens).2 =
      w.tokens := by
    simp only [TokensOp.exec]
    refine Table.update_eq_self fun t ht => ?_
    by_cases hs : t.sessionID = sessionID
    · rw [h t ht hs, Bool.not_true, Bool.and_false]
    · rw [beq_false_of_ne hs, Bool.false_and]
  show { w with tokens := _ } = w
  rw [htable]

theorem logout_audits (hroute : req.route = .logout) (hlogged : ¬ Unlogged w req) :
    Audits w ((serve d web req).run (exec d r) w).2 := by
  rw [Access.serve_logout hroute]
  have hsame : Auth.sessionRevoked w r (Auth.logoutSessionID w (req.cookie.getD "") none) = w := by
    unfold Auth.sessionRevoked Auth.logoutSessionID
    by_cases hraw : req.cookie.getD "" = ""
    · rw [if_pos hraw]
      exact if_neg fun h => h rfl
    · rw [if_neg hraw]
      obtain ⟨raw, hcookie⟩ : ∃ raw, req.cookie = some raw := by
        cases hcookie : req.cookie with
        | none => exact absurd (by rw [hcookie]; rfl) hraw
        | some raw => exact ⟨raw, rfl⟩
      have hget : req.cookie.getD "" = raw := by rw [hcookie]; rfl
      rw [hget] at hraw ⊢
      cases hstored : w.tokenByHash (hashToken raw) with
      | none => exact if_neg fun h => h rfl
      | some stored =>
          dsimp only
          by_cases hnil : stored.sessionID = UUID.nil
          · exact if_neg fun h => h hnil
          · rw [if_pos hnil]
            refine revokeSession_same fun t ht hs => ?_
            by_contra hrevoked
            have hfalse : t.isRevoked = false := by simpa using hrevoked
            exact hlogged ⟨raw, hcookie, hraw, .inl ⟨hroute, stored, hstored, hnil, t, ht, hs, hfalse⟩⟩
  rw [hsame]
  exact .refl w

theorem refresh_route_audits (htokens : ∀ t ∈ w.tokens.rows, w.hasUser t.userID = true)
    (hroute : req.route = .refresh) (hlogged : ¬ Unlogged w req) :
    Audits w ((serve d web req).run (exec d r) w).2 := by
  rw [serve_refresh_state hroute]
  cases hcookie : req.cookie with
  | none => exact .refl w
  | some raw =>
      dsimp only
      by_cases hraw : raw = ""
      · rw [if_pos hraw]
        exact .refl w
      · rw [if_neg hraw]
        refine refresh_audits htokens (fun hrefuses => ?_) req.context
        exact hlogged ⟨raw, hcookie, hraw, .inr ⟨hroute, hrefuses⟩⟩

/-- An unlogged request changes the table of the tokens and writes nothing. -/
theorem unlogged_not_audits (h : Unlogged w req) :
    ¬ Audits w ((serve d web req).run (exec d r) w).2 := by
  obtain ⟨raw, hcookie, hraw, ⟨hroute, hrevokes⟩ | ⟨hroute, hrefuses⟩⟩ := h
  · obtain ⟨stored, hstored, hnil, t, ht, hs, hrevoked⟩ := hrevokes
    have hsession : Auth.logoutSessionID w (req.cookie.getD "") none = stored.sessionID := by
      unfold Auth.logoutSessionID
      rw [hcookie, Option.getD_some, if_neg hraw, hstored]
    rw [Access.serve_logout hroute, hsession, Auth.sessionRevoked, if_pos hnil]
    refine not_audits ?_ (revokeSession_changes (r := r) ht hs hrevoked)
    exact exec_audit r _ w fun _ h => by cases h
  · obtain ⟨stored, user, hstored, hreuse, hexpired, huser, hcan⟩ := hrefuses
    obtain ⟨e, he⟩ := Option.ne_none_iff_exists'.mp hcan
    rw [serve_refresh_state hroute, hcookie]
    dsimp only
    rw [if_neg hraw, Auth.refresh_run, hstored]
    dsimp only
    rw [if_neg (by rw [hreuse]; exact Bool.false_ne_true),
      if_neg (by rw [hexpired]; exact Bool.false_ne_true), huser]
    dsimp only
    rw [he]
    -- the token itself is one of the session, and not revoked
    have hrevoked : stored.isRevoked = false := (Bool.or_eq_false_iff.mp hreuse).2
    refine not_audits ?_ (revokeSession_changes (r := r) (World.tokenByHash_some hstored).1 rfl
      hrevoked)
    exact exec_audit r _ w fun _ h => by cases h

/-- A request that changes a row writes exactly one entry, unless it is a logout that revokes a
token, or a refresh with a token that could be exchanged but whose user may not log in. -/
theorem serve_audits_iff (hfree : NoFailure r w) (hnames : NamesUsers w req) :
    Audits w ((serve d web req).run (exec d r) w).2 ↔ ¬ Unlogged w req := by
  constructor
  · exact fun h hunlogged => unlogged_not_audits hunlogged h
  · intro hlogged
    by_cases haccess : req.route.access = .anyone
    · cases hroute : req.route with
      | login =>
          rw [serve_login hroute]
          refine audits_withInput fun input _ => audits_then (login_audits hfree _ req.context) ?_
          exact fun _ => reads_respond fun _ => trivial
      | refresh => exact refresh_route_audits hnames.tokens hroute hlogged
      | logout => exact logout_audits hroute hlogged
      | _ =>
          rw [hroute] at haccess
          cases haccess
    · have hserved := serve_run (d := d) (r := r) (w := w) web haccess
      obtain hsame | ⟨claims, hpasses, hrun⟩ := hserved
      · rw [hsame]
        exact .refl w
      · rw [hrun]
        refine handle_audits (fun claims' hclaims => ?_) haccess
        cases hclaims
        exact hnames.claims claims hpasses

end run

/-- A request with the refresh token of the sample login and without an access token. -/
def cookieRequest (route : Route) : Request where
  route := route
  cookie := some Sample.firstToken
  ip := Sample.context.ip
  userAgent := Sample.context.userAgent

theorem noFailure_sample : NoFailure (Sample.draws 1) Sample.loggedIn where
  signs c := ⟨_, Sample.issue_token c⟩
  random := ⟨_, rfl⟩
  freshID := by decide
  freshHash := by
    have hfresh : ∀ t ∈ Sample.loggedIn.tokens.rows,
        t.tokenHash ≠ hashToken (rawURLEncodeToString (List.replicate 32 1)) := by decide +kernel
    intro t ht raw hraw
    cases hraw
    exact hfresh t ht

theorem namesUsers_sample (route : Route) : NamesUsers Sample.loggedIn (cookieRequest route) where
  tokens := by decide
  claims := by
    rintro claims ⟨⟨raw, hraw, -⟩, -, -⟩
    have hnone : (Middleware.bearerToken "").isSome = false := by decide
    have hsome : (Middleware.bearerToken "").isSome = true := by
      rw [show Middleware.bearerToken "" = some raw from hraw]
      rfl
    rw [hnone] at hsome
    cases hsome

/-- The refresh of an active user is in the journal. -/
theorem serve_audits_refresh :
    Audits Sample.loggedIn ((serve Sample.deps ⟨fun _ => true⟩ (cookieRequest .refresh)).run
      (exec Sample.deps (Sample.draws 1)) Sample.loggedIn).2 := by
  refine (serve_audits_iff noFailure_sample (namesUsers_sample .refresh)).mpr ?_
  have hactive : ∀ u ∈ Sample.loggedIn.users.rows,
      (u.ensureCanLogin Sample.loggedIn.clock).isNone = true := by decide
  rintro ⟨raw, -, -, ⟨hroute, -⟩ | ⟨-, stored, user, -, -, -, huser, hcan⟩⟩
  · cases hroute
  · exact hcan (Option.isNone_iff_eq_none.mp (hactive user (World.userByID_some huser).1))

/-- The logout that ends the sample login is not. -/
theorem serve_audits_logout :
    ¬ ∀ (d : Deps) (web : Web) (r : Draws) (w : World d) (req : Request), NoFailure r w →
      NamesUsers w req → Audits w ((serve d web req).run (exec d r) w).2 := by
  intro hclaim
  have hrevokes : RevokesSession Sample.loggedIn Sample.firstToken := by
    have hfound : ((Sample.loggedIn.tokenByHash (hashToken Sample.firstToken)).any fun t =>
        t.sessionID != UUID.nil && !t.isRevoked) = true := by decide +kernel
    obtain ⟨stored, hstored, hlive⟩ := Option.any_eq_true _ _ |>.mp hfound
    rw [Bool.and_eq_true, bne_iff_ne, Bool.not_eq_true'] at hlive
    exact ⟨stored, hstored, hlive.1, stored, (World.tokenByHash_some hstored).1, rfl, hlive.2⟩
  have hunlogged : Unlogged Sample.loggedIn (cookieRequest .logout) :=
    ⟨_, rfl, by decide, .inl ⟨rfl, hrevokes⟩⟩
  exact unlogged_not_audits hunlogged (hclaim Sample.deps ⟨fun _ => true⟩ (Sample.draws 1) _ _
    noFailure_sample (namesUsers_sample .logout))

end SuperAdmin.Audit
