import SuperAdmin.Calls

/-! # How calls end when they run alone

A call that no other call interrupts is a function of the state: the theorems `…_run` say which
result it has and what it leaves, branch by branch in the order of the source.  The branches are
in terms of queries, so that a proof about a sequential run looks at rows and not at programs. -/

namespace SuperAdmin

open Effects

variable {d : Deps}

namespace World

/-- The state after an operation. -/
abbrev after (w : World d) (r : Draws) (op : Op) : World d := (exec d r op w).2

/-- The state after an entry was written. -/
abbrev audited (w : World d) (e : AuditEntry) : World d := (w.writeAudit e).2

end World

/-! ### Single operations -/

section operations

variable (r : Draws) (w : World d)

/-- An operation alone. -/
theorem run_op (op : Op) :
    Prog.run (α := no_index op.Res) (exec d r) (perform op) w = exec d r op w := rfl

theorem exec_now : exec d r .now w = (w.clock, w) := rfl

theorem exec_newUUID (site : UUIDSite) : exec d r (.newUUID site) w = (r.uuid site, w) := rfl

theorem exec_randRead (site : RandSite) : exec d r (.randRead site) w = (r.rand site, w) := rfl

theorem exec_issue (c : AccessClaims) :
    exec d r (.issuer (.issue c)) w = (d.issuer.issue c, w) := rfl

theorem exec_registerSuccessfulLogin (id : UUID) (now : Time) :
    exec d r (.users (.registerSuccessfulLogin id now)) w =
      (.ok (), w.after r (.users (.registerSuccessfulLogin id now))) := rfl

end operations

namespace Usecase

variable (r : Draws) (w : World d)

/-! ### Issuing a pair -/

namespace Auth

/-- Nothing stands in the way of a pair: the access token can be signed, there are random bytes, and
the refresh record has a user and clashes with no other. -/
structure CanIssue (user : SuperAdminUser) (sessionID : UUID) (rc : RequestContext) (now : Time) :
    Prop where
  signs : ∃ access,
    d.issuer.issue (accessClaims d user sessionID (r.uuid .accessToken) now) = .ok access
  inserts : ∃ raw T, r.rand .secureToken = .ok raw ∧
    w.tokens.insert? ((refreshRecord d user (r.uuid .refreshToken) sessionID
      (rawURLEncodeToString raw) rc now).inserted w.clock) = some T
  stored : w.hasUser user.id = true

/-- How `issuePairWithID` ends: it fails and leaves the state, or it has inserted the record of
the pair. -/
inductive IssueEnd (user : SuperAdminUser) (sessionID : UUID) (rc : RequestContext) (now : Time) :
    Except Error IssuedPair × World d → Prop
  | failed (text : String) (operands : List Error) (h : ¬ CanIssue r w user sessionID rc now) :
      IssueEnd user sessionID rc now (.error (.errorf text operands), w)
  | issued (access : String) (raw : Bytes) (T : TokenTable)
      (hissue : d.issuer.issue (accessClaims d user sessionID (r.uuid .accessToken) now) =
        .ok access)
      (hraw : r.rand .secureToken = .ok raw)
      (hinsert : w.tokens.insert? ((refreshRecord d user (r.uuid .refreshToken) sessionID
        (rawURLEncodeToString raw) rc now).inserted w.clock) = some T)
      (huser : w.hasUser user.id = true) :
      IssueEnd user sessionID rc now
        (.ok ⟨⟨access, now.add d.cfg.accessTTL, rawURLEncodeToString raw, now.add d.cfg.refreshTTL⟩,
          r.uuid .refreshToken⟩, { w with tokens := T })

theorem issuePairWithID_run (user : SuperAdminUser) (sessionID : UUID) (rc : RequestContext)
    (now : Time) :
    IssueEnd r w user sessionID rc now
      ((issuePairWithID d user sessionID rc now).run (exec d r) w) := by
  unfold issuePairWithID generateSecureToken
  simp only [Prog.run_bind, run_op, exec_newUUID, exec_issue]
  cases hissue : d.issuer.issue (accessClaims d user sessionID (r.uuid .accessToken) now) with
  | error e =>
      obtain ⟨text, operands, rfl⟩ := Issuer.issue_error hissue
      refine .failed text operands fun hcan => ?_
      obtain ⟨access, haccess⟩ := hcan.signs
      rw [hissue] at haccess
      cases haccess
  | ok access =>
      simp only [Prog.run_bind, run_op, exec_randRead]
      cases hraw : r.rand .secureToken with
      | error e =>
          refine .failed _ _ fun hcan => ?_
          obtain ⟨raw, -, hrand, -⟩ := hcan.inserts
          rw [hraw] at hrand
          cases hrand
      | ok raw =>
          simp only [Prog.run_bind, run_op, exec_newUUID, exec, Prog.pure_eq, Prog.run_pure]
          rcases TokensOp.exec_create w.hasUser w.clock (T := w.tokens)
            (t := refreshRecord d user (r.uuid .refreshToken) sessionID
              (rawURLEncodeToString raw) rc now) with ⟨T, hinsert, huser, he⟩ | ⟨text, operands, he⟩
          · rw [he]
            exact .issued access raw T hissue hraw hinsert huser
          · rw [he]
            refine .failed text operands fun hcan => ?_
            obtain ⟨raw', T, hrand, hinsert⟩ := hcan.inserts
            rw [hraw] at hrand
            cases hrand
            have huser : w.hasUser (refreshRecord d user (r.uuid .refreshToken) sessionID
              (rawURLEncodeToString raw) rc now).userID = true := hcan.stored
            simp [TokensOp.exec, hinsert, huser] at he

/-! ### Login -/

/-- What `Authenticate` answers when `GetByEmail` has answered. -/
def outcome (d : Deps) (password : String) :
    Option SuperAdminUser → Except (Option SuperAdminUser × Error) SuperAdminUser
  | none => .error (none, .sentinel .invalidCredentials)
  | some user =>
      match d.hasher.verify password user.passwordHash with
      | .error e => .error (none, e)
      | .ok ok => if ok then .ok user else .error (some user, .sentinel .invalidCredentials)

theorem authenticate_run (creds : Credentials) :
    (Password.authenticate d creds).run (exec d r) w =
      (outcome d creds.password (w.userByEmail (Password.normalizeEmail d creds.email)), w) := by
  unfold Password.authenticate
  simp only [Prog.run_bind, run_op, exec_getByEmail]
  cases w.userByEmail (Password.normalizeEmail d creds.email) with
  | none => rfl
  | some user =>
      simp only [orNotFound_some, outcome]
      cases d.hasher.verify creds.password user.passwordHash with
      | error e => rfl
      | ok ok => cases ok <;> rfl

/-- The lockout that `registerFailure` decides on. -/
def failureLock (d : Deps) (user : SuperAdminUser) (now : Time) : Option Time :=
  if (user.failedLoginAttempts : ℤ) + 1 ≥ d.cfg.maxFailedAttempts then
    some (now.add d.cfg.lockoutDuration)
  else none

/-- The state after the failure was registered for a user, if there is one. -/
def failed (w : World d) (r : Draws) : Option SuperAdminUser → World d
  | none => w
  | some user =>
      w.after r (.users (.registerFailedLogin user.id (failureLock d user w.clock)))

theorem loginRefused_run (user : Option SuperAdminUser) (creds : Credentials) (rc : RequestContext) :
    (loginRefused d user creds rc w.clock).run (exec d r) w =
      (.error (.sentinel .invalidCredentials), (failed w r user).audited
        (loginFailure none creds.email "invalid_credentials" rc w.clock)) := by
  cases user with
  | none => rfl
  | some user => rfl

/-- How `Login` ends once the password was right. -/
inductive LoginEnd (user : SuperAdminUser) (rc : RequestContext) :
    Except Error (TokenPair × SuperAdminUser) × World d → Prop
  | refused (e : Error) (h : user.ensureCanLogin w.clock = some e) :
      LoginEnd user rc (.error e,
        w.audited (loginFailure (some user.id) user.email (errReason e) rc w.clock))
  | failed (e : Error) (h : user.ensureCanLogin w.clock = none)
      (hissue : ¬ CanIssue r (w.after r (.users (.registerSuccessfulLogin user.id w.clock))) user
        (r.uuid .session) rc w.clock) :
      LoginEnd user rc (.error e, w.after r (.users (.registerSuccessfulLogin user.id w.clock)))
  | issued (p : IssuedPair) (w' : World d) (entry : AuditEntry)
      (h : user.ensureCanLogin w.clock = none)
      (hissue : IssueEnd r (w.after r (.users (.registerSuccessfulLogin user.id w.clock))) user
        (r.uuid .session) rc w.clock (.ok p, w'))
      (hactor : entry.actorID = some user.id) :
      LoginEnd user rc (.ok (p.pair, user), w'.audited entry)

theorem loginUser_run (user : SuperAdminUser) (rc : RequestContext) :
    LoginEnd r w user rc ((loginUser d user rc w.clock).run (exec d r) w) := by
  unfold loginUser
  cases hcan : user.ensureCanLogin w.clock with
  | some e => exact .refused e hcan
  | none =>
      simp only [Prog.run_bind, run_op, exec_registerSuccessfulLogin, exec_newUUID, issuePair]
      have hissue := issuePairWithID_run r
        (w.after r (.users (.registerSuccessfulLogin user.id w.clock))) user (r.uuid .session) rc
        w.clock
      generalize (issuePairWithID d user (r.uuid .session) rc w.clock).run (exec d r)
        (w.after r (.users (.registerSuccessfulLogin user.id w.clock))) = res at hissue
      obtain ⟨e | p, w'⟩ := res
      · cases hissue with
        | failed text operands h => exact .failed _ hcan h
      · exact .issued p w' _ hcan hissue rfl

/-- `Login` is `loginUser` or `loginRefused`, as the provider answers. -/
theorem login_run (creds : Credentials) (rc : RequestContext) :
    (login d creds rc).run (exec d r) w =
      match outcome d creds.password (w.userByEmail (Password.normalizeEmail d creds.email)) with
      | .error (user, e) =>
          if e.is .invalidCredentials then (loginRefused d user creds rc w.clock).run (exec d r) w
          else (.error e, w)
      | .ok user => (loginUser d user rc w.clock).run (exec d r) w := by
  unfold login
  simp only [Prog.run_bind, run_op, exec_now, authenticate_run]
  rcases outcome d creds.password
    (w.userByEmail (Password.normalizeEmail d creds.email)) with ⟨user, e⟩ | user
  · dsimp only
    split <;> rfl
  · rfl

/-! ### Refresh -/

/-- The record of an issued pair is there to be referred to, so that marking its predecessor does
not fail. -/
theorem markUsed_of_issued {user : SuperAdminUser} {sessionID : UUID} {rc : RequestContext}
    {now : Time} {p : IssuedPair} {w' : World d}
    (hissue : IssueEnd r w user sessionID rc now (.ok p, w')) (id : UUID) (t : Time) :
    exec d r (.tokens (.markUsed id p.refreshTokenID t)) w' =
      (.ok (), w'.after r (.tokens (.markUsed id p.refreshTokenID t))) := by
  cases hissue with
  | issued access raw T hissue hraw hinsert huser =>
      obtain ⟨hrows, -⟩ := Table.insert?_eq_some hinsert
      have hthere : T.rows.any (fun t => t.id == r.uuid .refreshToken) = true := by
        rw [hrows, List.any_append]
        simp [RefreshToken.inserted, refreshRecord]
      have hmark : (TokensOp.exec w.hasUser w.clock (.markUsed id (r.uuid .refreshToken) t) T).1 =
          .ok () := by simp [TokensOp.exec, hthere]
      exact Prod.ext hmark rfl

/-- How `Refresh` ends from the creation of the successor on. -/
inductive RotateEnd (stored : RefreshToken) (user : SuperAdminUser) (rc : RequestContext) :
    Except Error TokenPair × World d → Prop
  | failed (text : String) (operands : List Error) :
      RotateEnd stored user rc (.error (.errorf text operands), w)
  | rotated (p : IssuedPair) (w' : World d) (entry : AuditEntry)
      (hissue : IssueEnd r w user stored.sessionID rc w.clock (.ok p, w'))
      (hactor : entry.actorID = some user.id) :
      RotateEnd stored user rc (.ok p.pair,
        (w'.after r (.tokens (.markUsed stored.id p.refreshTokenID w.clock))).audited entry)

theorem refreshRotate_run (stored : RefreshToken) (user : SuperAdminUser) (rc : RequestContext) :
    RotateEnd r w stored user rc ((refreshRotate d stored user rc w.clock).run (exec d r) w) := by
  unfold refreshRotate
  simp only [Prog.run_bind]
  have hissue := issuePairWithID_run r w user stored.sessionID rc w.clock
  generalize (issuePairWithID d user stored.sessionID rc w.clock).run (exec d r) w = res at hissue
  obtain ⟨e | p, w'⟩ := res
  · cases hissue with
    | failed text operands => exact .failed text operands
  · simp only [Prog.run_bind, run_op, markUsed_of_issued r w hissue]
    exact .rotated p w' _ hissue rfl

/-- The state after `Refresh` has refused a token that was used or revoked. -/
def reused (w : World d) (r : Draws) (stored : RefreshToken) (rc : RequestContext) : World d :=
  (w.after r (.tokens (.revokeSession stored.sessionID RevokeReason.reuse w.clock))).audited {
    actorID := some stored.userID
    action := AuditAction.tokenReuse.string
    metadata := [("session_id", stored.sessionID.string), ("token_id", stored.id.string)]
    ip := rc.ip
    userAgent := rc.userAgent
    createdAt := w.clock }

/-- The branches of `Refresh`. -/
theorem refresh_run (refreshToken : String) (rc : RequestContext) :
    (refresh d refreshToken rc).run (exec d r) w =
      match w.tokenByHash (hashToken refreshToken) with
      | none => (.error (.sentinel .unauthenticated), w)
      | some stored =>
          if stored.isUsed || stored.isRevoked then
            (.error (.sentinel .sessionRevoked), reused w r stored rc)
          else if stored.isExpired w.clock then (.error (.sentinel .unauthenticated), w)
          else match w.userByID stored.userID with
            | none => (.error (.sentinel .unauthenticated), w)
            | some user =>
                match user.ensureCanLogin w.clock with
                | some _ => (.error (.sentinel .unauthenticated), w.after r (.tokens
                    (.revokeSession stored.sessionID RevokeReason.userDisabled w.clock)))
                | none => (refreshRotate d stored user rc w.clock).run (exec d r) w := by
  unfold refresh
  rw [Prog.run_bind, run_op, exec_now, Prog.run_bind, run_op, exec_getByHash]
  cases w.tokenByHash (hashToken refreshToken) with
  | none => rfl
  | some stored =>
      rw [orNotFound_some]
      dsimp only
      by_cases hreuse : (stored.isUsed || stored.isRevoked) = true
      · rw [if_pos hreuse, if_pos hreuse]
        rfl
      · rw [if_neg hreuse, if_neg hreuse]
        by_cases hexpired : stored.isExpired w.clock = true
        · rw [if_pos hexpired, if_pos hexpired]
          rfl
        · rw [if_neg hexpired, if_neg hexpired]
          unfold refreshUsable
          simp only [Prog.run_bind, run_op, exec_getByID]
          cases w.userByID stored.userID with
          | none => rfl
          | some user =>
              simp only [orNotFound_some]
              cases user.ensureCanLogin w.clock <;> rfl

/-! ### Logout -/

/-- The session that `Logout` revokes. -/
def logoutSessionID (w : World d) (refreshToken : String) (claims : Option AccessClaims) : UUID :=
  let sessionID := (claims.map AccessClaims.sessionID).getD UUID.nil
  if refreshToken = "" then sessionID
  else match w.tokenByHash (hashToken refreshToken) with
    | some stored => stored.sessionID
    | none => sessionID

theorem logout_run (refreshToken : String) (claims : Option AccessClaims) (rc : RequestContext) :
    (logout refreshToken claims rc).run (exec d r) w =
      (logoutSession (logoutSessionID w refreshToken claims) claims rc w.clock).run (exec d r) w := by
  unfold logout logoutSessionID
  simp only [Prog.run_bind, run_op, exec_now]
  split
  · rfl
  · simp only [Prog.run_bind, run_op, exec_getByHash]
    cases w.tokenByHash (hashToken refreshToken) <;> rfl

/-- The state after `Logout` has revoked the session, if one is known. -/
def sessionRevoked (w : World d) (r : Draws) (sessionID : UUID) : World d :=
  if sessionID ≠ UUID.nil then
    w.after r (.tokens (.revokeSession sessionID RevokeReason.logout w.clock))
  else w

theorem logoutSession_run (sessionID : UUID) (claims : Option AccessClaims) (rc : RequestContext) :
    (logoutSession sessionID claims rc w.clock).run (exec d r) w =
      (logoutAccess sessionID claims rc w.clock).run (exec d r) (sessionRevoked w r sessionID) := by
  unfold logoutSession revokeKnown sessionRevoked
  rw [Prog.run_bind]
  by_cases h : sessionID ≠ UUID.nil
  · rw [if_pos h, if_pos h]
    rfl
  · rw [if_neg h, if_neg h]
    rfl

/-- `listAlive` only touches the revocation list. -/
theorem listAlive_run (claims : AccessClaims) (now : Time) :
    ∃ res redis, (listAlive claims now).run (exec d r) w = (res, { w with redis := redis }) := by
  unfold listAlive
  split
  · exact ⟨_, _, rfl⟩
  · exact ⟨_, w.redis, rfl⟩

/-- The entry of a logout. -/
def logoutEntry (sessionID : UUID) (claims : AccessClaims) (rc : RequestContext) (now : Time) :
    AuditEntry where
  actorID := some claims.userID
  actorEmail := claims.email
  action := AuditAction.logout.string
  metadata := [("session_id", sessionID.string)]
  ip := rc.ip
  userAgent := rc.userAgent
  createdAt := now

/-- The branches of `Logout` once the session is revoked. -/
theorem logoutAccess_run (sessionID : UUID) (claims : AccessClaims) (rc : RequestContext)
    (now : Time) :
    (logoutAccess sessionID (some claims) rc now).run (exec d r) w =
      match (listAlive claims now).run (exec d r) w with
      | (.error e, w') => (.error e, w')
      | (.ok (), w') => (.ok (), w'.audited (logoutEntry sessionID claims rc now)) := by
  unfold logoutAccess
  rw [Prog.run_bind]
  generalize (listAlive claims now).run (exec d r) w = res
  obtain ⟨e | _, w'⟩ := res <;> rfl

theorem logoutAccess_tokens (sessionID : UUID) (claims : Option AccessClaims) (rc : RequestContext)
    (now : Time) :
    ((logoutAccess sessionID claims rc now).run (exec d r) w).2.tokens = w.tokens := by
  cases claims with
  | none => rfl
  | some claims =>
      obtain ⟨res, redis, hlist⟩ := listAlive_run r w claims now
      rw [logoutAccess_run, hlist]
      rcases res with e | _
      · rfl
      · exact World.writeAudit_tokens _ _

/-- The entry of `LogoutAll`. -/
def logoutAllEntry (userID : UUID) (actor : Option AccessClaims) (rc : RequestContext) (now : Time) :
    AuditEntry where
  actorID := actor.map AccessClaims.userID
  actorEmail := (actor.map AccessClaims.email).getD ""
  action := AuditAction.sessionsRevoked.string
  targetType := Resource.superAdmin.string
  targetID := userID.string
  ip := rc.ip
  userAgent := rc.userAgent
  createdAt := now

theorem logoutAll_run (userID : UUID) (actor : Option AccessClaims) (rc : RequestContext) :
    (logoutAll userID actor rc).run (exec d r) w =
      (.ok (), (w.after r (.tokens (.revokeAllForUser userID RevokeReason.logoutAll w.clock))).audited
        (logoutAllEntry userID actor rc w.clock)) := rfl

end Auth

/-! ### Calls of a member of the team -/

/-- How a call that an actor makes ends: it fails and leaves the state, or it executes one operation
of the kind `K` and writes one entry of the actor. -/
inductive Logged {α : Type} (K : Op → Prop) (actor : UUID) : Except Error α × World d → Prop
  | failed (e : Error) : Logged K actor (.error e, w)
  | done (a : α) (op : Op) (entry : AuditEntry) (hop : K op) (hactor : entry.actorID = some actor) :
      Logged K actor (.ok a, (w.after r op).audited entry)

/-- A statement whose error is returned and whose success is logged. -/
theorem logged_statement {α β : Type} {K : Op → Prop} {actor : UUID} {op : Op}
    {p : Proc (Except Error β)} {f : Except Error β → Proc (Except Error α)} (hop : K op)
    (hstate : (p.run (exec d r) w).2 = w.after r op)
    (hfails : ∀ e, (p.run (exec d r) w).1 = .error e → op.failed (exec d r op w).1 = true)
    (herror : ∀ e, f (.error e) = .pure (.error e))
    (hok : ∀ b w', ∃ a entry, (f (.ok b)).run (exec d r) w' = (.ok a, w'.audited entry) ∧
      entry.actorID = some actor) :
    Logged r w K actor ((p >>= f).run (exec d r) w) := by
  rw [Prog.run_bind, hstate]
  cases hres : (p.run (exec d r) w).1 with
  | error e =>
      rw [herror, World.after, exec_failed r w (hfails e hres)]
      exact .failed e
  | ok b =>
      obtain ⟨a, entry, hrun, hactor⟩ := hok b (w.after r op)
      rw [hrun]
      exact .done a op entry hop hactor

namespace Team

theorem inviteFree_run (actor : AccessClaims) (email : String) (role : Role) (rc : RequestContext) :
    Logged r w (fun op => ∃ inv, op = .invites (.create inv)) actor.userID
      ((inviteFree actor email role rc).run (exec d r) w) := by
  unfold inviteFree generateSecureToken
  rw [Prog.run_bind, Prog.run_bind, run_op, exec_randRead]
  cases r.rand .secureToken with
  | error e => exact .failed _
  | ok raw =>
      dsimp only
      rw [Prog.pure_eq, Prog.run_pure]
      dsimp only
      rw [Prog.run_bind, run_op, exec_now]
      exact logged_statement r w ⟨_, rfl⟩ rfl (fun _ he => congrArg (fun res => !Except.isOk res) he)
        (fun _ => rfl) fun _ _ => ⟨_, _, rfl, rfl⟩

theorem invite_run (actor : AccessClaims) (email : String) (role : Role) (rc : RequestContext) :
    Logged r w (fun op => ∃ inv, op = .invites (.create inv)) actor.userID
      ((invite actor email role rc).run (exec d r) w) := by
  unfold invite
  by_cases hrole : (!invitableRoles role) = true
  · rw [if_pos hrole]
    exact .failed _
  · rw [if_neg hrole, Prog.run_bind, run_op, exec_getByEmail]
    cases w.userByEmail email with
    | some user => exact .failed _
    | none =>
        show Logged r w _ _ (Prog.run (exec d r) (perform (.invites (.hasPending email)) >>= _) w)
        rw [Prog.run_bind, run_op]
        show Logged r w _ _ (Prog.run (exec d r) (if _ then _ else _) w)
        split
        · exact .failed _
        · exact inviteFree_run r w actor email role rc

theorem updateRole_run (actor : AccessClaims) (memberID : UUID) (role : Role) (rc : RequestContext) :
    Logged r w (· = .users (.updateRole memberID role)) actor.userID
      ((updateRole actor memberID role rc).run (exec d r) w) := by
  unfold updateRole
  by_cases hrole : (!invitableRoles role) = true
  · rw [if_pos hrole]
    exact .failed _
  · rw [if_neg hrole, Prog.run_bind, run_op, exec_getByID]
    cases w.userByID memberID with
    | none => exact .failed _
    | some member =>
        rw [orNotFound_some]
        dsimp only
        by_cases howner : member.role = .owner
        · rw [if_pos howner]
          exact .failed _
        · rw [if_neg howner]
          exact logged_statement r w rfl rfl
            (fun _ he => congrArg (fun res => !Except.isOk res) he) (fun _ => rfl)
            fun _ _ => ⟨_, _, rfl, rfl⟩

/-- The branches of `Team.Revoke`. -/
inductive RevokeEnd (actor : AccessClaims) (memberID : UUID) : Except Error Unit × World d → Prop
  | failed (e : Error) : RevokeEnd actor memberID (.error e, w)
  | done (entry : AuditEntry) (hactor : entry.actorID = some actor.userID) :
      RevokeEnd actor memberID (.ok (),
        ((w.after r (.users (.updateStatus memberID .suspended))).after r
          (.tokens (.revokeAllForUser memberID RevokeReason.userDisabled w.clock))).audited entry)

theorem revoke_run (actor : AccessClaims) (memberID : UUID) (rc : RequestContext) :
    RevokeEnd r w actor memberID ((revoke actor memberID rc).run (exec d r) w) := by
  unfold revoke
  rw [Prog.run_bind, run_op, exec_getByID]
  cases w.userByID memberID with
  | none => exact .failed _
  | some member =>
      rw [orNotFound_some]
      dsimp only
      by_cases howner : member.role = .owner
      · rw [if_pos howner]
        exact .failed _
      · rw [if_neg howner, Prog.run_bind, run_op, exec_now, Prog.run_bind, run_op]
        cases hupdate : (exec d r (.users (.updateStatus memberID .suspended)) w).1 with
        | error e =>
            have hfailed : Op.failed (.users (.updateStatus memberID .suspended))
                (exec d r (.users (.updateStatus memberID .suspended)) w).1 = true := by
              rw [hupdate]
              rfl
            rw [exec_failed r w hfailed]
            exact .failed e
        | ok updated => exact .done _ rfl

end Team

end Usecase

/-! ### Sequential runs -/

/-- A call of a sequential run, with the time at which it is made and its random values. -/
structure Turn where
  now : Time
  draws : Draws
  call : Call

/-- Make the call of a turn. -/
def Turn.run (d : Deps) (t : Turn) (w : World d) : Reply × World d :=
  (t.call.proc d).run (exec d t.draws) { w with clock := t.now }

/-- Make the calls of some turns one after the other. -/
def runTurns (d : Deps) (l : List Turn) (w : World d) : World d :=
  l.foldl (fun w t => (t.run d w).2) w

theorem runTurns_append (l l' : List Turn) (w : World d) :
    runTurns d (l ++ l') w = runTurns d l' (runTurns d l w) := List.foldl_append

theorem runTurns_cons (t : Turn) (l : List Turn) (w : World d) :
    runTurns d (t :: l) w = runTurns d l (t.run d w).2 := rfl

end SuperAdmin
