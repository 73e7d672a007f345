import SuperAdmin.Endings
import SuperAdmin.Sample

/-! # A login or an exchange that fails half way

`Login` and `Refresh` write more than once and run in no transaction.  One of their calls may fail
without effect once the account was read and found fit: then the operation returns an error, and what was
written before the failure stays.  That is nothing unless a login has already registered its success, or an
exchange has already created the successor. -/

namespace SuperAdmin.Interrupted

open Effects Usecase

variable {d : Deps}

/-! ### Calls that fail -/

/-- The calls that a login or an exchange makes after it has found the account fit. -/
inductive Stage where
  | registerSuccessfulLogin
  | issue
  | generateSecureToken
  | create
  | markUsed
deriving DecidableEq

/-- The stage to which a call belongs. -/
def stage : Op → Option Stage
  | .users (.registerSuccessfulLogin _ _) => some .registerSuccessfulLogin
  | .issuer (.issue _) => some .issue
  | .randRead .secureToken => some .generateSecureToken
  | .tokens (.create _) => some .create
  | .tokens (.markUsed _ _ _) => some .markUsed
  | _ => none

/-- The ports, of which one call fails without effect. -/
def failing (d : Deps) (r : Draws) (p : Stage) (e : Error) : Handler Eff (World d)
  | .users (.registerSuccessfulLogin id now), w =>
      if p = .registerSuccessfulLogin then (.error e, w)
      else exec d r (.users (.registerSuccessfulLogin id now)) w
  | .issuer (.issue c), w => if p = .issue then (.error e, w) else exec d r (.issuer (.issue c)) w
  | .randRead .secureToken, w =>
      if p = .generateSecureToken then (.error e, w) else exec d r (.randRead .secureToken) w
  | .tokens (.create t), w => if p = .create then (.error e, w) else exec d r (.tokens (.create t)) w
  | .tokens (.markUsed id replacedBy now), w =>
      if p = .markUsed then (.error e, w) else exec d r (.tokens (.markUsed id replacedBy now)) w
  | op, w => exec d r op w

variable (r : Draws) (p : Stage) (e : Error) (w : World d)

/-- A call alone. -/
theorem run_failing_op (op : Op) :
    Prog.run (α := no_index op.Res) (failing d r p e) (perform op) w = failing d r p e op w := rfl

/-- The other calls do what they do. -/
theorem failing_of_ne {op : Op} (h : stage op ≠ some p) : failing d r p e op w = exec d r op w := by
  unfold stage at h
  split at h
  · exact if_neg fun hp => h (congrArg some hp.symm)
  · exact if_neg fun hp => h (congrArg some hp.symm)
  · exact if_neg fun hp => h (congrArg some hp.symm)
  · exact if_neg fun hp => h (congrArg some hp.symm)
  · exact if_neg fun hp => h (congrArg some hp.symm)
  · unfold failing
    split
    all_goals first | rfl | simp_all

/-- A program that does not make the call runs as ever. -/
theorem run_failing {α : Type} {q : Proc α} (hq : q.Only fun op : Op => stage op ≠ some p) :
    q.run (failing d r p e) w = q.run (exec d r) w :=
  hq.run_congr (fun _ w hop => failing_of_ne r p e w hop) w

/-! ### The pair -/

variable (user : SuperAdminUser) (sessionID : UUID) (rc : RequestContext) (now : Time)

/-- The stages within `issuePairWithID`. -/
def Stage.issues : Stage → Bool
  | .issue | .generateSecureToken | .create => true
  | .registerSuccessfulLogin | .markUsed => false

theorem stage_ne_of_issues {op : Op} (hop : op.issues = true) (hp : p.issues = false) :
    stage op ≠ some p := by
  intro h
  unfold Op.issues at hop
  split at hop
  · cases h
  · rename_i site
    cases site with
    | secureToken =>
        cases h
        cases hp
    | codeGroup => cases h
    | codeGroup2 => cases h
  · cases h
    cases hp
  · cases h
    cases hp
  · cases hop

/-- A pair whose making fails leaves nothing. -/
theorem issuePairWithID_failing (hp : p.issues = true) :
    ∃ e', (Auth.issuePairWithID d user sessionID rc now).run (failing d r p e) w = (.error e', w) := by
  unfold Auth.issuePairWithID generateSecureToken
  cases p with
  | registerSuccessfulLogin => cases hp
  | markUsed => cases hp
  | issue => exact ⟨e, rfl⟩
  | generateSecureToken =>
      simp only [Prog.run_bind, run_failing_op, failing, exec, World.issuerAnswer, reduceCtorEq, if_false]
      cases d.issuer.issue (Auth.accessClaims d user sessionID (r.uuid .accessToken) now) with
      | error e' => exact ⟨e', rfl⟩
      | ok access => exact ⟨_, rfl⟩
  | create =>
      simp only [Prog.run_bind, run_failing_op, failing, exec, World.issuerAnswer, reduceCtorEq, if_false]
      cases d.issuer.issue (Auth.accessClaims d user sessionID (r.uuid .accessToken) now) with
      | error e' => exact ⟨e', rfl⟩
      | ok access =>
          simp only [Prog.run_bind, run_failing_op, failing, exec, reduceCtorEq, if_false]
          cases r.rand .secureToken with
          | error e' => exact ⟨_, rfl⟩
          | ok raw => exact ⟨e, rfl⟩

/-- A pair with whose making the failure has nothing to do. -/
theorem issuePairWithID_passes (hp : p.issues = false) :
    (Auth.issuePairWithID d user sessionID rc now).run (failing d r p e) w =
      (Auth.issuePairWithID d user sessionID rc now).run (exec d r) w :=
  run_failing r p e w ((Auth.issues_issuePairWithID d user rc now sessionID).mono fun _ hop =>
    stage_ne_of_issues p hop hp)

/-! ### Login -/

variable {user : SuperAdminUser} {rc : RequestContext}

/-- The credentials are those of an account that is active and not locked. -/
structure SignsIn (w : World d) (creds : Credentials) (user : SuperAdminUser) : Prop where
  found : w.userByEmail (Password.normalizeEmail d creds.email) = some user
  password : d.hasher.verify creds.password user.passwordHash = .ok true
  active : user.status = .active
  unlocked : user.isLocked w.clock = false

/-- A row once a login has registered its success. -/
def signedIn (now : Time) (u : SuperAdminUser) : SuperAdminUser :=
  { u with failedLoginAttempts := 0, lockedUntil := none, lastLoginAt := some now.timestamptz }

/-- A login goes as far as the account. -/
theorem login_failing {creds : Credentials} (h : SignsIn w creds user) :
    (Auth.login d creds rc).run (failing d r p e) w =
      (Auth.loginUser d user rc w.clock).run (failing d r p e) w := by
  have hauth : (Password.authenticate d creds).run (failing d r p e) w = (.ok user, w) := by
    unfold Password.authenticate
    simp only [Prog.run_bind, run_failing_op, failing, exec_getByEmail, h.found, orNotFound_some, h.password]
    rfl
  unfold Auth.login
  simp only [Prog.run_bind, run_failing_op, failing, exec_now, hauth]

/-- A login that fails leaves no token, and the account as it was or signed in. -/
theorem loginUser_failing (hp : p ≠ .markUsed) (hcan : user.ensureCanLogin w.clock = none) :
    let res := (Auth.loginUser d user rc w.clock).run (failing d r p e) w
    res.1.isOk = false ∧ res.2.tokens = w.tokens ∧
      res.2.users.rows = if p = .registerSuccessfulLogin then w.users.rows
        else w.users.rows.map fun u => if u.id == user.id then signedIn w.clock u else u := by
  unfold Auth.loginUser
  rw [hcan]
  by_cases hregister : p = .registerSuccessfulLogin
  · subst hregister
    exact ⟨rfl, rfl, rfl⟩
  · have hissues : p.issues = true := by cases p <;> first | rfl | contradiction
    obtain ⟨e', hissue⟩ := issuePairWithID_failing r p e
      (w.after r (.users (.registerSuccessfulLogin user.id w.clock))) user (r.uuid .session) rc w.clock
      hissues
    simp only [Prog.run_bind, run_failing_op, failing, if_neg hregister, exec_registerSuccessfulLogin,
      exec_newUUID, Auth.issuePair, hissue]
    exact ⟨rfl, rfl, rfl⟩

/-! ### Refresh -/

/-- The token is one that can be exchanged, of an account that is active and not locked. -/
structure Exchanges (w : World d) (refreshToken : String) (stored : RefreshToken) (user : SuperAdminUser) :
    Prop where
  found : w.tokenByHash (hashToken refreshToken) = some stored
  usable : stored.isUsable w.clock = true
  owner : w.userByID stored.userID = some user
  active : user.status = .active
  unlocked : user.isLocked w.clock = false

/-- An exchange goes as far as the account. -/
theorem refresh_failing {refreshToken : String} {stored : RefreshToken}
    (h : Exchanges w refreshToken stored user) :
    (Auth.refresh d refreshToken rc).run (failing d r p e) w =
      (Auth.refreshRotate d stored user rc w.clock).run (failing d r p e) w := by
  have husable := h.usable
  unfold RefreshToken.isUsable at husable
  simp only [Bool.and_eq_true, Bool.not_eq_true'] at husable
  obtain ⟨⟨hexpired, hrevoked⟩, hused⟩ := husable
  have hcan : user.ensureCanLogin w.clock = none :=
    SuperAdminUser.ensureCanLogin_eq_none.mpr ⟨h.unlocked, h.active⟩
  unfold Auth.refresh Auth.refreshUsable
  simp only [Prog.run_bind, run_failing_op, failing, exec_now, exec_getByHash, h.found, orNotFound_some,
    hused, hrevoked, hexpired, Bool.or_self, Bool.false_eq_true, if_false, exec_getByID, h.owner, hcan]

/-- The row of the successor, with the random bytes of its token. -/
def successor (r : Draws) (w : World d) (stored : RefreshToken) (user : SuperAdminUser)
    (rc : RequestContext) (raw : Bytes) : RefreshToken :=
  (Auth.refreshRecord d user (r.uuid .refreshToken) stored.sessionID (rawURLEncodeToString raw) rc
    w.clock).inserted w.clock

/-- An exchange that fails leaves the accounts as they are, and the tokens as well unless it was the mark
that failed. -/
theorem refreshRotate_failing (hp : p ≠ .registerSuccessfulLogin) (stored : RefreshToken) :
    let res := (Auth.refreshRotate d stored user rc w.clock).run (failing d r p e) w
    res.1.isOk = false ∧ res.2.users = w.users ∧ (p ≠ .markUsed → res.2.tokens = w.tokens) ∧
      (p = .markUsed → Auth.CanIssue r w user stored.sessionID rc w.clock →
        ∃ raw, r.rand .secureToken = .ok raw ∧
          res.2.tokens.rows = w.tokens.rows ++ [successor r w stored user rc raw]) := by
  unfold Auth.refreshRotate
  by_cases hmark : p = .markUsed
  · subst hmark
    simp only [Prog.run_bind, issuePairWithID_passes r .markUsed e w user stored.sessionID rc w.clock rfl]
    have hissue := Auth.issuePairWithID_run r w user stored.sessionID rc w.clock
    generalize (Auth.issuePairWithID d user stored.sessionID rc w.clock).run (exec d r) w = res at hissue
    obtain ⟨e' | pair, w'⟩ := res
    · cases hissue with
      | failed text operands hcannot =>
          exact ⟨rfl, rfl, fun h => absurd rfl h, fun _ hcan => absurd hcan hcannot⟩
    · cases hissue with
      | issued access raw T hsigned hraw hinsert huser =>
          exact ⟨rfl, rfl, fun h => absurd rfl h, fun _ _ => ⟨raw, hraw, (Table.insert?_eq_some hinsert).1⟩⟩
  · have hissues : p.issues = true := by cases p <;> first | rfl | contradiction
    obtain ⟨e', hissue⟩ := issuePairWithID_failing r p e w user stored.sessionID rc w.clock hissues
    simp only [Prog.run_bind, hissue]
    exact ⟨rfl, rfl, fun _ => rfl, fun h => absurd h hmark⟩

/-! ### What a failure leaves -/

/-- A call of a login or an exchange fails once the account is found fit.  The operation returns an error.
A login leaves the tokens as they were, and the accounts as well, but for the success it may have registered.
An exchange leaves the accounts as they were, and the tokens as well, but for the successor that it may have
created. -/
theorem interrupted (r : Draws) (p : Stage) (e : Error) (w : World d) (rc : RequestContext)
    (user : SuperAdminUser) :
    (∀ creds, SignsIn w creds user → p ≠ .markUsed →
      let res := (Auth.login d creds rc).run (failing d r p e) w
      res.1.isOk = false ∧ res.2.tokens = w.tokens ∧
        res.2.users.rows = if p = .registerSuccessfulLogin then w.users.rows
          else w.users.rows.map fun u => if u.id == user.id then signedIn w.clock u else u) ∧
    (∀ refreshToken stored, Exchanges w refreshToken stored user → p ≠ .registerSuccessfulLogin →
      let res := (Auth.refresh d refreshToken rc).run (failing d r p e) w
      res.1.isOk = false ∧ res.2.users = w.users ∧ (p ≠ .markUsed → res.2.tokens = w.tokens) ∧
        (p = .markUsed → Auth.CanIssue r w user stored.sessionID rc w.clock →
          ∃ raw, r.rand .secureToken = .ok raw ∧
            res.2.tokens.rows = w.tokens.rows ++ [successor r w stored user rc raw])) := by
  constructor
  · intro creds h hp
    have hcan := SuperAdminUser.ensureCanLogin_eq_none.mpr ⟨h.unlocked, h.active⟩
    rw [login_failing r p e w h]
    exact loginUser_failing r p e w hp hcan
  · intro refreshToken stored h hp
    rw [refresh_failing r p e w h]
    exact refreshRotate_failing r p e w hp stored

/-! ### A login and an exchange that are cut off -/

/-- The owner after the first login. -/
def owner : SuperAdminUser := signedIn Sample.start Sample.owner

/-- The refresh token of that login. -/
def first : RefreshToken :=
  (Auth.refreshRecord Sample.deps Sample.owner ((Sample.draws 0).uuid .refreshToken)
    ((Sample.draws 0).uuid .session) Sample.firstToken Sample.context Sample.start).inserted Sample.start

def credentials : Credentials := ⟨"owner@example.com", "correct horse"⟩

def reset : Error := .foreign "connection reset"

theorem verify_owner : Sample.deps.hasher.verify credentials.password Sample.owner.passwordHash = .ok true :=
  congrArg Except.ok (show (Sample.owner.passwordHash == "argon2id$" ++ credentials.password) = true by
    decide)

theorem signsIn_owner : SignsIn Sample.loggedIn credentials owner where
  found := by decide
  password := verify_owner
  active := rfl
  unlocked := rfl

theorem exchanges_first : Exchanges Sample.loggedIn Sample.firstToken first owner where
  found := by decide +kernel
  usable := by decide
  owner := by decide
  active := rfl
  unlocked := rfl

theorem canIssue_second : Auth.CanIssue (Sample.draws 1) Sample.loggedIn owner first.sessionID Sample.context
    Sample.loggedIn.clock where
  signs := ⟨_, Sample.issue_token _⟩
  inserts := by
    have hfree : ∀ t ∈ Sample.loggedIn.tokens.rows, ¬ EitherEq (t.id, t.tokenHash)
        ((Sample.draws 1).uuid .refreshToken,
          hashToken (rawURLEncodeToString (List.replicate 32 1))) := by decide +kernel
    obtain ⟨T, hinsert⟩ := Table.insert?_isSome (t := Sample.loggedIn.tokens)
      (r := successor (Sample.draws 1) Sample.loggedIn first owner Sample.context (List.replicate 32 1)) hfree
    exact ⟨_, T, rfl, hinsert⟩
  stored := by decide

/-- A login that cannot sign its access token, and an exchange that cannot mark its token. -/
theorem interrupted_reset :
    ((Auth.login Sample.deps credentials Sample.context).run
        (failing Sample.deps (Sample.draws 1) .issue reset) Sample.loggedIn).1.isOk = false ∧
      ((Auth.refresh Sample.deps Sample.firstToken Sample.context).run
        (failing Sample.deps (Sample.draws 1) .markUsed reset) Sample.loggedIn).1.isOk = false ∧
      ∃ raw, (Sample.draws 1).rand .secureToken = .ok raw ∧
        ((Auth.refresh Sample.deps Sample.firstToken Sample.context).run
          (failing Sample.deps (Sample.draws 1) .markUsed reset) Sample.loggedIn).2.tokens.rows =
        Sample.loggedIn.tokens.rows ++
          [successor (Sample.draws 1) Sample.loggedIn first owner Sample.context raw] :=
  have hlogin := interrupted (Sample.draws 1) .issue reset Sample.loggedIn Sample.context owner
  have hrefresh := interrupted (Sample.draws 1) .markUsed reset Sample.loggedIn Sample.context owner
  have hmarked := hrefresh.2 Sample.firstToken first exchanges_first (by decide)
  ⟨(hlogin.1 credentials signsIn_owner (by decide)).1, hmarked.1, hmarked.2.2.2 rfl canIssue_second⟩

/-- A login that fails to sign the access token has signed the account in. -/
theorem failed_login_registered : ¬ ∀ (d : Deps) (r : Draws) (p : Stage) (e : Error) (w : World d)
    (rc : RequestContext) (user : SuperAdminUser),
    (∀ creds, SignsIn w creds user → p ≠ .markUsed →
      let res := (Auth.login d creds rc).run (failing d r p e) w
      res.1.isOk = false ∧ res.2.users = w.users ∧ res.2.tokens = w.tokens) ∧
    (∀ refreshToken stored, Exchanges w refreshToken stored user → p ≠ .registerSuccessfulLogin →
      let res := (Auth.refresh d refreshToken rc).run (failing d r p e) w
      res.1.isOk = false ∧ res.2.users = w.users ∧ res.2.tokens = w.tokens) := by
  intro hclaim
  have hsignsIn : SignsIn Sample.world credentials Sample.owner := {
    found := by decide
    password := verify_owner
    active := rfl
    unlocked := rfl }
  obtain ⟨-, husers, -⟩ := (hclaim Sample.deps (Sample.draws 0) .issue reset Sample.world Sample.context
    Sample.owner).1 credentials hsignsIn (by decide)
  have hseen : (((Auth.login Sample.deps credentials Sample.context).run
      (failing Sample.deps (Sample.draws 0) .issue reset) Sample.world).2.users.rows.map
        (·.lastLoginAt)) = [some Sample.start.timestamptz, none] := by decide
  rw [husers] at hseen
  revert hseen
  decide

end SuperAdmin.Interrupted
