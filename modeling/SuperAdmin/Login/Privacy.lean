import SuperAdmin.Endings
import SuperAdmin.Sample

/-! # What the answer of a login reveals

The password is checked before the lock and the status, so that nobody learns of a lockout by
guessing an email.  What a login answers about a stored account is thus a function of what
`Verify` says about the password (`loginAnswer`).  A locked account confirms a right password,
without letting anybody in; and since the lock is looked at before the status, a suspended account
that is locked gives itself away to whoever knows its password. -/

namespace SuperAdmin.Login

open Effects Usecase

variable {d : Deps}

/-- The result of `Login` in a state. -/
def loginResult (w : World d) (r : Draws) (creds : Credentials) (rc : RequestContext) :
    Except Error (TokenPair × SuperAdminUser) :=
  ((Auth.login d creds rc).run (exec d r) w).1

/-- The error for a user who may not log in, when `Verify` has answered. -/
def refusal (e : Error) : Except Error Bool → Error
  | .error verifyError =>
      if verifyError.is .invalidCredentials then .sentinel .invalidCredentials else verifyError
  | .ok true => e
  | .ok false => .sentinel .invalidCredentials

/-- A login for an email that no user has. -/
theorem login_unknown {w : World d} {r : Draws} {creds : Credentials} {rc : RequestContext}
    (h : w.userByEmail (Password.normalizeEmail d creds.email) = none) :
    loginResult w r creds rc = .error (.sentinel .invalidCredentials) := by
  unfold loginResult
  rw [Auth.login_run, h]
  rfl

/-- A login for a user who may not log in. -/
theorem login_refused {w : World d} {r : Draws} {creds : Credentials} {rc : RequestContext}
    {user : SuperAdminUser} {e : Error}
    (h : w.userByEmail (Password.normalizeEmail d creds.email) = some user)
    (he : user.ensureCanLogin w.clock = some e) :
    loginResult w r creds rc =
      .error (refusal e (d.hasher.verify creds.password user.passwordHash)) := by
  unfold loginResult
  rw [Auth.login_run, h]
  dsimp only [Auth.outcome]
  cases hverify : d.hasher.verify creds.password user.passwordHash with
  | error verifyError =>
      dsimp only [refusal]
      by_cases hinvalid : verifyError.is .invalidCredentials = true
      · rw [if_pos hinvalid, if_pos hinvalid, Auth.loginRefused_run]
      · rw [if_neg hinvalid, if_neg hinvalid]
  | ok ok =>
      cases ok with
      | false => rfl
      | true =>
          simp only [if_true, refusal]
          have hend := Auth.loginUser_run r w user rc
          generalize (Auth.loginUser d user rc w.clock).run (exec d r) w = res at hend
          cases hend with
          | refused e' h' =>
              rw [he] at h'
              cases h'
              rfl
          | failed e' h' =>
              rw [he] at h'
              cases h'
          | issued p w' entry h' hissue hactor =>
              rw [he] at h'
              cases h'

/-- A call fails with an error that is the sentinel. -/
def failsWith {α : Type} (res : Except Error α) (s : Sentinel) : Bool :=
  match res with
  | .error e => e.is s
  | .ok _ => false

/-! ### A locked account -/

/-- A locked account lets nobody in, and what a login answers depends on the password only through
the answer of `Verify`: a wrong password gets `ErrInvalidCredentials`, the right one
`ErrAccountLocked`. -/
theorem locked_login {w : World d} {user : SuperAdminUser} (hu : user ∈ w.users.rows)
    (hlocked : user.isLocked w.clock = true) (creds₁ creds₂ : Credentials)
    (h₁ : d.citextLower user.email = d.citextLower (Password.normalizeEmail d creds₁.email))
    (h₂ : d.citextLower user.email = d.citextLower (Password.normalizeEmail d creds₂.email))
    (r₁ r₂ : Draws) (rc₁ rc₂ : RequestContext) :
    loginResult w r₁ creds₁ rc₁ = .error (refusal (.sentinel .accountLocked)
        (d.hasher.verify creds₁.password user.passwordHash)) ∧
      (d.hasher.verify creds₁.password user.passwordHash =
          d.hasher.verify creds₂.password user.passwordHash →
        loginResult w r₁ creds₁ rc₁ = loginResult w r₂ creds₂ rc₂) := by
  have hcan : user.ensureCanLogin w.clock = some (.sentinel .accountLocked) := by
    unfold SuperAdminUser.ensureCanLogin
    rw [if_pos hlocked]
  have hres₁ : loginResult w r₁ creds₁ rc₁ = _ := login_refused (World.userByEmail_of_mem hu h₁) hcan
  have hres₂ : loginResult w r₂ creds₂ rc₂ = _ := login_refused (World.userByEmail_of_mem hu h₂) hcan
  refine ⟨hres₁, fun hsame => ?_⟩
  rw [hres₁, hres₂, hsame]

/-- The owner of the sample, locked for an hour. -/
def lockedOwner : SuperAdminUser :=
  { Sample.owner with failedLoginAttempts := 5
                      lockedUntil := some (Sample.start.add Duration.hour) }

/-- The sample with a locked owner. -/
def lockedWorld : World Sample.deps := { Sample.world with users := ⟨[lockedOwner], List.pairwise_singleton _ _⟩ }

/-- The wrong password on the locked account. -/
theorem locked_login_wrong_password :
    loginResult lockedWorld (Sample.draws 0) ⟨"owner@example.com", "guess one"⟩ Sample.context =
      .error (.sentinel .invalidCredentials) := by
  have hmem : lockedOwner ∈ lockedWorld.users.rows := List.mem_singleton_self _
  have hlocked : lockedOwner.isLocked lockedWorld.clock = true := by decide
  have hemail : Sample.deps.citextLower lockedOwner.email =
      Sample.deps.citextLower (Password.normalizeEmail Sample.deps "owner@example.com") := by
    decide
  exact (locked_login hmem hlocked ⟨"owner@example.com", "guess one"⟩
    ⟨"owner@example.com", "guess two"⟩ hemail hemail (Sample.draws 0) (Sample.draws 0)
    Sample.context Sample.context).1

/-- A locked account tells the right password from a wrong one. -/
theorem locked_login_tells_password :
    ¬ ∀ (d : Deps) (w : World d) (user : SuperAdminUser) (creds₁ creds₂ : Credentials)
        (r₁ r₂ : Draws) (rc : RequestContext),
      user ∈ w.users.rows → user.isLocked w.clock = true → user.status = .active →
      d.citextLower user.email = d.citextLower (Password.normalizeEmail d creds₁.email) →
      d.citextLower user.email = d.citextLower (Password.normalizeEmail d creds₂.email) →
      ∀ s, failsWith (loginResult w r₁ creds₁ rc) s = failsWith (loginResult w r₂ creds₂ rc) s := by
  intro hclaim
  have hsame := hclaim Sample.deps lockedWorld lockedOwner ⟨"owner@example.com", "correct horse"⟩
    ⟨"owner@example.com", "guess one"⟩ (Sample.draws 0) (Sample.draws 0) Sample.context
    (List.mem_singleton_self _) (by decide) rfl (by decide) (by decide)
    .accountLocked
  revert hsame
  decide

/-! ### A suspended account -/

/-- A suspended account answers like no account, whatever the password. -/
def Unrevealing (d : Deps) (user : SuperAdminUser) (now : Time) (password : String) : Prop :=
  match d.hasher.verify password user.passwordHash with
  | .error e => e.is .invalidCredentials = true
  | .ok ok => ok = true → user.isLocked now = false

/-- A login for a suspended account answers as if there were no account exactly when the account
is `Unrevealing`: the password is wrong, or it is right and the account is not locked. -/
theorem suspended_login_iff {w : World d} {users' : UserTable d} {user : SuperAdminUser}
    (creds : Credentials) (hsuspended : user.status = .suspended)
    (hnone : ∀ u ∈ w.users.rows,
      d.citextLower u.email ≠ d.citextLower (Password.normalizeEmail d creds.email))
    (hemail : d.citextLower user.email = d.citextLower (Password.normalizeEmail d creds.email))
    (hplus : users'.rows.Perm (user :: w.users.rows)) (r r' : Draws) (rc rc' : RequestContext) :
    (loginResult w r creds rc = .error (.sentinel .invalidCredentials) ∧
        loginResult { w with users := users' } r' creds rc' =
          .error (.sentinel .invalidCredentials)) ↔
      Unrevealing d user w.clock creds.password := by
  have hfree : w.userByEmail (Password.normalizeEmail d creds.email) = none := by
    refine Table.find?_eq_none.mpr fun u hu => ?_
    simpa using hnone u hu
  rw [and_iff_right (login_unknown hfree)]
  have hmem : user ∈ users'.rows := hplus.symm.subset List.mem_cons_self
  have hfind : World.userByEmail { w with users := users' }
      (Password.normalizeEmail d creds.email) = some user := World.userByEmail_of_mem hmem hemail
  -- the lock comes before the status
  have hcan : user.ensureCanLogin w.clock = some (.sentinel
      (if user.isLocked w.clock = true then .accountLocked else .invalidCredentials)) := by
    unfold SuperAdminUser.ensureCanLogin
    by_cases hlocked : user.isLocked w.clock = true
    · rw [if_pos hlocked, if_pos hlocked]
    · rw [if_neg hlocked, if_neg hlocked, if_pos (by rw [hsuspended]; decide)]
  rw [login_refused (w := { w with users := users' }) hfind hcan]
  unfold Unrevealing
  cases d.hasher.verify creds.password user.passwordHash with
  | error e =>
      simp only [refusal]
      by_cases hinvalid : e.is .invalidCredentials = true
      · simp [hinvalid]
      · rw [if_neg hinvalid]
        constructor
        · intro h
          cases h
          exact absurd rfl hinvalid
        · exact fun h => absurd h hinvalid
  | ok ok =>
      cases ok with
      | false => simp [refusal]
      | true =>
          by_cases hlocked : user.isLocked w.clock = true
          · simp [refusal, hlocked]
          · simp [refusal, hlocked]

/-- Logins and the operations of the team. -/
def accountTurn (t : Turn) : Bool :=
  match t.call with
  | .login _ _ | .invite _ _ _ _ | .updateRole _ _ _ _ | .revoke _ _ _ => true
  | _ => false

/-- The claims of the owner of the sample. -/
def ownerClaims : AccessClaims where
  userID := Sample.owner.id
  email := Sample.owner.email
  role := .owner
  sessionID := 1
  tokenID := 2
  issuedAt := Sample.start
  expiresAt := Sample.start.add (15 * Duration.minute)

/-- Five wrong passwords for the second member of the team, who is then suspended. -/
def suspendTurns : List Turn :=
  List.replicate 5 ⟨Sample.start, Sample.draws 0,
      .login ⟨"support@example.com", "wrong guess"⟩ Sample.context⟩ ++
    [⟨Sample.start, Sample.draws 1, .revoke ownerClaims Sample.support.id Sample.context⟩]

/-- The state after these turns. -/
def suspendedWorld : World Sample.deps := runTurns Sample.deps suspendTurns Sample.world

/-- That state without the suspended account. -/
def withoutSuspended : World Sample.deps :=
  { suspendedWorld with users := suspendedWorld.users.delete fun u => u.id == Sample.support.id }

/-- The suspended account of that state. -/
def suspendedSupport : SuperAdminUser :=
  { Sample.support with status := .suspended
                        failedLoginAttempts := 5
                        lockedUntil := some (Sample.start.add (15 * Duration.minute)) }

theorem suspended_rows : suspendedWorld.users.rows = [Sample.owner, suspendedSupport] := by
  decide

theorem withoutSuspended_rows : withoutSuspended.users.rows = [Sample.owner] := by
  decide

/-- The account is what the state without it lacks. -/
theorem suspended_plus :
    suspendedWorld.users.rows.Perm (suspendedSupport :: withoutSuspended.users.rows) := by
  rw [withoutSuspended_rows, suspended_rows]
  exact .swap _ _ _

/-- With a wrong password the suspended account answers like no account. -/
theorem suspended_login_wrong_password :
    loginResult suspendedWorld (Sample.draws 2) ⟨"support@example.com", "wrong guess"⟩
      Sample.context = .error (.sentinel .invalidCredentials) := by
  have hnone : ∀ u ∈ withoutSuspended.users.rows, Sample.deps.citextLower u.email ≠
      Sample.deps.citextLower (Password.normalizeEmail Sample.deps "support@example.com") := by
    rw [withoutSuspended_rows]
    decide
  have hsuspended : suspendedSupport.status = .suspended := rfl
  have hwrong : Unrevealing Sample.deps suspendedSupport withoutSuspended.clock "wrong guess" := by
    intro h
    cases h
  exact ((suspended_login_iff ⟨"support@example.com", "wrong guess"⟩ hsuspended hnone
    (by decide) suspended_plus (Sample.draws 2) (Sample.draws 2) Sample.context
    Sample.context).mpr hwrong).2

/-- With the right password the suspended and locked account gives itself away. -/
theorem suspended_login_reveals :
    ¬ ∀ (d : Deps) (w₀ : World d) (turns : List Turn) (w : World d) (user : SuperAdminUser)
        (creds : Credentials) (r r' : Draws) (rc : RequestContext),
      (∀ u ∈ w₀.users.rows, u.status = .active ∧ u.failedLoginAttempts = 0 ∧ u.lockedUntil = none) →
      (∀ t ∈ turns, accountTurn t = true) → user.status = .suspended →
      (∀ u ∈ w.users.rows,
        d.citextLower u.email ≠ d.citextLower (Password.normalizeEmail d creds.email)) →
      d.citextLower user.email = d.citextLower (Password.normalizeEmail d creds.email) →
      (runTurns d turns w₀).users.rows.Perm (user :: w.users.rows) →
      w = { runTurns d turns w₀ with users := w.users } →
      ∀ s, failsWith (loginResult w r creds rc) s =
        failsWith (loginResult (runTurns d turns w₀) r' creds rc) s := by
  intro hclaim
  have hsame := hclaim Sample.deps Sample.world suspendTurns withoutSuspended suspendedSupport
    ⟨"support@example.com", "correct horse"⟩ (Sample.draws 2) (Sample.draws 2) Sample.context
    (by decide) (by decide) rfl (by rw [withoutSuspended_rows]; decide)
    (by decide) suspended_plus rfl .accountLocked
  revert hsame
  decide

end SuperAdmin.Login
