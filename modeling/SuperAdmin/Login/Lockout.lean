import SuperAdmin.Endings
import SuperAdmin.Users
import SuperAdmin.Sample

/-! # The lockout and the failure counter

A failed login adds one to the counter that the row has, but decides on the lock by the counter
that the provider read some steps earlier.  As long as the two agree on which side of the threshold
the attempt falls (`freshEnough`), the account is locked exactly when the counter has reached the
threshold.  Parallel attempts all read the same counter, and then they do not agree. -/

namespace SuperAdmin.Login

open Effects Usecase

variable {d : Deps} {ι : Type}

/-! ### What a call has read -/

section reads

variable [DecidableEq ι]

/-- The users that a call has read by their email. -/
def readBy (i : ι) (s : Recorded Eff (World d) ι) : List SuperAdminUser :=
  s.trace.filterMap fun e =>
    match e.op with
    | .users (.getByEmail email) => if e.tid = i then e.before.userByEmail email else none
    | _ => none

/-- The attempt after `r` failures and the attempt after `c` failures fall on the same side of the
threshold, as far as the lock is concerned. -/
def agrees (max : ℤ) (r c : ℕ) : Bool :=
  decide (max ≤ r + 1 → max ≤ c + 1) && decide ((c : ℤ) + 1 = max → max ≤ r + 1)

/-- A `RegisterFailedLogin` finds a counter that agrees with the one that its call has read. -/
def freshEnough (i : ι) (op : Op) (s : Recorded Eff (World d) ι) : Bool :=
  match op with
  | .users (.registerFailedLogin id _) =>
      (readBy i s).all fun user => user.id != id || s.now.users.rows.all fun u =>
        u.id != id || agrees d.cfg.maxFailedAttempts user.failedLoginAttempts u.failedLoginAttempts
  | _ => true

theorem freshEnough_failed {i : ι} {s : Recorded Eff (World d) ι} {id : UUID}
    {lockedUntil : Option Time} {user u : SuperAdminUser}
    (h : freshEnough i (.users (.registerFailedLogin id lockedUntil)) s = true)
    (huser : user ∈ readBy i s) (hid : user.id = id) (hu : u ∈ s.now.users.rows) (hu' : u.id = id) :
    (d.cfg.maxFailedAttempts ≤ user.failedLoginAttempts + 1 →
        d.cfg.maxFailedAttempts ≤ u.failedLoginAttempts + 1) ∧
      ((u.failedLoginAttempts : ℤ) + 1 = d.cfg.maxFailedAttempts →
        d.cfg.maxFailedAttempts ≤ user.failedLoginAttempts + 1) := by
  simp only [freshEnough, List.all_eq_true, Bool.or_eq_true, bne_iff_ne, ne_eq] at h
  rcases h user huser with hne | hall
  · exact absurd hid hne
  · rcases hall u hu with hne | hagrees
    · exact absurd hu' hne
    · rw [agrees, Bool.and_eq_true, decide_eq_true_eq, decide_eq_true_eq] at hagrees
      exact hagrees

/-- What is read stays read. -/
theorem readBy_record {h : ι → Handler Eff (World d)} {i j : ι} {op : Op}
    {s : Recorded Eff (World d) ι} {user : SuperAdminUser} (hu : user ∈ readBy j s) :
    user ∈ readBy j (record h i op s).2 := by
  unfold readBy at *
  rw [record_trace, List.filterMap_cons]
  split
  · exact hu
  · exact List.mem_cons_of_mem _ hu

theorem readBy_getByEmail {h : ι → Handler Eff (World d)} {i : ι} {email : String}
    {s : Recorded Eff (World d) ι} {user : SuperAdminUser}
    (hu : s.now.userByEmail email = some user) :
    user ∈ readBy i (record h i (.users (.getByEmail email)) s).2 := by
  unfold readBy
  rw [record_trace]
  simp [hu]

end reads

/-! ### A call decides on the lock by what it has read -/

section login

variable [DecidableEq ι]

/-- The lock of a failed login follows the counter that the call has read. -/
def DecidesOnRead (i : ι) (op : Op) (s : Recorded Eff (World d) ι) : Prop :=
  ∀ id lockedUntil, op = .users (.registerFailedLogin id lockedUntil) →
    ∃ user ∈ readBy i s, user.id = id ∧
      (lockedUntil.isSome = true ↔ d.cfg.maxFailedAttempts ≤ user.failedLoginAttempts + 1)

def lockRules (i : ι) : Rules Eff (Recorded Eff (World d) ι) where
  assume _ _ := True
  rely s s' := ∀ user ∈ readBy i s, user ∈ readBy i s'
  guar := DecidesOnRead i
  rely_refl _ := fun _ h => h
  rely_trans h₁ h₂ := fun user hu => h₂ user (h₁ user hu)

variable (draws : ι → Draws) (i : ι) (rc : RequestContext) {s : Recorded Eff (World d) ι}

theorem decidesOnRead_of_ne {op : Op} {s : Recorded Eff (World d) ι}
    (h : ∀ id lockedUntil, op ≠ .users (.registerFailedLogin id lockedUntil)) :
    DecidesOnRead i op s := fun id lockedUntil hop => absurd hop (h id lockedUntil)

theorem failureLock_isSome (user : SuperAdminUser) (now : Time) :
    (Auth.failureLock d user now).isSome = true ↔
      d.cfg.maxFailedAttempts ≤ user.failedLoginAttempts + 1 := by
  unfold Auth.failureLock
  by_cases h : (user.failedLoginAttempts : ℤ) + 1 ≥ d.cfg.maxFailedAttempts
  · rw [if_pos h]
    exact ⟨fun _ => h, fun _ => rfl⟩
  · rw [if_neg h]
    exact ⟨fun hsome => (by cases hsome), fun hle => absurd hle h⟩

/-- A program that registers no failure. -/
theorem quiet_safe {α : Type} {p : Proc α} {C : Op → Prop} (hp : p.Only C)
    (hC : ∀ op, C op → ∀ id lockedUntil, op ≠ .users (.registerFailedLogin id lockedUntil)) :
    p.Safe (record (fun i => exec d (draws i)) i) (lockRules i) (fun _ _ => True) s :=
  (hp.safe (Prog.returns_true p) (I := fun _ => True) (fun _ _ _ _ => trivial)
    (fun op _ hop _ _ => ⟨decidesOnRead_of_ne i (hC op hop), trivial⟩) trivial).mono
    fun _ _ _ => trivial

theorem loginRefused_decides (user : Option SuperAdminUser) (creds : Credentials) (now : Time)
    (hread : ∀ u, user = some u → u ∈ readBy i s) :
    (Auth.loginRefused d user creds rc now).Safe (record (fun i => exec d (draws i)) i)
      (lockRules i) (fun _ _ => True) s := by
  have haudit : ∀ (e : AuditEntry) (s : Recorded Eff (World d) ι),
      (writeAudit e >>= fun _ => (Prog.pure (.error (.sentinel .invalidCredentials)) :
        Proc (Except Error (TokenPair × SuperAdminUser)))).Safe
        (record (fun i => exec d (draws i)) i) (lockRules i) (fun _ _ => True) s := by
    intro e s
    refine .step fun _ _ _ => ⟨?_, .pure fun _ _ => trivial⟩
    exact decidesOnRead_of_ne i fun _ _ h => by cases h
  cases user with
  | none => exact haudit _ s
  | some user =>
      refine .step fun s₁ hr₁ _ => ⟨?_, ?_⟩
      · -- the decision is taken on the user that was read
        intro id lockedUntil hop
        cases hop
        exact ⟨user, hr₁ user (hread user rfl), rfl, failureLock_isSome user now⟩
      · exact haudit _ _

theorem login_decides (creds : Credentials) :
    (Auth.login d creds rc).Safe (record (fun i => exec d (draws i)) i) (lockRules i)
      (fun _ _ => True) s := by
  -- whom the password is not of has been read
  have hauth : ∀ s : Recorded Eff (World d) ι,
      (Password.authenticate d creds).Safe (record (fun i => exec d (draws i)) i) (lockRules i)
        (fun res s' => ∀ user e, res = .error (some user, e) → user ∈ readBy i s') s := by
    intro s
    refine .step fun s₁ _ _ => ⟨decidesOnRead_of_ne i fun _ _ h => (by cases h), ?_⟩
    split
    · split <;> exact .pure fun _ _ _ _ h => by cases h
    · rename_i user hget
      have hread : user ∈ readBy i (record (fun i => exec d (draws i)) i
          (.users (.getByEmail (Password.normalizeEmail d creds.email))) s₁).2 :=
        readBy_getByEmail (orNotFound_eq_ok.mp hget)
      split
      · exact .pure fun _ _ _ _ h => by cases h
      · split
        · refine .pure fun s₂ hr₂ user' e h => ?_
          cases h
          exact hr₂ user hread
        · exact .pure fun _ _ _ _ h => by cases h
  refine .step fun s₁ _ _ => ⟨decidesOnRead_of_ne i fun _ _ h => (by cases h), ?_⟩
  refine .bind ((hauth _).mono ?_)
  rintro (⟨user, e⟩ | user) s₂ hread
  · dsimp only
    split
    · refine loginRefused_decides draws i rc user creds _ fun u hu => ?_
      subst hu
      exact hread u e rfl
    · exact .pure fun _ _ => trivial
  · refine quiet_safe draws i (Auth.opensSession_loginUser d user rc _) fun op hop id lockedUntil h => ?_
    subst h
    cases hop

end login

/-! ### The lock and the counter along a run -/

/-- The user `id` is locked exactly when the counter has reached the threshold. -/
def LockAgrees (id : UUID) (w : World d) : Prop :=
  ∀ u ∈ w.users.rows, u.id = id →
    (d.cfg.maxFailedAttempts ≤ u.failedLoginAttempts ↔ u.lockedUntil.isSome = true)

section run

variable [DecidableEq ι]

theorem lockAgrees_step {draws : ι → Draws} {i : ι} {op : Op} {s : Recorded Eff (World d) ι}
    {id : UUID} (hfresh : freshEnough i op s = true) (hdecides : DecidesOnRead i op s)
    (hs : LockAgrees id s.now) :
    LockAgrees id (record (fun i => exec d (draws i)) i op s).2.now := by
  intro u hu hid
  rw [record_now] at hu
  obtain ⟨v, hv, hvu⟩ := mem_exec_users hu
  rcases hvu with rfl | ⟨uop, rfl, hmakes⟩
  · exact hs v hv hid
  · have hvid : v.id = id := hmakes.id_eq.symm.trans hid
    have hold := hs v hv hvid
    cases hmakes with
    | kept => exact hold
    | failed lockedUntil =>
        obtain ⟨user, huser, huid, hlock⟩ := hdecides v.id lockedUntil rfl
        obtain ⟨hup, hdown⟩ := freshEnough_failed hfresh huser huid hv rfl
        have hafter : (v.failed lockedUntil).lockedUntil.isSome = true ↔
            lockedUntil.isSome = true ∨ v.lockedUntil.isSome = true := by
          cases lockedUntil <;> simp [SuperAdminUser.failed]
        rw [hafter, hlock, ← hold]
        show d.cfg.maxFailedAttempts ≤ ((v.failedLoginAttempts + 1 : ℕ) : ℤ) ↔ _
        omega
    | succeeded now =>
        have hpos := d.authConfig.withDefaults_pos
        have hzero : ¬ d.cfg.maxFailedAttempts ≤ ((0 : ℕ) : ℤ) := by
          show ¬ d.authConfig.withDefaults.maxFailedAttempts ≤ ((0 : ℕ) : ℤ)
          omega
        exact ⟨fun h => absurd h hzero, fun h => by cases h⟩
    | role role h => exact hold
    | status status => exact hold

/-- Calls of `Login` that run concurrently. -/
def loginPool (d : Deps) (creds : ι → Credentials) (rc : ι → RequestContext) (w : World d) :
    Pool Eff (Recorded Eff (World d) ι) ι (Except Error (TokenPair × SuperAdminUser)) :=
  ⟨⟨w, []⟩, fun i => Auth.login d (creds i) (rc i)⟩

/-- In a run in which every failed attempt finds a counter that agrees with the one that its call
has read, the account is locked exactly when its counter has reached the threshold. -/
theorem lockout_agrees {draws : ι → Draws} {creds : ι → Credentials} {rc : ι → RequestContext}
    {w : World d} {id : UUID}
    {P : Pool Eff (Recorded Eff (World d) ι) ι (Except Error (TokenPair × SuperAdminUser))}
    (hstart : ∀ u ∈ w.users.rows, u.id = id → u.failedLoginAttempts = 0 ∧ u.lockedUntil = none)
    (hr : Pool.Run (record fun i => exec d (draws i)) (recordEnv Ticks)
      (fun i op s => freshEnough i op s = true) (loginPool d creds rc w) P) :
    LockAgrees id P.state.now := by
  have hdecides := Pool.Run.guaranteed (Γ := lockRules) (Q := fun _ _ _ => True)
    (fun _ _ _ _ => trivial) (fun i j _ op s _ _ user hu => readBy_record hu) ?_ hr
    fun i => login_decides draws i (rc i) (creds i)
  · refine hdecides.invariant (I := fun s => LockAgrees id s.now) ?_ ?_ ?_
    · rintro i op s ⟨hfresh, hread⟩ hs
      exact lockAgrees_step hfresh hread hs
    · rintro s s' ⟨⟨t, -, ht⟩, -⟩ hs
      rw [ht]
      exact hs
    · intro u hu hid
      obtain ⟨hcounter, hlock⟩ := hstart u hu hid
      have hpos := d.authConfig.withDefaults_pos
      rw [hcounter, hlock]
      refine ⟨fun h => ?_, fun h => by cases h⟩
      have hle : d.authConfig.withDefaults.maxFailedAttempts ≤ ((0 : ℕ) : ℤ) := h
      omega
  · rintro j s s' ⟨-, htrace⟩ user hu
    unfold readBy
    rw [htrace]
    exact hu

end run

/-- Five logins with wrong passwords, under a schedule. -/
def guesses (schedule : List (Fin 5)) :
    Pool Eff (Recorded Eff (World Sample.deps) (Fin 5)) (Fin 5)
      (Except Error (TokenPair × SuperAdminUser)) :=
  (loginPool Sample.deps (fun _ => ⟨"support@example.com", "wrong guess"⟩) (fun _ => Sample.context)
    Sample.world).play (record fun i => exec Sample.deps (Sample.draws (i.castLE (by decide)))) schedule

/-- One attempt after the other. -/
def oneByOne : List (Fin 5) := (List.finRange 5).flatMap (List.replicate 4)

/-- All attempts in step. -/
def inStep : List (Fin 5) := (List.replicate 4 (List.finRange 5)).flatten

/-- Five attempts one after the other lock the account. -/
theorem lockout_agrees_sequential :
    (guesses oneByOne).state.now.users.rows.map
        (fun u => (u.failedLoginAttempts, u.lockedUntil.isSome)) = [(0, false), (5, true)] ∧
      LockAgrees Sample.support.id (guesses oneByOne).state.now := by
  have hstart : ∀ u ∈ Sample.world.users.rows, u.id = Sample.support.id →
      u.failedLoginAttempts = 0 ∧ u.lockedUntil = none := by decide
  exact ⟨by decide, lockout_agrees hstart (Pool.play_meets (by decide))⟩

/-- Five attempts that have all read the counter before any of them counts leave the account
unlocked. -/
theorem lockout_missed :
    ¬ ∀ (d : Deps) (draws : Fin 5 → Draws) (creds : Fin 5 → Credentials)
        (rc : Fin 5 → RequestContext) (w : World d) (id : UUID)
        (P : Pool Eff (Recorded Eff (World d) (Fin 5)) (Fin 5)
          (Except Error (TokenPair × SuperAdminUser))),
      (∀ u ∈ w.users.rows, u.id = id → u.failedLoginAttempts = 0 ∧ u.lockedUntil = none) →
      Pool.Run (record fun i => exec d (draws i)) (recordEnv Ticks) (fun _ _ _ => True)
        (loginPool d creds rc w) P →
      (∀ i, (P.thread i).result?.isSome = true) → LockAgrees id P.state.now := by
  intro hclaim
  have hstart : ∀ u ∈ Sample.world.users.rows, u.id = Sample.support.id →
      u.failedLoginAttempts = 0 ∧ u.lockedUntil = none := by decide
  have hdone : ∀ i : Fin 5, ((guesses inStep).thread i).result?.isSome = true := by decide
  have hagrees := hclaim _ _ _ _ _ _ (guesses inStep) hstart (Pool.play_run _ _) hdone
  have hcount : ∃ u ∈ (guesses inStep).state.now.users.rows, u.id = Sample.support.id ∧
      Sample.deps.cfg.maxFailedAttempts ≤ u.failedLoginAttempts ∧ u.lockedUntil.isSome = false := by
    decide
  obtain ⟨u, hu, hid, hle, hlock⟩ := hcount
  rw [(hagrees u hu hid).mp hle] at hlock
  cases hlock

end SuperAdmin.Login
