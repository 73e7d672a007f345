import SuperAdmin.Access.Passing

/-! # How stale an authorisation can be

The role in an access token is copied from a row that `Login` or `Refresh` has read, and the row may
change at any time afterwards.  A call reads the clock before it reads the row, and the token expires
`AccessTTL` after that clock: so whoever holds a token that is still accepted had its role, and was
active, at an instant less than `AccessTTL` ago. -/

namespace SuperAdmin.Access

open Effects Usecase Http

variable {d : Deps} {ι : Type}

/-! ### What the claims of a token rest on -/

/-- A state in which the claims were true of an active user, no longer than `AccessTTL` before they
expire. -/
structure Supports (c : AccessClaims) (w : World d) : Prop where
  recent : c.expiresAt ≤ w.clock.add d.cfg.accessTTL
  stored : ∃ u ∈ w.users.rows, u.id = c.userID ∧ u.role = c.role ∧ u.status = .active

/-- Some earlier call found a state that supports the claims. -/
def Supported (c : AccessClaims) (s : Recorded Eff (World d) ι) : Prop :=
  ∃ e ∈ s.trace, e.before.clock ≤ s.now.clock ∧ Supports c e.before

/-- Some earlier call, not before `now`, found the user in the table. -/
def FoundSince (now : Time) (user : SuperAdminUser) (s : Recorded Eff (World d) ι) : Prop :=
  ∃ e ∈ s.trace, now ≤ e.before.clock ∧ e.before.clock ≤ s.now.clock ∧ user ∈ e.before.users.rows

/-- The trace grows and the clock does not go back. -/
structure Advances (s s' : Recorded Eff (World d) ι) : Prop where
  clock : s.now.clock ≤ s'.now.clock
  trace : ∀ e ∈ s.trace, e ∈ s'.trace

theorem Advances.refl (s : Recorded Eff (World d) ι) : Advances s s := ⟨le_rfl, fun _ h => h⟩

theorem Advances.trans {a b c : Recorded Eff (World d) ι} (h₁ : Advances a b) (h₂ : Advances b c) :
    Advances a c :=
  ⟨h₁.clock.trans h₂.clock, fun e he => h₂.trace e (h₁.trace e he)⟩

theorem advances_record (draws : ι → Draws) (i : ι) (op : Op) (s : Recorded Eff (World d) ι) :
    Advances s (record (fun i => exec d (draws i)) i op s).2 := by
  constructor
  · rw [record_now, exec_clock]
  · intro e he
    rw [record_trace]
    exact List.mem_cons_of_mem _ he

theorem advances_ticks {s s' : Recorded Eff (World d) ι} (h : recordEnv Ticks s s') :
    Advances s s' := by
  obtain ⟨⟨t, ht, hnow⟩, htrace⟩ := h
  constructor
  · rw [hnow]
    exact ht
  · intro e he
    rw [htrace]
    exact he

theorem Supported.advances {c : AccessClaims} {s s' : Recorded Eff (World d) ι}
    (h : Supported c s) (hs : Advances s s') : Supported c s' := by
  obtain ⟨e, he, hclock, hsupports⟩ := h
  exact ⟨e, hs.trace e he, hclock.trans hs.clock, hsupports⟩

theorem FoundSince.advances {now : Time} {user : SuperAdminUser} {s s' : Recorded Eff (World d) ι}
    (h : FoundSince now user s) (hs : Advances s s') : FoundSince now user s' := by
  obtain ⟨e, he, hnow, hclock, huser⟩ := h
  exact ⟨e, hs.trace e he, hnow, hclock.trans hs.clock, huser⟩

/-- A call that finds a user in the table. -/
theorem foundSince_record (draws : ι → Draws) (i : ι) (op : Op) {now : Time} {user : SuperAdminUser}
    {s : Recorded Eff (World d) ι} (hnow : now ≤ s.now.clock) (huser : user ∈ s.now.users.rows) :
    FoundSince now user (record (fun i => exec d (draws i)) i op s).2 := by
  refine ⟨⟨i, op, s.now⟩, ?_, hnow, ?_, huser⟩
  · rw [record_trace]
    exact List.mem_cons_self
  · rw [record_now, exec_clock]

/-- The claims of a token that a call makes for a user whom it has found active. -/
theorem FoundSince.supported {now : Time} {user : SuperAdminUser} {s : Recorded Eff (World d) ι}
    (h : FoundSince now user s) (hactive : user.status = .active) (sessionID tokenID : UUID) :
    Supported (Auth.accessClaims d user sessionID tokenID now) s := by
  obtain ⟨e, he, hnow, hclock, huser⟩ := h
  refine ⟨e, he, hclock, ?_, user, huser, rfl, rfl, hactive⟩
  rw [Time.le_iff] at hnow ⊢
  show now.ns + d.cfg.accessTTL.toInt ≤ e.before.clock.ns + d.cfg.accessTTL.toInt
  omega

/-! ### Every call signs supported claims only -/

/-- An access token is signed only for supported claims. -/
def signRules : Rules Eff (Recorded Eff (World d) ι) where
  assume _ _ := True
  rely := Advances
  guar op s := ∀ c, op = .issuer (.issue c) → Supported c s
  rely_refl := .refl
  rely_trans := .trans

section call

variable (draws : ι → Draws) (i : ι) (rc : RequestContext) {s : Recorded Eff (World d) ι}

/-- A call other than the signing of a token. -/
theorem signs_nothing {op : Op} {s : Recorded Eff (World d) ι} (h : op.addsNone = true) :
    signRules.guar op s := by
  rintro c rfl
  cases h

theorem addsNone_signs {α : Type} {p : Proc α} (hp : AddsNone p) :
    p.Safe (record (fun i => exec d (draws i)) i) signRules (fun _ _ => True) s :=
  (hp.safe (Prog.returns_true p) (I := fun _ => True) (fun _ _ _ _ => trivial)
    (fun _ _ hop _ _ => ⟨signs_nothing hop, trivial⟩) trivial).mono fun _ _ _ => trivial

theorem issuePairWithID_signs {user : SuperAdminUser} {now : Time} (sessionID : UUID)
    (hactive : user.status = .active) (hfound : FoundSince now user s) :
    (Auth.issuePairWithID d user sessionID rc now).Safe (record (fun i => exec d (draws i)) i)
      signRules (fun _ _ => True) s := by
  refine .step fun s₁ hr₁ _ => ⟨signs_nothing rfl, .step fun s₂ hr₂ _ => ⟨?_, ?_⟩⟩
  · -- the user is still one that was found since `now`
    rintro c hc
    cases hc
    have hfound₁ := (hfound.advances hr₁).advances
      (advances_record draws i (.newUUID .accessToken) s₁)
    exact (hfound₁.advances hr₂).supported hactive sessionID _
  · split
    · exact .pure fun _ _ => trivial
    · refine .bind ((addsNone_signs draws i quiet_generateSecureToken.addsNone).mono ?_)
      rintro (e | raw) s₃ -
      · exact .pure fun _ _ => trivial
      · refine .step fun s₄ _ _ => ⟨signs_nothing rfl, .step fun s₅ _ _ => ⟨?_, ?_⟩⟩
        · rintro c hc
          cases hc
        · split <;> exact .pure fun _ _ => trivial

theorem loginUser_signs {user : SuperAdminUser} {now : Time} (hfound : FoundSince now user s) :
    (Auth.loginUser d user rc now).Safe (record (fun i => exec d (draws i)) i) signRules
      (fun _ _ => True) s := by
  unfold Auth.loginUser
  cases hcan : user.ensureCanLogin now with
  | some e => exact .step fun _ _ _ => ⟨signs_nothing rfl, .pure fun _ _ => trivial⟩
  | none =>
      obtain ⟨-, hactive⟩ := SuperAdminUser.ensureCanLogin_eq_none.mp hcan
      refine .step fun s₁ hr₁ _ => ⟨signs_nothing rfl, ?_⟩
      have hfound₁ := (hfound.advances hr₁).advances (advances_record draws i
        (.users (.registerSuccessfulLogin user.id now)) s₁)
      split
      · exact .pure fun _ _ => trivial
      · refine .step fun s₂ hr₂ _ => ⟨signs_nothing rfl, ?_⟩
        have hfound₂ := (hfound₁.advances hr₂).advances (advances_record draws i (.newUUID .session) s₂)
        refine .bind (.bind ((issuePairWithID_signs draws i rc _ hactive hfound₂).mono ?_))
        rintro (e | p) s₃ -
        · exact .pure fun _ _ => .pure fun _ _ => trivial
        · exact .pure fun _ _ => .step fun _ _ _ => ⟨signs_nothing rfl, .pure fun _ _ => trivial⟩

theorem login_signs (creds : Credentials) :
    (Auth.login d creds rc).Safe (record (fun i => exec d (draws i)) i) signRules
      (fun _ _ => True) s := by
  -- the user that the provider answers with was found by this call
  have hauth : ∀ (now : Time) (s : Recorded Eff (World d) ι), now ≤ s.now.clock →
      (Password.authenticate d creds).Safe (record (fun i => exec d (draws i)) i) signRules
        (fun res s' => ∀ user, res = .ok user → FoundSince now user s') s := by
    intro now s hnow
    refine .step fun s₁ hr₁ _ => ⟨signs_nothing rfl, ?_⟩
    split
    · split <;> exact .pure fun _ _ _ h => by cases h
    · rename_i user hget
      obtain ⟨huser, -⟩ := World.userByEmail_some (orNotFound_eq_ok.mp hget)
      have hfound := foundSince_record draws i
        (.users (.getByEmail (Password.normalizeEmail d creds.email))) (hnow.trans hr₁.clock) huser
      split
      · exact .pure fun _ _ _ h => by cases h
      · split
        · exact .pure fun _ _ _ h => by cases h
        · refine .pure fun s₂ hr₂ user' h => ?_
          cases h
          exact hfound.advances hr₂
  refine .step fun s₁ _ _ => ⟨signs_nothing rfl, ?_⟩
  have hnow : (record (fun i => exec d (draws i)) i .now s₁).1 ≤
      (record (fun i => exec d (draws i)) i .now s₁).2.now.clock := le_rfl
  refine .bind ((hauth _ _ hnow).mono ?_)
  rintro (⟨user, e⟩ | user) s₂ hfound
  · dsimp only
    split
    · exact addsNone_signs draws i (Auth.quiet_loginRefused d rc _ user creds).addsNone
    · exact .pure fun _ _ => trivial
  · exact loginUser_signs draws i rc (hfound user rfl)

theorem refresh_signs (refreshToken : String) :
    (Auth.refresh d refreshToken rc).Safe (record (fun i => exec d (draws i)) i) signRules
      (fun _ _ => True) s := by
  refine .step fun s₁ _ _ => ⟨signs_nothing rfl, .step fun s₂ hr₂ _ => ⟨signs_nothing rfl, ?_⟩⟩
  split
  · exact .pure fun _ _ => trivial
  · rename_i stored hget
    split
    · exact addsNone_signs draws i (Auth.quiet_refreshReuse rc _ stored).addsNone
    · split
      · exact .pure fun _ _ => trivial
      · refine .step fun s₃ hr₃ _ => ⟨signs_nothing rfl, ?_⟩
        split
        · exact .pure fun _ _ => trivial
        · rename_i user huser
          obtain ⟨huser, -⟩ := World.userByID_some (orNotFound_eq_ok.mp huser)
          have hclock : s₁.now.clock ≤ s₃.now.clock := hr₂.clock.trans hr₃.clock
          have hfound := foundSince_record draws i (.users (.getByID stored.userID)) hclock huser
          split
          · refine .step fun s₄ _ _ => ⟨signs_nothing rfl, ?_⟩
            split <;> exact .pure fun _ _ => trivial
          · rename_i hcan
            obtain ⟨-, hactive⟩ := SuperAdminUser.ensureCanLogin_eq_none.mp hcan
            refine .bind ((issuePairWithID_signs draws i rc _ hactive hfound).mono ?_)
            rintro (e | p) s₄ -
            · exact .pure fun _ _ => trivial
            · refine .step fun s₅ _ _ => ⟨signs_nothing rfl, ?_⟩
              split
              · exact .pure fun _ _ => trivial
              · exact addsNone_signs draws i (.bind (quiet_writeAudit _).addsNone fun _ => trivial)

theorem call_signs (c : Call) :
    (c.proc d).Safe (record (fun i => exec d (draws i)) i) signRules (fun _ _ => True) s := by
  cases c with
  | login creds rc => exact .map (login_signs draws i rc creds)
  | refresh refreshToken rc => exact .map (refresh_signs draws i rc refreshToken)
  | logout refreshToken claims rc =>
      exact .map (addsNone_signs draws i (Auth.quiet_logout rc refreshToken claims).addsNone)
  | logoutAll userID actor rc =>
      exact .map (addsNone_signs draws i (Auth.quiet_logoutAll rc userID actor).addsNone)
  | invite actor email role rc =>
      exact .map (addsNone_signs draws i (Team.quiet_invite actor rc email role).addsNone)
  | updateRole actor memberID role rc =>
      exact .map (addsNone_signs draws i (Team.addsNone_updateRole actor rc memberID role))
  | revoke actor memberID rc =>
      exact .map (addsNone_signs draws i (Team.addsNone_revoke actor rc memberID))

end call

/-! ### The requests of a run -/

/-- Calls that run concurrently, with the trace of what they do. -/
def tracedPool (d : Deps) (calls : ι → Call) (w : World d) :
    Pool Eff (Recorded Eff (World d) ι) ι Reply := ⟨⟨w, []⟩, fun i => (calls i).proc d⟩

/-- The claims that the calls of a run have signed. -/
def signed (s : Recorded Eff (World d) ι) : List AccessClaims :=
  s.trace.filterMap fun e =>
    match e.op with
    | .issuer (.issue c) => some c
    | _ => none

theorem mem_signed {c : AccessClaims} {s : Recorded Eff (World d) ι} :
    c ∈ signed s ↔ ∃ e ∈ s.trace, e.op = .issuer (.issue c) := by
  unfold signed
  rw [List.mem_filterMap]
  refine exists_congr fun e => and_congr_right fun _ => ?_
  split
  · rename_i c' hop
    rw [hop]
    constructor
    · intro h
      cases h
      rfl
    · intro h
      cases h
      rfl
  · rename_i hne
    constructor
    · intro h
      cases h
    · exact fun h => absurd h (hne c)

/-- A call of the run has signed the token. -/
def Issued (token : String) (s : Recorded Eff (World d) ι) : Prop :=
  ∃ c ∈ signed s, d.issuer.issue c = .ok token

section run

variable [DecidableEq ι] {draws : ι → Draws} {calls : ι → Call} {w : World d}
variable {P : Pool Eff (Recorded Eff (World d) ι) ι Reply}

/-- The claims of every token that a run has signed are supported. -/
theorem signed_supported
    (hr : Pool.Run (record fun i => exec d (draws i)) (recordEnv Ticks) (fun _ _ _ => True)
      (tracedPool d calls w) P) :
    ∀ e ∈ P.state.trace, ∀ c, e.op = .issuer (.issue c) → Supported c P.state := by
  have hsigns := Pool.Run.guaranteed (Γ := fun _ => signRules) (Q := fun _ _ _ => True)
    (fun _ _ _ _ => trivial) (fun i _ _ op s _ _ => advances_record draws i op s)
    (fun _ _ _ h => advances_ticks h) hr fun i => call_signs draws i (calls i)
  refine hsigns.invariant (I := fun s => ∀ e ∈ s.trace, ∀ c, e.op = .issuer (.issue c) →
    Supported c s) ?_ ?_ fun e he => by cases he
  · rintro i op s ⟨-, hguar⟩ hs e he c hc
    have hadvances := advances_record draws i op s
    rw [record_trace, List.mem_cons] at he
    rcases he with rfl | he
    · exact (hguar c hc).advances hadvances
    · exact (hs e he c hc).advances hadvances
  · intro s s' hticks hs e he c hc
    rw [hticks.2] at he
    exact (hs e he c hc).advances (advances_ticks hticks)

/-- A request that passes with a token that the run has signed: at an instant of the run less than
`AccessTTL` ago, the record of its user had the role in whose name it passes and was active. -/
theorem authorised_recently (hlib : Issuer.DecodesSigned d.issuer.lib)
    (huuid : Issuer.ReadsBackUUIDs d.issuer.uuidParse)
    (hr : Pool.Run (record fun i => exec d (draws i)) (recordEnv Ticks) (fun _ _ _ => True)
      (tracedPool d calls w) P)
    {req : Request} {res : Resource} {act : Action} {r : Draws} {ctx : Context}
    (hissued : ∀ token, Middleware.bearerToken req.authorization = some token →
      Issued token P.state)
    (hpass : ((middleware req (.requires res act)).run (exec d r) P.state.now).1 = .ok ctx) :
    ∃ claims, ctx.claims = some claims ∧
      ctx.subject = some ⟨claims.userID.string, claims.role⟩ ∧
      ∃ e ∈ P.state.trace, e.before.clock ≤ P.state.now.clock ∧
        P.state.now.clock < e.before.clock.add d.cfg.accessTTL ∧
        ∃ u ∈ e.before.users.rows, u.id = claims.userID ∧ u.role = claims.role ∧
          u.status = .active := by
  obtain ⟨claims, hctx, hpasses, -⟩ := middleware_requires hpass
  obtain ⟨token, htoken, hparse⟩ := hpasses.token
  obtain ⟨c, hc, hissue⟩ := hissued token htoken
  obtain ⟨e, he, hop⟩ := mem_signed.mp hc
  obtain ⟨huserID, -, hrole, -, -, hexp⟩ := Issuer.parse_issue hlib huuid hissue hparse
  obtain ⟨e, he, hclock, hrecent, u, hu, hid, hurole, hactive⟩ := signed_supported hr e he c hop
  subst hctx
  refine ⟨claims, rfl, rfl, e, he, hclock, ?_, u, hu, hid.trans huserID.symm,
    hurole.trans hrole.symm, hactive⟩
  calc P.state.now.clock < claims.expiresAt := Issuer.parse_before_expiry hparse
    _ = c.expiresAt.truncateSecond := hexp
    _ ≤ c.expiresAt := c.expiresAt.truncateSecond_le
    _ ≤ e.before.clock.add d.cfg.accessTTL := hrecent

end run

/-- The owner logs in. -/
def ownerLogin : Pool Eff (Recorded Eff (World Sample.deps) (Fin 1)) (Fin 1) Reply :=
  (tracedPool Sample.deps (fun _ => .login ⟨"owner@example.com", "correct horse"⟩ Sample.context)
    Sample.world).play (record fun _ => exec Sample.deps (Sample.draws 0)) (List.replicate 12 0)

/-- A request with the token of that login passes in the name of an owner who was there, active, at
the login. -/
theorem authorised_recently_login :
    ∃ e ∈ ownerLogin.state.trace, e.before.clock ≤ ownerLogin.state.now.clock ∧
      ownerLogin.state.now.clock < e.before.clock.add Sample.deps.cfg.accessTTL ∧
      ∃ u ∈ e.before.users.rows, u.id = Sample.owner.id ∧ u.role = .owner ∧ u.status = .active := by
  have hsigned : Sample.firstClaims ∈ signed ownerLogin.state := by decide
  have hissued : ∀ token, Middleware.bearerToken
      (Sample.request .tenantList Sample.firstClaims).authorization = some token →
      Issued token ownerLogin.state := by
    intro token htoken
    have heq := Option.some.inj ((Sample.bearerToken_request _ _).symm.trans htoken)
    rw [← heq]
    exact ⟨_, hsigned, Sample.issue_token _⟩
  have hpasses := Sample.passes_request (w := ownerLogin.state.now) .tenantList
    (c := Sample.firstClaims) (by decide) (by decide) (by decide)
    (by decide)
  have hpass := congrArg Prod.fst (hpasses.middleware (Sample.draws 1) .tenant .read
    (by decide))
  obtain ⟨claims, hclaims, -, e, he, hclock, hrecent, u, hu, hid, hrole, hactive⟩ :=
    authorised_recently (d := Sample.deps) Sample.decodesSigned Sample.readsBackUUIDs
      (Pool.play_run _ _) hissued hpass
  cases hclaims
  exact ⟨e, he, hclock, hrecent, u, hu, hid, hrole, hactive⟩

end SuperAdmin.Access
