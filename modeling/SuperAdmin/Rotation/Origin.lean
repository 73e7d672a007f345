import SuperAdmin.Calls

/-! # Where tokens come from

Whatever else runs, a login inserts a token of its own new session only, and a refresh inserts
only a token of the session and of the user of the token that it was given (`Origin`).  So no
session ever has tokens of two users (`Owned`). -/

namespace SuperAdmin

open Effects Usecase

variable {d : Deps}

/-! ### The calls that insert a token -/

/-- No token of the session `s` exists. -/
def SessionFree (s : UUID) (T : TokenTable) : Prop := ∀ t ∈ T.rows, t.sessionID ≠ s

/-- A token with the hash belongs to the session and the user of `t`. -/
def HasSource (hash : Bytes) (t : RefreshToken) (T : TokenTable) : Prop :=
  ∃ x ∈ T.rows, x.tokenHash = hash ∧ x.sessionID = t.sessionID ∧ x.userID = t.userID

/-- What the call `c` guarantees about a token that it inserts. -/
def Origin (c : Call) (r : Draws) (T : TokenTable) (t : RefreshToken) : Prop :=
  match c with
  | .login _ _ => t.sessionID = r.uuid .session ∧ SessionFree t.sessionID T
  | .refresh refreshToken _ => HasSource (hashToken refreshToken) t T
  | _ => False

theorem HasSource.grows {hash : Bytes} {t : RefreshToken} {T U : TokenTable}
    (h : HasSource hash t T) (hg : T.Grows U) : HasSource hash t U := by
  obtain ⟨x, hx, hhash, hsession, huser⟩ := h
  obtain ⟨y, hy, hxy⟩ := hg x hx
  exact ⟨y, hy, hxy.tokenHash.trans hhash, hxy.sessionID.trans hsession, hxy.userID.trans huser⟩

/-- A call that inserts nothing makes only rows that evolve from rows. -/
theorem mem_exec_addsNone {r : Draws} {op : Op} {w : World d} (h : op.addsNone = true)
    {u : RefreshToken} (hu : u ∈ (exec d r op w).2.tokens.rows) :
    ∃ t ∈ w.tokens.rows, t.Evolves u := by
  by_cases htop : ∃ top, op = .tokens top
  · obtain ⟨top, rfl⟩ := htop
    rcases TokensOp.mem_exec _ _ (Op.keepsRows_of_addsNone h) hu with hold | ⟨t, rfl, -⟩
    · exact hold
    · cases h
  · rw [exec_tokens r op w fun top ht => htop ⟨top, ht⟩] at hu
    exact ⟨u, hu, .refl u⟩

theorem SessionFree.exec {s : UUID} {r : Draws} {op : Op} {w : World d} (h : op.addsNone = true)
    (hw : SessionFree s w.tokens) : SessionFree s (exec d r op w).2.tokens := by
  intro u hu hs
  obtain ⟨t, ht, htu⟩ := mem_exec_addsNone h hu
  exact hw t ht (htu.sessionID.symm.trans hs)

/-- A call among others that keep the rows and do not use its session id. -/
def Call.rules (c : Call) (r : Draws) : Rules Eff (World d) where
  assume op _ := op.keepsRows = true
  rely w w' := w.tokens.Grows w'.tokens ∧
    (SessionFree (r.uuid .session) w.tokens → SessionFree (r.uuid .session) w'.tokens)
  guar op w := ∀ t, op = .tokens (.create t) → Origin c r w.tokens t
  rely_refl _ := ⟨.refl _, fun h => h⟩
  rely_trans h₁ h₂ := ⟨h₁.1.trans h₂.1, fun h => h₂.2 (h₁.2 h)⟩

section call

variable (c : Call) (r : Draws)

/-- A program that inserts nothing guarantees everything. -/
theorem addsNone_safe {α : Type} {p : Proc α} (hp : AddsNone p) {I : World d → Prop}
    (hrely : ∀ w w', (c.rules r).rely w w' → I w → I w')
    (hI : ∀ op w, op.addsNone = true → I w → I (exec d r op w).2) {w : World d} (hw : I w) :
    p.Safe (exec d r) (c.rules r) (fun _ w' => I w') w := by
  refine (hp.safe (Prog.returns_true p) hrely (fun op _ hop _ hIw => ⟨?_, hI op _ hop hIw⟩) hw).mono
    fun _ _ h => h.2
  rintro t rfl
  cases hop

theorem addsNone_guaranteed {α : Type} {p : Proc α} (hp : AddsNone p) (w : World d) :
    p.Safe (exec d r) (c.rules r) (fun _ _ => True) w :=
  addsNone_safe c r hp (fun _ _ _ _ => trivial) (fun _ _ _ _ => trivial) trivial

/-- `issuePairWithID` inserts the record that it builds, in a state that satisfies what the
caller knows and the others keep. -/
theorem issuePairWithID_safe {I : World d → Prop} (user : SuperAdminUser) (sessionID : UUID)
    (rc : RequestContext) (now : Time) (hrely : ∀ w w', (c.rules r).rely w w' → I w → I w')
    (hI : ∀ op w, op.addsNone = true → I w → I (exec d r op w).2)
    (hcreate : ∀ id raw w, I w →
      Origin c r w.tokens (Auth.refreshRecord d user id sessionID raw rc now))
    {w : World d} (hw : I w) :
    (Auth.issuePairWithID d user sessionID rc now).Safe (exec d r) (c.rules r)
      (fun _ _ => True) w := by
  have hquiet : ∀ (op : Op) (w : World d), op.addsNone = true → (c.rules r).guar op w := by
    rintro op w hop t rfl
    cases hop
  refine .step fun w₁ hr₁ _ => ⟨hquiet _ _ rfl, .step fun w₂ hr₂ _ => ⟨?_, ?_⟩⟩
  · rintro t ht
    cases ht
  -- signing leaves the state alone
  have hw₂ := hrely _ _ hr₂ (hI _ _ rfl (hrely _ _ hr₁ hw))
  split
  · exact .pure fun _ _ => trivial
  · refine .bind ((addsNone_safe c r quiet_generateSecureToken.addsNone hrely hI hw₂).mono ?_)
    rintro (e | raw) w₃ hw₃
    · exact .pure fun _ _ => trivial
    · refine .step fun w₄ hr₄ _ => ⟨hquiet _ _ rfl, .step fun w₅ hr₅ _ => ⟨?_, ?_⟩⟩
      · rintro t ht
        cases ht
        exact hcreate _ _ _ (hrely _ _ hr₅ (hI _ _ rfl (hrely _ _ hr₄ hw₃)))
      · split <;> exact .pure fun _ _ => trivial

theorem rely_hasSource {hash : Bytes} {t : RefreshToken} (w w' : World d)
    (h : (c.rules r).rely w w') (hw : HasSource hash t w.tokens) : HasSource hash t w'.tokens :=
  hw.grows h.1

theorem exec_hasSource {hash : Bytes} {t : RefreshToken} (op : Op) (w : World d)
    (h : op.addsNone = true) (hw : HasSource hash t w.tokens) :
    HasSource hash t (exec d r op w).2.tokens :=
  hw.grows (grows_exec (Op.keepsRows_of_addsNone h))

end call

theorem refresh_origin (r : Draws) (refreshToken : String) (rc : RequestContext) (w : World d) :
    (Auth.refresh d refreshToken rc).Safe (exec d r) ((Call.refresh refreshToken rc).rules r)
      (fun _ _ => True) w := by
  set c := Call.refresh refreshToken rc
  have hquiet : ∀ (op : Op) (w : World d), op.addsNone = true → (c.rules r).guar op w := by
    rintro op w hop t rfl
    cases hop
  refine .step fun w₁ _ _ => ⟨hquiet _ _ rfl, .step fun w₂ _ _ => ⟨hquiet _ _ rfl, ?_⟩⟩
  split
  · exact .pure fun _ _ => trivial
  · rename_i stored hget
    obtain ⟨hmem, hhash⟩ := World.tokenByHash_some (orNotFound_eq_ok.mp hget)
    have hsource : HasSource (hashToken refreshToken) stored w₂.tokens := ⟨stored, hmem, hhash, rfl, rfl⟩
    split
    · exact addsNone_guaranteed c r (Auth.quiet_refreshReuse rc _ stored).addsNone _
    · split
      · exact .pure fun _ _ => trivial
      · refine .step fun w₃ hr₃ _ => ⟨hquiet _ _ rfl, ?_⟩
        have hsource₃ := rely_hasSource c r _ _ hr₃ hsource
        split
        · exact .pure fun _ _ => trivial
        · rename_i user huser
          obtain ⟨-, hid⟩ := World.userByID_some (orNotFound_eq_ok.mp huser)
          split
          · refine .step fun w₄ _ _ => ⟨hquiet _ _ rfl, ?_⟩
            split <;> exact .pure fun _ _ => trivial
          · -- the successor gets the session of the token and the id of its user
            refine .bind ((issuePairWithID_safe c r user stored.sessionID rc _ (rely_hasSource c r)
              (exec_hasSource r) ?_ hsource₃).mono ?_)
            · rintro id raw w ⟨x, hx, hxhash, hxsession, hxuser⟩
              exact ⟨x, hx, hxhash, hxsession, hxuser.trans hid.symm⟩
            · rintro (e | p) w₄ -
              · exact .pure fun _ _ => trivial
              · refine .step fun w₅ _ _ => ⟨hquiet _ _ rfl, ?_⟩
                split
                · exact .pure fun _ _ => trivial
                · refine addsNone_guaranteed c r ?_ _
                  exact .bind (quiet_writeAudit _).addsNone fun _ => trivial

theorem loginUser_origin (r : Draws) (creds : Credentials) (rc : RequestContext)
    (user : SuperAdminUser) (now : Time) {w : World d}
    (hfree : SessionFree (r.uuid .session) w.tokens) :
    (Auth.loginUser d user rc now).Safe (exec d r) ((Call.login creds rc).rules r)
      (fun _ _ => True) w := by
  set c := Call.login creds rc
  have hquiet : ∀ (op : Op) (w : World d), op.addsNone = true → (c.rules r).guar op w := by
    rintro op w hop t rfl
    cases hop
  unfold Auth.loginUser
  split
  · refine addsNone_guaranteed c r ?_ _
    exact .bind (quiet_writeAudit _).addsNone fun _ => trivial
  · refine .step fun w₁ hr₁ _ => ⟨hquiet _ _ rfl, ?_⟩
    have hfree₁ := (hr₁.2 hfree).exec (r := r) (show
      (Op.users (.registerSuccessfulLogin user.id now)).addsNone = true from rfl)
    split
    · exact .pure fun _ _ => trivial
    · refine .step fun w₂ hr₂ _ => ⟨hquiet _ _ rfl, ?_⟩
      refine .bind (.bind ((issuePairWithID_safe c r user (r.uuid .session) rc now
        (I := fun w => SessionFree (r.uuid .session) w.tokens) (fun _ _ hr hw => hr.2 hw)
        (fun _ _ hop hw => hw.exec hop) ?_ (hr₂.2 hfree₁)).mono ?_))
      · intro id raw w hw
        exact ⟨rfl, hw⟩
      · rintro (e | p) w₃ -
        · exact .pure fun _ _ => .pure fun _ _ => trivial
        · refine .pure fun _ _ => addsNone_guaranteed c r ?_ _
          exact .bind (quiet_writeAudit _).addsNone fun _ => trivial

theorem login_origin (r : Draws) (creds : Credentials) (rc : RequestContext) {w : World d}
    (hfree : SessionFree (r.uuid .session) w.tokens) :
    (Auth.login d creds rc).Safe (exec d r) ((Call.login creds rc).rules r)
      (fun _ _ => True) w := by
  set c := Call.login creds rc
  refine .step fun w₁ hr₁ _ => ⟨by rintro t ⟨⟩, ?_⟩
  refine .bind ((addsNone_safe c r (Auth.quiet_authenticate d creds).addsNone
    (I := fun w => SessionFree (r.uuid .session) w.tokens) (fun _ _ hr hw => hr.2 hw)
    (fun _ _ hop hw => hw.exec hop) ((hr₁.2 hfree).exec rfl)).mono ?_)
  rintro (⟨user, e⟩ | user) w₂ hfree₂
  · dsimp only
    split
    · exact addsNone_guaranteed c r (Auth.quiet_loginRefused d rc _ user creds).addsNone _
    · exact .pure fun _ _ => trivial
  · exact loginUser_origin r creds rc user _ hfree₂

/-- A call that starts a session. -/
def Call.isLogin : Call → Bool
  | .login _ _ => true
  | _ => false

theorem Call.origin (c : Call) (r : Draws) {w : World d}
    (hfree : c.isLogin = true → SessionFree (r.uuid .session) w.tokens) :
    (c.proc d).Safe (exec d r) (c.rules r) (fun _ _ => True) w := by
  have hmap : ∀ {α : Type} {p : Proc α} {f : α → Reply}, AddsNone p →
      (f <$> p).Safe (exec d r) (c.rules r) (fun _ _ => True) w :=
    fun hp => addsNone_guaranteed c r (hp.map _) w
  cases c with
  | login creds rc => exact .map (login_origin r creds rc (hfree rfl))
  | refresh refreshToken rc => exact .map (refresh_origin r refreshToken rc w)
  | logout refreshToken claims rc => exact hmap (Auth.quiet_logout rc refreshToken claims).addsNone
  | logoutAll userID actor rc => exact hmap (Auth.quiet_logoutAll rc userID actor).addsNone
  | invite actor email role rc => exact hmap (Team.quiet_invite actor rc email role).addsNone
  | updateRole actor memberID role rc => exact hmap (Team.addsNone_updateRole actor rc memberID role)
  | revoke actor memberID rc => exact hmap (Team.addsNone_revoke actor rc memberID)

/-! ### Every session has one user -/

/-- The tokens of a session are of one user, and no session is `uuid.Nil`. -/
structure Owned (T : TokenTable) : Prop where
  oneUser : ∀ a ∈ T.rows, ∀ b ∈ T.rows, a.sessionID = b.sessionID → a.userID = b.userID
  notNil : ∀ a ∈ T.rows, a.sessionID ≠ UUID.nil

/-- Where a row after a call comes from. -/
theorem mem_exec {r : Draws} {op : Op} {w : World d} (h : op.keepsRows = true) {u : RefreshToken}
    (hu : u ∈ (exec d r op w).2.tokens.rows) :
    (∃ t ∈ w.tokens.rows, t.Evolves u) ∨
      ∃ t, op = .tokens (.create t) ∧ u = t.inserted w.clock := by
  by_cases htop : ∃ top, op = .tokens top
  · obtain ⟨top, rfl⟩ := htop
    rcases TokensOp.mem_exec _ _ h hu with hold | ⟨t, rfl, hnew⟩
    · exact .inl hold
    · exact .inr ⟨t, rfl, hnew⟩
  · rw [exec_tokens r op w fun top ht => htop ⟨top, ht⟩] at hu
    exact .inl ⟨u, hu, .refl u⟩

/-- A new token has the session of an older one only with its user. -/
theorem Origin.user_eq {c : Call} {r : Draws} {T : TokenTable} {n t : RefreshToken}
    (h : Origin c r T n) (hT : Owned T) (ht : t ∈ T.rows) (hs : t.sessionID = n.sessionID) :
    t.userID = n.userID := by
  cases c with
  | login creds rc =>
      obtain ⟨-, hfree⟩ := h
      exact absurd hs (hfree t ht)
  | refresh refreshToken rc =>
      obtain ⟨x, hx, -, hxs, hxu⟩ := h
      exact (hT.oneUser t ht x hx (hs.trans hxs.symm)).trans hxu
  | _ => exact h.elim

theorem Origin.notNil {c : Call} {r : Draws} {T : TokenTable} {n : RefreshToken}
    (h : Origin c r T n) (hT : Owned T) : n.sessionID ≠ UUID.nil := by
  cases c with
  | login creds rc =>
      obtain ⟨hs, -⟩ := h
      rw [hs]
      exact r.uuid_ne_nil .session
  | refresh refreshToken rc =>
      obtain ⟨x, hx, -, hxs, -⟩ := h
      rw [← hxs]
      exact hT.notNil x hx
  | _ => exact h.elim

theorem Owned.exec {c : Call} {r : Draws} {op : Op} {w : World d} (hT : Owned w.tokens)
    (hk : op.keepsRows = true) (hg : (c.rules r).guar op w) :
    Owned (exec d r op w).2.tokens where
  oneUser := by
    intro a ha b hb hs
    rcases mem_exec hk ha with ⟨t, ht, hta⟩ | ⟨n, hop, rfl⟩
    · rcases mem_exec hk hb with ⟨t', ht', htb⟩ | ⟨n, hop, rfl⟩
      · rw [hta.userID, htb.userID]
        exact hT.oneUser t ht t' ht' (hta.sessionID.symm.trans (hs.trans htb.sessionID))
      · rw [hta.userID]
        exact (hg n hop).user_eq hT ht (hta.sessionID.symm.trans hs)
    · rcases mem_exec hk hb with ⟨t, ht, htb⟩ | ⟨n', hop', rfl⟩
      · rw [htb.userID]
        exact ((hg n hop).user_eq hT ht (htb.sessionID.symm.trans hs.symm)).symm
      · rw [hop] at hop'
        cases hop'
        rfl
  notNil := by
    intro a ha
    rcases mem_exec hk ha with ⟨t, ht, hta⟩ | ⟨n, hop, rfl⟩
    · rw [hta.sessionID]
      exact hT.notNil t ht
    · exact (hg n hop).notNil hT

/-- A call of another thread does not take the session id of this one. -/
theorem sessionFree_exec {c : Call} {r : Draws} {op : Op} {w : World d} {s : UUID}
    (hk : op.keepsRows = true) (hg : (c.rules r).guar op w)
    (hs : c.isLogin = true → r.uuid .session ≠ s) (hw : SessionFree s w.tokens) :
    SessionFree s (exec d r op w).2.tokens := by
  intro u hu hus
  rcases mem_exec hk hu with ⟨t, ht, htu⟩ | ⟨n, hop, rfl⟩
  · exact hw t ht (htu.sessionID.symm.trans hus)
  · have horigin := hg n hop
    cases c with
    | login creds rc =>
        obtain ⟨hn, -⟩ := horigin
        exact hs rfl (hn.symm.trans hus)
    | refresh refreshToken rc =>
        obtain ⟨x, hx, -, hxs, -⟩ := horigin
        exact hw x hx (hxs.trans hus)
    | _ => exact horigin.elim

section run

variable {ι : Type} [DecidableEq ι] {calls : ι → Call} {draws : ι → Draws}
variable {C : ι → Op → World d → Prop} {w : World d} {P : Pool Eff (World d) ι Reply}

/-- The guarantees of all calls hold along every run in which the logins start new sessions. -/
theorem run_origin
    (hnew : ∀ i j, i ≠ j → (calls i).isLogin = true →
      (draws i).uuid .session ≠ (draws j).uuid .session)
    (hfree : ∀ i, (calls i).isLogin = true → SessionFree ((draws i).uuid .session) w.tokens)
    (hr : Pool.Run (fun i => exec d (draws i)) Ticks C (callPool d calls w) P) :
    Pool.Run (fun i => exec d (draws i)) Ticks
      (fun i op w => (C i op w ∧ op.keepsRows = true) ∧ ((calls i).rules (draws i)).guar op w)
      (callPool d calls w) P := by
  obtain ⟨hr, -⟩ := hr.only fun i => (calls i).keepsRows d
  refine Pool.Run.guaranteed (Q := fun _ _ _ => True) (fun _ _ _ h => h.2) ?_ ?_ hr
    fun i => (calls i).origin (draws i) (hfree i)
  · intro i j hij op s hC hg
    exact ⟨grows_exec hC.2, sessionFree_exec hC.2 hg fun hi => hnew i j hij hi⟩
  · rintro j s s' ⟨t, -, rfl⟩
    exact ⟨.refl _, fun h => h⟩

theorem run_owned
    (hnew : ∀ i j, i ≠ j → (calls i).isLogin = true →
      (draws i).uuid .session ≠ (draws j).uuid .session)
    (hfree : ∀ i, (calls i).isLogin = true → SessionFree ((draws i).uuid .session) w.tokens)
    (hr : Pool.Run (fun i => exec d (draws i)) Ticks C (callPool d calls w) P)
    (hw : Owned w.tokens) : Owned P.state.tokens := by
  refine (run_origin hnew hfree hr).invariant (I := fun w => Owned w.tokens) ?_ ?_ hw
  · rintro i op s ⟨⟨-, hk⟩, hg⟩ hs
    exact hs.exec hk hg
  · rintro s s' ⟨t, -, rfl⟩ hs
    exact hs

end run

/-- In every reachable state every session has one user. -/
theorem Reachable.owned {w : World d} (hw : Reachable d w) : Owned w.tokens := by
  obtain ⟨ι, _, calls, draws, w₀, P, hempty, hinj, hr, rfl⟩ := hw
  have hnone : ∀ t, t ∉ w₀.tokens.rows := by
    intro t ht
    rw [hempty] at ht
    cases ht
  refine run_owned (fun i j hij _ h => hij (hinj h)) (fun i _ t ht => absurd ht (hnone t)) hr ?_
  exact ⟨fun a ha => absurd ha (hnone a), fun a ha => absurd ha (hnone a)⟩

end SuperAdmin
