import SuperAdmin.Access.Passing

/-! # The revocation list outlives the token

`Logout` lists an access token for `exp - now`, where `now` was read before Redis is called, so the
key is kept until `exp` or longer; a token that is not listed because `exp - now` is not positive has
expired.  From then on `Auth` refuses the token at every instant: before `exp` because it is listed
or because Redis does not answer, from `exp` on because `Parse` refuses it. -/

namespace SuperAdmin.Access

open Effects Usecase Http

variable {d : Deps} {ι : Type}

/-! ### The list -/

/-- The key is on the list at every instant from now until `exp`. -/
def Listed (key : String) (exp : Time) (w : World d) : Prop :=
  ∀ t, w.clock ≤ t → t < exp → w.redis.exist key t = true

/-- Time goes on, and Redis, whether it answers or not, keeps a key for its time to live.  Nothing
is said about the tables. -/
structure Persists (w w' : World d) : Prop where
  clock : w.clock ≤ w'.clock
  keeps : ∀ key t, w'.clock ≤ t → w.redis.exist key t = true → w'.redis.exist key t = true

theorem Listed.persists {key : String} {exp : Time} {w w' : World d} (h : Listed key exp w)
    (hw : Persists w w') : Listed key exp w' := by
  intro t ht hexp
  exact hw.keeps key t ht (h t (hw.clock.trans ht) hexp)

/-- Nothing but a revocation can end what the list says. -/
theorem persists_exec (r : Draws) {op : Op} (w : World d)
    (h : ∀ tokenID ttl, op ≠ .revoker (.revoke tokenID ttl)) : Persists w (exec d r op w).2 := by
  have hredis : (exec d r op w).2.redis = w.redis := by
    by_cases hop : ∃ rop, op = .revoker rop
    · obtain ⟨rop, rfl⟩ := hop
      cases rop with
      | revoke tokenID ttl => exact absurd rfl (h tokenID ttl)
      | isRevoked tokenID => rw [Middleware.exec_isRevoked]
    · exact exec_redis r op w fun rop hrop => hop ⟨rop, hrop⟩
  constructor
  · rw [exec_clock]
  · intro key t _ hkey
    rw [hredis]
    exact hkey

/-- A revocation of the key ends no earlier than `exp`. -/
def Covers (key : String) (exp : Time) (op : Op) (w : World d) : Prop :=
  ∀ tokenID ttl, op = .revoker (.revoke tokenID ttl) → revokedKey tokenID = key → 0 < ttl →
    exp ≤ w.clock.add ttl

theorem listed_exec {key : String} {exp : Time} {r : Draws} {op : Op} {w : World d}
    (hop : Covers key exp op w) (h : Listed key exp w) : Listed key exp (exec d r op w).2 := by
  by_cases hrevoke : ∃ tokenID ttl, op = .revoker (.revoke tokenID ttl)
  · obtain ⟨tokenID, ttl, rfl⟩ := hrevoke
    intro t ht hexp
    rw [exec_clock] at ht
    have hkept := h t ht hexp
    show (RevokerOp.exec w.clock (.revoke tokenID ttl) w.redis).2.exist key t = true
    simp only [RevokerOp.exec]
    by_cases httl : ttl ≤ 0
    · rw [if_pos httl]
      exact hkept
    · rw [if_neg httl]
      by_cases hup : w.redis.up = true
      · rw [if_pos hup]
        by_cases hkey : revokedKey tokenID = key
        · have huntil := hop tokenID ttl rfl hkey (Int64.not_le.mp httl)
          rw [hkey]
          exact Redis.exist_set_self w.redis key (hexp.trans_le huntil)
        · rw [Redis.exist_set_of_ne w.redis (Ne.symm hkey)]
          exact hkept
      · rw [if_neg hup]
        exact hkept
  · exact h.persists (persists_exec r w fun tokenID ttl hop => hrevoke ⟨tokenID, ttl, hop⟩)

/-- A revocation that is answered without an error lists its key. -/
theorem listed_revoke {exp : Time} {r : Draws} {tokenID : UUID} {ttl : Duration} {w : World d}
    (hpos : 0 < ttl) (hexp : exp ≤ w.clock.add ttl)
    (h : (exec d r (.revoker (.revoke tokenID ttl)) w).1 = .ok ()) :
    Listed (revokedKey tokenID) exp (exec d r (.revoker (.revoke tokenID ttl)) w).2 := by
  intro t _ ht
  have hres : (RevokerOp.exec w.clock (.revoke tokenID ttl) w.redis).1 = .ok () := h
  show (RevokerOp.exec w.clock (.revoke tokenID ttl) w.redis).2.exist _ t = true
  simp only [RevokerOp.exec, if_neg (Int64.not_le.mpr hpos)] at hres ⊢
  by_cases hup : w.redis.up = true
  · rw [if_pos hup]
    exact Redis.exist_set_self w.redis _ (ht.trans_le hexp)
  · rw [if_neg hup] at hres
    cases hres

/-! ### What a logout puts on the list -/

/-- The claims are those of the token with the key. -/
def Names (key : String) (claims : Option AccessClaims) : Prop :=
  ∃ c, claims = some c ∧ revokedKey c.tokenID = key

/-- A logout with the claims of the token starts at most a `Duration` before the token expires. -/
def listRules (key : String) (exp : Time) (claims : Option AccessClaims) : Rules Eff (World d) where
  assume op w := op = .now → Names key claims → exp.ns - w.clock.ns ≤ Duration.maxNs
  rely w w' := w.clock ≤ w'.clock ∧ (Listed key exp w → Listed key exp w')
  guar := Covers key exp
  rely_refl _ := ⟨le_rfl, fun h => h⟩
  rely_trans h₁ h₂ := ⟨h₁.1.trans h₂.1, fun h => h₂.2 (h₁.2 h)⟩

section logout

variable {key : String} {exp : Time} {claims : Option AccessClaims} {r : Draws} {w : World d}
variable (rc : RequestContext)

theorem covers_of_ne {op : Op} {w : World d}
    (h : ∀ tokenID ttl, op ≠ .revoker (.revoke tokenID ttl)) : Covers key exp op w :=
  fun tokenID ttl hop => absurd hop (h tokenID ttl)

/-- `exp.Sub(now)` reaches from any later instant to `exp`. -/
theorem exp_le_add_sub {now clock : Time} (hnow : now ≤ clock)
    (hlife : exp.ns - now.ns ≤ Duration.maxNs) (hpos : 0 < exp.sub now) :
    exp ≤ clock.add (exp.sub now) := by
  have hlt := Time.lt_iff.mp (Time.sub_pos.mp hpos)
  have hmin : Duration.minNs ≤ exp.ns - now.ns := by
    unfold Duration.minNs
    omega
  rw [Time.le_iff] at hnow ⊢
  rw [Time.ns_add, Time.toInt_sub_of_le hmin hlife]
  omega

/-- The rest of a logout that has read the clock: what it returns without an error was listed. -/
theorem logoutAccess_lists (sessionID : UUID) {now : Time} (hnow : now ≤ w.clock)
    (hexp : ∀ c, claims = some c → revokedKey c.tokenID = key → c.expiresAt = exp)
    (hlife : Names key claims → exp.ns - now.ns ≤ Duration.maxNs) :
    (Auth.logoutAccess sessionID claims rc now).Safe (exec d r) (listRules key exp claims)
      (fun res w' => Names key claims → res = .ok () → Listed key exp w') w := by
  cases claims with
  | none => exact .pure fun _ _ ⟨_, hc, _⟩ => by cases hc
  | some c =>
      have hcovers : 0 < c.expiresAt.sub now → ∀ w' : World d, now ≤ w'.clock →
          revokedKey c.tokenID = key → exp ≤ w'.clock.add (c.expiresAt.sub now) := by
        intro hpos w' hw' hkey
        rw [hexp c rfl hkey] at hpos ⊢
        exact exp_le_add_sub hw' (hlife ⟨c, rfl, hkey⟩) hpos
      have halive : (Auth.listAlive c now).Safe (exec d r) (listRules key exp (some c))
          (fun res w' => Names key (some c) → res = .ok () → Listed key exp w') w := by
        unfold Auth.listAlive
        by_cases hpos : c.expiresAt.sub now > 0
        · rw [if_pos hpos]
          refine .step fun w₁ hr₁ _ => ⟨?_, .pure fun w₂ hr₂ hnames hres => hr₂.2 ?_⟩
          · intro tokenID ttl hop hkey _
            cases hop
            exact hcovers hpos w₁ (hnow.trans hr₁.1) hkey
          · obtain ⟨c', hc', hkey⟩ := hnames
            cases hc'
            rw [← hkey]
            exact listed_revoke hpos (hcovers hpos w₁ (hnow.trans hr₁.1) hkey) hres
        · rw [if_neg hpos]
          refine .pure fun w₁ hr₁ ⟨c', hc', hkey⟩ _ t ht ht' => ?_
          -- a token that is not listed has expired
          cases hc'
          rw [hexp c rfl hkey] at hpos
          exact absurd (Time.sub_pos.mpr (((hnow.trans hr₁.1).trans ht).trans_lt ht')) hpos
      refine .bind (halive.mono ?_)
      rintro (e | _) w₁ hlisted
      · exact .pure fun _ _ _ h => by cases h
      · refine .step fun w₂ hr₂ _ => ⟨covers_of_ne fun _ _ h => (by cases h), ?_⟩
        refine .pure fun w₃ hr₃ hnames _ => hr₃.2 ?_
        exact listed_exec (covers_of_ne fun _ _ h => by cases h) (hr₂.2 (hlisted hnames rfl))

theorem logoutSession_lists (sessionID : UUID) {now : Time} (hnow : now ≤ w.clock)
    (hexp : ∀ c, claims = some c → revokedKey c.tokenID = key → c.expiresAt = exp)
    (hlife : Names key claims → exp.ns - now.ns ≤ Duration.maxNs) :
    (Auth.logoutSession sessionID claims rc now).Safe (exec d r) (listRules key exp claims)
      (fun res w' => Names key claims → res = .ok () → Listed key exp w') w := by
  have hknown : (Auth.revokeKnown sessionID now).Safe (exec d r) (listRules key exp claims)
      (fun _ w' => now ≤ w'.clock) w := by
    unfold Auth.revokeKnown
    split
    · refine .step fun w₁ hr₁ _ => ⟨covers_of_ne fun _ _ h => (by cases h), .pure fun w₂ hr₂ => ?_⟩
      exact (hnow.trans hr₁.1).trans hr₂.1
    · exact .pure fun w₁ hr₁ => hnow.trans hr₁.1
  refine .bind (hknown.mono ?_)
  rintro (e | _) w₁ hnow₁
  · exact .pure fun _ _ _ h => by cases h
  · exact logoutAccess_lists rc sessionID hnow₁ hexp hlife

theorem logout_lists (refreshToken : String)
    (hexp : ∀ c, claims = some c → revokedKey c.tokenID = key → c.expiresAt = exp) :
    (Auth.logout refreshToken claims rc).Safe (exec d r) (listRules key exp claims)
      (fun res w' => Names key claims → res = .ok () → Listed key exp w') w := by
  refine .step fun w₁ _ hstart => ⟨covers_of_ne fun _ _ h => (by cases h), ?_⟩
  have hlife := hstart rfl
  have hnow : w₁.clock ≤ (exec d r .now w₁).2.clock := le_rfl
  dsimp only
  split
  · exact logoutSession_lists rc _ hnow hexp hlife
  · refine .step fun w₂ hr₂ _ => ⟨covers_of_ne fun _ _ h => (by cases h), ?_⟩
    have hnow₂ : w₁.clock ≤ w₂.clock := hr₂.1
    split
    · exact logoutSession_lists rc _ hnow₂ hexp hlife
    · split
      · exact logoutSession_lists rc _ hnow₂ hexp hlife
      · exact .pure fun _ _ _ h => by cases h

end logout

/-! ### Requests after a logout -/

/-- The arguments of a call of `Logout`. -/
structure LogoutCall where
  refreshToken : String
  claims : Option AccessClaims
  rc : RequestContext

/-- Calls of `Logout` that run concurrently. -/
def logoutPool (d : Deps) (calls : ι → LogoutCall) (w : World d) :
    Pool Eff (World d) ι (Except Error Unit) :=
  ⟨w, fun i => Auth.logout (calls i).refreshToken (calls i).claims (calls i).rc⟩

/-- The claims of a token are only at hand after it was issued: a call that has them reads the clock
no earlier. -/
def AfterIssue (c : AccessClaims) (call : LogoutCall) (op : Op) (w : World d) : Prop :=
  op = .now → Names (revokedKey c.tokenID) call.claims → c.issuedAt ≤ w.clock

/-- The string of a UUID determines it. -/
theorem revokedKey_injective {parse : String → Except Error UUID} (h : Issuer.ReadsBackUUIDs parse)
    {a b : UUID} (hkey : revokedKey a = revokedKey b) : a = b := by
  have hstring : a.string = b.string := by
    have hlists := congrArg String.toList hkey
    rw [revokedKey, revokedKey, String.toList_append, String.toList_append] at hlists
    exact String.toList_injective (List.append_cancel_left hlists)
  have ha := h a
  rw [hstring, h b] at ha
  exact (Except.ok.inj ha).symm

section run

variable [DecidableEq ι] {draws : ι → Draws} {calls : ι → LogoutCall} {w : World d}
variable {P : Pool Eff (World d) ι (Except Error Unit)} {c : AccessClaims} {token : String}

/-- Once a logout with the claims of a token has returned without an error, the token is listed for
the rest of its life. -/
theorem logged_out_listed (hlib : Issuer.DecodesSigned d.issuer.lib)
    (huuid : Issuer.ReadsBackUUIDs d.issuer.uuidParse) {ttl : Duration}
    (hissue : d.issuer.issue c = .ok token) (hexp : c.expiresAt = c.issuedAt.add ttl)
    (hparsed : ∀ i a, (calls i).claims = some a → a.tokenID = c.tokenID →
      ∃ now, d.issuer.parse now token = .ok a)
    (hr : Pool.Run (fun i => exec d (draws i)) Persists (fun i => AfterIssue c (calls i))
      (logoutPool d calls w) P)
    {j : ι} {a : AccessClaims} (hj : (calls j).claims = some a) (ha : a.tokenID = c.tokenID)
    (hdone : P.thread j = .pure (.ok ())) :
    Listed (revokedKey c.tokenID) c.expiresAt.truncateSecond P.state := by
  have hexpires : ∀ i b, (calls i).claims = some b → revokedKey b.tokenID = revokedKey c.tokenID →
      b.expiresAt = c.expiresAt.truncateSecond := by
    intro i b hb hkey
    obtain ⟨now, hparse⟩ := hparsed i b hb (revokedKey_injective huuid hkey)
    exact (Issuer.parse_issue hlib huuid hissue hparse).2.2.2.2.2
  have hsafe := Pool.Run.safe (h := fun i => exec d (draws i))
    (C := fun i => AfterIssue c (calls i))
    (Γ := fun i => listRules (revokedKey c.tokenID) c.expiresAt.truncateSecond (calls i).claims)
    (Q := fun i res w' => Names (revokedKey c.tokenID) (calls i).claims → res = .ok () →
      Listed (revokedKey c.tokenID) c.expiresAt.truncateSecond w') ?_ ?_ ?_ hr ?_
  · have hresult := hsafe j
    rw [hdone] at hresult
    exact hresult.result ⟨a, hj, congrArg revokedKey ha⟩ rfl
  · -- the token lives no longer than a `Duration`, whatever it is cut to
    intro i op w' hC hop hnames
    have hissued := Time.le_iff.mp (hC hop hnames)
    have hfloor := Time.le_iff.mp c.expiresAt.truncateSecond_le
    have hlife := ttl.toInt_le_maxNs
    have hend : c.expiresAt.ns = c.issuedAt.ns + ttl.toInt := by rw [hexp, Time.ns_add]
    omega
  · exact fun i j _ op w' _ hcovers => ⟨(exec_clock _ op w').ge, listed_exec hcovers⟩
  · exact fun j w₁ w₂ hw => ⟨hw.clock, fun h => h.persists hw⟩
  · exact fun i => logout_lists (calls i).rc (calls i).refreshToken (hexpires i)

/-- A token that was issued with a lifetime that is a `Duration`, as `issuePairWithID` does, and
logged out: from the return of `Logout` on `Auth` passes no request with it. -/
theorem logged_out_token_refused (hlib : Issuer.DecodesSigned d.issuer.lib)
    (huuid : Issuer.ReadsBackUUIDs d.issuer.uuidParse) {ttl : Duration}
    (hissue : d.issuer.issue c = .ok token) (hexp : c.expiresAt = c.issuedAt.add ttl)
    (hparsed : ∀ i a, (calls i).claims = some a → a.tokenID = c.tokenID →
      ∃ now, d.issuer.parse now token = .ok a)
    (hr : Pool.Run (fun i => exec d (draws i)) Persists (fun i => AfterIssue c (calls i))
      (logoutPool d calls w) P)
    {j : ι} {a : AccessClaims} {now : Time} (hj : (calls j).claims = some a)
    (ha : d.issuer.parse now token = .ok a) (hdone : P.thread j = .pure (.ok ()))
    {req : Request} (hreq : Middleware.bearerToken req.authorization = some token) {r : Draws} :
    ∀ ctx, ((Middleware.auth req).run (exec d r) P.state).1 ≠ .ok ctx := by
  intro ctx hctx
  obtain ⟨-, -, -, -, haID, -⟩ := Issuer.parse_issue hlib huuid hissue ha
  have hlisted := logged_out_listed hlib huuid hissue hexp hparsed hr hj haID hdone
  obtain ⟨claims, -, ⟨raw, hraw, hparse⟩, hup, hunlisted⟩ := Middleware.auth_ok r P.state req hctx
  rw [hreq] at hraw
  cases hraw
  obtain ⟨-, -, -, -, hid, hexpires⟩ := Issuer.parse_issue hlib huuid hissue hparse
  -- the request parses, so the token has not expired, and so it is listed
  have hlive := Issuer.parse_before_expiry hparse
  rw [hexpires] at hlive
  have hexist := hlisted P.state.clock le_rfl hlive
  rw [hid, hexist] at hunlisted
  cases hunlisted

end run

/-- A logout with the access token of the sample login. -/
def ownerLogoutCall : LogoutCall := ⟨"", some (Issuer.parsed Sample.firstClaims), Sample.context⟩

/-- The owner logs out. -/
def ownerLogout : Pool Eff (World Sample.deps) (Fin 1) (Except Error Unit) :=
  (logoutPool Sample.deps (fun _ => ownerLogoutCall) Sample.loggedIn).play
    (fun _ => exec Sample.deps (Sample.draws 1)) (List.replicate 8 0)

/-- The state a minute after that. -/
def afterLogout : World Sample.deps :=
  { ownerLogout.state with clock := Sample.start.add Duration.minute }

theorem ownerLogout_done : ownerLogout.thread 0 = .pure (.ok ()) := by
  have hok : (ownerLogout.thread 0).result?.any (fun res => res.isOk) = true := by decide
  obtain ⟨res, hres, hok⟩ := Option.any_eq_true _ _ |>.mp hok
  cases res with
  | error e => cases hok
  | ok _ => exact Prog.result?_eq_some.mp hres

theorem ownerLogout_run :
    Pool.Run (fun _ => exec Sample.deps (Sample.draws 1)) Persists
      (fun _ => AfterIssue Sample.firstClaims ownerLogoutCall)
      (logoutPool Sample.deps (fun _ : Fin 1 => ownerLogoutCall) Sample.loggedIn)
      ⟨afterLogout, ownerLogout.thread⟩ := by
  have hplay : Pool.Run (fun _ => exec Sample.deps (Sample.draws 1)) Persists
      (fun _ _ _ => True) (logoutPool Sample.deps (fun _ : Fin 1 => ownerLogoutCall) Sample.loggedIn)
      ownerLogout := Pool.play_run _ _
  have hlater : Persists ownerLogout.state afterLogout :=
    ⟨by decide, fun _ _ _ hkey => hkey⟩
  have hissued := hplay.with_invariant (I := fun w => Sample.firstClaims.issuedAt ≤ w.clock)
    (fun _ op w _ hw => hw.trans (exec_clock _ op w).ge) (fun _ _ hw h => h.trans hw.clock)
    (by decide)
  refine .tail (hissued.mono fun _ _ _ h => ?_) (.env ownerLogout afterLogout hlater)
  exact fun _ _ => h.2

/-- The token passes before the logout and no longer passes a minute after it. -/
theorem logged_out_token_refused_minute :
    Middleware.Passes Sample.loggedIn (Sample.request .me Sample.firstClaims)
        (Issuer.parsed Sample.firstClaims) ∧
      ∀ ctx, ((Middleware.auth (Sample.request .me Sample.firstClaims)).run
        (exec Sample.deps (Sample.draws 2)) afterLogout).1 ≠ .ok ctx := by
  have hpasses := Sample.passes_request (w := Sample.loggedIn) .me (c := Sample.firstClaims)
    (by decide) (by decide) (by decide) (by decide)
  obtain ⟨raw, hraw, hparse⟩ := hpasses.token
  have heq := Option.some.inj ((Sample.bearerToken_request _ _).symm.trans hraw)
  rw [← heq] at hparse
  have hexp : Sample.firstClaims.expiresAt =
      Sample.firstClaims.issuedAt.add Sample.deps.cfg.accessTTL := rfl
  have hparsed : ∀ (i : Fin 1) a, ownerLogoutCall.claims = some a →
      a.tokenID = Sample.firstClaims.tokenID →
      ∃ now, Sample.deps.issuer.parse now (Sample.token Sample.firstClaims) = .ok a := by
    intro _ a ha _
    rw [← Option.some.inj ha]
    exact ⟨_, hparse⟩
  refine ⟨hpasses, ?_⟩
  exact logged_out_token_refused (d := Sample.deps) Sample.decodesSigned Sample.readsBackUUIDs
    (Sample.issue_token _) hexp hparsed ownerLogout_run (j := 0) rfl hparse ownerLogout_done
    (Sample.bearerToken_request _ _)

end SuperAdmin.Access
