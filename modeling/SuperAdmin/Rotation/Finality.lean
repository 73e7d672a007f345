import SuperAdmin.Rotation.Origin
import SuperAdmin.Sample

/-! # Revocation is final

A call that revokes a session leaves every token of it revoked (`revoking_kills`), and as long
as no token of the session is inserted behind its back the session stays dead (`Dead.exec`), so
that no later refresh of it returns a pair.  The inserts are where the code falls short: a
refresh that has read its token before the revocation inserts the successor after it. -/

namespace SuperAdmin.Rotation

open Effects Usecase

variable {d : Deps}

/-! ### A dead session -/

/-- Some token of the session `s` exists. -/
def HasToken (s : UUID) (w : World d) : Prop := ∃ t ∈ w.tokens.rows, t.sessionID = s

/-- Every token of the session `s` is revoked. -/
def Dead (s : UUID) (w : World d) : Prop :=
  ∀ t ∈ w.tokens.rows, t.sessionID = s → t.isRevoked = true

/-- A token of the session `s` is inserted only while no token of the session is revoked. -/
def createsUnrevoked (s : UUID) : Op → World d → Bool
  | .tokens (.create t), w =>
      t.sessionID != s || w.tokens.rows.all fun x => x.sessionID != s || !x.isRevoked
  | _, _ => true

theorem createsUnrevoked_create {s : UUID} {t : RefreshToken} {w : World d}
    (h : createsUnrevoked s (.tokens (.create t)) w = true) (hs : t.sessionID = s)
    {x : RefreshToken} (hx : x ∈ w.tokens.rows) (hxs : x.sessionID = s) : x.isRevoked = false := by
  simp only [createsUnrevoked, Bool.or_eq_true, bne_iff_ne, ne_eq, List.all_eq_true,
    Bool.not_eq_true'] at h
  rcases h with h | h
  · exact absurd hs h
  · rcases h x hx with h | h
    · exact absurd hxs h
    · exact h

theorem HasToken.grows {s : UUID} {w w' : World d} (h : HasToken s w)
    (hg : w.tokens.Grows w'.tokens) : HasToken s w' := by
  obtain ⟨t, ht, hs⟩ := h
  obtain ⟨u, hu, htu⟩ := hg t ht
  exact ⟨u, hu, htu.sessionID.trans hs⟩

/-- A session that has tokens, all of them revoked, stays dead. -/
theorem Dead.exec {s : UUID} {r : Draws} {op : Op} {w : World d} (hk : op.keepsRows = true)
    (hc : createsUnrevoked s op w = true) (hs : HasToken s w) (hw : Dead s w) :
    Dead s (exec d r op w).2 := by
  intro u hu hus
  rcases mem_exec hk hu with ⟨t, ht, htu⟩ | ⟨n, rfl, rfl⟩
  · exact htu.revoked (hw t ht (htu.sessionID.symm.trans hus))
  · -- the insert would have found a revoked token of the session
    obtain ⟨t, ht, hts⟩ := hs
    have hunrevoked := createsUnrevoked_create hc hus ht hts
    rw [hw t ht hts] at hunrevoked
    cases hunrevoked

theorem Dead.unusable {s : UUID} {w : World d} (hw : Dead s w) {t : RefreshToken}
    (ht : t ∈ w.tokens.rows) (hs : t.sessionID = s) (now : Time) : t.isUsable now = false := by
  simp [RefreshToken.isUsable, hw t ht hs]

/-! ### The setting -/

/-- The call revokes the session `s` of `w`: a logout that finds `s` behind its cookie or in its
claims, a logout of the user of `s`, or a refresh with a token of `s`. -/
def Revokes (s : UUID) (w : World d) : Call → Prop
  | .logout refreshToken claims _ =>
      (refreshToken ≠ "" ∧ ∃ t ∈ w.tokens.rows, t.tokenHash = hashToken refreshToken ∧
        t.sessionID = s) ∨
      ((∃ c, claims = some c ∧ c.sessionID = s) ∧
        (refreshToken = "" ∨ ∀ t ∈ w.tokens.rows, t.tokenHash ≠ hashToken refreshToken))
  | .logoutAll userID _ _ => ∃ t ∈ w.tokens.rows, t.sessionID = s ∧ t.userID = userID
  | .refresh refreshToken _ =>
      ∃ t ∈ w.tokens.rows, t.tokenHash = hashToken refreshToken ∧ t.sessionID = s
  | _ => False

/-- `nil`, or `ErrSessionRevoked` of a refresh that detected reuse. -/
def revokedReply : Reply → Bool
  | .done (.ok _) => true
  | .refresh (.error (.sentinel .sessionRevoked)) => true
  | _ => false

theorem revokedReply_refresh {res : Except Error TokenPair}
    (h : revokedReply (.refresh res) = true) : res = .error (.sentinel .sessionRevoked) := by
  unfold revokedReply at h
  split at h
  · rename_i heq
    cases heq
  · rename_i heq
    cases heq
    rfl
  · cases h

/-- One revoking call among refreshes. -/
def finalityPool (d : Deps) {κ : Type} (revoking : Call) (tokens : κ → String)
    (rc : κ → RequestContext) (w : World d) : Pool Eff (World d) (Option κ) Reply :=
  callPool d (fun i => i.elim revoking fun k => .refresh (tokens k) (rc k)) w

/-- What a refresh presents is a token of the session `s`, if it is stored. -/
def presents (s : UUID) {κ : Type} (tokens : κ → String) (i : Option κ) (w : World d) : Prop :=
  ∀ k, i = some k → ∀ t ∈ w.tokens.rows, t.tokenHash = hashToken (tokens k) → t.sessionID = s

/-! ### The revoking call -/

/-- Steps that keep the rows, keep the session dead, and insert only tokens of the session. -/
structure Respects (s : UUID) (w w' : World d) : Prop where
  grows : w.tokens.Grows w'.tokens
  dead : HasToken s w → Dead s w → Dead s w'
  own : ∀ u ∈ w'.tokens.rows, (∃ t ∈ w.tokens.rows, t.Evolves u) ∨ u.sessionID = s

theorem Respects.refl (s : UUID) (w : World d) : Respects s w w where
  grows := .refl _
  dead := fun _ h => h
  own := fun u hu => .inl ⟨u, hu, .refl u⟩

theorem Respects.trans {s : UUID} {a b c : World d} (h₁ : Respects s a b) (h₂ : Respects s b c) :
    Respects s a c where
  grows := h₁.grows.trans h₂.grows
  dead := fun hs ha => h₂.dead (hs.grows h₁.grows) (h₁.dead hs ha)
  own := by
    intro u hu
    rcases h₂.own u hu with ⟨t, ht, htu⟩ | hs
    · rcases h₁.own t ht with ⟨x, hx, hxt⟩ | hs
      · exact .inl ⟨x, hx, hxt.trans htu⟩
      · exact .inr (htu.sessionID.trans hs)
    · exact .inr hs

/-- The rules of the revoking call. -/
def killRules (s : UUID) : Rules Eff (World d) where
  assume op w := op.keepsRows = true ∧ createsUnrevoked s op w = true ∧ Owned w.tokens
  rely := Respects s
  guar _ _ := True
  rely_refl := Respects.refl s
  rely_trans := Respects.trans

/-- The session `s` has tokens and is dead. -/
def Killed (s : UUID) (w : World d) : Prop := HasToken s w ∧ Dead s w

theorem Killed.respects {s : UUID} {w w' : World d} (h : Killed s w) (hr : Respects s w w') :
    Killed s w' := ⟨h.1.grows hr.grows, hr.dead h.1 h.2⟩

theorem Killed.exec {s : UUID} {r : Draws} {op : Op} {w : World d} (h : Killed s w)
    (hk : op.keepsRows = true) (hc : createsUnrevoked s op w = true) :
    Killed s (exec d r op w).2 := ⟨h.1.grows (grows_exec hk), h.2.exec hk hc h.1⟩

section revoking

variable {s : UUID} {r : Draws} {w : World d}

/-- What a reply of success claims. -/
def KilledIf {α : Type} (success : α → Prop) (s : UUID) (res : α) (w : World d) : Prop :=
  success res → Killed s w

theorem keepsRows_killed {α : Type} {p : Proc α} (hp : KeepsRows p) (hw : Killed s w) :
    p.Safe (exec d r) (killRules s) (fun _ w' => Killed s w') w := by
  refine (hp.safe (Prog.returns_true p) (fun _ _ hr h => h.respects hr) ?_ hw).mono fun _ _ h => h.2
  rintro op w hop ⟨hk, hc, -⟩ h
  exact ⟨trivial, h.exec hk hc⟩

theorem keepsRows_killedIf {α : Type} {success : α → Prop} {p : Proc α} (hp : KeepsRows p)
    (hw : Killed s w) : p.Safe (exec d r) (killRules s) (KilledIf success s) w :=
  (keepsRows_killed hp hw).mono fun res w' h => (fun _ => h : KilledIf success s res w')

theorem killed_revokeSession {reason : String} {now : Time} (hw : HasToken s w) :
    Killed s (exec d r (.tokens (.revokeSession s reason now)) w).2 :=
  ⟨hw.grows (grows_exec rfl), fun _ hu hus => revokeSession_revoked r hu hus⟩

theorem logoutSession_kills (hs : s ≠ UUID.nil) (claims : Option AccessClaims)
    (rc : RequestContext) (now : Time) (hw : HasToken s w) :
    (Auth.logoutSession s claims rc now).Safe (exec d r) (killRules s)
      (KilledIf (· = .ok ()) s) w := by
  unfold Auth.logoutSession Auth.revokeKnown
  rw [if_pos hs]
  refine .step fun w₁ hr₁ _ => ⟨trivial, ?_⟩
  exact keepsRows_killedIf (Auth.quiet_logoutAccess rc now s claims).byAuth.keepsRows
    (killed_revokeSession (hw.grows hr₁.grows))

/-- What the cookie of a logout of `s` may find. -/
def FindsSession (s : UUID) (hash : Bytes) (claims : Option AccessClaims) (w : World d) : Prop :=
  (∀ t ∈ w.tokens.rows, t.tokenHash = hash → t.sessionID = s) ∧
    ((∃ t ∈ w.tokens.rows, t.tokenHash = hash) ∨ ∃ c, claims = some c ∧ c.sessionID = s)

theorem FindsSession.respects {hash : Bytes} {claims : Option AccessClaims} {w w' : World d}
    (h : FindsSession s hash claims w) (hr : Respects s w w') : FindsSession s hash claims w' := by
  obtain ⟨hall, hfind⟩ := h
  constructor
  · intro u hu hhash
    rcases hr.own u hu with ⟨t, ht, htu⟩ | hs
    · exact htu.sessionID.trans (hall t ht (htu.tokenHash.symm.trans hhash))
    · exact hs
  · rcases hfind with ⟨t, ht, hhash⟩ | hclaims
    · obtain ⟨u, hu, htu⟩ := hr.grows t ht
      exact .inl ⟨u, hu, htu.tokenHash.trans hhash⟩
    · exact .inr hclaims

theorem logout_kills (hs : s ≠ UUID.nil) (refreshToken : String) (claims : Option AccessClaims)
    (rc : RequestContext) (hw : HasToken s w)
    (hrev : Revokes s w (.logout refreshToken claims rc)) :
    (Auth.logout refreshToken claims rc).Safe (exec d r) (killRules s)
      (KilledIf (· = .ok ()) s) w := by
  refine .step fun w₁ hr₁ _ => ⟨trivial, ?_⟩
  dsimp only
  by_cases htoken : refreshToken = ""
  · -- without a cookie the session is that of the claims
    rw [if_pos htoken]
    rcases hrev with ⟨hne, -⟩ | ⟨⟨c, rfl, hc⟩, -⟩
    · exact absurd htoken hne
    · simp only [Option.map_some, Option.getD_some, hc]
      exact logoutSession_kills hs (some c) rc _ (hw.grows hr₁.grows)
  · rw [if_neg htoken]
    have hfinds : FindsSession s (hashToken refreshToken) claims w := by
      rcases hrev with ⟨-, t, ht, hhash, hts⟩ | ⟨hclaims, hunknown⟩
      · refine ⟨fun x hx hxhash => ?_, .inl ⟨t, ht, hhash⟩⟩
        rw [TokenTable.eq_of_hash hx ht (hxhash.trans hhash.symm)]
        exact hts
      · rcases hunknown with h | hunknown
        · exact absurd h htoken
        · exact ⟨fun x hx hxhash => absurd hxhash (hunknown x hx), .inr hclaims⟩
    refine .step fun w₂ hr₂ _ => ⟨trivial, ?_⟩
    have hr : Respects s w w₂ := hr₁.trans hr₂
    obtain ⟨hall, hfind⟩ := hfinds.respects hr
    split
    · rename_i stored hget
      obtain ⟨hmem, hhash⟩ := World.tokenByHash_some (orNotFound_eq_ok.mp hget)
      rw [hall stored hmem hhash]
      exact logoutSession_kills hs claims rc _ (hw.grows hr.grows)
    · rename_i e hget
      rw [orNotFound_error hget]
      rcases hfind with ⟨t, ht, hhash⟩ | ⟨c, rfl, hc⟩
      · have hfound := orNotFound_eq_ok.mpr (World.tokenByHash_of_mem ht)
        rw [hhash] at hfound
        cases hget.symm.trans hfound
      · simp only [Error.is_sentinel, beq_self_eq_true, if_true, Option.map_some,
          Option.getD_some, hc]
        exact logoutSession_kills hs (some c) rc _ (hw.grows hr.grows)

theorem logoutAll_kills (userID : UUID) (actor : Option AccessClaims) (rc : RequestContext)
    (hrev : Revokes s w (.logoutAll userID actor rc)) :
    (Auth.logoutAll userID actor rc).Safe (exec d r) (killRules s)
      (KilledIf (· = .ok ()) s) w := by
  refine .step fun w₁ hr₁ _ => ⟨trivial, .step fun w₂ hr₂ ha => ⟨trivial, ?_⟩⟩
  obtain ⟨hk, -, howned⟩ := ha
  have hr : Respects s w w₂ := hr₁.trans hr₂
  have hkilled : Killed s (exec d r
      (.tokens (.revokeAllForUser userID RevokeReason.logoutAll w₁.clock)) w₂).2 := by
    obtain ⟨t, ht, hts, htu⟩ := hrev
    obtain ⟨t₂, ht₂, htt₂⟩ := hr.grows t ht
    refine ⟨HasToken.grows ⟨t₂, ht₂, htt₂.sessionID.trans hts⟩ (grows_exec hk), ?_⟩
    intro u hu hus
    -- all tokens of the session are of the user
    refine revokeAllForUser_revoked r hu ?_
    rcases mem_exec hk hu with ⟨x, hx, hxu⟩ | ⟨n, hop, -⟩
    · have hsame := howned.oneUser x hx t₂ ht₂
        ((hxu.sessionID.symm.trans hus).trans (htt₂.sessionID.trans hts).symm)
      rw [hxu.userID, hsame, htt₂.userID, htu]
    · cases hop
  refine keepsRows_killedIf ?_ hkilled
  exact .bind (quiet_writeAudit _).byAuth.keepsRows fun _ => trivial

/-- A result that is not `ErrSessionRevoked` claims nothing. -/
theorem killedIf_of_ne {res : Except Error TokenPair} {w : World d}
    (h : res ≠ .error (.sentinel .sessionRevoked)) :
    KilledIf (· = .error (.sentinel .sessionRevoked)) s res w := fun heq => absurd heq h

/-- The errors of `issuePairWithID` are wrapped ones. -/
theorem issuePairWithID_wraps (user : SuperAdminUser) (sessionID : UUID) (rc : RequestContext)
    (now : Time) :
    (Auth.issuePairWithID d user sessionID rc now).Safe (exec d r) (killRules s)
      (fun res _ => ∀ e, res = .error e → ∃ text operands, e = .errorf text operands) w := by
  refine .step fun w₁ _ _ => ⟨trivial, .step fun w₂ _ _ => ⟨trivial, ?_⟩⟩
  split
  · rename_i e hissue
    refine .pure fun _ _ e' he' => ?_
    cases he'
    exact Issuer.issue_error hissue
  · refine .bind (.step fun w₃ _ _ => ⟨trivial, ?_⟩)
    split
    · refine .pure fun _ _ => .pure fun _ _ e' he' => ?_
      cases he'
      exact ⟨_, _, rfl⟩
    · refine .pure fun _ _ => .step fun w₄ _ _ => ⟨trivial, .step fun w₅ _ _ => ⟨trivial, ?_⟩⟩
      split
      · rename_i e hcreate
        refine .pure fun _ _ e' he' => ?_
        cases he'
        exact create_error (r := r) hcreate
      · exact .pure fun _ _ e' he' => by cases he'

theorem refresh_kills (refreshToken : String) (rc : RequestContext)
    (hrev : Revokes s w (.refresh refreshToken rc)) :
    (Auth.refresh d refreshToken rc).Safe (exec d r) (killRules s)
      (KilledIf (· = .error (.sentinel .sessionRevoked)) s) w := by
  obtain ⟨t, ht, hhash, hts⟩ := hrev
  refine .step fun w₁ hr₁ _ => ⟨trivial, .step fun w₂ hr₂ _ => ⟨trivial, ?_⟩⟩
  have hr : Respects s w w₂ := hr₁.trans hr₂
  split
  · rename_i e hget
    rw [orNotFound_error hget]
    exact .pure fun _ _ => killedIf_of_ne (by simp)
  · rename_i stored hget
    obtain ⟨hmem, hstored⟩ := World.tokenByHash_some (orNotFound_eq_ok.mp hget)
    -- the token that the call reads is the one of the session
    obtain ⟨t₂, ht₂, htt₂⟩ := hr.grows t ht
    have heq : stored = t₂ := TokenTable.eq_of_hash hmem ht₂
      (hstored.trans (htt₂.tokenHash.trans hhash).symm)
    have hs : stored.sessionID = s := by rw [heq, htt₂.sessionID, hts]
    split
    · unfold Auth.refreshReuse
      rw [hs]
      refine .step fun w₃ hr₃ _ => ⟨trivial, ?_⟩
      have hhas : HasToken s w₃ := HasToken.grows ⟨stored, hmem, hs⟩ hr₃.grows
      refine keepsRows_killedIf ?_ (killed_revokeSession hhas)
      exact .bind (quiet_writeAudit _).byAuth.keepsRows fun _ => trivial
    · split
      · exact .pure fun _ _ => killedIf_of_ne (by simp)
      · refine .step fun w₃ _ _ => ⟨trivial, ?_⟩
        split
        · rename_i e huser
          rw [orNotFound_error huser]
          exact .pure fun _ _ => killedIf_of_ne (by simp)
        · split
          · refine .step fun w₄ _ _ => ⟨trivial, .pure fun _ _ => killedIf_of_ne (by simp)⟩
          · refine .bind ((issuePairWithID_wraps _ _ rc _).mono ?_)
            rintro (e | p) w₄ hwraps
            · obtain ⟨text, operands, rfl⟩ := hwraps e rfl
              exact .pure fun _ _ => killedIf_of_ne (by simp)
            · refine .step fun w₅ _ _ => ⟨trivial, ?_⟩
              split
              · rename_i e hmark
                obtain ⟨text, operands, rfl⟩ := markUsed_error (r := r) hmark
                exact .pure fun _ _ => killedIf_of_ne (by simp)
              · refine .bind ((quiet_writeAudit _).addsNone.safe (Prog.returns_true _)
                  (I := fun _ => True) (fun _ _ _ _ => trivial)
                  (fun _ _ _ _ _ => ⟨trivial, trivial⟩) trivial |>.mono ?_)
                exact fun _ _ _ => .pure fun _ _ => killedIf_of_ne (by simp)

/-- A revoking call that reports success has killed the session. -/
theorem revoking_kills (c : Call) (hs : s ≠ UUID.nil) (hw : HasToken s w) (hrev : Revokes s w c) :
    (c.proc d).Safe (exec d r) (killRules s) (KilledIf (fun reply => revokedReply reply = true) s)
      w := by
  cases c with
  | logout refreshToken claims rc =>
      refine .map ((logout_kills hs refreshToken claims rc hw hrev).mono fun res w' h hok => h ?_)
      cases res with
      | ok _ => rfl
      | error e => cases hok
  | logoutAll userID actor rc =>
      refine .map ((logoutAll_kills userID actor rc hrev).mono fun res w' h hok => h ?_)
      cases res with
      | ok _ => rfl
      | error e => cases hok
  | refresh refreshToken rc =>
      exact .map ((refresh_kills refreshToken rc hrev).mono
        fun res w' h hok => h (revokedReply_refresh hok))
  | login creds rc => exact hrev.elim
  | invite actor email role rc => exact hrev.elim
  | updateRole actor memberID role rc => exact hrev.elim
  | revoke actor memberID rc => exact hrev.elim

end revoking

/-! ### A refresh of a dead session -/

/-- The rules of a refresh that starts when the session `s` is dead. -/
def lateRules (s : UUID) (refreshToken : String) : Rules Eff (World d) where
  assume op w := op.keepsRows = true ∧ createsUnrevoked s op w = true ∧
    ∀ t ∈ w.tokens.rows, t.tokenHash = hashToken refreshToken → t.sessionID = s
  rely w w' := Killed s w → Killed s w'
  guar _ _ := True
  rely_refl _ := fun h => h
  rely_trans h₁ h₂ := fun h => h₂ (h₁ h)

theorem late_refresh_fails {s : UUID} (r : Draws) (refreshToken : String) (rc : RequestContext)
    {w : World d} (hw : Killed s w) :
    (Auth.refresh d refreshToken rc).Safe (exec d r) (lateRules s refreshToken)
      (fun res _ => ∃ e, res = .error e) w := by
  refine .step fun w₁ hr₁ ha₁ => ⟨trivial, .step fun w₂ hr₂ ha₂ => ⟨trivial, ?_⟩⟩
  have hw₂ : Killed s w₂ := hr₂ ((hr₁ hw).exec ha₁.1 ha₁.2.1)
  split
  · exact .pure fun _ _ => ⟨_, rfl⟩
  · rename_i stored hget
    obtain ⟨hmem, hhash⟩ := World.tokenByHash_some (orNotFound_eq_ok.mp hget)
    have hrevoked := hw₂.2 stored hmem (ha₂.2.2 stored hmem hhash)
    rw [hrevoked, Bool.or_true, if_pos rfl]
    exact ((Auth.quiet_refreshReuse rc _ stored).addsNone.safe (Auth.refreshReuse_fails rc _ stored)
      (I := fun _ => True) (fun _ _ _ _ => trivial) (fun _ _ _ _ _ => ⟨trivial, trivial⟩)
      trivial).mono fun _ _ h => h.1

/-! ### The whole run -/

section run

variable {κ : Type} [DecidableEq κ] {draws : Option κ → Draws} {revoking : Call}
variable {tokens : κ → String} {rc : κ → RequestContext} {w : World d} {s : UUID}
variable {P₁ P₂ : Pool Eff (World d) (Option κ) Reply}

/-- In a run in which every insert of a token of the session finds no token of it revoked, the
session is dead once the revoking call has reported success. -/
theorem killed_of_revoked (hw : Reachable d w) (hs : HasToken s w) (hrev : Revokes s w revoking)
    (hr : Pool.Run (fun i => exec d (draws i)) Ticks
      (fun i op w => presents s tokens i w ∧ createsUnrevoked s op w = true)
      (finalityPool d revoking tokens rc w) P₁)
    (hret : (P₁.thread none).result?.any revokedReply = true) : Killed s P₁.state := by
  obtain ⟨reply, hreply, hok⟩ := Option.any_eq_true _ _ |>.mp hret
  have hnil : s ≠ UUID.nil := by
    obtain ⟨t, ht, rfl⟩ := hs
    exact hw.owned.notNil t ht
  have hlogin : ∀ i : Option κ,
      (i.elim revoking fun k => Call.refresh (tokens k) (rc k)).isLogin = false := by
    intro i
    cases i with
    | some k => rfl
    | none =>
        cases revoking with
        | login creds rc => exact hrev.elim
        | _ => rfl
  have hrun := run_origin (fun i j _ h => by rw [hlogin i] at h; cases h)
    (fun i h => by rw [hlogin i] at h; cases h) hr
  have hrun' := hrun.with_invariant (I := fun w => Owned w.tokens)
    (fun i op w hC hw => hw.exec hC.1.2 hC.2)
    (by rintro w w' ⟨t, -, rfl⟩ hw; exact hw) hw.owned
  refine Pool.Run.thread_result (Γ := killRules s) ?_ ?_ ?_ hrun'
    (revoking_kills revoking hnil hs hrev) (Prog.result?_eq_some.mp hreply) hok
  · rintro op w ⟨⟨⟨⟨-, hc⟩, hk⟩, -⟩, ho⟩
    exact ⟨hk, hc, ho⟩
  · rintro i op w hi ⟨⟨⟨⟨hp, hc⟩, hk⟩, hg⟩, -⟩
    refine ⟨grows_exec hk, fun hs hd => hd.exec hk hc hs, fun u hu => ?_⟩
    rcases mem_exec hk hu with hold | ⟨n, hop, rfl⟩
    · exact .inl hold
    · cases i with
      | none => exact absurd rfl hi
      | some k =>
          obtain ⟨x, hx, hhash, hxs, -⟩ := hg n hop
          exact .inr (hxs.symm.trans (hp k rfl x hx hhash))
  · rintro w w' ⟨t, -, rfl⟩
    exact ⟨.refl _, fun _ h => h, fun u hu => .inl ⟨u, hu, .refl u⟩⟩

/-- In such a run, once the revoking call has reported success (`P₁`), no token of the session is
usable at any later point (`P₂`), and no refresh that starts later returns a pair. -/
theorem revocation_final (hw : Reachable d w) (hs : HasToken s w) (hrev : Revokes s w revoking)
    (hr₁ : Pool.Run (fun i => exec d (draws i)) Ticks
      (fun i op w => presents s tokens i w ∧ createsUnrevoked s op w = true)
      (finalityPool d revoking tokens rc w) P₁)
    (hret : (P₁.thread none).result?.any revokedReply = true)
    (hr₂ : Pool.Run (fun i => exec d (draws i)) Ticks
      (fun i op w => presents s tokens i w ∧ createsUnrevoked s op w = true) P₁ P₂) :
    (∀ t ∈ P₂.state.tokens.rows, t.sessionID = s → ∀ now, t.isUsable now = false) ∧
      ∀ k, P₁.thread (some k) = (Call.refresh (tokens k) (rc k)).proc d →
        ∀ pair, P₂.thread (some k) ≠ .pure (.refresh (.ok pair)) := by
  have hkilled : Killed s P₁.state := killed_of_revoked hw hs hrev hr₁ hret
  have honly := (hr₁.only fun i => Call.keepsRows d _).2
  obtain ⟨hrun, -⟩ := hr₂.only honly
  have htick : ∀ w w' : World d, Ticks w w' → Killed s w → Killed s w' := by
    rintro w w' ⟨t, -, rfl⟩ h
    exact h
  constructor
  · have hdead : Killed s P₂.state := by
      refine hrun.invariant (I := Killed s) ?_ htick hkilled
      rintro i op w ⟨⟨-, hc⟩, hk⟩ h
      exact h.exec hk hc
    exact fun t ht hts now => hdead.2.unusable ht hts now
  · intro k hk pair hpair
    have hlate : (P₁.thread (some k)).Safe (exec d (draws (some k))) (lateRules s (tokens k))
        (fun reply _ => ∀ pair, reply ≠ .refresh (.ok pair)) P₁.state := by
      rw [hk]
      refine .map ((late_refresh_fails _ (tokens k) (rc k) hkilled).mono ?_)
      rintro _ _ ⟨e, rfl⟩ pair ⟨⟩
    refine Pool.Run.thread_result ?_ ?_ htick hrun hlate hpair pair rfl
    · rintro op w ⟨⟨hp, hc⟩, hk⟩
      exact ⟨hk, hc, hp k rfl⟩
    · rintro i op w - ⟨⟨-, hc⟩, hk⟩ h
      exact h.exec hk hc

end run

/-! ### Runs of the sample -/

instance {κ : Type} [Fintype κ] [DecidableEq κ] (s : UUID) (tokens : κ → String) (i : Option κ)
    (w : World d) : Decidable (presents s tokens i w) :=
  inferInstanceAs (Decidable (∀ k, i = some k → ∀ t ∈ w.tokens.rows,
    t.tokenHash = hashToken (tokens k) → t.sessionID = s))

/-- The handlers of two calls. -/
def handlers (i : Option (Fin 1)) : Handler Eff (World Sample.deps) :=
  exec Sample.deps (i.elim (Sample.draws 1) fun _ => Sample.draws 2)

/-- A logout with the token of the sample login, and a refresh with the same token. -/
def logoutAndRefresh (schedule : List (Option (Fin 1))) :
    Pool Eff (World Sample.deps) (Option (Fin 1)) Reply :=
  (finalityPool Sample.deps (.logout Sample.firstToken none Sample.context)
    (fun _ => Sample.firstToken) (fun _ => Sample.context) Sample.loggedIn).play handlers schedule

/-- The session of the sample login. -/
def session : UUID := (Sample.draws 0).uuid .session

theorem hasToken_session : HasToken session Sample.loggedIn := by
  have h : ∃ t ∈ Sample.loggedIn.tokens.rows, t.sessionID = session := by decide
  exact h

theorem revokes_session (rc : RequestContext) :
    Revokes session Sample.loggedIn (.logout Sample.firstToken none rc) := by
  have h : Sample.firstToken ≠ "" ∧ ∃ t ∈ Sample.loggedIn.tokens.rows,
      t.tokenHash = hashToken Sample.firstToken ∧ t.sessionID = session := by decide +kernel
  exact .inl h

/-- The logout comes first: the token is dead, and the refresh that follows fails. -/
theorem revocation_final_sequential :
    ((logoutAndRefresh (List.replicate 4 none)).play handlers
        (List.replicate 12 (some 0))).state.tokens.rows.map RefreshToken.isRevoked = [true] ∧
      ∀ t ∈ ((logoutAndRefresh (List.replicate 4 none)).play handlers
          (List.replicate 12 (some 0))).state.tokens.rows,
        t.sessionID = session → ∀ now, t.isUsable now = false := by
  have hlogout : Pool.Run handlers Ticks
      (fun i op w => presents session (fun _ : Fin 1 => Sample.firstToken) i w ∧
        createsUnrevoked session op w = true)
      (finalityPool Sample.deps (.logout Sample.firstToken none Sample.context)
        (fun _ => Sample.firstToken) (fun _ => Sample.context) Sample.loggedIn)
      (logoutAndRefresh (List.replicate 4 none)) := Pool.play_meets (by decide +kernel)
  have hrefresh : Pool.Run handlers Ticks
      (fun i op w => presents session (fun _ : Fin 1 => Sample.firstToken) i w ∧
        createsUnrevoked session op w = true)
      (logoutAndRefresh (List.replicate 4 none))
      ((logoutAndRefresh (List.replicate 4 none)).play handlers (List.replicate 12 (some 0))) :=
    Pool.play_meets (by decide +kernel)
  have hfinal := revocation_final Sample.reachable_loggedIn hasToken_session
    (revokes_session Sample.context) hlogout (by decide +kernel) hrefresh
  exact ⟨by decide +kernel, hfinal.1⟩

/-- The refresh has read its token when the logout revokes the session; it then inserts a token of
the session, which is usable after both calls have returned. -/
theorem revocation_overtaken :
    ¬ ∀ (d : Deps) (draws : Option (Fin 1) → Draws) (revoking : Call) (tokens : Fin 1 → String)
        (rc : Fin 1 → RequestContext) (w : World d) (s : UUID)
        (P₁ P₂ : Pool Eff (World d) (Option (Fin 1)) Reply),
      Reachable d w → HasToken s w → Revokes s w revoking →
      Pool.Run (fun i => exec d (draws i)) Ticks (fun i _ w => presents s tokens i w)
        (finalityPool d revoking tokens rc w) P₁ →
      (P₁.thread none).result?.any revokedReply = true →
      Pool.Run (fun i => exec d (draws i)) Ticks (fun i _ w => presents s tokens i w) P₁ P₂ →
      (∀ k, P₁.thread (some k) ≠ (Call.refresh (tokens k) (rc k)).proc d →
        (P₂.thread (some k)).result?.isSome = true) →
      ∀ t ∈ P₂.state.tokens.rows, t.sessionID = s → t.isUsable P₂.state.clock = false := by
  intro hclaim
  have hdone : ∀ k : Fin 1, (((logoutAndRefresh (List.replicate 4 (some 0) ++
      List.replicate 4 none)).play handlers (List.replicate 12 (some 0))).thread
        (some k)).result?.isSome = true := by decide +kernel
  have hdead := hclaim Sample.deps _ _ _ _ _ session
    (logoutAndRefresh (List.replicate 4 (some 0) ++ List.replicate 4 none))
    ((logoutAndRefresh (List.replicate 4 (some 0) ++ List.replicate 4 none)).play handlers
      (List.replicate 12 (some 0)))
    Sample.reachable_loggedIn hasToken_session (revokes_session Sample.context)
    (Pool.play_meets (by decide +kernel)) (by decide +kernel)
    (Pool.play_meets (by decide +kernel)) (fun k _ => hdone k)
  revert hdead
  decide +kernel

end SuperAdmin.Rotation
