import SuperAdmin.Rotation.Chain

/-! # States that agree on a session

Two states with the same users and the same tokens of the session `s`.  A call that is made in both finds the
rows of `s`, the users and nothing else, so it returns the same, and the states agree on `s` after it.  A call
with a token of another session leaves the tokens of `s` as they are. -/

namespace SuperAdmin.Separate

open Effects Usecase Rotation
open Usecase (hashToken)

variable {d : Deps} {s : UUID} {r : Draws} {w w' v v' : World d}

/-! ### States that agree on a session -/

/-- Two states with the same users and the same tokens of the session. -/
structure SameSession (s : UUID) (w v : World d) : Prop where
  users : v.users = w.users
  up : v.redis.up = w.redis.up
  chain : chainOf s v.tokens.rows = chainOf s w.tokens.rows

/-- The same, at one time. -/
structure Abreast (s : UUID) (w v : World d) : Prop extends SameSession s w v where
  clock : v.clock = w.clock

namespace SameSession

theorem refl (w : World d) : SameSession s w w := ⟨rfl, rfl, rfl⟩

theorem trans {u : World d} (h : SameSession s w v) (h' : SameSession s v u) : SameSession s w u :=
  ⟨h'.users.trans h.users, h'.up.trans h.up, h'.chain.trans h.chain⟩

theorem symm (h : SameSession s w v) : SameSession s v w := ⟨h.users.symm, h.up.symm, h.chain.symm⟩

theorem hasUser (h : SameSession s w v) : v.hasUser = w.hasUser := by
  unfold World.hasUser
  rw [h.users]

/-- A token of the session is known in both states, or in none. -/
theorem tokenByHash (h : SameSession s w v) {hash : Bytes} {t : RefreshToken}
    (ht : w.tokenByHash hash = some t) (hs : t.sessionID = s) : v.tokenByHash hash = some t := by
  obtain ⟨hmem, rfl⟩ := World.tokenByHash_some ht
  have hchain : t ∈ chainOf s v.tokens.rows := by
    rw [h.chain]
    exact mem_chainOf.mpr ⟨hmem, hs⟩
  exact World.tokenByHash_of_mem (mem_chainOf.mp hchain).1

/-- The tokens of the session are rewritten alike. -/
theorem map_rows (h : SameSession s w v) {f : RefreshToken → RefreshToken}
    (hf : ∀ t, (f t).sessionID = t.sessionID) :
    chainOf s (v.tokens.rows.map f) = chainOf s (w.tokens.rows.map f) := by
  rw [chainOf_map hf, chainOf_map hf, h.chain]

end SameSession

/-! ### Operations on both states -/

/-- An entry leaves the session as it is. -/
theorem sameSession_audited (w : World d) (e : AuditEntry) : SameSession s w (w.audited e) := by
  refine ⟨World.writeAudit_users w e, ?_, ?_⟩
  · rw [World.audited, World.writeAudit_redis]
  · rw [World.audited, World.writeAudit_tokens]

theorem abreast_audited (h : Abreast s w v) (e : AuditEntry) : Abreast s (w.audited e) (v.audited e) where
  toSameSession := ((sameSession_audited w e).symm.trans h.toSameSession).trans (sameSession_audited v e)
  clock := by rw [World.audited, World.audited, World.writeAudit_clock, World.writeAudit_clock, h.clock]

/-- The operations that see no token. -/
def shared : Op → Bool
  | .now | .newUUID _ | .randRead _ | .users _ | .audit _ => true
  | .issuer (.issue _) | .revoker (.revoke _ _) => true
  | .tokens (.revokeSession _ _ _) | .tokens (.revokeAllForUser _ _ _) => true
  | _ => false

theorem exec_abreast (op : Op) (hop : shared op = true) (h : Abreast s w v) :
    (exec d r op w).1 = (exec d r op v).1 ∧ Abreast s (exec d r op w).2 (exec d r op v).2 := by
  have haudited := abreast_audited h
  obtain ⟨⟨husers, hup, hchain⟩, hclock⟩ := h
  cases op with
  | now => exact ⟨hclock.symm, ⟨husers, hup, hchain⟩, hclock⟩
  | newUUID site => exact ⟨rfl, ⟨husers, hup, hchain⟩, hclock⟩
  | randRead site => exact ⟨rfl, ⟨husers, hup, hchain⟩, hclock⟩
  | users uop =>
      simp only [exec, husers]
      exact ⟨trivial, ⟨rfl, hup, hchain⟩, hclock⟩
  | issuer iop =>
      cases iop with
      | issue c => exact ⟨rfl, ⟨husers, hup, hchain⟩, hclock⟩
      | parse token => cases hop
  | revoker rop =>
      cases rop with
      | revoke tokenID ttl =>
          simp only [exec, RevokerOp.exec, hup]
          split
          · exact ⟨rfl, ⟨husers, hup, hchain⟩, hclock⟩
          · split
            · exact ⟨rfl, ⟨husers, hup, hchain⟩, hclock⟩
            · exact ⟨rfl, ⟨husers, hup, hchain⟩, hclock⟩
      | isRevoked tokenID => cases hop
  | tokens top =>
      cases top with
      | revokeSession sessionID reason now =>
          exact ⟨rfl, ⟨husers, hup, SameSession.map_rows ⟨husers, hup, hchain⟩
            (revokeIf_sessionID (·.sessionID == sessionID) reason now)⟩, hclock⟩
      | revokeAllForUser userID reason now =>
          exact ⟨rfl, ⟨husers, hup, SameSession.map_rows ⟨husers, hup, hchain⟩
            (revokeIf_sessionID (·.userID == userID) reason now)⟩, hclock⟩
      | _ => cases hop
  | audit e =>
      have huser : v.hasUser = w.hasUser := SameSession.hasUser (s := s) ⟨husers, hup, hchain⟩
      have hanswer : (w.writeAudit e).1 = (v.writeAudit e).1 := by
        unfold World.writeAudit
        rw [huser]
        split <;> rfl
      exact ⟨hanswer, haudited e⟩
  | _ => cases hop

/-- Two runs of a program that end abreast, with one result. -/
abbrev Agrees (s : UUID) (r : Draws) {α : Type} (p : Proc α) (w v : World d) : Prop :=
  p.Agree (exec d r) (exec d r) (Abreast s) w v

theorem agrees_of_blind {α : Type} {p : Proc α} (hp : Blind p) (h : Abreast s w v) : Agrees s r p w v := by
  refine hp.related (R := Abreast s) (fun op _ _ hop hw => exec_abreast op ?_ hw) h
  unfold Op.blind at hop
  split at hop <;> first | rfl | cases hop

/-- An operation that sees no token, and what follows it. -/
theorem agrees_step {α : Type} {op : Op} {f : op.Res → Proc α} (hop : shared op = true) (h : Abreast s w v)
    (hf : Abreast s (w.after r op) (v.after r op) →
      Agrees s r (f (exec d r op w).1) (w.after r op) (v.after r op)) :
    Agrees s r (perform op >>= f) w v := by
  obtain ⟨hanswer, hnext⟩ := exec_abreast (r := r) op hop h
  exact .step hanswer (hf hnext)

theorem agrees_writeAudit (h : Abreast s w v) (e : AuditEntry) : Agrees s r (writeAudit e) w v :=
  agrees_of_blind (blind_writeAudit e) h

/-! ### A new pair -/

/-- What is drawn for a refresh token is not in the table yet. -/
structure FreshDraws (r : Draws) (w : World d) : Prop where
  id : ∀ t ∈ w.tokens.rows, t.id ≠ r.uuid .refreshToken
  hash : ∀ t ∈ w.tokens.rows, ∀ raw, r.rand .secureToken = .ok raw →
    t.tokenHash ≠ hashToken (rawURLEncodeToString raw)

/-- A row that clashes with none is inserted if its user is there. -/
theorem exec_create {t : RefreshToken}
    (hfree : ∀ x ∈ w.tokens.rows, ¬ EitherEq (x.id, x.tokenHash) (t.id, t.tokenHash)) :
    (w.hasUser t.userID = true ∧ ∃ T : TokenTable, T.rows = w.tokens.rows ++ [t.inserted w.clock] ∧
      exec d r (.tokens (.create t)) w = (.ok (t.inserted w.clock), { w with tokens := T })) ∨
    (w.hasUser t.userID = false ∧ exec d r (.tokens (.create t)) w =
      (.error (foreignKeyViolation "refresh_tokens_user_id_fkey"), w)) := by
  obtain ⟨T, hT⟩ := Table.insert?_isSome (t := w.tokens) (r := t.inserted w.clock) hfree
  cases huser : w.hasUser t.userID with
  | true =>
      refine .inl ⟨rfl, T, (Table.insert?_eq_some hT).1, ?_⟩
      simp [exec, TokensOp.exec, hT, huser]
  | false =>
      refine .inr ⟨rfl, ?_⟩
      simp [exec, TokensOp.exec, hT, huser]

theorem create_agrees (h : Abreast s w v) {t : RefreshToken}
    (hw : ∀ x ∈ w.tokens.rows, ¬ EitherEq (x.id, x.tokenHash) (t.id, t.tokenHash))
    (hv : ∀ x ∈ v.tokens.rows, ¬ EitherEq (x.id, x.tokenHash) (t.id, t.tokenHash)) :
    Agrees s r (perform (.tokens (.create t))) w v := by
  have huser : v.hasUser t.userID = w.hasUser t.userID := by rw [h.hasUser]
  unfold Agrees Prog.Agree
  rw [run_op, run_op]
  rcases exec_create (r := r) hw with ⟨hw', T, hT, hrun⟩ | ⟨hw', hrun⟩ <;>
    rcases exec_create (r := r) hv with ⟨hv', U, hU, hrun'⟩ | ⟨hv', hrun'⟩ <;> rw [hrun, hrun']
  · refine ⟨by rw [h.clock], ⟨h.users, h.up, ?_⟩, h.clock⟩
    show chainOf s U.rows = chainOf s T.rows
    unfold chainOf
    rw [hT, hU, List.filter_append, List.filter_append, h.clock]
    exact congrArg (· ++ _) h.chain
  · rw [huser, hw'] at hv'
    cases hv'
  · rw [huser, hw'] at hv'
    cases hv'
  · exact ⟨rfl, h⟩

/-- A pair is issued in both states, or in none. -/
theorem issue_agrees (h : Abreast s w v) (hw : FreshDraws r w) (hv : FreshDraws r v) (user : SuperAdminUser)
    (sessionID : UUID) (rc : RequestContext) (now : Time) :
    Agrees s r (Auth.issuePairWithID d user sessionID rc now) w v := by
  unfold Agrees Prog.Agree Auth.issuePairWithID generateSecureToken
  simp only [Prog.run_bind, run_op, exec_newUUID, exec_issue]
  cases d.issuer.issue (Auth.accessClaims d user sessionID (r.uuid .accessToken) now) with
  | error e => exact ⟨rfl, h⟩
  | ok access =>
      simp only [Prog.run_bind, run_op, exec_randRead]
      cases hraw : r.rand .secureToken with
      | error e => exact ⟨rfl, h⟩
      | ok raw =>
          simp only [Prog.run_bind, run_op, exec_newUUID, Prog.pure_eq, Prog.run_pure]
          have hfree : ∀ {u : World d}, FreshDraws r u → ∀ x ∈ u.tokens.rows,
              ¬ EitherEq (x.id, x.tokenHash)
                (r.uuid .refreshToken, hashToken (rawURLEncodeToString raw)) := by
            rintro u hu x hx (hid | hhash)
            · exact hu.id x hx hid
            · exact hu.hash x hx raw hraw hhash
          obtain ⟨hanswer, hnext⟩ := create_agrees (r := r) h
            (t := Auth.refreshRecord d user (r.uuid .refreshToken) sessionID
              (rawURLEncodeToString raw) rc now) (hfree hw) (hfree hv)
          rw [run_op, run_op] at hanswer hnext
          rw [hanswer]
          cases (exec d r (.tokens (.create (Auth.refreshRecord d user (r.uuid .refreshToken)
            sessionID (rawURLEncodeToString raw) rc now))) v).1 with
          | error e => exact ⟨rfl, hnext⟩
          | ok record => exact ⟨rfl, hnext⟩

/-! ### Calls that present no token -/

/-- Registering the success leaves the tokens alone. -/
theorem FreshDraws.of_tokens {u : World d} (h : FreshDraws r w) (hu : u.tokens = w.tokens) : FreshDraws r u := by
  constructor
  · rw [hu]
    exact h.id
  · rw [hu]
    exact h.hash

theorem loginUser_agrees (h : Abreast s w v) (hw : FreshDraws r w) (hv : FreshDraws r v)
    (user : SuperAdminUser) (rc : RequestContext) (now : Time) :
    Agrees s r (Auth.loginUser d user rc now) w v := by
  unfold Auth.loginUser
  cases user.ensureCanLogin now with
  | some e => exact .bind (agrees_writeAudit h _) fun _ _ _ h' => .pure h' _
  | none =>
      refine agrees_step rfl h fun h₁ => agrees_step rfl h₁ fun h₂ => ?_
      have hissue := issue_agrees h₂ (hw.of_tokens rfl) (hv.of_tokens rfl) user (r.uuid .session) rc now
      refine .bind (.bind hissue fun res _ _ h₃ => ?_) fun res _ _ h₃ => ?_
      · cases res <;> exact .pure h₃ _
      · cases res with
        | error e => exact .pure h₃ _
        | ok pair => exact .bind (agrees_writeAudit h₃ _) fun _ _ _ h₄ => .pure h₄ _

theorem login_agrees (h : Abreast s w v) (hw : FreshDraws r w) (hv : FreshDraws r v) (creds : Credentials)
    (rc : RequestContext) : Agrees s r (Auth.login d creds rc) w v := by
  have hfound : v.userByEmail (Password.normalizeEmail d creds.email) =
      w.userByEmail (Password.normalizeEmail d creds.email) := by
    unfold World.userByEmail
    rw [h.users]
  unfold Agrees Prog.Agree
  rw [Auth.login_run, Auth.login_run, hfound, h.clock]
  split
  · split
    · exact agrees_of_blind (Auth.blind_loginRefused d rc w.clock _ creds) h
    · exact ⟨rfl, h⟩
  · exact loginUser_agrees h hw hv _ rc w.clock

theorem logoutAll_agrees (h : Abreast s w v) (userID : UUID) (actor : Option AccessClaims)
    (rc : RequestContext) : Agrees s r (Auth.logoutAll userID actor rc) w v :=
  agrees_of_blind (Auth.blind_logoutAll rc userID actor) h

theorem revoke_agrees (h : Abreast s w v) (actor : AccessClaims) (memberID : UUID) (rc : RequestContext) :
    Agrees s r (Team.revoke actor memberID rc) w v :=
  agrees_of_blind (Team.blind_revoke actor rc memberID) h

/-! ### An exchange of a token of the session -/

theorem refreshRotate_agrees (h : Abreast s w v) (hw : FreshDraws r w) (hv : FreshDraws r v)
    (stored : RefreshToken) (user : SuperAdminUser) (rc : RequestContext) :
    Agrees s r (Auth.refreshRotate d stored user rc w.clock) w v := by
  obtain ⟨hresult, hnext⟩ := issue_agrees h hw hv user stored.sessionID rc w.clock
  have hissuedW := Auth.issuePairWithID_run r w user stored.sessionID rc w.clock
  have hissuedV := Auth.issuePairWithID_run r v user stored.sessionID rc w.clock
  unfold Agrees Prog.Agree Auth.refreshRotate
  rw [Prog.run_bind, Prog.run_bind, ← hresult]
  generalize (Auth.issuePairWithID d user stored.sessionID rc w.clock).run (exec d r) w = resW at *
  generalize (Auth.issuePairWithID d user stored.sessionID rc w.clock).run (exec d r) v = resV at *
  obtain ⟨e | p, w'⟩ := resW
  · exact ⟨rfl, hnext⟩
  · obtain ⟨resV, v'⟩ := resV
    obtain rfl : .ok p = resV := hresult
    have hmarkW := Auth.markUsed_of_issued r w hissuedW stored.id w.clock
    have hmarkV := Auth.markUsed_of_issued r v hissuedV stored.id w.clock
    have hmarked : Abreast s (w'.after r (.tokens (.markUsed stored.id p.refreshTokenID w.clock)))
        (v'.after r (.tokens (.markUsed stored.id p.refreshTokenID w.clock))) := by
      refine ⟨⟨hnext.users, hnext.up, ?_⟩, hnext.clock⟩
      rw [markUsed_rows r w' (congrArg Prod.fst hmarkW), markUsed_rows r v' (congrArg Prod.fst hmarkV)]
      exact hnext.map_rows (exchangeIf_sessionID stored.id p.refreshTokenID w.clock)
    dsimp only
    rw [Prog.run_bind, Prog.run_bind, run_op, run_op, hmarkW, hmarkV]
    exact ⟨rfl, abreast_audited hmarked _⟩

/-- An exchange of a token of the session is the same in both states. -/
theorem refresh_agrees (h : Abreast s w v) (hw : FreshDraws r w) (hv : FreshDraws r v)
    {refreshToken : String} {stored : RefreshToken}
    (hstored : w.tokenByHash (hashToken refreshToken) = some stored) (hs : stored.sessionID = s)
    (rc : RequestContext) : Agrees s r (Auth.refresh d refreshToken rc) w v := by
  have hfound : v.userByID stored.userID = w.userByID stored.userID := by
    unfold World.userByID
    rw [h.users]
  have hrevoke := fun reason => (exec_abreast (r := r)
    (.tokens (.revokeSession stored.sessionID reason w.clock)) rfl h).2
  unfold Agrees Prog.Agree
  rw [Auth.refresh_run, Auth.refresh_run, hstored, h.tokenByHash hstored hs, h.clock]
  dsimp only
  split
  · refine ⟨rfl, ?_⟩
    unfold Auth.reused
    rw [h.clock]
    exact abreast_audited (hrevoke RevokeReason.reuse) _
  · split
    · exact ⟨rfl, h⟩
    · rw [hfound]
      split
      · exact ⟨rfl, h⟩
      · split
        · exact ⟨rfl, hrevoke RevokeReason.userDisabled⟩
        · exact refreshRotate_agrees h hw hv stored _ rc

/-! ### Exchanges of other tokens -/

/-- A revocation of other tokens. -/
theorem chainOf_revokeIf {rows : List RefreshToken} {q : RefreshToken → Bool} {reason : String} {now : Time}
    (hq : ∀ t ∈ chainOf s rows, t.isRevoked = false → q t = false) :
    chainOf s (rows.map (revokeIf q reason now)) = chainOf s rows := by
  rw [chainOf_map (revokeIf_sessionID q reason now)]
  exact map_revokeIf hq

/-- The revocation of another session. -/
theorem revokeSession_elsewhere {sessionID : UUID} (hs : sessionID ≠ s) (reason : String) (now : Time) :
    SameSession s w (w.after r (.tokens (.revokeSession sessionID reason now))) := by
  refine ⟨rfl, rfl, ?_⟩
  show chainOf s (w.tokens.rows.map (revokeIf (·.sessionID == sessionID) reason now)) = _
  refine chainOf_revokeIf fun t ht _ => ?_
  rw [(mem_chainOf.mp ht).2]
  exact beq_false_of_ne (Ne.symm hs)

theorem sameSession_issued {user : SuperAdminUser} {sessionID : UUID} {rc : RequestContext} {now : Time}
    {p : Auth.IssuedPair} (h : Auth.IssueEnd r w user sessionID rc now (.ok p, w')) (hs : sessionID ≠ s) :
    SameSession s w w' := by
  obtain ⟨new, hrows, -, hsession, -⟩ := issued_rows r w h
  cases h with
  | issued access raw T hissue hraw hinsert huser =>
      refine ⟨rfl, rfl, ?_⟩
      rw [hrows, chainOf, List.filter_append]
      have hnew : [new].filter (·.sessionID == s) = [] := by simp [hsession, hs]
      rw [hnew, List.append_nil]
      rfl

/-- An exchange of another token, or of none, leaves the session as it is. -/
theorem refresh_elsewhere {refreshToken : String}
    (h : ∀ t ∈ w.tokenByHash (hashToken refreshToken), t.sessionID ≠ s) (rc : RequestContext) :
    SameSession s w ((Auth.refresh d refreshToken rc).run (exec d r) w).2 := by
  rw [Auth.refresh_run]
  split
  · exact .refl w
  · rename_i stored hstored
    have hs : stored.sessionID ≠ s := h stored hstored
    split
    · exact (revokeSession_elsewhere hs _ _).trans (sameSession_audited _ _)
    · split
      · exact .refl w
      · split
        · exact .refl w
        · rename_i user huser
          split
          · exact revokeSession_elsewhere (r := r) hs _ _
          · have hend := Auth.refreshRotate_run r w stored user rc
            generalize (Auth.refreshRotate d stored user rc w.clock).run (exec d r) w = res at hend
            cases hend with
            | failed text operands => exact .refl w
            | rotated p w' entry hissue hactor =>
                have hissued := sameSession_issued hissue hs
                have hmarked : SameSession s w' (w'.after r
                    (.tokens (.markUsed stored.id p.refreshTokenID w.clock))) := by
                  refine ⟨rfl, rfl, ?_⟩
                  have hmark := Auth.markUsed_of_issued r w hissue stored.id w.clock
                  rw [markUsed_rows r w' (congrArg Prod.fst hmark), chainOf_map (exchangeIf_sessionID _ _ _)]
                  -- the token that is exchanged is of another session
                  refine map_exchangeIf fun t ht hid => absurd ?_ hs
                  rw [hissued.chain] at ht
                  obtain ⟨hmem, hts⟩ := mem_chainOf.mp ht
                  have hsame := TokenTable.eq_of_id hmem (World.tokenByHash_some hstored).1 hid
                  rwa [hsame] at hts
                exact (hissued.trans hmarked).trans (sameSession_audited _ _)

end SuperAdmin.Separate
