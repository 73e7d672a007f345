import SuperAdmin.Rotation.Abreast
import SuperAdmin.Rotation.SignOut

/-! # Sessions side by side

A run of logins, exchanges, logouts and revocations, and the same run without some exchanges and logouts of
other sessions than `s`.  What happens to `s` is the same in both, with one exception.  `Logout` revokes the
session of its claims only where it does not know the refresh token; a token of another session that only one
of the two runs knows makes the difference. -/

namespace SuperAdmin.Separate

open Effects Usecase Rotation SignOut
open Usecase (hashToken)

variable {d : Deps} {s : UUID} {r : Draws} {w w' v v' : World d}

/-! ### Logouts -/

variable {refreshToken : String} {claims : Option AccessClaims}

/-- The session of some claims; without claims it is `uuid.Nil`. -/
def claimed (claims : Option AccessClaims) : UUID := (claims.map AccessClaims.sessionID).getD UUID.nil

/-- A logout with claims of the session finds its token in both states, or in none, as long as there is
something to revoke. -/
def Steady (s : UUID) (w v : World d) (refreshToken : String) (claims : Option AccessClaims) : Prop :=
  s ≠ UUID.nil → claimed claims = s → (∃ t ∈ chainOf s w.tokens.rows, t.isRevoked = false) →
    (known w refreshToken).isSome = (known v refreshToken).isSome

/-- A logout revokes the session. -/
def Hits (s : UUID) (w : World d) (refreshToken : String) (claims : Option AccessClaims) : Prop :=
  s ≠ UUID.nil ∧ Auth.logoutSessionID w refreshToken claims = s

theorem targets_eq_true_iff {t : RefreshToken} (ht : t ∈ chainOf s w.tokens.rows) :
    targets (Auth.logoutSessionID w refreshToken claims) t = true ↔ Hits s w refreshToken claims := by
  rw [targets_iff, (mem_chainOf.mp ht).2, Hits, eq_comm (a := s)]
  constructor
  · rintro ⟨hnil, hs⟩
    exact ⟨hs ▸ hnil, hs⟩
  · rintro ⟨hnil, hs⟩
    exact ⟨hs ▸ hnil, hs⟩

/-- The session after a logout. -/
theorem logout_chain (r : Draws) (w : World d) (refreshToken : String) (claims : Option AccessClaims)
    (rc : RequestContext) :
    chainOf s ((Auth.logout refreshToken claims rc).run (exec d r) w).2.tokens.rows =
      (chainOf s w.tokens.rows).map (revokeIf (targets (Auth.logoutSessionID w refreshToken claims))
        RevokeReason.logout w.clock) := by
  rw [logout_rows, chainOf_map (revokeIf_sessionID _ _ _)]

/-- A token of the session that is presented is known in both states. -/
theorem known_of_session (h : SameSession s w v) {t : RefreshToken} (ht : known w refreshToken = some t)
    (hs : t.sessionID = s) : known v refreshToken = some t := by
  unfold known at ht ⊢
  split at ht
  · cases ht
  · rename_i hempty
    rw [if_neg hempty]
    exact h.tokenByHash ht hs

theorem hits_iff : Hits s w refreshToken claims ↔ s ≠ UUID.nil ∧
    match known w refreshToken with
    | some t => t.sessionID = s
    | none => claimed claims = s := by
  unfold Hits claimed
  rw [logoutSessionID_eq]
  cases known w refreshToken <;> rfl

/-- The logout revokes the session in both states or in none exactly if it is steady. -/
theorem steady_iff (h : SameSession s w v) :
    Steady s w v refreshToken claims ↔ ((∃ t ∈ chainOf s w.tokens.rows, t.isRevoked = false) →
      (Hits s w refreshToken claims ↔ Hits s v refreshToken claims)) := by
  have hforth : ∀ t, known w refreshToken = some t → t.sessionID = s → known v refreshToken = some t :=
    fun t => known_of_session h
  have hback : ∀ t, known v refreshToken = some t → t.sessionID = s → known w refreshToken = some t :=
    fun t => known_of_session h.symm
  unfold Steady
  rw [hits_iff, hits_iff]
  cases hw : known w refreshToken with
  | none =>
      cases hv : known v refreshToken with
      | none => simp
      | some t =>
          have hother : t.sessionID ≠ s := by
            intro hs
            have hknown := hback t hv hs
            rw [hw] at hknown
            cases hknown
          simp only [Option.isSome_none, Option.isSome_some, hother, and_false, iff_false, not_and, reduceCtorEq]
          exact ⟨fun h hlive hnil hs => h hnil hs hlive, fun h hnil hs hlive => h hlive hnil hs⟩
  | some t =>
      cases hv : known v refreshToken with
      | none =>
          have hother : t.sessionID ≠ s := by
            intro hs
            have hknown := hforth t hw hs
            rw [hv] at hknown
            cases hknown
          simp only [Option.isSome_none, Option.isSome_some, hother, and_false, false_iff, not_and, reduceCtorEq]
          exact ⟨fun h hlive hnil hs => h hnil hs hlive, fun h hnil hs hlive => h hlive hnil hs⟩
      | some t' =>
          have hsame : t.sessionID = s ↔ t'.sessionID = s := by
            constructor
            · intro hs
              have hknown := hforth t hw hs
              rw [hv] at hknown
              cases hknown
              exact hs
            · intro hs
              have hknown := hback t' hv hs
              rw [hw] at hknown
              cases hknown
              exact hs
          simp [hsame]

/-- The session is the same after a logout in both states exactly if it is steady. -/
theorem logout_chain_iff (h : Abreast s w v) (rc : RequestContext) :
    chainOf s ((Auth.logout refreshToken claims rc).run (exec d r) v).2.tokens.rows =
        chainOf s ((Auth.logout refreshToken claims rc).run (exec d r) w).2.tokens.rows ↔
      Steady s w v refreshToken claims := by
  rw [steady_iff h.toSameSession, logout_chain, logout_chain, h.chain, h.clock]
  constructor
  · rintro hchains ⟨t, ht, hlive⟩
    have hrow := List.map_inj_left.mp hchains t ht
    have hrevoked := congrArg RefreshToken.isRevoked hrow
    rw [revokeIf_isRevoked, revokeIf_isRevoked, hlive, Bool.or_false, Bool.or_false] at hrevoked
    rw [← targets_eq_true_iff ht, ← targets_eq_true_iff (w := v) (h.chain ▸ ht), hrevoked]
  · intro hsteady
    refine List.map_congr_left fun t ht => ?_
    cases hlive : t.isRevoked with
    | true => simp [revokeIf, hlive]
    | false =>
        have hsame := hsteady ⟨t, ht, hlive⟩
        rw [← targets_eq_true_iff ht, ← targets_eq_true_iff (w := v) (h.chain ▸ ht)] at hsame
        unfold revokeIf
        rw [Bool.eq_iff_iff.mpr hsame]

/-- Listing an access token leaves the sessions alone. -/
theorem sameSession_listAlive (claims : AccessClaims) (now : Time) :
    SameSession s w ((Auth.listAlive claims now).run (exec d r) w).2 := by
  unfold Auth.listAlive
  split
  · refine ⟨rfl, ?_, rfl⟩
    show (RevokerOp.exec w.clock (.revoke _ _) w.redis).2.up = w.redis.up
    simp only [RevokerOp.exec]
    split
    · rfl
    · split <;> rfl
  · exact .refl w

/-- What a logout does with its claims, whatever session it has revoked. -/
theorem logoutAccess_agrees (h : Abreast s w v) (sessionID sessionID' : UUID) (claims : Option AccessClaims)
    (rc : RequestContext) (now : Time) :
    ((Auth.logoutAccess sessionID claims rc now).run (exec d r) w).1 =
        ((Auth.logoutAccess sessionID' claims rc now).run (exec d r) v).1 ∧
      Abreast s ((Auth.logoutAccess sessionID claims rc now).run (exec d r) w).2
        ((Auth.logoutAccess sessionID' claims rc now).run (exec d r) v).2 := by
  cases claims with
  | none => exact ⟨rfl, h⟩
  | some claims =>
      obtain ⟨hresult, hnext⟩ := agrees_of_blind (r := r) (Auth.blind_listAlive now claims) h
      rw [Auth.logoutAccess_run, Auth.logoutAccess_run]
      generalize (Auth.listAlive claims now).run (exec d r) w = resW at *
      generalize (Auth.listAlive claims now).run (exec d r) v = resV at *
      obtain ⟨e | _, w'⟩ := resW <;> obtain ⟨e' | _, v'⟩ := resV
      · exact ⟨hresult, hnext⟩
      · cases hresult
      · cases hresult
      · dsimp only
        refine ⟨rfl, ⟨?_, ?_⟩⟩
        · exact ((sameSession_audited w' _).symm.trans hnext.toSameSession).trans (sameSession_audited v' _)
        · show (World.writeAudit v' _).2.clock = (World.writeAudit w' _).2.clock
          rw [World.writeAudit_clock, World.writeAudit_clock, hnext.clock]

theorem sessionRevoked_users (sessionID : UUID) : (Auth.sessionRevoked w r sessionID).users = w.users := by
  unfold Auth.sessionRevoked
  split <;> rfl

theorem sessionRevoked_redis (sessionID : UUID) : (Auth.sessionRevoked w r sessionID).redis = w.redis := by
  unfold Auth.sessionRevoked
  split <;> rfl

/-- A steady logout is the same in both states. -/
theorem logout_agrees (h : Abreast s w v) (hsteady : Steady s w v refreshToken claims) (rc : RequestContext) :
    Agrees s r (Auth.logout refreshToken claims rc) w v := by
  have hchain := (logout_chain_iff (r := r) h rc).mpr hsteady
  unfold Agrees Prog.Agree
  rw [Auth.logout_run, Auth.logout_run, Auth.logoutSession_run, Auth.logoutSession_run, h.clock] at *
  rw [Auth.logoutAccess_tokens, Auth.logoutAccess_tokens] at hchain
  refine logoutAccess_agrees ⟨⟨?_, ?_, hchain⟩, ?_⟩ _ _ claims rc w.clock
  · rw [sessionRevoked_users, sessionRevoked_users, h.users]
  · rw [sessionRevoked_redis, sessionRevoked_redis, h.up]
  · rw [sessionRevoked_clock, sessionRevoked_clock, h.clock]

/-- A logout that does not revoke the session leaves it as it is. -/
theorem logout_elsewhere (h : ¬ Hits s w refreshToken claims) (rc : RequestContext) :
    SameSession s w ((Auth.logout refreshToken claims rc).run (exec d r) w).2 := by
  have hchain := logout_chain (s := s) r w refreshToken claims rc
  rw [Auth.logout_run, Auth.logoutSession_run] at *
  have hmap : (chainOf s w.tokens.rows).map (revokeIf (targets (Auth.logoutSessionID w refreshToken claims))
      RevokeReason.logout w.clock) = chainOf s w.tokens.rows :=
    map_revokeIf fun t ht _ => Bool.eq_false_iff.mpr ((targets_eq_true_iff ht).not.mpr h)
  rw [hmap] at hchain
  have hrevoked : SameSession s w (Auth.sessionRevoked w r (Auth.logoutSessionID w refreshToken claims)) := by
    refine ⟨sessionRevoked_users _, by rw [sessionRevoked_redis], ?_⟩
    rwa [Auth.logoutAccess_tokens] at hchain
  refine hrevoked.trans ?_
  cases claims with
  | none => exact .refl _
  | some claims =>
      rw [Auth.logoutAccess_run]
      generalize Auth.sessionRevoked w r (Auth.logoutSessionID w refreshToken (some claims)) = u
      have hlisted := sameSession_listAlive (s := s) (d := d) (r := r) (w := u) claims w.clock
      generalize (Auth.listAlive claims w.clock).run (exec d r) u = res at *
      obtain ⟨e | _, w'⟩ := res
      · exact hlisted
      · exact hlisted.trans (sameSession_audited w' _)

/-! ### Turns -/

/-- The calls of a run. -/
def ofSessions : Call → Bool
  | .login _ _ | .refresh _ _ | .logout _ _ _ | .logoutAll _ _ _ | .revoke _ _ _ => true
  | _ => false

/-- A call on the session: an exchange of one of its tokens, or a call that presents none to be exchanged. -/
def OnSession (s : UUID) (w : World d) : Call → Prop
  | .refresh refreshToken _ => ∃ t ∈ w.tokenByHash (hashToken refreshToken), t.sessionID = s
  | _ => True

/-- An exchange or a logout whose token and claims are of other sessions. -/
def Elsewhere (s : UUID) (w : World d) : Call → Prop
  | .refresh refreshToken _ => ∀ t ∈ w.tokenByHash (hashToken refreshToken), t.sessionID ≠ s
  | .logout refreshToken claims _ =>
      (∀ t ∈ known w refreshToken, t.sessionID ≠ s) ∧ ∀ c ∈ claims, c.sessionID ≠ s
  | _ => False

/-- A call that is not a logout is steady. -/
def SteadyCall (s : UUID) (w v : World d) : Call → Prop
  | .logout refreshToken claims _ => Steady s w v refreshToken claims
  | _ => True

/-- A turn returns the same in both states if it is on the session, and leaves the same tokens of it. -/
def SameEffect (s : UUID) (w v : World d) (t : Turn) : Prop :=
  (OnSession s w t.call → (t.run d w).1 = (t.run d v).1) ∧
    chainOf s (t.run d v).2.tokens.rows = chainOf s (t.run d w).2.tokens.rows

/-- A logout with token and claims of other sessions does not revoke the session. -/
theorem not_hits_of_elsewhere (hknown : ∀ t ∈ known w refreshToken, t.sessionID ≠ s)
    (hclaims : ∀ c ∈ claims, c.sessionID ≠ s) : ¬ Hits s w refreshToken claims := by
  rw [hits_iff]
  rintro ⟨hnil, hs⟩
  cases hfound : known w refreshToken with
  | some t =>
      rw [hfound] at hs
      exact hknown t hfound hs
  | none =>
      rw [hfound] at hs
      cases claims with
      | none => exact hnil hs.symm
      | some c => exact hclaims c rfl hs

/-- A deleted turn leaves the session as it is. -/
theorem turn_elsewhere {t : Turn} (h : Elsewhere s w t.call) : SameSession s w (t.run d w).2 := by
  obtain ⟨now, r, c⟩ := t
  have hclock : SameSession s w { w with clock := now } := ⟨rfl, rfl, rfl⟩
  refine hclock.trans ?_
  unfold Turn.run
  cases c with
  | refresh refreshToken rc =>
      rw [Call.proc, Prog.run_map]
      exact refresh_elsewhere (w := { w with clock := now }) h rc
  | logout refreshToken claims rc =>
      obtain ⟨hknown, hclaims⟩ := h
      rw [Call.proc, Prog.run_map]
      exact logout_elsewhere (w := { w with clock := now }) (not_hits_of_elsewhere hknown hclaims) rc
  | _ => exact h.elim

/-- A steady turn has the same effect on the session in both states, and no other has. -/
theorem turn_agrees (h : SameSession s w v) {t : Turn} (hcall : ofSessions t.call = true)
    (hw : FreshDraws t.draws w) (hv : FreshDraws t.draws v) :
    (SameEffect s w v t ↔ SteadyCall s w v t.call) ∧
      (SteadyCall s w v t.call → SameSession s (t.run d w).2 (t.run d v).2) := by
  obtain ⟨now, r, c⟩ := t
  have hnow : Abreast s { w with clock := now } { v with clock := now } := ⟨⟨h.users, h.up, h.chain⟩, rfl⟩
  have hw' : FreshDraws r { w with clock := now } := hw.of_tokens rfl
  have hv' : FreshDraws r { v with clock := now } := hv.of_tokens rfl
  -- calls that agree whatever they present
  have hagree : ∀ {w v : World d}, Agrees s r (c.proc d) w v →
      ((c.proc d).run (exec d r) w).1 = ((c.proc d).run (exec d r) v).1 ∧
        SameSession s ((c.proc d).run (exec d r) w).2 ((c.proc d).run (exec d r) v).2 :=
    fun h => ⟨h.1, h.2.toSameSession⟩
  have hsteady : Agrees s r (c.proc d) { w with clock := now } { v with clock := now } →
      SameEffect s w v ⟨now, r, c⟩ ∧ SameSession s (Turn.run d ⟨now, r, c⟩ w).2 (Turn.run d ⟨now, r, c⟩ v).2 :=
    fun h => ⟨⟨fun _ => (hagree h).1, (hagree h).2.chain⟩, (hagree h).2⟩
  cases c with
  | login creds rc =>
      obtain ⟨heffect, hnext⟩ := hsteady ((login_agrees hnow hw' hv' creds rc).map _)
      exact ⟨iff_of_true heffect trivial, fun _ => hnext⟩
  | logoutAll userID actor rc =>
      obtain ⟨heffect, hnext⟩ := hsteady ((logoutAll_agrees hnow userID actor rc).map _)
      exact ⟨iff_of_true heffect trivial, fun _ => hnext⟩
  | revoke actor memberID rc =>
      obtain ⟨heffect, hnext⟩ := hsteady ((revoke_agrees hnow actor memberID rc).map _)
      exact ⟨iff_of_true heffect trivial, fun _ => hnext⟩
  | refresh refreshToken rc =>
      by_cases hon : ∃ t ∈ w.tokenByHash (hashToken refreshToken), t.sessionID = s
      · obtain ⟨stored, hstored, hs⟩ := hon
        obtain ⟨heffect, hnext⟩ := hsteady ((refresh_agrees hnow hw' hv' hstored hs rc).map _)
        exact ⟨iff_of_true heffect trivial, fun _ => hnext⟩
      · have helsewhere : ∀ t ∈ w.tokenByHash (hashToken refreshToken), t.sessionID ≠ s :=
          fun t ht hs => hon ⟨t, ht, hs⟩
        have helsewhere' : ∀ t ∈ v.tokenByHash (hashToken refreshToken), t.sessionID ≠ s :=
          fun t ht hs => hon ⟨t, h.symm.tokenByHash ht hs, hs⟩
        have hnext : SameSession s (Turn.run d ⟨now, r, .refresh refreshToken rc⟩ w).2
            (Turn.run d ⟨now, r, .refresh refreshToken rc⟩ v).2 :=
          ((turn_elsewhere (t := ⟨now, r, .refresh refreshToken rc⟩) helsewhere).symm.trans h).trans
            (turn_elsewhere (t := ⟨now, r, .refresh refreshToken rc⟩) helsewhere')
        exact ⟨iff_of_true ⟨fun h => absurd h hon, hnext.chain⟩ trivial, fun _ => hnext⟩
  | logout refreshToken claims rc =>
      have hchain : chainOf s ((Auth.logout refreshToken claims rc).run (exec d r)
          { v with clock := now }).2.tokens.rows = chainOf s ((Auth.logout refreshToken claims rc).run
          (exec d r) { w with clock := now }).2.tokens.rows ↔ Steady s w v refreshToken claims :=
        logout_chain_iff hnow rc
      have hboth := fun h : Steady s w v refreshToken claims =>
        hsteady ((logout_agrees (r := r) hnow h rc).map _)
      refine ⟨⟨fun heffect => hchain.mp ?_, fun h => (hboth h).1⟩, fun h => (hboth h).2⟩
      have hsame := heffect.2
      unfold Turn.run at hsame
      rwa [Call.proc, Prog.run_map, Prog.run_map] at hsame
  | _ => cases hcall

/-! ### What a turn draws -/

/-- Every token was there before, or is the one that is drawn. -/
def OldOrDrawn (r : Draws) (T U : TokenTable) : Prop :=
  ∀ u ∈ U.rows, (∃ t ∈ T.rows, t.Evolves u) ∨ (u.id = r.uuid .refreshToken ∧
    ∃ raw, r.rand .secureToken = .ok raw ∧ u.tokenHash = hashToken (rawURLEncodeToString raw))

theorem OldOrDrawn.refl (T : TokenTable) : OldOrDrawn r T T := fun u hu => .inl ⟨u, hu, .refl u⟩

theorem OldOrDrawn.step {T : TokenTable} (op : Op) (hop : op.addsNone = true) (h : OldOrDrawn r T w.tokens) :
    OldOrDrawn r T (exec d r op w).2.tokens := by
  intro u hu
  obtain ⟨t, ht, htu⟩ := mem_exec_addsNone hop hu
  rcases h t ht with ⟨x, hx, hxt⟩ | ⟨hid, raw, hraw, hhash⟩
  · exact .inl ⟨x, hx, hxt.trans htu⟩
  · exact .inr ⟨htu.id.trans hid, raw, hraw, htu.tokenHash.trans hhash⟩

theorem OldOrDrawn.run {T : TokenTable} {α : Type} {p : Proc α} (hp : AddsNone p)
    (h : OldOrDrawn r T w.tokens) : OldOrDrawn r T (p.run (exec d r) w).2.tokens :=
  Prog.Only.run (I := fun v : World d => OldOrDrawn r T v.tokens) (fun op _ hop hv => hv.step op hop) hp h

theorem OldOrDrawn.audited {T : TokenTable} (h : OldOrDrawn r T w.tokens) (e : AuditEntry) :
    OldOrDrawn r T (w.audited e).tokens := by
  rw [World.audited, World.writeAudit_tokens]
  exact h

theorem oldOrDrawn_issued {user : SuperAdminUser} {sessionID : UUID} {rc : RequestContext} {now : Time}
    {p : Auth.IssuedPair} (h : Auth.IssueEnd r w user sessionID rc now (.ok p, w')) :
    OldOrDrawn r w.tokens w'.tokens := by
  cases h with
  | issued access raw T hissue hraw hinsert huser =>
      obtain ⟨hrows, -⟩ := Table.insert?_eq_some hinsert
      intro u hu
      rw [hrows, List.mem_append, List.mem_singleton] at hu
      rcases hu with hu | rfl
      · exact .inl ⟨u, hu, .refl u⟩
      · exact .inr ⟨rfl, raw, hraw, rfl⟩

theorem oldOrDrawn_login (creds : Credentials) (rc : RequestContext) :
    OldOrDrawn r w.tokens ((Auth.login d creds rc).run (exec d r) w).2.tokens := by
  rw [Auth.login_run]
  split
  · split
    · exact (OldOrDrawn.refl _).run (Auth.quiet_loginRefused d rc w.clock _ creds).addsNone
    · exact .refl _
  · rename_i user _
    have hend := Auth.loginUser_run r w user rc
    generalize (Auth.loginUser d user rc w.clock).run (exec d r) w = res at hend
    cases hend with
    | refused e h => exact (OldOrDrawn.refl _).audited _
    | failed e h => exact .refl _
    | issued p w' entry h hissue hactor => exact OldOrDrawn.audited (oldOrDrawn_issued hissue) _

theorem oldOrDrawn_refresh (refreshToken : String) (rc : RequestContext) :
    OldOrDrawn r w.tokens ((Auth.refresh d refreshToken rc).run (exec d r) w).2.tokens := by
  rw [Auth.refresh_run]
  split
  · exact .refl _
  · rename_i stored _
    split
    · exact ((OldOrDrawn.refl _).step (.tokens (.revokeSession _ _ _)) rfl).audited _
    · split
      · exact .refl _
      · split
        · exact .refl _
        · rename_i user _
          split
          · exact (OldOrDrawn.refl _).step (.tokens (.revokeSession _ _ _)) rfl
          · have hend := Auth.refreshRotate_run r w stored user rc
            generalize (Auth.refreshRotate d stored user rc w.clock).run (exec d r) w = res at hend
            cases hend with
            | failed text operands => exact .refl _
            | rotated p w' entry hissue hactor =>
                have hmarked := (oldOrDrawn_issued hissue).step (r := r)
                  (.tokens (.markUsed stored.id p.refreshTokenID w.clock)) rfl
                exact hmarked.audited _

theorem oldOrDrawn_turn {t : Turn} (hcall : ofSessions t.call = true) :
    OldOrDrawn t.draws w.tokens (t.run d w).2.tokens := by
  obtain ⟨now, r, c⟩ := t
  have hnow : OldOrDrawn r w.tokens ({ w with clock := now } : World d).tokens := .refl _
  unfold Turn.run
  cases c with
  | login creds rc =>
      rw [Call.proc, Prog.run_map]
      exact oldOrDrawn_login (w := { w with clock := now }) creds rc
  | refresh refreshToken rc =>
      rw [Call.proc, Prog.run_map]
      exact oldOrDrawn_refresh (w := { w with clock := now }) refreshToken rc
  | logout refreshToken claims rc =>
      rw [Call.proc, Prog.run_map]
      exact hnow.run (Auth.quiet_logout rc refreshToken claims).addsNone
  | logoutAll userID actor rc =>
      rw [Call.proc, Prog.run_map]
      exact hnow.run (Auth.quiet_logoutAll rc userID actor).addsNone
  | revoke actor memberID rc =>
      rw [Call.proc, Prog.run_map]
      exact hnow.run (Team.addsNone_revoke actor rc memberID)
  | _ => cases hcall

/-- Two calls draw different values for a refresh token. -/
structure Apart (r r' : Draws) : Prop where
  id : r.uuid .refreshToken ≠ r'.uuid .refreshToken
  hash : ∀ raw raw', r.rand .secureToken = .ok raw → r'.rand .secureToken = .ok raw' →
    hashToken (rawURLEncodeToString raw) ≠ hashToken (rawURLEncodeToString raw')

/-- What is new before a turn is new after it. -/
theorem FreshDraws.turn {t : Turn} (h : FreshDraws r w) (hcall : ofSessions t.call = true)
    (hapart : Apart t.draws r) : FreshDraws r (t.run d w).2 := by
  constructor
  · intro u hu
    rcases oldOrDrawn_turn hcall u hu with ⟨x, hx, hxu⟩ | ⟨hid, -⟩
    · rw [hxu.id]
      exact h.id x hx
    · rw [hid]
      exact hapart.id
  · intro u hu raw hraw
    rcases oldOrDrawn_turn hcall u hu with ⟨x, hx, hxu⟩ | ⟨-, raw', hraw', hhash⟩
    · rw [hxu.tokenHash]
      exact h.hash x hx raw hraw
    · rw [hhash]
      exact hapart.hash raw' raw hraw' hraw

/-! ### Runs -/

/-- A turn of a run that is kept, or one that is deleted from it. -/
inductive Item where
  | kept (t : Turn)
  | deleted (t : Turn)

def Item.turn : Item → Turn
  | .kept t | .deleted t => t

/-- What holds at the turns of a run, of the state of the run and of the state of what is left of it. -/
def Along (Q Q' : World d → World d → Turn → Prop) : List Item → World d → World d → Prop
  | [], _, _ => True
  | .kept t :: l, w, v => Q w v t ∧ Along Q Q' l (t.run d w).2 (t.run d v).2
  | .deleted t :: l, w, v => Q' w v t ∧ Along Q Q' l (t.run d w).2 v

/-- The turns of a run draw values that are new. -/
structure FreshRun (l : List Item) (w : World d) : Prop where
  calls : ∀ item ∈ l, ofSessions item.turn.call = true
  apart : l.Pairwise fun a b => Apart a.turn.draws b.turn.draws
  fresh : ∀ item ∈ l, FreshDraws item.turn.draws w

/-- Every turn that is deleted is an exchange or a logout on another session. -/
def DeletesOthers (s : UUID) (l : List Item) (w v : World d) : Prop :=
  Along (fun _ _ _ => True) (fun w _ t => Elsewhere s w t.call) l w v

/-- Every turn that is left has the same effect on the session. -/
def Undisturbed (s : UUID) (l : List Item) (w v : World d) : Prop :=
  Along (SameEffect s) (fun _ _ _ => True) l w v

/-- Every logout that is left is steady. -/
def SteadyRun (s : UUID) (l : List Item) (w v : World d) : Prop :=
  Along (fun w v t => SteadyCall s w v t.call) (fun _ _ _ => True) l w v

theorem FreshRun.tail {item : Item} {l : List Item} (h : FreshRun (item :: l) w) : FreshRun l w where
  calls x hx := h.calls x (List.mem_cons_of_mem _ hx)
  apart := (List.pairwise_cons.mp h.apart).2
  fresh x hx := h.fresh x (List.mem_cons_of_mem _ hx)

theorem FreshRun.turn {item : Item} {l : List Item} (h : FreshRun (item :: l) w) :
    FreshRun l (item.turn.run d w).2 where
  calls := h.tail.calls
  apart := h.tail.apart
  fresh x hx := (h.tail.fresh x hx).turn (h.calls item (List.mem_cons_self ..))
    ((List.pairwise_cons.mp h.apart).1 x hx)

theorem undisturbed_iff_of_same {l : List Item} (h : SameSession s w v) (hw : FreshRun l w) (hv : FreshRun l v)
    (hdeletes : DeletesOthers s l w v) : Undisturbed s l w v ↔ SteadyRun s l w v := by
  induction l generalizing w v with
  | nil => exact Iff.rfl
  | cons item l ih =>
      have hhead := List.mem_cons_self (a := item) (l := l)
      cases item with
      | kept t =>
          obtain ⟨heffect, hnext⟩ := turn_agrees h (hw.calls _ hhead) (hw.fresh _ hhead) (hv.fresh _ hhead)
          have hiff := fun hsteady => ih (hnext hsteady) hw.turn hv.turn hdeletes.2
          constructor
          · rintro ⟨hsame, hl⟩
            exact ⟨heffect.mp hsame, (hiff (heffect.mp hsame)).mp hl⟩
          · rintro ⟨hsteady, hl⟩
            exact ⟨heffect.mpr hsteady, (hiff hsteady).mpr hl⟩
      | deleted t =>
          obtain ⟨helsewhere, hrest⟩ := hdeletes
          have hnext := (turn_elsewhere helsewhere).symm.trans h
          have hiff := ih hnext hw.turn hv.tail hrest
          exact ⟨fun h => ⟨trivial, hiff.mp h.2⟩, fun h => ⟨trivial, hiff.mpr h.2⟩⟩

/-- Deleting calls on other sessions from a run does not disturb a session exactly if the logouts that are
left are steady. -/
theorem undisturbed_iff {l : List Item} (hfresh : FreshRun l w) (hdeletes : DeletesOthers s l w w) :
    Undisturbed s l w w ↔ SteadyRun s l w w :=
  undisturbed_iff_of_same (.refl w) hfresh hfresh hdeletes

/-! ### Two logins -/

/-- The refresh token of the `n`-th call. -/
def issuedToken (n : Fin 8) : String := rawURLEncodeToString (List.replicate 32 (UInt8.ofNat n.val))

/-- Two logins of the owner; the token of the second is exchanged, and a logout with the claims of the first
presents `refreshToken`. -/
def twoLogins (refreshToken : String) : List Item :=
  [.kept ⟨Sample.start, Sample.draws 0, .login ⟨"owner@example.com", "correct horse"⟩ Sample.context⟩,
    .kept ⟨Sample.start, Sample.draws 1, .login ⟨"owner@example.com", "correct horse"⟩ Sample.context⟩,
    .deleted ⟨Sample.start, Sample.draws 2, .refresh (issuedToken 1) Sample.context⟩,
    .kept ⟨Sample.start, Sample.draws 3, .logout refreshToken (some Sample.firstClaims) Sample.context⟩]

theorem freshRun_twoLogins (refreshToken : String) : FreshRun (twoLogins refreshToken) Sample.world where
  calls := by
    have hcalls : (twoLogins refreshToken).all (fun item => ofSessions item.turn.call) = true := rfl
    exact List.all_eq_true.mp hcalls
  apart := by
    have hne : ([0, 1, 2, 3] : List (Fin 8)).Pairwise fun m n =>
        (Sample.draws m).uuid .refreshToken ≠ (Sample.draws n).uuid .refreshToken ∧
          hashToken (issuedToken m) ≠ hashToken (issuedToken n) := by decide +kernel
    have hapart : (([0, 1, 2, 3] : List (Fin 8)).map Sample.draws).Pairwise Apart := by
      refine List.pairwise_map.mpr (hne.imp fun {m n} ⟨hid, hhash⟩ => ⟨hid, fun raw raw' hraw hraw' => ?_⟩)
      obtain rfl : _ = raw := Except.ok.inj hraw
      obtain rfl : _ = raw' := Except.ok.inj hraw'
      exact hhash
    have hdraws : (twoLogins refreshToken).map (fun item => item.turn.draws) =
        ([0, 1, 2, 3] : List (Fin 8)).map Sample.draws := rfl
    rw [← hdraws] at hapart
    exact List.pairwise_map.mp hapart
  fresh item _ := ⟨fun t ht => (by cases ht), fun t ht => (by cases ht)⟩

theorem deletesOthers_twoLogins (refreshToken : String) :
    DeletesOthers session (twoLogins refreshToken) Sample.world Sample.world := by
  have hother {o : Option RefreshToken} (ho : o.all (fun t => t.sessionID != session) = true) :
      ∀ t ∈ o, t.sessionID ≠ session := fun t ht => bne_iff_ne.mp ((Option.all_eq_true _ _).mp ho t ht)
  refine ⟨trivial, trivial, hother ?_, trivial, trivial⟩
  decide +kernel

/-- A logout with the token and the claims of the first login. -/
theorem undisturbed_first :
    Undisturbed session (twoLogins (issuedToken 0)) Sample.world Sample.world := by
  refine (undisturbed_iff (freshRun_twoLogins _) (deletesOthers_twoLogins _)).mpr
    ⟨trivial, trivial, trivial, fun _ _ _ => ?_, trivial⟩
  decide +kernel

/-- A logout with the claims of the first login revokes its session only if the token of the second, which
it presents, was never issued. -/
theorem exchange_disturbs : ¬ ∀ (d : Deps) (s : UUID) (l : List Item) (w : World d), FreshRun l w →
    DeletesOthers s l w w → Undisturbed s l w w := by
  intro hclaim
  obtain ⟨-, -, -, ⟨-, hchain⟩, -⟩ := hclaim Sample.deps session (twoLogins (issuedToken 2)) Sample.world
    (freshRun_twoLogins _) (deletesOthers_twoLogins _)
  have hrevoked := congrArg (List.map RefreshToken.isRevoked) hchain
  revert hrevoked
  decide +kernel

end SuperAdmin.Separate
