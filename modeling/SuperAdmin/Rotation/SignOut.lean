import SuperAdmin.Rotation.Chain
import SuperAdmin.Sample

/-! # What a logout ends

`Logout` gets a refresh token and the claims of an access token, and revokes one session: that of the
refresh token if it is known, else that of the claims.  Where the two are of different sessions, the
session of the claims, which the caller is signed in with, goes on. -/

namespace SuperAdmin.SignOut

open Effects Usecase Rotation
open Usecase (hashToken)

variable {d : Deps} {r : Draws} {w w' : World d} {refreshToken : String} {claims : AccessClaims}

/-- The stored token that is presented, if it is known. -/
def known (w : World d) (refreshToken : String) : Option RefreshToken :=
  if refreshToken = "" then none else w.tokenByHash (hashToken refreshToken)

/-- A token is of the session of the claims or of the token that is presented. -/
def Concerns (w : World d) (refreshToken : String) (claims : AccessClaims) (t : RefreshToken) : Prop :=
  t.sessionID = claims.sessionID ∨ ∃ stored ∈ known w refreshToken, t.sessionID = stored.sessionID

/-- What a logout is to leave behind: both sessions revoked, the access token on the list as long as it
lives, and every other token as it was. -/
structure Ended (w w' : World d) (refreshToken : String) (claims : AccessClaims) : Prop where
  revoked : ∀ t ∈ w'.tokens.rows, Concerns w refreshToken claims t → t.isRevoked = true
  listed : w.clock < claims.expiresAt → w'.redis.exist (revokedKey claims.tokenID) w.clock = true
  others : List.Forall₂ (fun t t' => t' = t ∨ (Concerns w refreshToken claims t ∧ t'.id = t.id))
    w.tokens.rows w'.tokens.rows

/-- Every token of the two sessions that is not revoked yet is of the session of the presented token, if
that is known, and not of the session `uuid.Nil`. -/
def Covered (w : World d) (refreshToken : String) (claims : AccessClaims) : Prop :=
  ∀ t ∈ w.tokens.rows, t.isRevoked = false → Concerns w refreshToken claims t →
    t.sessionID ≠ UUID.nil ∧ ∀ stored ∈ known w refreshToken, t.sessionID = stored.sessionID

/-! ### The state after a logout -/

theorem logoutSessionID_eq (claims : Option AccessClaims) : Auth.logoutSessionID w refreshToken claims =
    ((known w refreshToken).map RefreshToken.sessionID).getD
      ((claims.map AccessClaims.sessionID).getD UUID.nil) := by
  unfold Auth.logoutSessionID known
  by_cases hempty : refreshToken = ""
  · rw [if_pos hempty, if_pos hempty]
    rfl
  · rw [if_neg hempty, if_neg hempty]
    cases w.tokenByHash (hashToken refreshToken) <;> rfl

/-- The condition on the rows that `Logout` revokes. -/
def targets (sessionID : UUID) (t : RefreshToken) : Bool :=
  sessionID != UUID.nil && t.sessionID == sessionID

@[simp] theorem targets_iff {sessionID : UUID} {t : RefreshToken} :
    targets sessionID t = true ↔ sessionID ≠ UUID.nil ∧ t.sessionID = sessionID := by
  rw [targets, Bool.and_eq_true, bne_iff_ne, beq_iff_eq]

/-- A logout revokes the tokens of one session. -/
theorem logout_rows (r : Draws) (w : World d) (refreshToken : String) (claims : Option AccessClaims)
    (rc : RequestContext) :
    ((Auth.logout refreshToken claims rc).run (exec d r) w).2.tokens.rows =
      w.tokens.rows.map (revokeIf (targets (Auth.logoutSessionID w refreshToken claims))
        RevokeReason.logout w.clock) := by
  rw [Auth.logout_run, Auth.logoutSession_run, Auth.logoutAccess_tokens]
  exact sessionRevoked_rows w _

theorem sessionRevoked_clock (sessionID : UUID) : (Auth.sessionRevoked w r sessionID).clock = w.clock := by
  unfold Auth.sessionRevoked
  split
  · exact exec_clock r _ w
  · rfl

/-- What `listAlive` lists is on the list while it lives. -/
theorem listAlive_exist {now : Time} (hnow : w.clock = now)
    (h : (Auth.listAlive claims now).run (exec d r) w = (.ok (), w')) (halive : now < claims.expiresAt) :
    w'.redis.exist (revokedKey claims.tokenID) now = true := by
  subst hnow
  have hpos : (0 : Duration) < claims.expiresAt.sub w.clock := Time.sub_pos.mpr halive
  unfold Auth.listAlive at h
  rw [if_pos hpos, run_op] at h
  simp only [exec, RevokerOp.exec, if_neg (Int64.not_le.mpr hpos)] at h
  split at h
  · obtain ⟨-, rfl⟩ := Prod.mk.inj h
    refine Redis.exist_set_self _ _ ?_
    have hns := Int64.lt_iff_toInt_lt.mp hpos
    show w.clock.ns < w.clock.ns + _
    rw [Int64.toInt_zero] at hns
    omega
  · cases h

theorem logout_listed {rc : RequestContext}
    (h : (Auth.logout refreshToken (some claims) rc).run (exec d r) w = (.ok (), w'))
    (halive : w.clock < claims.expiresAt) :
    w'.redis.exist (revokedKey claims.tokenID) w.clock = true := by
  rw [Auth.logout_run, Auth.logoutSession_run, Auth.logoutAccess_run] at h
  generalize hlist : (Auth.listAlive claims w.clock).run (exec d r) _ = res at h
  obtain ⟨e | _, w₁⟩ := res
  · cases h
  · obtain ⟨-, rfl⟩ := Prod.mk.inj h
    show (World.writeAudit _ _).2.redis.exist _ _ = true
    rw [World.writeAudit_redis]
    exact listAlive_exist (sessionRevoked_clock _) hlist halive

/-! ### When both sessions end -/

/-- The session that is revoked concerns the logout. -/
theorem concerns_of_eq {t : RefreshToken}
    (h : t.sessionID = Auth.logoutSessionID w refreshToken (some claims)) :
    Concerns w refreshToken claims t := by
  rw [logoutSessionID_eq] at h
  cases hknown : known w refreshToken with
  | none =>
      rw [hknown] at h
      exact .inl h
  | some stored =>
      rw [hknown] at h
      exact .inr ⟨stored, hknown, h⟩

theorem eq_of_concerns {t : RefreshToken} (h : Concerns w refreshToken claims t)
    (hknown : ∀ stored ∈ known w refreshToken, t.sessionID = stored.sessionID) :
    t.sessionID = Auth.logoutSessionID w refreshToken (some claims) := by
  rw [logoutSessionID_eq]
  cases hfound : known w refreshToken with
  | none =>
      rcases h with hclaims | ⟨stored, hstored, -⟩
      · exact hclaims
      · rw [hfound] at hstored
        cases hstored
  | some stored => exact hknown stored hfound

/-- A logout that returns no error ends both sessions exactly if the tokens that are not revoked yet are
all of the session that it revokes. -/
theorem logout_ended_iff {rc : RequestContext}
    (h : (Auth.logout refreshToken (some claims) rc).run (exec d r) w = (.ok (), w')) :
    Ended w w' refreshToken claims ↔ Covered w refreshToken claims := by
  have hrows := logout_rows r w refreshToken (some claims) rc
  rw [h] at hrows
  constructor
  · intro hended t ht hlive hconcerns
    have hmem := List.mem_map_of_mem (f := revokeIf (targets
      (Auth.logoutSessionID w refreshToken (some claims))) RevokeReason.logout w.clock) ht
    rw [← hrows] at hmem
    have hrevoked := hended.revoked _ hmem (by
      unfold Concerns
      rwa [revokeIf_sessionID])
    rw [revokeIf_isRevoked, hlive, Bool.or_false, targets_iff] at hrevoked
    obtain ⟨hnil, hsession⟩ := hrevoked
    refine ⟨hsession ▸ hnil, fun stored hstored => ?_⟩
    rw [hsession, logoutSessionID_eq, Option.mem_def.mp hstored]
    rfl
  · intro hcovered
    refine ⟨fun t' ht' hconcerns => ?_, logout_listed h, ?_⟩
    · rw [hrows] at ht'
      obtain ⟨t, ht, rfl⟩ := List.mem_map.mp ht'
      unfold Concerns at hconcerns
      rw [revokeIf_sessionID] at hconcerns
      rw [revokeIf_isRevoked, Bool.or_eq_true, targets_iff]
      cases hlive : t.isRevoked with
      | true => exact .inr rfl
      | false =>
          obtain ⟨hnil, hknown⟩ := hcovered t ht hlive hconcerns
          have hsession := eq_of_concerns hconcerns hknown
          exact .inl ⟨hsession ▸ hnil, hsession⟩
    · rw [hrows, List.forall₂_map_right_iff, List.forall₂_same]
      intro t _
      by_cases hsession : t.sessionID = Auth.logoutSessionID w refreshToken (some claims)
      · exact .inr ⟨concerns_of_eq hsession, revokeIf_id _ _ _ t⟩
      · refine .inl (if_neg ?_)
        rw [Bool.and_eq_true, targets_iff]
        exact fun htargets => hsession htargets.1.2

/-! ### Two logouts -/

/-- The claims of an access token of another session of the same user. -/
def otherClaims : AccessClaims := { Sample.firstClaims with sessionID := 77 }

/-- The state with a second session, whose token has the hash of `"second"`. -/
def twoSessions : World Sample.deps :=
  { Sample.loggedIn with tokens :=
      (Sample.loggedIn.tokens.insert? (Auth.refreshRecord Sample.deps Sample.owner 78 77 "second"
        Sample.context Sample.start)).getD Sample.loggedIn.tokens }

/-- A logout of the first session. -/
def signedOut (claims : AccessClaims) : Except Error Unit × World Sample.deps :=
  (Auth.logout Sample.firstToken (some claims) Sample.context).run (exec Sample.deps (Sample.draws 1))
    twoSessions

theorem signedOut_ok {claims : AccessClaims} (h : (signedOut claims).1.isOk = true) :
    (Auth.logout Sample.firstToken (some claims) Sample.context).run (exec Sample.deps (Sample.draws 1))
      twoSessions = (.ok (), (signedOut claims).2) := by
  show signedOut claims = (.ok (), (signedOut claims).2)
  revert h
  generalize signedOut claims = res
  obtain ⟨e | _, w'⟩ := res
  · intro h
    cases h
  · exact fun _ => rfl

/-- A logout with the token and the claims of one session. -/
theorem logout_ended_first : Ended twoSessions (signedOut Sample.firstClaims).2 Sample.firstToken
    Sample.firstClaims := by
  have hok : (signedOut Sample.firstClaims).1.isOk = true := by decide +kernel
  have hcovered : Covered twoSessions Sample.firstToken Sample.firstClaims := by
    unfold Covered Concerns
    decide +kernel
  exact (logout_ended_iff (signedOut_ok hok)).mpr hcovered

/-- A logout with the token of one session and the claims of another leaves the other one alive. -/
theorem logout_leaves_session : ¬ ∀ (d : Deps) (r : Draws) (w w' : World d) (refreshToken : String)
    (claims : AccessClaims) (rc : RequestContext),
    (Auth.logout refreshToken (some claims) rc).run (exec d r) w = (.ok (), w') →
    Ended w w' refreshToken claims := by
  intro hclaim
  have hok : (signedOut otherClaims).1.isOk = true := by decide +kernel
  have hended := hclaim _ _ _ _ _ _ _ (signedOut_ok hok)
  have halive : ∃ t ∈ (signedOut otherClaims).2.tokens.rows,
      t.sessionID = otherClaims.sessionID ∧ t.isRevoked = false := by decide +kernel
  obtain ⟨t, ht, hsession, hlive⟩ := halive
  have hrevoked := hended.revoked t ht (.inl hsession)
  rw [hlive] at hrevoked
  cases hrevoked

end SuperAdmin.SignOut
