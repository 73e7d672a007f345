import SuperAdmin.Tokens
import SuperAdmin.Usecase.Team

/-! # Calls of `Auth` and `Team` and their interleavings

`Call` collects the operations of `usecase.Auth` and `usecase.Team` that change something, so
that a run is a list of calls or a pool of them.  In a pool the steps of the calls fall among
each other in any order while the clock moves on; `Reachable` are the states that such pools
reach from a state without sessions. -/

namespace SuperAdmin

open Effects

/-! ### Calls -/

/-- A call of `Auth` or `Team`. -/
inductive Call where
  | login (creds : Credentials) (rc : RequestContext)
  | refresh (refreshToken : String) (rc : RequestContext)
  | logout (refreshToken : String) (claims : Option AccessClaims) (rc : RequestContext)
  | logoutAll (userID : UUID) (actor : Option AccessClaims) (rc : RequestContext)
  | invite (actor : AccessClaims) (email : String) (role : Role) (rc : RequestContext)
  | updateRole (actor : AccessClaims) (memberID : UUID) (role : Role) (rc : RequestContext)
  | revoke (actor : AccessClaims) (memberID : UUID) (rc : RequestContext)

/-- What a call returns. -/
inductive Reply where
  | login (res : Except Error (TokenPair × SuperAdminUser))
  | refresh (res : Except Error TokenPair)
  | done (res : Except Error Unit)
  | invited (res : Except Error (Invitation × String))
  | member (res : Except Error SuperAdminUser)

open Usecase in
/-- The program of a call. -/
def Call.proc (d : Deps) : Call → Proc Reply
  | login creds rc => Reply.login <$> Auth.login d creds rc
  | refresh refreshToken rc => Reply.refresh <$> Auth.refresh d refreshToken rc
  | logout refreshToken claims rc => Reply.done <$> Auth.logout refreshToken claims rc
  | logoutAll userID actor rc => Reply.done <$> Auth.logoutAll userID actor rc
  | invite actor email role rc => Reply.invited <$> Team.invite actor email role rc
  | updateRole actor memberID role rc => Reply.member <$> Team.updateRole actor memberID role rc
  | revoke actor memberID rc => Reply.done <$> Team.revoke actor memberID rc

/-! ### No call purges tokens -/

/-- Every call but the purge leaves the token rows there. -/
def Op.keepsRows : Op → Bool
  | .tokens top => top.keepsRows
  | _ => true

theorem grows_exec {d : Deps} {r : Draws} {op : Op} {w : World d} (h : op.keepsRows = true) :
    w.tokens.Grows (exec d r op w).2.tokens := by
  by_cases htop : ∃ top, op = .tokens top
  · obtain ⟨top, rfl⟩ := htop
    exact TokensOp.grows_exec _ _ h
  · rw [exec_tokens r op w fun top ht => htop ⟨top, ht⟩]
    exact .refl _

/-- Every call but the purge, and those that sign an access token or insert a refresh token: the
token rows are the same, but for what `Evolves` allows. -/
def Op.addsNone : Op → Bool
  | .tokens (.create _) | .issuer (.issue _) => false
  | op => op.keepsRows

theorem Op.keepsRows_of_addsNone {op : Op} (h : op.addsNone = true) : op.keepsRows = true := by
  unfold Op.addsNone at h
  split at h
  · cases h
  · cases h
  · exact h

/-- The calls of `issuePairWithID`. -/
def Op.issues : Op → Bool
  | .newUUID _ | .randRead _ | .issuer (.issue _) | .tokens (.create _) => true
  | _ => false

/-- The calls of a login whose password was right. -/
def Op.opensSession : Op → Bool
  | .users (.registerSuccessfulLogin _ _) | .audit _ => true
  | op => op.issues

/-- The calls of `usecase.Auth` and of `Team.Invite`: none changes the role or the status of a user,
and none reads the journal. -/
def Op.byAuth : Op → Bool
  | .now | .newUUID _ | .randRead _ | .issuer (.issue _) | .revoker (.revoke _ _) => true
  | .users (.getByID _) | .users (.getByEmail _) => true
  | .users (.registerFailedLogin _ _) | .users (.registerSuccessfulLogin _ _) => true
  | .tokens top => top.keepsRows
  | .invites _ | .audit _ => true
  | _ => false

theorem Op.keepsRows_of_byAuth {op : Op} (h : op.byAuth = true) : op.keepsRows = true := by
  cases op with
  | tokens top => exact h
  | _ => rfl

theorem Op.byAuth_of_opensSession {op : Op} (h : op.opensSession = true) : op.byAuth = true := by
  unfold Op.opensSession Op.issues at h
  split at h
  · rfl
  · rfl
  · split at h <;> first | rfl | cases h

/-- The calls of `byAuth` that neither sign an access token nor insert a refresh token. -/
def Op.quiet (op : Op) : Bool := op.byAuth && op.addsNone

theorem Op.opensSession_of_issues {op : Op} (h : op.issues = true) : op.opensSession = true := by
  unfold Op.opensSession
  split <;> first | rfl | exact h

abbrev KeepsRows {α : Type} (p : Proc α) : Prop := p.Only fun op : Op => op.keepsRows = true

abbrev AddsNone {α : Type} (p : Proc α) : Prop := p.Only fun op : Op => op.addsNone = true

theorem AddsNone.keepsRows {α : Type} {p : Proc α} (h : AddsNone p) : KeepsRows p :=
  h.mono fun _ => Op.keepsRows_of_addsNone

abbrev ByAuth {α : Type} (p : Proc α) : Prop := p.Only fun op : Op => op.byAuth = true

theorem ByAuth.keepsRows {α : Type} {p : Proc α} (h : ByAuth p) : KeepsRows p :=
  h.mono fun _ => Op.keepsRows_of_byAuth

abbrev Quiet {α : Type} (p : Proc α) : Prop := p.Only fun op : Op => op.quiet = true

/-- The calls that neither read nor insert a token. -/
def Op.blind : Op → Bool
  | .now | .users _ | .audit _ | .revoker (.revoke _ _) => true
  | .tokens (.revokeSession _ _ _) | .tokens (.revokeAllForUser _ _ _) => true
  | _ => false

abbrev Blind {α : Type} (p : Proc α) : Prop := p.Only fun op : Op => op.blind = true

theorem Quiet.byAuth {α : Type} {p : Proc α} (h : Quiet p) : ByAuth p :=
  h.mono fun _ hop => (Bool.and_eq_true_iff.mp hop).1

theorem Quiet.addsNone {α : Type} {p : Proc α} (h : Quiet p) : AddsNone p :=
  h.mono fun _ hop => (Bool.and_eq_true_iff.mp hop).2

theorem Blind.addsNone {α : Type} {p : Proc α} (h : Blind p) : AddsNone p := by
  refine h.mono fun op hop => ?_
  unfold Op.blind at hop
  split at hop <;> first | rfl | cases hop

namespace Usecase

theorem quiet_writeAudit (e : AuditEntry) : Quiet (writeAudit e) :=
  .step rfl fun _ => trivial

theorem blind_writeAudit (e : AuditEntry) : Blind (writeAudit e) :=
  .step rfl fun _ => trivial

theorem quiet_generateSecureToken : Quiet generateSecureToken := by
  refine .step rfl fun r => ?_
  cases r <;> trivial

namespace Auth

variable (d : Deps) (user : SuperAdminUser) (rc : RequestContext) (now : Time)

theorem issues_issuePairWithID (sessionID : UUID) :
    (issuePairWithID d user sessionID rc now).Only fun op : Op => op.issues = true := by
  refine .step rfl fun _ => .step rfl fun r => ?_
  cases r with
  | error e => trivial
  | ok access =>
      have hsecure : generateSecureToken.Only fun op : Op => op.issues = true := by
        refine .step rfl fun r => ?_
        cases r <;> trivial
      refine .bind hsecure fun r => ?_
      cases r with
      | error e => trivial
      | ok rawRefresh =>
          refine .step rfl fun _ => .step rfl fun r => ?_
          cases r <;> trivial

theorem byAuth_issuePairWithID (sessionID : UUID) :
    ByAuth (issuePairWithID d user sessionID rc now) :=
  (issues_issuePairWithID d user rc now sessionID).mono fun _ h =>
    Op.byAuth_of_opensSession (Op.opensSession_of_issues h)

theorem opensSession_loginUser :
    (loginUser d user rc now).Only fun op : Op => op.opensSession = true := by
  unfold loginUser
  split
  · exact .step rfl fun _ => trivial
  · refine .step rfl fun r => ?_
    cases r with
    | error e => trivial
    | ok _ =>
        have hissue := (issues_issuePairWithID d user rc now · |>.mono fun _ =>
          Op.opensSession_of_issues)
        refine .step rfl fun sessionID => .bind (.bind (hissue sessionID) fun r => ?_) fun r => ?_
        · cases r <;> trivial
        · cases r with
          | error e => trivial
          | ok pair => exact .step rfl fun _ => trivial

theorem quiet_loginRefused (user : Option SuperAdminUser) (creds : Credentials) :
    Quiet (loginRefused d user creds rc now) := by
  have hregister : Quiet (registerFailureOf d user now) := by
    cases user with
    | none => trivial
    | some user => exact .perform rfl
  refine .bind hregister fun r => ?_
  cases r with
  | error e => trivial
  | ok _ => exact .bind (quiet_writeAudit _) fun _ => trivial

theorem blind_loginRefused (user : Option SuperAdminUser) (creds : Credentials) :
    Blind (loginRefused d user creds rc now) := by
  have hregister : Blind (registerFailureOf d user now) := by
    cases user with
    | none => trivial
    | some user => exact .perform rfl
  refine .bind hregister fun r => ?_
  cases r with
  | error e => trivial
  | ok _ => exact .bind (blind_writeAudit _) fun _ => trivial

theorem quiet_authenticate (creds : Credentials) :
    Quiet (Password.authenticate d creds) := by
  refine .step rfl fun r => ?_
  cases r with
  | error e => dsimp only; split <;> trivial
  | ok user =>
      dsimp only
      split
      · trivial
      · split <;> trivial

theorem byAuth_login (creds : Credentials) : ByAuth (login d creds rc) := by
  refine .step rfl fun now => .bind (quiet_authenticate d creds).byAuth fun r => ?_
  cases r with
  | ok user =>
      exact (opensSession_loginUser d user rc now).mono fun _ => Op.byAuth_of_opensSession
  | error ue =>
      dsimp only
      split
      · exact (quiet_loginRefused d rc now _ creds).byAuth
      · trivial

theorem quiet_refreshReuse (stored : RefreshToken) : Quiet (refreshReuse stored rc now) := by
  refine .step rfl fun r => ?_
  cases r with
  | error e => trivial
  | ok _ => exact .bind (quiet_writeAudit _) fun _ => trivial

/-- A token that was used or revoked is never exchanged. -/
theorem refreshReuse_fails (stored : RefreshToken) :
    (refreshReuse stored rc now).Returns fun res => ∃ e, res = .error e := by
  refine .step fun r => ?_
  cases r with
  | error e => exact ⟨e, rfl⟩
  | ok _ => exact .bind (Prog.returns_true _) fun _ _ => ⟨_, rfl⟩

theorem byAuth_refreshRotate (stored : RefreshToken) :
    ByAuth (refreshRotate d stored user rc now) := by
  refine .bind (byAuth_issuePairWithID d user rc now _) fun r => ?_
  cases r with
  | error e => trivial
  | ok p =>
      refine .step rfl fun r => ?_
      cases r with
      | error e => trivial
      | ok _ => exact .bind (quiet_writeAudit _).byAuth fun _ => trivial

theorem byAuth_refreshUsable (stored : RefreshToken) :
    ByAuth (refreshUsable d stored rc now) := by
  refine .step rfl fun r => ?_
  cases r with
  | error e => trivial
  | ok user =>
      dsimp only
      split
      · refine .step rfl fun r => ?_
        cases r <;> trivial
      · exact byAuth_refreshRotate d user rc now stored

theorem byAuth_refresh (refreshToken : String) : ByAuth (refresh d refreshToken rc) := by
  refine .step rfl fun now => .step rfl fun r => ?_
  cases r with
  | error e => trivial
  | ok stored =>
      dsimp only
      split
      · exact (quiet_refreshReuse rc now stored).byAuth
      · split
        · trivial
        · exact byAuth_refreshUsable d rc now stored

theorem quiet_revokeKnown (sessionID : UUID) : Quiet (revokeKnown sessionID now) := by
  unfold revokeKnown
  split
  · exact .perform rfl
  · trivial

theorem quiet_listAlive (claims : AccessClaims) : Quiet (listAlive claims now) := by
  unfold listAlive
  split
  · exact .perform rfl
  · trivial

theorem blind_listAlive (claims : AccessClaims) : Blind (listAlive claims now) := by
  unfold listAlive
  split
  · exact .perform rfl
  · trivial

theorem quiet_logoutAccess (sessionID : UUID) (claims : Option AccessClaims) :
    Quiet (logoutAccess sessionID claims rc now) := by
  cases claims with
  | none => trivial
  | some claims =>
      refine .bind (quiet_listAlive now claims) fun r => ?_
      cases r with
      | error e => trivial
      | ok _ => exact .bind (quiet_writeAudit _) fun _ => trivial

theorem quiet_logoutSession (sessionID : UUID) (claims : Option AccessClaims) :
    Quiet (logoutSession sessionID claims rc now) := by
  refine .bind (quiet_revokeKnown now sessionID) fun r => ?_
  cases r with
  | error e => trivial
  | ok _ => exact quiet_logoutAccess rc now sessionID claims

theorem quiet_logout (refreshToken : String) (claims : Option AccessClaims) :
    Quiet (logout refreshToken claims rc) := by
  refine .step rfl fun now => ?_
  dsimp only
  split
  · exact quiet_logoutSession rc now _ claims
  · refine .step rfl fun r => ?_
    cases r with
    | ok stored => exact quiet_logoutSession rc now _ claims
    | error e =>
        dsimp only
        split
        · exact quiet_logoutSession rc now _ claims
        · trivial

theorem quiet_logoutAll (userID : UUID) (actor : Option AccessClaims) :
    Quiet (logoutAll userID actor rc) := by
  refine .step rfl fun now => .step rfl fun r => ?_
  cases r with
  | error e => trivial
  | ok _ => exact .bind (quiet_writeAudit _) fun _ => trivial

theorem blind_logoutAll (userID : UUID) (actor : Option AccessClaims) :
    Blind (logoutAll userID actor rc) := by
  refine .step rfl fun now => .step rfl fun r => ?_
  cases r with
  | error e => trivial
  | ok _ => exact .bind (blind_writeAudit _) fun _ => trivial

end Auth

namespace Team

variable (actor : AccessClaims) (rc : RequestContext)

theorem quiet_inviteFree (email : String) (role : Role) :
    Quiet (inviteFree actor email role rc) := by
  refine .bind quiet_generateSecureToken fun r => ?_
  cases r with
  | error e => trivial
  | ok rawToken =>
      refine .step rfl fun now => .step rfl fun r => ?_
      cases r with
      | error e => trivial
      | ok inv => exact .bind (quiet_writeAudit _) fun _ => trivial

theorem quiet_invite (email : String) (role : Role) :
    Quiet (invite actor email role rc) := by
  unfold invite
  split
  · trivial
  · refine .step rfl fun r => ?_
    cases r with
    | ok _ => trivial
    | error e =>
        dsimp only
        split
        · trivial
        · refine .step rfl fun r => ?_
          cases r with
          | error e => trivial
          | ok pending =>
              dsimp only
              split
              · trivial
              · exact quiet_inviteFree actor rc email role

theorem addsNone_updateRole (memberID : UUID) (role : Role) :
    AddsNone (updateRole actor memberID role rc) := by
  unfold updateRole
  split
  · trivial
  · refine .step rfl fun r => ?_
    cases r with
    | error e => trivial
    | ok member =>
        dsimp only
        split
        · trivial
        · refine .step rfl fun r => ?_
          cases r with
          | error e => trivial
          | ok updated =>
              refine .step rfl fun now => ?_
              exact .bind (quiet_writeAudit _).addsNone fun _ => trivial

theorem blind_revoke (memberID : UUID) : Blind (revoke actor memberID rc) := by
  refine .step rfl fun r => ?_
  cases r with
  | error e => trivial
  | ok member =>
      dsimp only
      split
      · trivial
      · refine .step rfl fun now => .step rfl fun r => ?_
        cases r with
        | error e => trivial
        | ok _ =>
            refine .step rfl fun r => ?_
            cases r with
            | error e => trivial
            | ok _ => exact .bind (blind_writeAudit _) fun _ => trivial

theorem addsNone_revoke (memberID : UUID) : AddsNone (revoke actor memberID rc) :=
  (blind_revoke actor rc memberID).addsNone

end Team

end Usecase

open Usecase in
theorem Call.keepsRows (d : Deps) (c : Call) : KeepsRows (c.proc d) := by
  cases c with
  | login creds rc => exact .map (Auth.byAuth_login d rc creds).keepsRows _
  | refresh refreshToken rc => exact .map (Auth.byAuth_refresh d rc refreshToken).keepsRows _
  | logout refreshToken claims rc => exact .map (Auth.quiet_logout rc refreshToken claims).byAuth.keepsRows _
  | logoutAll userID actor rc => exact .map (Auth.quiet_logoutAll rc userID actor).byAuth.keepsRows _
  | invite actor email role rc => exact .map (Team.quiet_invite actor rc email role).byAuth.keepsRows _
  | updateRole actor memberID role rc => exact .map (Team.addsNone_updateRole actor rc memberID role).keepsRows _
  | revoke actor memberID rc => exact .map (Team.addsNone_revoke actor rc memberID).keepsRows _

/-! ### Runs -/

/-- Time goes on. -/
def Ticks {d : Deps} (w w' : World d) : Prop := ∃ t, w.clock ≤ t ∧ w' = { w with clock := t }

/-- The pool of some calls. -/
def callPool (d : Deps) {ι : Type} (calls : ι → Call) (w : World d) :
    Pool Eff (World d) ι Reply := ⟨w, fun i => (calls i).proc d⟩

/-- The states that interleaved calls reach from a state without sessions.  No two logins draw
the same session id. -/
def Reachable (d : Deps) (w : World d) : Prop :=
  ∃ (ι : Type) (_ : DecidableEq ι) (calls : ι → Call) (draws : ι → Draws) (w₀ : World d)
    (P : Pool Eff (World d) ι Reply),
    w₀.tokens.rows = [] ∧ Function.Injective (fun i => (draws i).uuid .session) ∧
      Pool.Run (fun i => exec d (draws i)) Ticks (fun _ _ _ => True) (callPool d calls w₀) P ∧
      P.state = w

end SuperAdmin
