import SuperAdmin.Access.Mediation
import SuperAdmin.Lib.Alike

/-! # What the password hashes tell

The server reads the hash of a user with the row of the user, in sign-in and in many other calls.  What it
does depends on a hash only through what `Verify` answers for it: two servers whose hashes differ, but for
which `Verify` answers the same, make the same calls and give the same answers, in every interleaving of
whatever requests. -/

namespace SuperAdmin.Hashes

open Effects Usecase Http

variable {d : Deps}

/-! ### The same but for the hashes -/

/-- The user with another hash. -/
def withHash (hash : String) (u : SuperAdminUser) : SuperAdminUser := { u with passwordHash := hash }

/-- What says nothing of the hash. -/
def Ignores {β : Type} (f : SuperAdminUser → β) : Prop := ∀ u hash, f (withHash hash u) = f u

/-- The user with another hash, for which `Verify` answers the same. -/
def Rehashed (d : Deps) (u v : SuperAdminUser) : Prop :=
  ∃ hash, v = withHash hash u ∧ ∀ password, d.hasher.verify password hash = d.hasher.verify password u.passwordHash

theorem Ignores.rehashed {β : Type} {f : SuperAdminUser → β} (hf : Ignores f) {u v : SuperAdminUser}
    (h : Rehashed d u v) : f v = f u := by
  obtain ⟨hash, rfl, -⟩ := h
  exact hf u hash

/-- Answers that are the same error, or whose values are related. -/
inductive Fellow {α : Type} (V : α → α → Prop) : Except Error α → Except Error α → Prop
  | error (e : Error) : Fellow V (.error e) (.error e)
  | ok {a b : α} (h : V a b) : Fellow V (.ok a) (.ok b)

/-- How the answers to a query for users may differ. -/
def usersKin (d : Deps) : (op : UsersOp) → op.Res → op.Res → Prop
  | .list => Fellow (List.Forall₂ (Rehashed d))
  | .registerFailedLogin _ _ | .registerSuccessfulLogin _ _ => Eq
  | .getByID _ | .getByEmail _ | .updateRole _ _ | .updateStatus _ _ => Fellow (Rehashed d)

/-- The answers to a call may differ in the hashes of users. -/
def kin (d : Deps) : Kinship Eff
  | .users op => usersKin d op
  | _ => Eq

/-- The state with other hashes, for which `Verify` answers the same. -/
def SameButHashes (w v : World d) : Prop :=
  ∃ users : UserTable d, v = { w with users := users } ∧ List.Forall₂ (Rehashed d) w.users.rows users.rows

/-! ### Statements -/

section lists

variable {l m : List SuperAdminUser} (h : List.Forall₂ (Rehashed d) l m) {p : SuperAdminUser → Bool} (hp : Ignores p)
include h

/-- What is computed from the rows without their hashes. -/
theorem map_same {β : Type} {f : SuperAdminUser → β} (hf : Ignores f) : m.map f = l.map f := by
  induction h with
  | nil => rfl
  | cons huv _ ih => rw [List.map_cons, List.map_cons, hf.rehashed huv, ih]

/-- Sorting by other columns. -/
theorem sort_rehashed {le : SuperAdminUser → SuperAdminUser → Bool}
    (hle : ∀ u v hash hash', le (withHash hash u) (withHash hash' v) = le u v) :
    List.Forall₂ (Rehashed d) (l.mergeSort le) (m.mergeSort le) := by
  obtain ⟨hlength, hzip⟩ := List.forall₂_iff_zip.mp h
  have hfst : ((l.zip m).mergeSort fun p q => le p.1 q.1).map Prod.fst = l.mergeSort le := by
    rw [List.map_mergeSort (s := le) fun p _ q _ => rfl, List.map_fst_zip hlength.le]
  have hagree : ∀ p ∈ l.zip m, ∀ q ∈ l.zip m, le p.1 q.1 = le p.2 q.2 := by
    rintro ⟨u, u'⟩ hu ⟨v, v'⟩ hv
    obtain ⟨hash, rfl, -⟩ := hzip hu
    obtain ⟨hash', rfl, -⟩ := hzip hv
    exact (hle u v hash hash').symm
  have hsnd : ((l.zip m).mergeSort fun p q => le p.1 q.1).map Prod.snd = m.mergeSort le := by
    rw [List.map_mergeSort (s := le) hagree, List.map_snd_zip hlength.ge]
  rw [← hfst, ← hsnd, List.forall₂_map_left_iff, List.forall₂_map_right_iff, List.forall₂_same]
  exact fun p hp => hzip ((List.mergeSort_perm _ _).mem_iff.mp hp)

include hp

/-- A row is found for another one with the same columns but the hash. -/
theorem find?_rehashed : Option.Rel (Rehashed d) (l.find? p) (m.find? p) := by
  induction h with
  | nil => exact .none
  | @cons u v l m huv _ ih =>
      rw [List.find?_cons, List.find?_cons, hp.rehashed huv]
      cases p u with
      | false => exact ih
      | true => exact .some huv

theorem find?_fellow : Fellow (Rehashed d) (orNotFound (l.find? p)) (orNotFound (m.find? p)) := by
  have hrow := find?_rehashed h hp
  generalize l.find? p = o at hrow ⊢
  generalize m.find? p = o' at hrow ⊢
  cases hrow with
  | none => exact .error _
  | some huv => exact .ok huv

theorem find?_map_same {β : Type} {f : SuperAdminUser → β} (hf : Ignores f) :
    (m.find? p).map f = (l.find? p).map f := by
  have hrow := find?_rehashed h hp
  generalize l.find? p = o at hrow ⊢
  generalize m.find? p = o' at hrow ⊢
  cases hrow with
  | none => rfl
  | some huv => exact congrArg some (hf.rehashed huv)

theorem any_same : m.any p = l.any p := by
  induction h with
  | nil => rfl
  | cons huv _ ih => rw [List.any_cons, List.any_cons, hp.rehashed huv, ih]

theorem filter_rehashed : List.Forall₂ (Rehashed d) (l.filter p) (m.filter p) := by
  induction h with
  | nil => exact .nil
  | @cons u v l m huv _ ih =>
      rw [List.filter_cons, List.filter_cons, hp.rehashed huv]
      split
      · exact .cons huv ih
      · exact ih

/-- An update that leaves the hash alone. -/
theorem update_rehashed {f : SuperAdminUser → SuperAdminUser}
    (hf : ∀ u hash, f (withHash hash u) = withHash hash (f u)) (hkeep : ∀ u, (f u).passwordHash = u.passwordHash) :
    List.Forall₂ (Rehashed d) (l.map fun u => if p u then f u else u) (m.map fun u => if p u then f u else u) := by
  induction h with
  | nil => exact .nil
  | @cons u v l m huv _ ih =>
      refine .cons ?_ ih
      show Rehashed d (if p u then f u else u) (if p v then f v else v)
      rw [hp.rehashed huv]
      obtain ⟨hash, rfl, hverify⟩ := huv
      split
      · refine ⟨hash, hf u hash, fun password => ?_⟩
        rw [hkeep]
        exact hverify password
      · exact ⟨hash, rfl, hverify⟩

end lists

theorem users_exec (op : UsersOp) {t u : UserTable d} (h : List.Forall₂ (Rehashed d) t.rows u.rows) :
    usersKin d op (op.exec d t).1 (op.exec d u).1 ∧
      List.Forall₂ (Rehashed d) (op.exec d t).2.rows (op.exec d u).2.rows := by
  cases op with
  | getByID id => exact ⟨find?_fellow h fun _ _ => rfl, h⟩
  | getByEmail email => exact ⟨find?_fellow h fun _ _ => rfl, h⟩
  | list => exact ⟨.ok (sort_rehashed h fun _ _ _ _ => rfl), h⟩
  | registerFailedLogin id lockedUntil =>
      exact ⟨rfl, update_rehashed h (fun _ _ => rfl) (fun _ _ => rfl) fun _ => rfl⟩
  | registerSuccessfulLogin id now =>
      exact ⟨rfl, update_rehashed h (fun _ _ => rfl) (fun _ _ => rfl) fun _ => rfl⟩
  | updateRole id role =>
      simp only [UsersOp.exec]
      split
      · have hrows : List.Forall₂ (Rehashed d) _ _ :=
          update_rehashed h (p := (·.id == id)) (fun _ _ => rfl) (f := fun u => { u with role := role })
            (fun _ _ => rfl) fun _ => rfl
        exact ⟨find?_fellow hrows fun _ _ => rfl, hrows⟩
      · exact ⟨.error _, h⟩
  | updateStatus id status =>
      have hrows : List.Forall₂ (Rehashed d) _ _ :=
        update_rehashed h (p := (·.id == id)) (f := fun u => { u with status := status }) (fun _ _ => rfl)
          (fun _ _ => rfl) fun _ => rfl
      exact ⟨find?_fellow hrows fun _ _ => rfl, hrows⟩

/-- Every call is answered the same but for the hashes. -/
theorem mirrors_exec (r : Draws) : Mirrors (kin d) SameButHashes (exec d r) (exec d r) := by
  rintro op w v ⟨users, rfl, h⟩
  have hhas : ({ w with users := users } : World d).hasUser = w.hasUser :=
    funext fun id => any_same h fun _ _ => rfl
  cases op with
  | users uop =>
      obtain ⟨hanswer, hrows⟩ := users_exec uop h
      exact ⟨hanswer, _, rfl, hrows⟩
  | audit e =>
      show (World.writeAudit w e).1 = (World.writeAudit _ e).1 ∧
        SameButHashes (World.writeAudit w e).2 (World.writeAudit _ e).2
      unfold World.writeAudit
      rw [hhas]
      split
      · exact ⟨rfl, users, rfl, h⟩
      · exact ⟨rfl, users, rfl, h⟩
  | tokens op =>
      simp only [exec, hhas]
      exact ⟨rfl, users, rfl, h⟩
  | invites op =>
      simp only [exec, hhas]
      exact ⟨rfl, users, rfl, h⟩
  | tickets op =>
      simp only [exec, hhas]
      exact ⟨rfl, users, rfl, h⟩
  | templates op =>
      simp only [exec, hhas]
      exact ⟨rfl, users, rfl, h⟩
  | _ => exact ⟨rfl, users, rfl, h⟩

theorem same_ticks {w w' v : World d} (ht : Ticks w w') (h : SameButHashes w v) :
    ∃ v', Ticks v v' ∧ SameButHashes w' v' := by
  obtain ⟨t, hle, rfl⟩ := ht
  obtain ⟨users, rfl, hrows⟩ := h
  exact ⟨_, ⟨t, hle, rfl⟩, users, rfl, hrows⟩

/-! ### Programs -/

/-- The program acts on no hash. -/
abbrev Indifferent (d : Deps) {α : Type} (p : Proc α) : Prop := p.Alike (kin d) Eq p

/-- The program returns a user, and acts on no hash. -/
abbrev Yields (d : Deps) {α : Type} (V : α → α → Prop) (p : Proc (Except Error α)) : Prop :=
  p.Alike (kin d) (Fellow V) p

variable (rc : RequestContext)

theorem indifferent_perform (op : Op) (hop : ∀ r s, kin d op r s → r = s) : Indifferent d (perform op) :=
  .perform hop

theorem indifferent_writeAudit (e : AuditEntry) : Indifferent d (writeAudit e) :=
  .same (fun _ _ h => h) fun _ => .pure rfl

/-! ### Sign-in, renewal and sign-out -/

theorem indifferent_secureToken : Indifferent d generateSecureToken := by
  refine .same (fun _ _ h => h) fun res => ?_
  cases res <;> exact .pure rfl

theorem alike_issuePairWithID {u v : SuperAdminUser} (h : Rehashed d u v) (sessionID : UUID) (now : Time) :
    (Auth.issuePairWithID d u sessionID rc now).Alike (kin d) Eq (Auth.issuePairWithID d v sessionID rc now) := by
  obtain ⟨hash, rfl, -⟩ := h
  refine .same (fun _ _ h => h) fun accessTokenID => .same (fun _ _ h => h) fun res => ?_
  cases res with
  | error e => exact .pure rfl
  | ok access =>
      refine .bind_eq indifferent_secureToken fun res => ?_
      cases res with
      | error e => exact .pure rfl
      | ok rawRefresh =>
          refine .same (fun _ _ h => h) fun id => .same (fun _ _ h => h) fun res => ?_
          cases res <;> exact .pure rfl

theorem alike_issuePair {u v : SuperAdminUser} (h : Rehashed d u v) (sessionID : UUID) (now : Time) :
    (Auth.issuePair d u sessionID rc now).Alike (kin d) Eq (Auth.issuePair d v sessionID rc now) := by
  refine .bind_eq (alike_issuePairWithID rc h sessionID now) fun res => ?_
  cases res <;> exact .pure rfl

/-- What the password provider says, but for the hash. -/
inductive Verdict (d : Deps) : (r s : Except (Option SuperAdminUser × Error) SuperAdminUser) → Prop
  | error {o o' : Option SuperAdminUser} (e : Error) (h : Option.Rel (Rehashed d) o o') :
      Verdict d (.error (o, e)) (.error (o', e))
  | ok {u v : SuperAdminUser} (h : Rehashed d u v) : Verdict d (.ok u) (.ok v)

/-- The provider looks at a hash only to verify the password. -/
theorem alike_authenticate (creds : Credentials) :
    (Password.authenticate d creds).Alike (kin d) (Verdict d) (Password.authenticate d creds) := by
  refine .step fun r s h => ?_
  cases (h : Fellow (Rehashed d) r s) with
  | error e =>
      dsimp only
      split
      · exact .pure (.error _ .none)
      · exact .pure (.error _ .none)
  | @ok u v huv =>
      have hboth := huv
      obtain ⟨hash, rfl, hverify⟩ := huv
      have hsame : d.hasher.verify creds.password (withHash hash u).passwordHash =
          d.hasher.verify creds.password u.passwordHash := hverify creds.password
      dsimp only
      rw [hsame]
      cases d.hasher.verify creds.password u.passwordHash with
      | error e => exact .pure (.error _ .none)
      | ok right =>
          cases right with
          | false => exact .pure (.error _ (.some hboth))
          | true => exact .pure (.ok hboth)

theorem indifferent_registerFailureOf {o o' : Option SuperAdminUser} (h : Option.Rel (Rehashed d) o o') (now : Time) :
    (Auth.registerFailureOf d o now).Alike (kin d) Eq (Auth.registerFailureOf d o' now) := by
  cases h with
  | none => exact .pure rfl
  | some huv =>
      obtain ⟨hash, rfl, -⟩ := huv
      exact indifferent_perform (.users (.registerFailedLogin _ _)) fun _ _ h => h

theorem yields_loginUser {u v : SuperAdminUser} (h : Rehashed d u v) (now : Time) :
    (Auth.loginUser d u rc now).Alike (kin d) (Fellow fun a b => a.1 = b.1 ∧ Rehashed d a.2 b.2)
      (Auth.loginUser d v rc now) := by
  have hboth := h
  obtain ⟨hash, rfl, -⟩ := h
  have hsame : (withHash hash u).ensureCanLogin now = u.ensureCanLogin now := rfl
  unfold Auth.loginUser
  rw [hsame]
  cases u.ensureCanLogin now with
  | some e => exact .bind_eq (indifferent_writeAudit _) fun _ => .pure (.error _)
  | none =>
      refine .same (fun _ _ h => h) fun res => ?_
      cases res with
      | error e => exact .pure (.error _)
      | ok _ =>
          refine .same (fun _ _ h => h) fun sessionID => ?_
          refine .bind_eq (alike_issuePair rc hboth sessionID now) fun res => ?_
          cases res with
          | error e => exact .pure (.error _)
          | ok pair => exact .bind_eq (indifferent_writeAudit _) fun _ => .pure (.ok ⟨rfl, hboth⟩)

theorem yields_login (creds : Credentials) :
    Yields d (fun a b => a.1 = b.1 ∧ Rehashed d a.2 b.2) (Auth.login d creds rc) := by
  refine .same (fun _ _ h => h) fun now => .bind (alike_authenticate creds) fun r s h => ?_
  cases h with
  | ok h => exact yields_loginUser rc h now
  | error e h =>
      dsimp only
      split
      · refine .bind_eq (indifferent_registerFailureOf h now) fun res => ?_
        cases res with
        | error e => exact .pure (.error _)
        | ok _ => exact .bind_eq (indifferent_writeAudit _) fun _ => .pure (.error _)
      · exact .pure (.error _)

theorem indifferent_refreshUsable (stored : RefreshToken) (now : Time) :
    Indifferent d (Auth.refreshUsable d stored rc now) := by
  refine .step fun r s h => ?_
  cases (h : Fellow (Rehashed d) r s) with
  | error e => exact .pure rfl
  | @ok u v huv =>
      have hboth := huv
      obtain ⟨hash, rfl, -⟩ := huv
      have hsame : (withHash hash u).ensureCanLogin now = u.ensureCanLogin now := rfl
      dsimp only
      rw [hsame]
      cases u.ensureCanLogin now with
      | some e =>
          refine .same (fun _ _ h => h) fun res => ?_
          cases res <;> exact .pure rfl
      | none =>
          refine .bind_eq (alike_issuePairWithID rc hboth stored.sessionID now) fun res => ?_
          cases res with
          | error e => exact .pure rfl
          | ok p =>
              refine .same (fun _ _ h => h) fun res => ?_
              cases res with
              | error e => exact .pure rfl
              | ok _ => exact .bind_eq (indifferent_writeAudit _) fun _ => .pure rfl

theorem indifferent_refresh (raw : String) : Indifferent d (Auth.refresh d raw rc) := by
  refine .same (fun _ _ h => h) fun now => .same (fun _ _ h => h) fun res => ?_
  cases res with
  | error e => exact .pure rfl
  | ok stored =>
      dsimp only
      split
      · refine .same (fun _ _ h => h) fun res => ?_
        cases res with
        | error e => exact .pure rfl
        | ok _ => exact .bind_eq (indifferent_writeAudit _) fun _ => .pure rfl
      · split
        · exact .pure rfl
        · exact indifferent_refreshUsable rc stored now

theorem indifferent_logout (raw : String) (claims : Option AccessClaims) :
    Indifferent d (Auth.logout raw claims rc) := by
  have hsession : ∀ now sessionID, Indifferent d (Auth.logoutSession sessionID claims rc now) := by
    intro now sessionID
    have hknown : Indifferent d (Auth.revokeKnown sessionID now) := by
      unfold Auth.revokeKnown
      split
      · exact indifferent_perform (.tokens (.revokeSession _ _ _)) fun _ _ h => h
      · exact .pure rfl
    refine .bind_eq hknown fun res => ?_
    cases res with
    | error e => exact .pure rfl
    | ok _ =>
        cases claims with
        | none => exact .pure rfl
        | some claims =>
            have halive : Indifferent d (Auth.listAlive claims now) := by
              unfold Auth.listAlive
              split
              · exact indifferent_perform (.revoker (.revoke _ _)) fun _ _ h => h
              · exact .pure rfl
            refine .bind_eq halive fun res => ?_
            cases res with
            | error e => exact .pure rfl
            | ok _ => exact .bind_eq (indifferent_writeAudit _) fun _ => .pure rfl
  refine .same (fun _ _ h => h) fun now => ?_
  dsimp only
  split
  · exact hsession now _
  · refine .same (fun _ _ h => h) fun res => ?_
    cases res with
    | ok stored => exact hsession now _
    | error e =>
        dsimp only
        split
        · exact hsession now _
        · exact .pure rfl

/-! ### The team and the template -/

variable (actor : AccessClaims)

theorem yields_teamList : Yields d (List.Forall₂ (Rehashed d)) Team.list := by
  refine .step fun r s h => ?_
  cases (h : Fellow (List.Forall₂ (Rehashed d)) r s) with
  | error e => exact .pure (.error e)
  | ok h => exact .pure (.ok (filter_rehashed h fun _ _ => rfl))

theorem indifferent_inviteFree (email : String) (role : Role) :
    Indifferent d (Team.inviteFree actor email role rc) := by
  refine .bind_eq indifferent_secureToken fun res => ?_
  cases res with
  | error e => exact .pure rfl
  | ok rawToken =>
      refine .same (fun _ _ h => h) fun now => .same (fun _ _ h => h) fun res => ?_
      cases res with
      | error e => exact .pure rfl
      | ok inv => exact .bind_eq (indifferent_writeAudit _) fun _ => .pure rfl

theorem indifferent_invite (email : String) (role : Role) : Indifferent d (Team.invite actor email role rc) := by
  unfold Team.invite
  split
  · exact .pure rfl
  · refine .step fun r s h => ?_
    cases (h : Fellow (Rehashed d) r s) with
    | ok h => exact .pure rfl
    | error e =>
        dsimp only
        split
        · exact .pure rfl
        · refine .same (fun _ _ h => h) fun res => ?_
          cases res with
          | error e => exact .pure rfl
          | ok pending =>
              dsimp only
              split
              · exact .pure rfl
              · exact indifferent_inviteFree rc actor email role

theorem yields_updateRole (memberID : UUID) (role : Role) :
    Yields d (Rehashed d) (Team.updateRole actor memberID role rc) := by
  unfold Team.updateRole
  split
  · exact .pure (.error _)
  · refine .step fun r s h => ?_
    cases (h : Fellow (Rehashed d) r s) with
    | error e => exact .pure (.error e)
    | @ok member v h =>
        obtain ⟨hash, rfl, -⟩ := h
        dsimp only [withHash]
        split
        · exact .pure (.error _)
        · refine .step fun r s h => ?_
          cases (h : Fellow (Rehashed d) r s) with
          | error e => exact .pure (.error e)
          | ok h =>
              have hboth := h
              obtain ⟨hash, rfl, -⟩ := h
              exact .same (fun _ _ h => h) fun now => .bind_eq (indifferent_writeAudit _) fun _ => .pure (.ok hboth)

theorem indifferent_revoke (memberID : UUID) : Indifferent d (Team.revoke actor memberID rc) := by
  refine .step fun r s h => ?_
  cases (h : Fellow (Rehashed d) r s) with
  | error e => exact .pure rfl
  | @ok member v h =>
      obtain ⟨hash, rfl, -⟩ := h
      dsimp only [withHash]
      split
      · exact .pure rfl
      · refine .same (fun _ _ h => h) fun now => .step fun r s h => ?_
        cases (h : Fellow (Rehashed d) r s) with
        | error e => exact .pure rfl
        | ok h =>
            refine .same (fun _ _ h => h) fun res => ?_
            cases res with
            | error e => exact .pure rfl
            | ok _ => exact .bind_eq (indifferent_writeAudit _) fun _ => .pure rfl

theorem indifferent_saveTemplate (body : String) : Indifferent d (Settings.saveTemplate actor body rc) := by
  refine .same (fun _ _ h => h) fun now => .same (fun _ _ h => h) fun res => ?_
  cases res with
  | error e => exact .pure rfl
  | ok tpl => exact .bind_eq (indifferent_writeAudit _) fun _ => .pure rfl

/-! ### Clients -/

theorem indifferent_tenantAudit (action : AuditAction) (tenant : SuperAdmin.Tenant) (extra : List (String × String)) :
    Indifferent d (Tenant.writeAudit actor action tenant rc extra) :=
  .same (fun _ _ h => h) fun _ => indifferent_writeAudit _

theorem indifferent_generateActivationCode : Indifferent d Tenant.generateActivationCode := by
  have hgroup : ∀ site, Indifferent d (Tenant.randomAlphabetString site) := by
    intro site
    refine .same (fun _ _ h => h) fun res => ?_
    cases res <;> exact .pure rfl
  refine .bind_eq (hgroup .codeGroup) fun res => ?_
  cases res with
  | error e => exact .pure rfl
  | ok group =>
      refine .bind_eq (hgroup .codeGroup2) fun res => ?_
      cases res <;> exact .pure rfl

theorem indifferent_create (input : NewTenant) : Indifferent d (Tenant.create actor input rc) := by
  unfold Tenant.create
  split
  · exact .pure rfl
  · refine .same (fun _ _ h => h) fun now => .bind_eq indifferent_generateActivationCode fun res => ?_
    cases res with
    | error e => exact .pure rfl
    | ok code =>
        refine .same (fun _ _ h => h) fun res => ?_
        cases res with
        | error e => exact .pure rfl
        | ok tenant => exact .bind_eq (indifferent_tenantAudit rc actor _ _ _) fun _ => .pure rfl

theorem indifferent_suspend (id : UUID) (reason : String) : Indifferent d (Tenant.suspend actor id reason rc) := by
  unfold Tenant.suspend
  split
  · exact .pure rfl
  · refine .same (fun _ _ h => h) fun res => ?_
    cases res with
    | error e => exact .pure rfl
    | ok tenant => exact .bind_eq (indifferent_tenantAudit rc actor _ _ _) fun _ => .pure rfl

theorem indifferent_resume (id : UUID) : Indifferent d (Tenant.resume actor id rc) := by
  refine .same (fun _ _ h => h) fun res => ?_
  cases res with
  | error e => exact .pure rfl
  | ok tenant => exact .bind_eq (indifferent_tenantAudit rc actor _ _ _) fun _ => .pure rfl

theorem indifferent_issueActivationCode (id : UUID) : Indifferent d (Tenant.issueActivationCode actor id rc) := by
  refine .bind_eq indifferent_generateActivationCode fun res => ?_
  cases res with
  | error e => exact .pure rfl
  | ok code =>
      refine .same (fun _ _ h => h) fun now => .same (fun _ _ h => h) fun res => ?_
      cases res with
      | error e => exact .pure rfl
      | ok tenant => exact .bind_eq (indifferent_tenantAudit rc actor _ _ _) fun _ => .pure rfl

theorem indifferent_delete (id : UUID) : Indifferent d (Tenant.delete actor id rc) := by
  refine .same (fun _ _ h => h) fun res => ?_
  cases res with
  | error e => exact .pure rfl
  | ok tenant =>
      refine .same (fun _ _ h => h) fun res => ?_
      cases res with
      | error e => exact .pure rfl
      | ok _ => exact .bind_eq (indifferent_tenantAudit rc actor _ _ _) fun _ => .pure rfl

/-! ### Tickets -/

theorem indifferent_ticketAudit (action : AuditAction) (ticket : SuperAdmin.Ticket) (extra : List (String × String)) :
    Indifferent d (Ticket.writeAudit actor action ticket rc extra) :=
  .same (fun _ _ h => h) fun _ => .same (fun _ _ h => h) fun _ => indifferent_writeAudit _

theorem indifferent_reply (id : UUID) (body : String) : Indifferent d (Ticket.reply actor id body rc) := by
  unfold Ticket.reply
  split
  · exact .pure rfl
  · refine .same (fun _ _ h => h) fun res => ?_
    cases res with
    | error e => exact .pure rfl
    | ok found =>
        refine .step fun r s h => ?_
        -- the reply carries the name of its author, whatever the hash
        cases (h : Fellow (Rehashed d) r s)
        case' ok h => obtain ⟨hash, rfl, -⟩ := h
        all_goals
          refine .same (fun _ _ h => h) fun res => ?_
          cases res with
          | error e => exact .pure rfl
          | ok message => exact .bind_eq (indifferent_ticketAudit rc actor _ _ _) fun _ => .pure rfl

theorem indifferent_assignToSelf (id : UUID) : Indifferent d (Ticket.assignToSelf actor id rc) := by
  refine .same (fun _ _ h => h) fun res => ?_
  cases res with
  | error e => exact .pure rfl
  | ok ticket => exact .bind_eq (indifferent_ticketAudit rc actor _ _ _) fun _ => .pure rfl

theorem indifferent_updateStatus (id : UUID) (status : TicketStatus) :
    Indifferent d (Ticket.updateStatus actor id status rc) := by
  unfold Ticket.updateStatus
  split
  · exact .pure rfl
  · refine .same (fun _ _ h => h) fun res => ?_
    cases res with
    | error e => exact .pure rfl
    | ok ticket => exact .bind_eq (indifferent_ticketAudit rc actor _ _ _) fun _ => .pure rfl

theorem indifferent_updatePriority (id : UUID) (priority : TicketPriority) :
    Indifferent d (Ticket.updatePriority actor id priority rc) := by
  unfold Ticket.updatePriority
  split
  · exact .pure rfl
  · refine .same (fun _ _ h => h) fun res => ?_
    cases res with
    | error e => exact .pure rfl
    | ok ticket => exact .bind_eq (indifferent_ticketAudit rc actor _ _ _) fun _ => .pure rfl

/-! ### Handlers -/

section handlers

variable {web : Web} {req : Request} {ctx : Context}

theorem indifferent_withInput {α : Type} {input : Except Response α} {k : α → Proc Response}
    (hk : ∀ a, Indifferent d (k a)) : Indifferent d (withInput input k) := by
  cases input with
  | error resp => exact .pure rfl
  | ok a => exact hk a

theorem indifferent_respond {α : Type} {res : Except Error α} {k : α → Proc Response}
    (hk : ∀ a, Indifferent d (k a)) : Indifferent d (respond res k) := by
  cases res with
  | error err => exact .pure rfl
  | ok a => exact hk a

theorem alike_respond {α : Type} {V : α → α → Prop} {r s : Except Error α} {k l : α → Proc Response}
    (h : Fellow V r s) (hk : ∀ a b, V a b → (k a).Alike (kin d) Eq (l b)) :
    (respond r k).Alike (kin d) Eq (respond s l) := by
  cases h with
  | error err => exact .pure rfl
  | ok h => exact hk _ _ h

/-- A usecase that acts on no hash, and the answer from its result. -/
theorem indifferent_answer {α : Type} {p : Proc (Except Error α)} {k : α → Proc Response} (hp : Indifferent d p)
    (hk : ∀ a, Indifferent d (k a)) : Indifferent d (p >>= fun res => respond res k) :=
  .bind_eq hp fun _ => indifferent_respond hk

/-- The names of the team, whatever their hashes. -/
theorem alike_buildLookups {k : Handler.Ticket.Lookups → Proc Response}
    (hk : ∀ users users' tenants, List.Forall₂ (Rehashed d) users users' →
      (k ⟨users, tenants⟩).Alike (kin d) Eq (k ⟨users', tenants⟩)) :
    Indifferent d (Handler.Ticket.buildLookups >>= fun lookups => respond lookups k) := by
  refine .step fun r s h => ?_
  cases (h : Fellow (List.Forall₂ (Rehashed d)) r s) with
  | error e => exact .pure rfl
  | ok h =>
      refine .same (fun _ _ h => h) fun res => ?_
      cases res with
      | error e => exact .pure rfl
      | ok tenants => exact hk _ _ tenants h

theorem assigneeName_same {users users' : List SuperAdminUser} (h : List.Forall₂ (Rehashed d) users users')
    (tenants : List SuperAdmin.Tenant) (id : Option UUID) :
    (⟨users', tenants⟩ : Handler.Ticket.Lookups).assigneeName id =
      (⟨users, tenants⟩ : Handler.Ticket.Lookups).assigneeName id := by
  cases id with
  | none => rfl
  | some id => exact find?_map_same h (fun _ _ => rfl) fun _ _ => rfl

theorem globalTicket_same {users users' : List SuperAdminUser} (h : List.Forall₂ (Rehashed d) users users')
    (tenants : List SuperAdmin.Tenant) (t : SuperAdmin.Ticket) :
    Handler.Ticket.toGlobalTicketResponse ⟨users', tenants⟩ t =
      Handler.Ticket.toGlobalTicketResponse ⟨users, tenants⟩ t := by
  unfold Handler.Ticket.toGlobalTicketResponse
  rw [assigneeName_same h tenants]
  rfl

theorem clientTicket_same {users users' : List SuperAdminUser} (h : List.Forall₂ (Rehashed d) users users')
    (tenants : List SuperAdmin.Tenant) (t : SuperAdmin.Ticket) (messages : List TicketMessage) :
    Handler.Ticket.toClientTicketResponse ⟨users', tenants⟩ t messages =
      Handler.Ticket.toClientTicketResponse ⟨users, tenants⟩ t messages := by
  unfold Handler.Ticket.toClientTicketResponse
  rw [assigneeName_same h tenants]

theorem alike_threads {users users' : List SuperAdminUser} (h : List.Forall₂ (Rehashed d) users users')
    (tenants : List SuperAdmin.Tenant) (tickets : List SuperAdmin.Ticket) :
    (Handler.Ticket.threads ⟨users, tenants⟩ tickets).Alike (kin d) Eq
      (Handler.Ticket.threads ⟨users', tenants⟩ tickets) := by
  induction tickets with
  | nil => exact .pure rfl
  | cons summary rest ih =>
      refine .same (fun _ _ h => h) fun res => ?_
      cases res with
      | error e => exact .pure rfl
      | ok found =>
          refine .bind_eq ih fun res => ?_
          cases res with
          | error e => exact .pure rfl
          | ok out => exact .pure (by rw [clientTicket_same h])

theorem indifferent_changed (res : Except Error SuperAdmin.Ticket) : Indifferent d (Handler.Ticket.changed res) :=
  indifferent_respond fun ticket => alike_buildLookups fun users users' tenants h =>
    .pure (by rw [globalTicket_same h])

theorem indifferent_detail (t : SuperAdmin.Tenant) : Indifferent d (Handler.Tenant.toTenantDetailResponse t) :=
  .same (fun _ _ h => h) fun _ => .pure rfl

theorem indifferent_tenantAnswer {p : Proc (Except Error SuperAdmin.Tenant)} (hp : Indifferent d p)
    (respondWith : Json → Response) : Indifferent d (p >>= fun res =>
      respond res fun tenant => respondWith <$> Handler.Tenant.toTenantDetailResponse tenant) :=
  indifferent_answer hp fun tenant => .bind_eq (indifferent_detail tenant) fun _ => .pure rfl

theorem actorName_same {users users' : List SuperAdminUser} (h : List.Forall₂ (Rehashed d) users users')
    (e : AuditEntry) : Handler.Journal.actorName users' e = Handler.Journal.actorName users e := by
  have hactor : Option.Rel (Rehashed d) (e.actorID.bind fun id => users.find? (·.id == id))
      (e.actorID.bind fun id => users'.find? (·.id == id)) := by
    cases e.actorID with
    | none => exact .none
    | some id => exact find?_rehashed h fun _ _ => rfl
  unfold Handler.Journal.actorName
  generalize (e.actorID.bind fun id => users.find? (·.id == id)) = o at hactor ⊢
  generalize (e.actorID.bind fun id => users'.find? (·.id == id)) = o' at hactor ⊢
  cases hactor with
  | none => rfl
  | some huv =>
      obtain ⟨hash, rfl, -⟩ := huv
      rfl

theorem journalEntries_same {users users' : List SuperAdminUser} (h : List.Forall₂ (Rehashed d) users users')
    (entries : List AuditEntry) : entries.map (Handler.Journal.toJournalEntryResponse users') =
      entries.map (Handler.Journal.toJournalEntryResponse users) := by
  refine List.map_congr_left fun e _ => ?_
  unfold Handler.Journal.toJournalEntryResponse
  rw [actorName_same h]

/-- Whatever the route, the handler acts on no hash. -/
theorem indifferent_handle : Indifferent d (handle d web req ctx) := by
  unfold Http.handle
  cases h : req.route with
  | login =>
      refine indifferent_withInput fun input => .bind (yields_login req.context _) fun r s h => ?_
      refine alike_respond h fun a b hab => ?_
      obtain ⟨pair, u⟩ := a
      obtain ⟨pair', v⟩ := b
      obtain ⟨rfl, hash, rfl, -⟩ := hab
      exact .pure rfl
  | refresh =>
      dsimp only [Handler.Auth.refresh]
      cases req.cookie with
      | none => exact .pure rfl
      | some raw =>
          dsimp only
          split
          · exact .pure rfl
          · refine .bind_eq (indifferent_refresh req.context raw) fun res => ?_
            cases res with
            | error err =>
                dsimp only
                split <;> exact .pure rfl
            | ok pair => exact .pure rfl
  | logout => exact indifferent_answer (indifferent_logout req.context _ _) fun _ => .pure rfl
  | me =>
      refine indifferent_withInput fun claims => .step fun r s h => ?_
      refine alike_respond (h : Fellow (Rehashed d) r s) fun u v huv => ?_
      obtain ⟨hash, rfl, -⟩ := huv
      exact .pure rfl
  | teamList =>
      refine indifferent_withInput fun claims => .bind yields_teamList fun r s h => ?_
      refine alike_respond h fun l m hlm => .pure ?_
      rw [map_same hlm fun _ _ => rfl]
  | teamInvite =>
      exact indifferent_withInput fun input => indifferent_withInput fun claims =>
        indifferent_answer (indifferent_invite req.context claims _ _) fun _ => .pure rfl
  | teamUpdateRole =>
      refine indifferent_withInput fun id => indifferent_withInput fun role => indifferent_withInput fun claims =>
        .bind (yields_updateRole req.context claims id _) fun r s h => ?_
      refine alike_respond h fun u v huv => ?_
      obtain ⟨hash, rfl, -⟩ := huv
      exact .pure rfl
  | teamRevoke =>
      exact indifferent_withInput fun id => indifferent_withInput fun claims =>
        indifferent_answer (indifferent_revoke req.context claims id) fun _ => .pure rfl
  | journalList =>
      refine indifferent_respond fun filter => .same (fun _ _ h => h) fun res => ?_
      refine indifferent_respond fun found => .step fun r s h => ?_
      refine alike_respond (h : Fellow (List.Forall₂ (Rehashed d)) r s) fun l m hlm => .pure ?_
      rw [journalEntries_same hlm]
  | settingsGet => exact .same (fun _ _ h => h) fun res => indifferent_respond fun _ => .pure rfl
  | settingsSaveTemplate =>
      exact indifferent_withInput fun text => indifferent_withInput fun claims =>
        indifferent_answer (indifferent_saveTemplate req.context claims text) fun _ => .pure rfl
  | overview =>
      refine indifferent_answer ?_ fun _ => .pure rfl
      refine .same (fun _ _ h => h) fun res => ?_
      cases res with
      | error e => exact .pure rfl
      | ok tenants =>
          refine .same (fun _ _ h => h) fun res => ?_
          cases res with
          | error e => exact .pure rfl
          | ok tickets =>
              refine .same (fun _ _ h => h) fun now => .same (fun _ _ h => h) fun res => ?_
              cases res <;> exact .pure rfl
  | tenantList => exact .same (fun _ _ h => h) fun res => indifferent_respond fun _ => .pure rfl
  | tenantCreate =>
      exact indifferent_withInput fun input => indifferent_withInput fun claims =>
        indifferent_tenantAnswer (indifferent_create req.context claims _) _
  | tenantEmailTaken =>
      dsimp only [Handler.Tenant.emailTaken]
      split
      · exact .pure rfl
      · exact .same (fun _ _ h => h) fun res => indifferent_respond fun _ => .pure rfl
  | tenantGet =>
      exact indifferent_withInput fun id => indifferent_tenantAnswer
        (indifferent_perform (.tenants (.getByID id)) fun _ _ h => h) _
  | tenantTickets =>
      refine indifferent_withInput fun id => .same (fun _ _ h => h) fun res => indifferent_respond fun summaries => ?_
      refine alike_buildLookups fun users users' tenants h => ?_
      exact .bind_eq (alike_threads h tenants summaries) fun _ => indifferent_respond fun _ => .pure rfl
  | tenantJournal =>
      exact indifferent_withInput fun id => .same (fun _ _ h => h) fun res => indifferent_respond fun _ => .pure rfl
  | tenantSuspend =>
      exact indifferent_withInput fun id => indifferent_withInput fun reason => indifferent_withInput fun claims =>
        indifferent_tenantAnswer (indifferent_suspend req.context claims id reason) _
  | tenantResume =>
      exact indifferent_withInput fun id => indifferent_withInput fun claims =>
        indifferent_tenantAnswer (indifferent_resume req.context claims id) _
  | tenantIssueCode =>
      exact indifferent_withInput fun id => indifferent_withInput fun claims =>
        indifferent_tenantAnswer (indifferent_issueActivationCode req.context claims id) _
  | tenantDelete =>
      exact indifferent_withInput fun id => indifferent_withInput fun claims =>
        indifferent_answer (indifferent_delete req.context claims id) fun _ => .pure rfl
  | ticketList =>
      refine indifferent_respond fun filter => .same (fun _ _ h => h) fun res => indifferent_respond fun tickets => ?_
      refine alike_buildLookups fun users users' tenants h => .pure ?_
      simp only [globalTicket_same h]
  | ticketGet =>
      refine indifferent_withInput fun id => .same (fun _ _ h => h) fun res => indifferent_respond fun found => ?_
      refine alike_buildLookups fun users users' tenants h => .pure ?_
      simp only [globalTicket_same h]
  | ticketReply =>
      exact indifferent_withInput fun id => indifferent_withInput fun text => indifferent_withInput fun claims =>
        indifferent_answer (indifferent_reply req.context claims id text) fun _ => .pure rfl
  | ticketAssign =>
      exact indifferent_withInput fun id => indifferent_withInput fun claims =>
        .bind_eq (indifferent_assignToSelf req.context claims id) indifferent_changed
  | ticketUpdateStatus =>
      exact indifferent_withInput fun id => indifferent_withInput fun status => indifferent_withInput fun claims =>
        .bind_eq (indifferent_updateStatus req.context claims id _) indifferent_changed
  | ticketUpdatePriority =>
      exact indifferent_withInput fun id => indifferent_withInput fun priority => indifferent_withInput fun claims =>
        .bind_eq (indifferent_updatePriority req.context claims id _) indifferent_changed

/-- The middleware parses a token and asks for its revocation. -/
theorem indifferent_middleware (access : Access) : Indifferent d (middleware req access) := by
  have hauth : Indifferent d (Middleware.auth req) := by
    unfold Middleware.auth
    cases Middleware.bearerToken req.authorization with
    | none => exact .pure rfl
    | some raw =>
        refine .same (fun _ _ h => h) fun res => ?_
        cases res with
        | error e => exact .pure rfl
        | ok claims =>
            refine .same (fun _ _ h => h) fun res => ?_
            cases res with
            | error e => exact .pure rfl
            | ok revoked =>
                dsimp only
                split <;> exact .pure rfl
  cases access with
  | anyone => exact .pure rfl
  | authenticated => exact hauth
  | requires res act =>
      refine .bind_eq hauth fun res' => ?_
      cases res' with
      | error resp => exact .pure rfl
      | ok ctx =>
          dsimp only
          split <;> exact .pure rfl

theorem indifferent_serve : Indifferent d (serve d web req) := by
  refine .bind_eq (indifferent_middleware _) fun res => ?_
  cases res with
  | error resp => exact .pure rfl
  | ok ctx => exact indifferent_handle

end handlers

/-! ### Runs -/

/-- **Hashes are not observable.** Take two states of the server that differ in the hashes of the users only,
where `Verify` answers the same for the hashes of a user.  Whatever requests are served and however they
interleave: to every run from the one state there is a run from the other with the same calls in the same
order, with the same requests answered and with the same answers, which ends in states that differ again in
the hashes only. -/
theorem hashes_unobservable {ι : Type} [DecidableEq ι] {draws : ι → Draws} {web : Web} {requests : ι → Request}
    {w v : World d} {P : Pool Eff (Recorded Eff (World d) ι) ι Response} (hsame : SameButHashes w v)
    (hr : Pool.Run (record fun i => exec d (draws i)) (recordEnv Ticks) (fun _ _ _ => True)
      (Mediation.serverPool d web requests w) P) :
    ∃ Q, Pool.Run (record fun i => exec d (draws i)) (recordEnv Ticks) (fun _ _ _ => True)
        (Mediation.serverPool d web requests v) Q ∧
      callsOf P.state.trace = callsOf Q.state.trace ∧
      (∀ i resp, P.thread i = .pure resp ↔ Q.thread i = .pure resp) ∧
      SameButHashes P.state.now Q.state.now := by
  have hstart : (Mediation.serverPool d web requests w).Mirrored (kin d) SameButHashes
      (Mediation.serverPool d web requests v) := ⟨hsame, rfl, fun _ => indifferent_serve⟩
  obtain ⟨Q, hrun, hmirrored⟩ := Pool.Run.mirrored (fun i => mirrors_exec (draws i))
    (fun _ _ _ ht h => same_ticks ht h) hr hstart
  exact ⟨Q, hrun, hmirrored.calls, fun i resp => (hmirrored.threads i).pure_iff resp, hmirrored.state⟩

/-! ### A login under two salts -/

/-- The desk with a hasher whose encoded hash is a salt of two characters and the password. -/
def salted : Deps :=
  { Mediation.desk with hasher := ⟨fun plain encodedHash => .ok (encodedHash.toList.drop 2 == plain.toList)⟩ }

theorem desk_unclashed : [Sample.owner, Sample.support].Pairwise fun a b =>
    ¬ EitherEq (a.id, salted.citextLower a.email) (b.id, salted.citextLower b.email) := by decide

/-- The users, with the hashes of their password under a salt. -/
def saltedUsers (salt : String) : UserTable salted where
  rows := [Sample.owner, Sample.support].map (withHash (salt ++ "correct horse"))
  unclashed := List.pairwise_map.mpr desk_unclashed

def saltedWorld (salt : String) : World salted where
  clock := Sample.start
  redis := ⟨true, []⟩
  users := saltedUsers salt
  tokens := Table.empty
  invitations := Table.empty
  clients := ⟨Table.empty, Table.empty, Table.empty⟩
  templates := Table.empty
  audit := []

theorem sameButHashes_salted {salt salt' : String} (h : salt.length = 2) (h' : salt'.length = 2) :
    SameButHashes (saltedWorld salt) (saltedWorld salt') := by
  have hverify : ∀ {salt : String}, salt.length = 2 → ∀ password,
      salted.hasher.verify password (salt ++ "correct horse") = .ok ("correct horse".toList == password.toList) := by
    intro salt h password
    show Except.ok ((salt ++ "correct horse").toList.drop 2 == password.toList) = _
    rw [String.toList_append, List.drop_append_of_le_length (by rw [String.length_toList, h]),
      List.drop_eq_nil_of_le (by rw [String.length_toList, h]), List.nil_append]
  refine ⟨saltedUsers salt', rfl, ?_⟩
  show List.Forall₂ (Rehashed salted) (List.map _ _) (List.map _ _)
  rw [List.forall₂_map_left_iff, List.forall₂_map_right_iff, List.forall₂_same]
  intro u _
  exact ⟨salt' ++ "correct horse", rfl, fun password => (hverify h' password).trans (hverify h password).symm⟩

/-- The login of the owner, let act so many times. -/
def loginCalls (salt : String) (n : ℕ) : Pool Eff (Recorded Eff (World salted) (Fin 1)) (Fin 1) Response :=
  (Mediation.serverPool salted ⟨fun _ => true⟩ (fun _ : Fin 1 => Mediation.loginRequest) (saltedWorld salt)).play
    (record fun _ => exec salted (Sample.draws 0)) (List.replicate n 0)

/-- The right password is answered the same under both. -/
theorem hashes_unobservable_login : ∃ Q : Pool Eff (Recorded Eff (World salted) (Fin 1)) (Fin 1) Response,
    Pool.Run (record fun _ => exec salted (Sample.draws 0)) (recordEnv Ticks) (fun _ _ _ => True)
      (Mediation.serverPool salted ⟨fun _ => true⟩ (fun _ : Fin 1 => Mediation.loginRequest) (saltedWorld "bb")) Q ∧
    ∃ resp, resp.status = 200 ∧ (loginCalls "aa" 12).thread 0 = .pure resp ∧ Q.thread 0 = .pure resp := by
  have hstatus : ((loginCalls "aa" 12).thread 0).result?.map (·.status) = some 200 := by decide
  obtain ⟨resp, hresult, hok⟩ := Option.map_eq_some_iff.mp hstatus
  have hthread := Prog.result?_eq_some.mp hresult
  have hsalts : SameButHashes (saltedWorld "aa") (saltedWorld "bb") := sameButHashes_salted rfl rfl
  have hlogin : Pool.Run (record fun _ => exec salted (Sample.draws 0)) (recordEnv Ticks) (fun _ _ _ => True) _
    (loginCalls "aa" 12) := Pool.play_run _ _
  obtain ⟨Q, hrun, -, hsame, -⟩ := hashes_unobservable hsalts hlogin
  exact ⟨Q, hrun, resp, hok, hthread, (hsame 0 resp).mp hthread⟩

end SuperAdmin.Hashes
