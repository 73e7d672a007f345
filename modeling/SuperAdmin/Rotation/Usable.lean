import SuperAdmin.Endings
import SuperAdmin.Users

/-! # Tokens that can be exchanged

A call of `Refresh` with a usable token exchanges it for another one that is usable, or it fails and
changes nothing.  The alarm is raised only for a token that was used or revoked, and for one that was
exchanged it is raised the next time. -/

namespace SuperAdmin.Rotation

open Effects Usecase

variable {d : Deps} {w w' : World d} {hash : Bytes}

/-- A row that is neither used nor revoked, and whose user may log in. -/
structure Good (w : World d) (t : RefreshToken) : Prop where
  unused : t.isUsed = false
  unrevoked : t.isRevoked = false
  user : ∀ user ∈ w.users.rows, user.id = t.userID → user.ensureCanLogin w.clock = none

/-- Nothing but its expiry stands in the way of the token with a hash; it need not be stored. -/
def Usable (w : World d) (hash : Bytes) : Prop := ∀ t ∈ w.tokens.rows, t.tokenHash = hash → Good w t

namespace Usable

theorem of_eq (htokens : w'.tokens = w.tokens) (husers : w'.users = w.users) (hclock : w'.clock = w.clock)
    (h : Usable w hash) : Usable w' hash := by
  intro t ht hhash
  rw [htokens] at ht
  have hgood := h t ht hhash
  refine ⟨hgood.unused, hgood.unrevoked, ?_⟩
  rw [husers, hclock]
  exact hgood.user

theorem audited (e : AuditEntry) (h : Usable w hash) : Usable (w.audited e) hash :=
  h.of_eq (w.writeAudit_tokens e) (w.writeAudit_users e) (w.writeAudit_clock e)

/-- A mark on one token leaves the others usable. -/
theorem markUsed (r : Draws) {stored : RefreshToken} {replacedBy : UUID} {now : Time}
    (hstored : stored ∈ w.tokens.rows) (hne : hash ≠ stored.tokenHash) (h : Usable w hash) :
    Usable (w.after r (.tokens (.markUsed stored.id replacedBy now))) hash := by
  intro u hu hhash
  have hrow : u ∈ w.tokens.rows := by
    have hu : u ∈ (TokensOp.exec w.hasUser w.clock (.markUsed stored.id replacedBy now) w.tokens).2.rows := hu
    rcases TokensOp.exec_markUsed w.hasUser w.clock (T := w.tokens) stored.id replacedBy now with
      he | ⟨_, _, he⟩
    · rw [he] at hu
      obtain ⟨t, ht, rfl⟩ := (Table.mem_update fun _ => by rfl).mp hu
      by_cases hp : (t.id == stored.id && !t.isUsed) = true
      · -- the marked row is the one of the other hash
        rw [if_pos hp] at hhash
        rw [Bool.and_eq_true] at hp
        have heq : t = stored := TokenTable.eq_of_id ht hstored (eq_of_beq hp.1)
        exact absurd (heq ▸ hhash.symm) hne
      · rwa [if_neg hp]
    · rwa [he] at hu
  have hgood := h u hrow hhash
  exact ⟨hgood.unused, hgood.unrevoked, hgood.user⟩

end Usable

/-! ### A new pair -/

section issued

variable {r : Draws} {user : SuperAdminUser} {sessionID : UUID} {rc : RequestContext} {now : Time}
  {p : Auth.IssuedPair}

/-- The token of a new pair has a hash of its own. -/
theorem issued_rows_kept (h : Auth.IssueEnd r w user sessionID rc now (.ok p, w')) {t : RefreshToken}
    (ht : t ∈ w.tokens.rows) :
    t ∈ w'.tokens.rows ∧ hashToken p.pair.refreshToken ≠ t.tokenHash := by
  cases h with
  | issued access raw T hissue hraw hinsert huser =>
      obtain ⟨hrows, hfree⟩ := Table.insert?_eq_some hinsert
      refine ⟨?_, fun hhash => hfree t ht (.inr hhash.symm)⟩
      rw [hrows]
      exact List.mem_append_left _ ht

/-- A new pair takes nothing from the usable tokens. -/
theorem usable_issued (h : Auth.IssueEnd r w user sessionID rc now (.ok p, w'))
    (hlogin : ∀ u ∈ w.users.rows, u.id = user.id → u.ensureCanLogin w.clock = none)
    (hash : Bytes) (hhash : hash = hashToken p.pair.refreshToken ∨ Usable w hash) : Usable w' hash := by
  cases h with
  | issued access raw T hissue hraw hinsert huser =>
      obtain ⟨hrows, hfree⟩ := Table.insert?_eq_some hinsert
      intro t ht hthash
      rw [hrows, List.mem_append, List.mem_singleton] at ht
      rcases ht with ht | rfl
      · rcases hhash with rfl | hhash
        · exact absurd (.inr hthash) (hfree t ht)
        · have hgood := hhash t ht hthash
          exact ⟨hgood.unused, hgood.unrevoked, hgood.user⟩
      · exact ⟨rfl, rfl, hlogin⟩

end issued

/-! ### Refresh -/

/-- How a refresh with a usable token ends. -/
inductive Refreshed (w : World d) (raw : String) : Except Error TokenPair × World d → Prop
  | failed (e : Error) (he : e ≠ .sentinel .sessionRevoked) : Refreshed w raw (.error e, w)
  | exchanged (pair : TokenPair) (w' : World d)
      (hkept : ∀ hash, hash = hashToken pair.refreshToken ∨ hash ≠ hashToken raw ∧ Usable w hash →
        Usable w' hash) : Refreshed w raw (.ok pair, w')

variable {raw : String}

theorem refresh_usable (r : Draws) (rc : RequestContext) (h : Usable w (hashToken raw)) :
    Refreshed w raw ((Auth.refresh d raw rc).run (exec d r) w) := by
  have hunauthenticated : Refreshed w raw (.error (.sentinel .unauthenticated), w) :=
    .failed _ (fun he => by cases he)
  rw [Auth.refresh_run]
  cases hfind : w.tokenByHash (hashToken raw) with
  | none => exact hunauthenticated
  | some stored =>
      obtain ⟨hstored, hhash⟩ := World.tokenByHash_some hfind
      have hgood := h stored hstored hhash
      dsimp only
      rw [hgood.unused, hgood.unrevoked, Bool.or_false, if_neg Bool.false_ne_true]
      split
      · exact hunauthenticated
      · cases huser : w.userByID stored.userID with
        | none => exact hunauthenticated
        | some user =>
            obtain ⟨hrow, hid⟩ := World.userByID_some huser
            have hlogin := hgood.user user hrow hid
            dsimp only
            rw [hlogin]
            have hend := Auth.refreshRotate_run r w stored user rc
            generalize (Auth.refreshRotate d stored user rc w.clock).run (exec d r) w = res at hend
            cases hend with
            | failed text operands => exact .failed _ (fun he => by cases he)
            | rotated p w₁ entry hissue hactor =>
                obtain ⟨hstored₁, hnew⟩ := issued_rows_kept hissue hstored
                have husers : ∀ u ∈ w.users.rows, u.id = user.id → u.ensureCanLogin w.clock = none :=
                  fun u hu huid => hgood.user u hu (huid.trans hid)
                refine .exchanged p.pair _ fun hash hcases => ?_
                have hne : hash ≠ stored.tokenHash := by
                  rcases hcases with rfl | ⟨hne, -⟩
                  · exact hnew
                  · rwa [hhash]
                have hissued : Usable w₁ hash :=
                  usable_issued hissue husers hash (hcases.imp_right And.right)
                exact (hissued.markUsed r hstored₁ hne).audited entry

/-- The next refresh with a token that was exchanged raises the alarm. -/
theorem refresh_replayed {r r' : Draws} {rc rc' : RequestContext} {pair : TokenPair}
    (h : (Auth.refresh d raw rc).run (exec d r) w = (.ok pair, w')) :
    ((Auth.refresh d raw rc').run (exec d r') w').1 = .error (.sentinel .sessionRevoked) := by
  rw [Auth.refresh_run] at h
  cases hfind : w.tokenByHash (hashToken raw) with
  | none => rw [hfind] at h; cases h
  | some stored =>
      obtain ⟨hstored, hhash⟩ := World.tokenByHash_some hfind
      rw [hfind] at h
      dsimp only at h
      split at h
      · cases h
      · split at h
        · cases h
        · split at h
          · cases h
          · split at h
            · cases h
            · rename_i user _ _ _
              have hend := Auth.refreshRotate_run r w stored user rc
              rw [h] at hend
              cases hend with
              | rotated p w₁ entry hissue hactor =>
                  obtain ⟨hstored₁, -⟩ := issued_rows_kept hissue hstored
                  have hmark : (exec d r (.tokens (.markUsed stored.id p.refreshTokenID w.clock)) w₁).1 =
                      .ok () := by rw [Auth.markUsed_of_issued r w hissue]
                  have hkeeps : Op.keepsRows (.tokens (.markUsed stored.id p.refreshTokenID w.clock)) =
                      true := rfl
                  obtain ⟨u, hu, hev⟩ := grows_exec (r := r) (w := w₁) hkeeps stored hstored₁
                  have hused : u.isUsed = true := TokensOp.markUsed_used hmark hu hev.id
                  have hfound : ((w₁.after r (.tokens (.markUsed stored.id p.refreshTokenID
                      w.clock))).audited entry).tokenByHash (hashToken raw) = some u := by
                    rw [← hhash, ← hev.tokenHash]
                    refine World.tokenByHash_of_mem ?_
                    rw [World.writeAudit_tokens]
                    exact hu
                  rw [Auth.refresh_run, hfound]
                  dsimp only
                  rw [hused, Bool.true_or, if_pos rfl]

/-! ### Login -/

/-- Only a stored user is authenticated. -/
theorem outcome_ok {password : String} {found : Option SuperAdminUser} {user : SuperAdminUser}
    (h : Auth.outcome d password found = .ok user) : found = some user := by
  unfold Auth.outcome at h
  split at h
  · cases h
  · split at h
    · cases h
    · split at h
      · cases h
        rfl
      · cases h

/-- A sign-in does not keep its user from logging in. -/
theorem ensureCanLogin_succeeded {r : Draws} {user u : SuperAdminUser} {now : Time}
    (huser : user ∈ w.users.rows) (hlogin : user.ensureCanLogin w.clock = none)
    (hu : u ∈ (w.after r (.users (.registerSuccessfulLogin user.id now))).users.rows)
    (hid : u.id = user.id) : u.ensureCanLogin w.clock = none := by
  have hactive := SuperAdminUser.ensureCanLogin_eq_none.mp hlogin
  obtain ⟨v, hv, hmakes⟩ := UsersOp.mem_exec hu
  have heq : v = user :=
    Table.eq_of_clash (fun _ _ => EitherEq.symm) hv huser (.inl (hmakes.id_eq.symm.trans hid))
  subst heq
  cases hmakes with
  | kept => exact hlogin
  | succeeded => exact SuperAdminUser.ensureCanLogin_eq_none.mpr ⟨rfl, hactive.2⟩

/-- A sign-in hands out a usable token. -/
theorem login_usable {r : Draws} {creds : Credentials} {rc : RequestContext} {pair : TokenPair}
    {user : SuperAdminUser} (h : (Auth.login d creds rc).run (exec d r) w = (.ok (pair, user), w')) :
    Usable w' (hashToken pair.refreshToken) := by
  rw [Auth.login_run] at h
  split at h
  · split at h
    · rw [Auth.loginRefused_run] at h
      cases h
    · cases h
  · rename_i found hfound
    obtain ⟨hstored, -⟩ := World.userByEmail_some (outcome_ok hfound)
    have hend := Auth.loginUser_run r w found rc
    rw [h] at hend
    cases hend with
    | issued p w₁ entry hlogin hissue hactor =>
        have husers : ∀ u ∈ (w.after r (.users (.registerSuccessfulLogin user.id w.clock))).users.rows,
            u.id = user.id → u.ensureCanLogin w.clock = none :=
          fun u hu hid => ensureCanLogin_succeeded hstored hlogin hu hid
        exact (usable_issued hissue husers _ (.inl rfl)).audited entry

end SuperAdmin.Rotation
