import SuperAdmin.Endings
import SuperAdmin.Sample

/-! # Who can be invited

`Team.Invite` looks for a member with the email, then for an invitation that is not accepted, and at last
inserts a row that the index on unaccepted invitations lets in.  The query and the index have one notion of a
pending invitation, so the insert never meets what the query has missed.  It is not the notion of
`Invitation.IsExpired`: an invitation that has run out still bars the email. -/

namespace SuperAdmin.Invitations

open Effects Usecase

variable {d : Deps}

/-! ### Invitations -/

/-- A call of `Team.Invite`. -/
structure Invite where
  now : Time
  draws : Draws
  actor : AccessClaims
  email : String
  role : Role
  rc : RequestContext

/-- Make the call. -/
def Invite.run (d : Deps) (i : Invite) (w : World d) : Except Error (Invitation × String) × World d :=
  (Team.invite i.actor i.email i.role i.rc).run (exec d i.draws) { w with clock := i.now }

/-- Make some calls one after the other. -/
def inviteAll (d : Deps) (l : List Invite) (w : World d) : World d := l.foldl (fun w i => (i.run d w).2) w

/-- Nobody in the team has the email, and no invitation to it bars it. -/
def EmailFree (bars : Invitation → Bool) (email : String) (w : World d) : Prop :=
  (∀ u ∈ w.users.rows, d.citextLower u.email ≠ d.citextLower email) ∧
    ∀ i ∈ w.invitations.rows, d.citextLower i.email = d.citextLower email → bars i = false

/-- The invitation is not accepted, as `HasPending` and the index understand it. -/
def pending (i : Invitation) : Bool := !i.isAccepted

/-- The invitation can still be accepted. -/
def live (now : Time) (i : Invitation) : Bool := !i.isAccepted && !i.isExpired now

/-- The random values are there and new: the row gets an id and a hash of its own. -/
structure Fresh (r : Draws) (w : World d) : Prop where
  id : ∀ i ∈ w.invitations.rows, i.id ≠ r.uuid .row
  hash : ∃ raw, r.rand .secureToken = .ok raw ∧
    ∀ i ∈ w.invitations.rows, i.tokenHash ≠ hashToken (rawURLEncodeToString raw)

/-! ### The two lookups -/

variable {w : World d} {email : String}

theorem userByEmail_eq_none :
    w.userByEmail email = none ↔ ∀ u ∈ w.users.rows, d.citextLower u.email ≠ d.citextLower email := by
  unfold World.userByEmail
  rw [Table.find?_eq_none]
  exact forall₂_congr fun u _ => beq_eq_false_iff_ne

/-- The answer of `HasPending`. -/
def hasPending (w : World d) (email : String) : Bool :=
  w.invitations.rows.any fun i => d.citextLower i.email == d.citextLower email && i.acceptedAt.isNone

theorem hasPending_eq_false :
    hasPending w email = false ↔
      ∀ i ∈ w.invitations.rows, d.citextLower i.email = d.citextLower email → pending i = false := by
  unfold hasPending pending Invitation.isAccepted
  rw [List.any_eq_false]
  refine forall₂_congr fun i _ => ?_
  cases i.acceptedAt <;> simp

theorem emailFree_pending :
    EmailFree pending email w ↔ w.userByEmail email = none ∧ hasPending w email = false := by
  rw [userByEmail_eq_none, hasPending_eq_false, EmailFree]

/-! ### The call -/

variable (r : Draws) (actor : AccessClaims) (role : Role) (rc : RequestContext)

/-- The row goes in when no pending invitation has the email. -/
theorem inviteFree_ok (hrole : Team.invitableRoles role = true) (hactor : w.hasUser actor.userID = true)
    (hfresh : Fresh r w) (hfree : hasPending w email = false) :
    ((Team.inviteFree actor email role rc).run (exec d r) w).1.isOk = true := by
  obtain ⟨raw, hraw, hhash⟩ := hfresh.hash
  have hvalid : role.valid = true := by cases role <;> first | rfl | cases hrole
  unfold Team.inviteFree generateSecureToken
  rw [Prog.run_bind, Prog.run_bind, run_op, exec_randRead, hraw]
  dsimp only
  rw [Prog.pure_eq, Prog.run_pure]
  dsimp only
  rw [Prog.run_bind, run_op, exec_now]
  dsimp only
  rw [Prog.run_bind, run_op]
  generalize hinv : ({ id := UUID.nil, email := email, role := role, tokenHash := _, invitedBy := _,
                       expiresAt := _, acceptedAt := none, createdAt := _ } : Invitation) = inv
  -- no row clashes with the new one: neither in the id and the hash, nor in the index
  obtain ⟨T, hinsert⟩ : ∃ T, w.invitations.insert? (inv.inserted (r.uuid .row) w.clock) = some T := by
    refine Table.insert?_isSome fun i hi hclash => ?_
    subst hinv
    rcases hclash with hid | hhash' | ⟨hemail, hpending, -⟩
    · exact hfresh.id i hi hid
    · exact hhash i hi hhash'
    · have hbars := hasPending_eq_false.mp hfree i hi hemail
      unfold pending Invitation.isAccepted at hbars
      cases hacc : i.acceptedAt with
      | none =>
          rw [hacc] at hbars
          cases hbars
      | some t =>
          dsimp only at hpending
          rw [hacc] at hpending
          cases hpending
  have hby : inv.role = role ∧ inv.invitedBy = some actor.userID := by
    subst hinv
    exact ⟨rfl, rfl⟩
  have hcreate : (exec d r (.invites (.create inv)) w).1 =
      .ok { inv with id := r.uuid .row, createdAt := w.clock.timestamptz } := by
    simp [exec, InvitesOp.exec, hinsert, hby, hvalid, hactor]
  rw [hcreate]
  rfl

/-- `Team.Invite` of a role that may be invited, by somebody in the team. -/
theorem invite_cases (w : World d) (email : String) (hrole : Team.invitableRoles role = true) :
    let res := (Team.invite actor email role rc).run (exec d r) w
    (EmailFree pending email w ∧ res = (Team.inviteFree actor email role rc).run (exec d r) w) ∨
      (¬ EmailFree pending email w ∧ ∃ text, res = (.error (.withf (.sentinel .conflict) text), w)) := by
  have hinvitable : ¬ (!Team.invitableRoles role) = true := by simp [hrole]
  unfold Team.invite
  rw [if_neg hinvitable, emailFree_pending, Prog.run_bind, run_op, exec_getByEmail]
  cases huser : w.userByEmail email with
  | some user => exact .inr ⟨fun h => Option.some_ne_none _ h.1, _, rfl⟩
  | none =>
      show (_ ∧ Prog.run (exec d r) (perform (.invites (.hasPending email)) >>= _) w = _) ∨
        (_ ∧ ∃ text, Prog.run (exec d r) (perform (.invites (.hasPending email)) >>= _) w = _)
      rw [Prog.run_bind, run_op]
      show (_ ∧ Prog.run (exec d r) (if hasPending w email then _ else _) w = _) ∨
        (_ ∧ ∃ text, Prog.run (exec d r) (if hasPending w email then _ else _) w = _)
      cases hpending : hasPending w email with
      | false => exact .inl ⟨⟨rfl, rfl⟩, rfl⟩
      | true => exact .inr ⟨fun h => Bool.false_ne_true h.2.symm, _, rfl⟩

/-- Inviting somebody succeeds exactly when nobody in the team has the email and every invitation to it
was accepted.  Otherwise it is a conflict, and no invitation is added. -/
theorem invite_isOk_iff (w : World d) (i : Invite) (hrole : Team.invitableRoles i.role = true)
    (hactor : w.hasUser i.actor.userID = true) (hfresh : Fresh i.draws w) :
    ((i.run d w).1.isOk = true ↔ EmailFree pending i.email w) ∧
      (¬ EmailFree pending i.email w →
        (∃ e, (i.run d w).1 = .error e ∧ e.is .conflict = true) ∧
          (i.run d w).2.invitations = w.invitations) := by
  let w₀ : World d := { w with clock := i.now }
  have hfree : EmailFree pending i.email w₀ ↔ EmailFree pending i.email w := Iff.rfl
  have hcases := invite_cases i.draws i.actor i.role i.rc w₀ i.email hrole
  rw [hfree] at hcases
  unfold Invite.run
  rcases hcases with ⟨h, hrun⟩ | ⟨h, text, hrun⟩
  · refine ⟨⟨fun _ => h, fun _ => ?_⟩, fun hnot => absurd h hnot⟩
    rw [hrun]
    exact inviteFree_ok (w := w₀) i.draws i.actor i.role i.rc hrole hactor ⟨hfresh.id, hfresh.hash⟩
      (emailFree_pending.mp h).2
  · rw [hrun]
    refine ⟨⟨fun hok => ?_, fun h' => absurd h' h⟩, fun _ => ⟨⟨_, rfl, rfl⟩, rfl⟩⟩
    cases hok

/-! ### An invitation that has run out -/

/-- The owner invites somebody, so many days after the start. -/
def invitation (n : Fin 8) (days : ℕ) : Invite where
  now := Sample.start.addDays days
  draws := Sample.draws n
  actor := { Sample.firstClaims with userID := Sample.owner.id }
  email := "new@example.com"
  role := .viewer
  rc := Sample.context

/-- The state after an invitation to another email. -/
def invited : World Sample.deps :=
  inviteAll Sample.deps [{ invitation 0 0 with email := "other@example.com" }] Sample.world

/-- An invitation beside one to another email. -/
theorem invite_second :
    invited.invitations.rows.length = 1 ∧
      (((invitation 1 1).run Sample.deps invited).1.isOk = true ↔
        EmailFree pending "new@example.com" invited) ∧
      (¬ EmailFree pending "new@example.com" invited →
        (∃ e, ((invitation 1 1).run Sample.deps invited).1 = .error e ∧ e.is .conflict = true) ∧
          ((invitation 1 1).run Sample.deps invited).2.invitations = invited.invitations) :=
  ⟨by decide, invite_isOk_iff invited (invitation 1 1) rfl (by decide) ⟨by decide, _, rfl, by decide +kernel⟩⟩

/-- On the eighth day after an invitation nobody can accept it any more, and the email is still barred. -/
theorem expired_invitation_bars : ¬ ∀ (d : Deps) (w : World d) (l : List Invite) (i : Invite),
    w.invitations.rows = [] → (l ++ [i]).Pairwise (fun a b => a.now ≤ b.now) →
    Team.invitableRoles i.role = true → w.hasUser i.actor.userID = true →
    Fresh i.draws (inviteAll d l w) →
    ((i.run d (inviteAll d l w)).1.isOk = true ↔ EmailFree (live i.now) i.email (inviteAll d l w)) := by
  intro hclaim
  have hiff := hclaim Sample.deps Sample.world [invitation 0 0] (invitation 1 8) rfl (by decide)
    rfl (by decide) ⟨by decide, _, rfl, by decide +kernel⟩
  have hrefused : ((invitation 1 8).run Sample.deps
      (inviteAll Sample.deps [invitation 0 0] Sample.world)).1.isOk = false := by decide
  have hfree : EmailFree (live (invitation 1 8).now) (invitation 1 8).email
      (inviteAll Sample.deps [invitation 0 0] Sample.world) := by
    unfold EmailFree
    decide
  rw [hiff.mpr hfree] at hrefused
  cases hrefused

end SuperAdmin.Invitations
