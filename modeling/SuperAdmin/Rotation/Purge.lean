import SuperAdmin.Rotation.Purged

/-! # What the purge of expired tokens forgets

`DeleteExpired` deletes rows that are useless for an exchange.  A run with purges is compared here
with the same run without them.  `Refresh` tests a token for reuse before it tests its expiry, and
`Logout` finds the session by the row of its token; a purged row can give neither answer any more. -/

namespace SuperAdmin.Rotation

open Effects Usecase

variable {d : Deps}

/-! ### Runs with and without purges -/

/-- A step of a sequential run: a call, or a purge at some time. -/
inductive Move where
  | turn (t : Turn)
  | purge (now before : Time)

namespace Move

def now : Move → Time
  | turn t => t.now
  | purge now _ => now

/-- The calls that the comparison is about, and purges of what has expired. -/
def allowed : Move → Bool
  | turn t => match t.call with
      | .login _ _ | .refresh _ _ | .logout _ _ _ | .logoutAll _ _ _ | .revoke _ _ _ => true
      | .invite _ _ _ _ | .updateRole _ _ _ _ => false
  | purge now before => decide (before ≤ now)

/-- The move with the purge. -/
def run (d : Deps) : Move → World d → World d
  | turn t, w => (t.run d w).2
  | purge now before, w => { w with
      clock := now
      tokens := (TokensOp.exec w.hasUser now (.deleteExpired before) w.tokens).2 }

/-- The move without the purge: time goes on. -/
def skip (d : Deps) : Move → World d → World d
  | turn t, w => (t.run d w).2
  | purge now _, w => { w with clock := now }

/-- A `Refresh` has the same result in both states. -/
def SameResult (m : Move) (w w' : World d) : Prop :=
  ∀ t refreshToken rc, m = .turn t → t.call = .refresh refreshToken rc → (t.run d w).1 = (t.run d w').1

end Move

/-- The ids and hashes of the tokens that can be exchanged. -/
def usable (w : World d) : Set (UUID × Bytes) :=
  {p | ∃ t ∈ w.tokens.rows, t.isUsable w.clock = true ∧ t.id = p.1 ∧ t.tokenHash = p.2}

/-- The moves are made at increasing times. -/
def inTime : Time → List Move → Bool
  | _, [] => true
  | clock, m :: l => decide (clock ≤ m.now) && inTime m.now l

/-- At each move the run with the purges, in `w'`, gives the results of the run without, in `w`, and has
the same usable tokens. -/
def SameOutcomes (d : Deps) : List Move → World d → World d → Prop
  | [], _, _ => True
  | m :: l, w, w' => m.SameResult w w' ∧ usable (m.run d w') = usable (m.skip d w) ∧
      SameOutcomes d l (m.skip d w) (m.run d w')

/-! ### What a purge must not have deleted -/

/-- The row of a token that only the state without purges has. -/
def forgotten (w w' : World d) (refreshToken : String) : Option RefreshToken :=
  match w'.tokenByHash (hashToken refreshToken) with
  | some _ => none
  | none => w.tokenByHash (hashToken refreshToken)

/-- The draws of a call for a new token are not those of a purged row. -/
def freshDraws (r : Draws) (w w' : World d) : Bool :=
  w.tokens.rows.all fun t => w'.tokens.rows.any (·.id == t.id) ||
    (t.id != r.uuid .refreshToken && match r.rand .secureToken with
      | .ok raw => t.tokenHash != hashToken (rawURLEncodeToString raw)
      | .error _ => true)

/-- What a turn needs of the purged rows: a refresh presents none that was used or revoked, a logout none
whose session it does not know otherwise and has a token left to revoke. -/
def remembers (t : Turn) (w w' : World d) : Bool :=
  match t.call with
  | .login _ _ => freshDraws t.draws w w'
  | .refresh refreshToken _ =>
      freshDraws t.draws w w' && (forgotten w w' refreshToken).all fun x => !stale x
  | .logout refreshToken claims _ =>
      let sessionID := (claims.map AccessClaims.sessionID).getD UUID.nil
      refreshToken == "" || (forgotten w w' refreshToken).all fun x => x.sessionID == sessionID ||
        w'.tokens.rows.all fun u => u.sessionID == UUID.nil || stale u ||
          (u.sessionID != x.sessionID && u.sessionID != sessionID)
  | _ => true

/-- Every turn of a run finds what it needs. -/
def remembered (d : Deps) : List Move → World d → World d → Bool
  | [], _, _ => true
  | m :: l, w, w' =>
      (match m with
        | .turn t => remembers t w w'
        | .purge _ _ => true) && remembered d l (m.skip d w) (m.run d w')

section runs

variable {w w' : World d}

theorem freshDraws_of {r : Draws} (h : freshDraws r w w' = true) : FreshDraws r w w' := by
  intro t ht
  have hrow := List.all_eq_true.mp h t ht
  rcases Bool.or_eq_true_iff.mp hrow with hthere | hfresh
  · obtain ⟨u, hu, hid⟩ := List.any_eq_true.mp hthere
    exact .inl ⟨u, hu, eq_of_beq hid⟩
  · obtain ⟨hid, hhash⟩ := Bool.and_eq_true_iff.mp hfresh
    refine .inr ⟨bne_iff_ne.mp hid, fun raw hraw => ?_⟩
    rw [hraw] at hhash
    exact bne_iff_ne.mp hhash

theorem forgotten_of {refreshToken : String} {x : RefreshToken}
    (hnone : w'.tokenByHash (hashToken refreshToken) = none)
    (hx : w.tokenByHash (hashToken refreshToken) = some x) :
    forgotten w w' refreshToken = some x := by
  unfold forgotten
  rw [hnone]
  exact hx

theorem Purged.later (h : Purged w w') {now : Time} (hle : w.clock ≤ now) :
    Purged { w with clock := now } { w' with clock := now } where
  same := by rw [h.same]
  tokens := h.tokens.later hle

/-- `Logout` with a token that the purge has not forgotten, or whose session is over. -/
theorem logout_purged {r : Draws} (h : Purged w w') (refreshToken : String)
    (claims : Option AccessClaims) (rc : RequestContext)
    (hremembers : refreshToken = "" ∨ ∀ x, forgotten w w' refreshToken = some x →
      x.sessionID = (claims.map AccessClaims.sessionID).getD UUID.nil ∨
      ∀ u ∈ w'.tokens.rows, u.sessionID ≠ UUID.nil → u.sessionID = x.sessionID ∨
        u.sessionID = (claims.map AccessClaims.sessionID).getD UUID.nil → stale u = true) :
    Purged ((Auth.logout refreshToken claims rc).run (exec d r) w).2
      ((Auth.logout refreshToken claims rc).run (exec d r) w').2 := by
  have hclock : w'.clock = w.clock := by rw [h.same]
  rw [Auth.logout_run, Auth.logout_run, Auth.logoutSession_run, Auth.logoutSession_run, hclock]
  refine logoutAccess_purged (sessionRevoked_purged h ?_) _ _ claims rc _
  unfold Auth.logoutSessionID
  by_cases hempty : refreshToken = ""
  · rw [if_pos hempty, if_pos hempty]
    exact .inl rfl
  · rw [if_neg hempty, if_neg hempty]
    have hleft := hremembers.resolve_left hempty
    rcases lookup_purged h (hashToken refreshToken) with ⟨t, u, ht, hu, htu⟩ | ⟨hnone, -⟩
    · rw [ht, hu]
      exact .inl htu.sessionID.symm
    · rw [hnone]
      cases ht : w.tokenByHash (hashToken refreshToken) with
      | none => exact .inl rfl
      | some x => exact hleft x (forgotten_of hnone ht)

/-- A call that is not `Refresh` has no result to compare. -/
theorem sameResult_of_ne {t : Turn} (h : ∀ refreshToken rc, t.call ≠ .refresh refreshToken rc) :
    (Move.turn t).SameResult w w' := by
  intro t' refreshToken rc ht' hrefresh
  cases ht'
  exact absurd hrefresh (h refreshToken rc)

/-- One turn in both states. -/
theorem turn_purged (h : Purged w w') {t : Turn} (hle : w.clock ≤ t.now)
    (hallowed : (Move.turn t).allowed = true) (hremembers : remembers t w w' = true) :
    (Move.turn t).SameResult w w' ∧ Purged (t.run d w).2 (t.run d w').2 := by
  have hlater := h.later hle
  unfold Turn.run
  unfold remembers at hremembers
  cases hcall : t.call with
  | login creds rc =>
      rw [hcall] at hremembers
      rw [Call.proc, Prog.run_map, Prog.run_map]
      refine ⟨sameResult_of_ne (by rw [hcall]; exact fun _ _ h => by cases h), ?_⟩
      exact (login_purged (r := t.draws) hlater (freshDraws_of hremembers) creds rc).2
  | refresh refreshToken rc =>
      rw [hcall] at hremembers
      obtain ⟨hfresh, hstale⟩ := Bool.and_eq_true_iff.mp hremembers
      have hrun := refresh_purged (r := t.draws) hlater (freshDraws_of hfresh) refreshToken rc
        fun hnone x hx => by
          have hx' : forgotten w w' refreshToken = some x := forgotten_of hnone hx
          rw [hx'] at hstale
          simpa using hstale
      rw [Call.proc, Prog.run_map, Prog.run_map]
      refine ⟨fun t' _ _ ht' _ => ?_, hrun.2⟩
      cases ht'
      unfold Turn.run
      rw [hcall, Call.proc, Prog.run_map, Prog.run_map]
      exact congrArg Reply.refresh hrun.1
  | logout refreshToken claims rc =>
      rw [hcall] at hremembers
      rw [Call.proc, Prog.run_map, Prog.run_map]
      refine ⟨sameResult_of_ne (by rw [hcall]; exact fun _ _ h => by cases h), ?_⟩
      refine logout_purged (r := t.draws) hlater refreshToken claims rc ?_
      rcases Bool.or_eq_true_iff.mp hremembers with hempty | hsession
      · exact .inl (eq_of_beq hempty)
      · refine .inr fun x hx => ?_
        have hx' : forgotten w w' refreshToken = some x := hx
        rw [hx'] at hsession
        rcases Bool.or_eq_true_iff.mp hsession with hsame | hover
        · exact .inl (eq_of_beq hsame)
        · refine .inr fun u hu hnil hs => ?_
          have hrow := List.all_eq_true.mp hover u hu
          simp only [Bool.or_eq_true, beq_iff_eq, hnil, false_or, Bool.and_eq_true, bne_iff_ne] at hrow
          rcases hrow with hstale | ⟨hne, hne'⟩
          · exact hstale
          · exact absurd hs (not_or.mpr ⟨hne, hne'⟩)
  | logoutAll userID actor rc =>
      rw [Call.proc, Prog.run_map, Prog.run_map]
      refine ⟨sameResult_of_ne (by rw [hcall]; exact fun _ _ h => by cases h), ?_⟩
      exact (sameRun_of_blind (r := t.draws) (Auth.blind_logoutAll rc userID actor) hlater).2
  | revoke actor memberID rc =>
      rw [Call.proc, Prog.run_map, Prog.run_map]
      refine ⟨sameResult_of_ne (by rw [hcall]; exact fun _ _ h => by cases h), ?_⟩
      exact (sameRun_of_blind (r := t.draws) (Team.blind_revoke actor rc memberID) hlater).2
  | invite actor email role rc =>
      dsimp only [Move.allowed] at hallowed
      rw [hcall] at hallowed
      cases hallowed
  | updateRole actor memberID role rc =>
      dsimp only [Move.allowed] at hallowed
      rw [hcall] at hallowed
      cases hallowed

theorem purged_usable (h : Purged w w') : usable w' = usable w := by
  have hclock : w'.clock = w.clock := by rw [h.same]
  ext p
  show (∃ u ∈ w'.tokens.rows, u.isUsable w'.clock = true ∧ u.id = p.1 ∧ u.tokenHash = p.2) ↔ _
  rw [hclock]
  exact h.tokens.usable_iff p.1 p.2

theorem outcomes_purged {l : List Move} (h : Purged w w') (hallowed : ∀ m ∈ l, m.allowed = true)
    (htimes : inTime w.clock l = true) (hremembered : remembered d l w w' = true) :
    SameOutcomes d l w w' := by
  induction l generalizing w w' with
  | nil => trivial
  | cons m l ih =>
      obtain ⟨hle, hrest⟩ := Bool.and_eq_true_iff.mp htimes
      obtain ⟨hm, hl⟩ := Bool.and_eq_true_iff.mp hremembered
      have hle' := of_decide_eq_true hle
      have hmallowed := hallowed m (List.mem_cons_self ..)
      have hstep : m.SameResult w w' ∧ Purged (m.skip d w) (m.run d w') ∧
          (m.skip d w).clock = m.now := by
        cases m with
        | turn t =>
            obtain ⟨hresult, hnext⟩ := turn_purged h hle' hmallowed hm
            refine ⟨hresult, hnext, ?_⟩
            exact (t.call.keepsRows d).run (I := fun v : World d => v.clock = t.now)
              (fun op v _ hv => by rw [exec_clock, hv]) rfl
        | purge now before =>
            refine ⟨fun t' _ _ ht' => (by cases ht'), ⟨?_, ?_⟩, rfl⟩
            · rw [h.same]
              rfl
            · exact (h.tokens.later hle').deleteExpired w'.hasUser now (of_decide_eq_true hmallowed)
      obtain ⟨hresult, hnext, hclock⟩ := hstep
      refine ⟨hresult, purged_usable hnext, ih hnext ?_ ?_ hl⟩
      · exact fun m' hm' => hallowed m' (List.mem_cons_of_mem _ hm')
      · rw [hclock]
        exact hrest

/-- A run with purges and the run without them have the same results of `Refresh` and the same usable
tokens, as long as no call needs a row that was purged. -/
theorem purge_unobservable {l : List Move} {w : World d} (hallowed : ∀ m ∈ l, m.allowed = true)
    (htimes : inTime w.clock l = true) (hremembered : remembered d l w w = true) :
    SameOutcomes d l w w :=
  outcomes_purged (.refl w) hallowed htimes hremembered

end runs

/-- The refresh token of the first login, some hours later. -/
def refreshAfter (hours : Duration) (n : Fin 8) : Move :=
  .turn ⟨Sample.start.add (hours * Duration.hour), Sample.draws n, .refresh Sample.firstToken Sample.context⟩

/-- A purge of everything that has expired. -/
def purgeAfter (hours : Duration) : Move :=
  .purge (Sample.start.add (hours * Duration.hour)) (Sample.start.add (hours * Duration.hour))

/-- The token of the sample has expired and is presented after a purge. -/
theorem purge_unobservable_expired :
    SameOutcomes Sample.deps [purgeAfter 721, refreshAfter 721 1] Sample.loggedIn Sample.loggedIn :=
  purge_unobservable (by decide) (by decide) (by decide +kernel)

/-- A refresh fails with an error that is the sentinel. -/
def refusedWith (s : Sentinel) : Reply → Bool
  | .refresh (.error e) => e.is s
  | _ => false

/-- A token is exchanged shortly before it expires.  After its row is purged, presenting it again goes
unnoticed, while its successor is alive. -/
theorem purge_hides_reuse :
    ¬ ∀ (d : Deps) (l : List Move) (w : World d), (∀ m ∈ l, m.allowed = true) →
      inTime w.clock l = true → SameOutcomes d l w w := by
  intro hclaim
  obtain ⟨-, -, -, -, hresult, -⟩ := hclaim Sample.deps
    [refreshAfter 719 1, purgeAfter 721, refreshAfter 721 2] Sample.loggedIn (by decide)
    (by decide)
  have hrefused := congrArg (refusedWith .sessionRevoked) (hresult _ _ _ rfl rfl)
  revert hrefused
  decide +kernel

end SuperAdmin.Rotation
