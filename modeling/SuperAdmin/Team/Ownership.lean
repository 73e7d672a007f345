import SuperAdmin.Users
import SuperAdmin.Sample

/-! # Ownership never moves

`UpdateRole` and `Revoke` look at the role of a member in one step and write in another.  The check
stays true in between, since no operation makes an owner and none takes the role of one away. -/

namespace SuperAdmin.Ownership

open Effects Usecase

variable {d : Deps}

/-! ### Owners -/

/-- An owner and its status. -/
def ownership (u : SuperAdminUser) : Option (UUID × UserStatus) :=
  if u.role = .owner then some (u.id, u.status) else none

/-- The owners of a state with their statuses. -/
def owners (w : World d) : List (UUID × UserStatus) := w.users.rows.filterMap ownership

/-- No row with the id is an owner. -/
def NoOwner (id : UUID) (w : World d) : Prop := ∀ p ∈ owners w, p.1 ≠ id

theorem noOwner_iff {id : UUID} {w : World d} :
    NoOwner id w ↔ ∀ u ∈ w.users.rows, u.id = id → u.role ≠ .owner := by
  constructor
  · intro h u hu hid hrole
    refine h (u.id, u.status) (List.mem_filterMap.mpr ⟨u, hu, ?_⟩) hid
    rw [ownership, if_pos hrole]
  · intro h p hp hid
    obtain ⟨u, hu, hown⟩ := List.mem_filterMap.mp hp
    unfold ownership at hown
    split at hown
    · rename_i hrole
      cases hown
      exact h u hu hid hrole
    · cases hown

/-- A member that was read and is no owner. -/
theorem noOwner_of_userByID {id : UUID} {w : World d} {member : SuperAdminUser}
    (h : w.userByID id = some member) (hrole : member.role ≠ .owner) : NoOwner id w := by
  obtain ⟨hmem, hid⟩ := World.userByID_some h
  refine noOwner_iff.mpr fun u hu huid => ?_
  have hsame : u = member :=
    Table.eq_of_clash (fun _ _ => EitherEq.symm) hu hmem (.inl (huid.trans hid.symm))
  rwa [hsame]

/-! ### What one call does to the owners -/

/-- A call that changes a role or a status does so for somebody who is no owner, and makes none. -/
def SparesOwners (op : Op) (w : World d) : Prop :=
  (∀ id role, op = .users (.updateRole id role) → role ≠ .owner ∧ NoOwner id w) ∧
    ∀ id status, op = .users (.updateStatus id status) → NoOwner id w

theorem sparesOwners_of_byAuth {op : Op} (h : op.byAuth = true) (w : World d) :
    SparesOwners op w := by
  constructor
  · intro id role hop
    subst hop
    cases h
  · intro id status hop
    subst hop
    cases h

theorem sparesOwners_of_reads {op : Op} (h : op.reads = true) (w : World d) : SparesOwners op w := by
  constructor
  · intro id role hop
    subst hop
    cases h
  · intro id status hop
    subst hop
    cases h

theorem ownership_makes {op : UsersOp} {w : World d} {v u : SuperAdminUser}
    (hv : v ∈ w.users.rows) (hmakes : UsersOp.Makes v op u) (h : SparesOwners (.users op) w) :
    ownership u = ownership v := by
  obtain ⟨hroles, hstatuses⟩ := h
  cases hmakes with
  | kept => rfl
  | failed lockedUntil => rfl
  | succeeded now => rfl
  | role role hvalid =>
      obtain ⟨hnew, hfree⟩ := hroles v.id role rfl
      have hold := noOwner_iff.mp hfree v hv rfl
      rw [ownership, ownership, if_neg hnew, if_neg hold]
  | status status =>
      have hold := noOwner_iff.mp (hstatuses v.id status rfl) v hv rfl
      rw [ownership, ownership, if_neg hold, if_neg hold]

theorem owners_exec {r : Draws} {op : Op} {w : World d} (h : SparesOwners op w) :
    owners (exec d r op w).2 = owners w := by
  unfold owners
  by_cases hop : ∃ uop, op = .users uop
  · obtain ⟨uop, rfl⟩ := hop
    obtain ⟨g, hrows, hmakes⟩ := UsersOp.rows_exec uop w.users
    have hafter : (exec d r (.users uop) w).2.users.rows = w.users.rows.map g := hrows
    rw [hafter, List.filterMap_map]
    refine List.filterMap_congr fun v hv => ?_
    exact ownership_makes hv (hmakes v) h
  · rw [exec_users r op w fun uop h => hop ⟨uop, h⟩]

/-! ### Operations -/

/-- The operations of `usecase.Auth` and `usecase.Team`. -/
inductive Operation where
  | call (c : Call)
  | me (userID : UUID)
  | list

/-- What an operation returns. -/
inductive Outcome where
  | reply (r : Reply)
  | user (res : Except Error SuperAdminUser)
  | members (res : Except Error (List SuperAdminUser))

/-- The program of an operation. -/
def Operation.proc (d : Deps) : Operation → Proc Outcome
  | call c => Outcome.reply <$> c.proc d
  | me userID => Outcome.user <$> Auth.me userID
  | list => Outcome.members <$> Team.list

/-- What the others may do, and what an operation guarantees. -/
def ownerRules (d : Deps) : Rules Eff (World d) where
  assume _ _ := True
  rely w w' := owners w' = owners w
  guar := SparesOwners
  rely_refl _ := rfl
  rely_trans h₁ h₂ := h₂.trans h₁

theorem NoOwner.rely {id : UUID} {w w' : World d} (h : NoOwner id w)
    (hw : (ownerRules d).rely w w') : NoOwner id w' := by
  have hsame : owners w' = owners w := hw
  intro p hp
  rw [hsame] at hp
  exact h p hp

section programs

variable (r : Draws) (actor : AccessClaims) (rc : RequestContext) (w : World d)

/-- Every call of the program spares the owners, in whatever state it finds. -/
abbrev Spares {α : Type} (r : Draws) (p : Proc α) (w : World d) : Prop :=
  p.Safe (exec d r) (ownerRules d) (fun _ _ => True) w

theorem spares_of_only {α : Type} {C : Op → Prop} {p : Proc α} (hp : p.Only C)
    (hC : ∀ op (w : World d), C op → SparesOwners op w) : Spares r p w :=
  (hp.safe (Prog.returns_true p) (I := fun _ => True) (fun _ _ _ _ => trivial)
    (fun op w hop _ _ => ⟨hC op w hop, trivial⟩) trivial).mono fun _ _ _ => trivial

theorem spares_of_byAuth {α : Type} {p : Proc α} (hp : ByAuth p) : Spares r p w :=
  spares_of_only r w hp fun _ w hop => sparesOwners_of_byAuth hop w

theorem spares_of_reads {α : Type} {p : Proc α} (hp : Reads p) : Spares r p w :=
  spares_of_only r w hp fun _ w hop => sparesOwners_of_reads hop w

theorem updateRole_spares (memberID : UUID) (role : Role) :
    Spares r (Team.updateRole actor memberID role rc) w := by
  unfold Team.updateRole
  split
  · exact .pure fun _ _ => trivial
  · rename_i hrole
    have hnew : role ≠ .owner := by
      intro h
      subst h
      exact hrole rfl
    refine .step fun w₁ _ _ => ⟨sparesOwners_of_byAuth rfl w₁, ?_⟩
    rw [exec_getByID]
    cases hget : w₁.userByID memberID with
    | none => exact .pure fun _ _ => trivial
    | some member =>
        dsimp only [orNotFound_some]
        split
        · exact .pure fun _ _ => trivial
        · rename_i hold
          have hfree := noOwner_of_userByID hget hold
          -- by the time of the write the member is still no owner
          refine .step fun w₂ hr₂ _ => ⟨?_, ?_⟩
          · constructor
            · intro id role' hop
              cases hop
              exact ⟨hnew, hfree.rely hr₂⟩
            · intro id status hop
              cases hop
          · split
            · exact .pure fun _ _ => trivial
            · refine spares_of_byAuth r _ ?_
              exact .step rfl fun now => .bind (quiet_writeAudit _).byAuth fun _ => trivial

theorem revoke_spares (memberID : UUID) : Spares r (Team.revoke actor memberID rc) w := by
  refine .step fun w₁ _ _ => ⟨sparesOwners_of_byAuth rfl w₁, ?_⟩
  rw [exec_getByID]
  cases hget : w₁.userByID memberID with
  | none => exact .pure fun _ _ => trivial
  | some member =>
      dsimp only [orNotFound_some]
      split
      · exact .pure fun _ _ => trivial
      · rename_i hold
        have hfree := noOwner_of_userByID hget hold
        refine .step fun w₂ hr₂ _ => ⟨sparesOwners_of_byAuth rfl w₂, ?_⟩
        refine .step fun w₃ hr₃ _ => ⟨?_, ?_⟩
        · constructor
          · intro id role hop
            cases hop
          · intro id status hop
            cases hop
            exact (hfree.rely hr₂).rely hr₃
        · split
          · exact .pure fun _ _ => trivial
          · refine spares_of_byAuth r _ (.step rfl fun res => ?_)
            cases res with
            | error e => trivial
            | ok _ => exact .bind (quiet_writeAudit _).byAuth fun _ => trivial

theorem operation_spares (op : Operation) : Spares r (op.proc d) w := by
  have hmap : ∀ {α : Type} {p : Proc α} (f : α → Outcome), Spares r p w → Spares r (f <$> p) w :=
    fun _ hp => hp.map
  have hreply : ∀ {α : Type} {p : Proc α} (f : α → Reply), Spares r p w →
      Spares r (Outcome.reply <$> f <$> p) w := fun _ hp => hp.map.map
  cases op with
  | call c =>
      cases c with
      | login creds rc => exact hreply _ (spares_of_byAuth r w (Auth.byAuth_login d rc creds))
      | refresh refreshToken rc =>
          exact hreply _ (spares_of_byAuth r w (Auth.byAuth_refresh d rc refreshToken))
      | logout refreshToken claims rc =>
          exact hreply _ (spares_of_byAuth r w (Auth.quiet_logout rc refreshToken claims).byAuth)
      | logoutAll userID actor rc =>
          exact hreply _ (spares_of_byAuth r w (Auth.quiet_logoutAll rc userID actor).byAuth)
      | invite actor email role rc =>
          exact hreply _ (spares_of_byAuth r w (Team.quiet_invite actor rc email role).byAuth)
      | updateRole actor memberID role rc =>
          exact hreply _ (updateRole_spares r actor rc w memberID role)
      | revoke actor memberID rc => exact hreply _ (revoke_spares r actor rc w memberID)
  | me userID => exact hmap _ (spares_of_reads r w (.perform rfl))
  | list =>
      refine hmap _ (spares_of_reads r w (.step rfl fun res => ?_))
      cases res <;> trivial

end programs

/-! ### Along a run -/

/-- The pool of some operations. -/
def operationPool (d : Deps) {ι : Type} (ops : ι → Operation) (w : World d) :
    Pool Eff (World d) ι Outcome := ⟨w, fun i => (ops i).proc d⟩

/-- However the operations of `Auth` and `Team` are interleaved, the owners and their statuses stay
those of the first state. -/
theorem owners_never_change {ι : Type} [DecidableEq ι] {draws : ι → Draws} {ops : ι → Operation}
    {w : World d} {P : Pool Eff (World d) ι Outcome}
    (hr : Pool.Run (fun i => exec d (draws i)) Ticks (fun _ _ _ => True) (operationPool d ops w) P) :
    owners P.state = owners w := by
  have hspares := Pool.Run.guaranteed (Γ := fun _ => ownerRules d) (Q := fun _ _ _ => True)
    (fun _ _ _ _ => trivial) (fun _ _ _ _ _ _ hguar => owners_exec hguar) ?_ hr
    fun i => operation_spares (draws i) w (ops i)
  · refine hspares.invariant (I := fun w' => owners w' = owners w) ?_ ?_ rfl
    · rintro i op w' ⟨-, hguar⟩ hw'
      rw [owners_exec hguar, hw']
    · rintro w' w'' ⟨t, -, rfl⟩ hw'
      exact hw'
  · rintro j w' w'' ⟨t, -, rfl⟩
    rfl

/-- Two operations in step: an owner makes a member an administrator while somebody revokes the access
of that member. -/
def roleAndRevoke : Pool Eff (World Sample.deps) (Fin 2) Outcome :=
  (operationPool Sample.deps
    (fun i => .call (if i = 0 then .updateRole Sample.firstClaims Sample.support.id .admin Sample.context
      else .revoke Sample.firstClaims Sample.support.id Sample.context)) Sample.world).play
    (fun i => exec Sample.deps (Sample.draws (i.castLE Sample.two_le_eight)))
    (List.replicate 5 [0, 1]).flatten

theorem owners_never_change_in_step :
    roleAndRevoke.state.users.rows.map (fun u => (u.role, u.status)) =
        [(.owner, .active), (.admin, .suspended)] ∧
      owners roleAndRevoke.state = owners Sample.world :=
  ⟨by decide, owners_never_change (Pool.play_run _ _)⟩

end SuperAdmin.Ownership
