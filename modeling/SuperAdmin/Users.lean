import SuperAdmin.Store

/-! # What the user queries do to a row

No query of `super_admin.sql` that a usecase calls adds or removes a row, and none changes whose
row it is; `UsersOp.Makes` lists what a query makes of a row. -/

namespace SuperAdmin

open Effects

namespace SuperAdminUser

/-- A row after `RegisterFailedLogin`. -/
def failed (u : SuperAdminUser) (lockedUntil : Option Time) : SuperAdminUser :=
  { u with failedLoginAttempts := u.failedLoginAttempts + 1
           lockedUntil := lockedUntil.map Time.timestamptz <|> u.lockedUntil }

/-- A row after `RegisterSuccessfulLogin`. -/
def succeeded (u : SuperAdminUser) (now : Time) : SuperAdminUser :=
  { u with failedLoginAttempts := 0
           lockedUntil := none
           lastLoginAt := some now.timestamptz }

end SuperAdminUser

namespace UsersOp

/-- The row `v` before and the row `u` after a query. -/
inductive Makes (v : SuperAdminUser) : UsersOp → SuperAdminUser → Prop
  | kept (op : UsersOp) : Makes v op v
  | failed (lockedUntil : Option Time) :
      Makes v (.registerFailedLogin v.id lockedUntil) (v.failed lockedUntil)
  | succeeded (now : Time) : Makes v (.registerSuccessfulLogin v.id now) (v.succeeded now)
  | role (role : Role) (h : role.valid = true) : Makes v (.updateRole v.id role) { v with role := role }
  | status (status : UserStatus) : Makes v (.updateStatus v.id status) { v with status := status }

theorem Makes.id_eq {v u : SuperAdminUser} {op : UsersOp} (h : Makes v op u) : u.id = v.id := by
  cases h <;> rfl

variable {d : Deps} {T : UserTable d}

/-- A query rewrites the rows one by one. -/
theorem rows_exec (op : UsersOp) (T : UserTable d) :
    ∃ g, (op.exec d T).2.rows = T.rows.map g ∧ ∀ v, Makes v op (g v) := by
  have hread : ∀ op, ∃ g, T.rows = T.rows.map g ∧ ∀ v, Makes v op (g v) := fun op =>
    ⟨id, (List.map_id T.rows).symm, fun v => .kept op⟩
  -- an update makes of each row with the id what `f` makes of it
  have hupdate : ∀ (op : UsersOp) (id : UUID) (f : SuperAdminUser → SuperAdminUser)
      (hf : ∀ r, ((f r).id, d.citextLower (f r).email) = (r.id, d.citextLower r.email)),
      (∀ v, v.id = id → Makes v op (f v)) →
      ∃ g, (T.update (·.id == id) f hf).rows = T.rows.map g ∧ ∀ v, Makes v op (g v) := by
    intro op id f hf hmakes
    refine ⟨_, T.rows_update _ f hf, fun v => ?_⟩
    by_cases hid : (v.id == id) = true
    · rw [if_pos hid]
      exact hmakes v (eq_of_beq hid)
    · rw [if_neg hid]
      exact .kept op
  cases op with
  | getByID id => exact hread _
  | getByEmail email => exact hread _
  | list => exact hread _
  | registerFailedLogin id lockedUntil =>
      refine hupdate _ id (·.failed lockedUntil) (fun _ => rfl) ?_
      rintro v rfl
      exact .failed lockedUntil
  | registerSuccessfulLogin id now =>
      refine hupdate _ id (·.succeeded now) (fun _ => rfl) ?_
      rintro v rfl
      exact .succeeded now
  | updateRole id role =>
      by_cases hrole : role.valid = true
      · simp only [exec, if_pos hrole]
        refine hupdate _ id (fun v => { v with role := role }) (fun _ => rfl) ?_
        rintro v rfl
        exact .role role hrole
      · simp only [exec, if_neg hrole]
        exact hread _
  | updateStatus id status =>
      refine hupdate _ id (fun v => { v with status := status }) (fun _ => rfl) ?_
      rintro v rfl
      exact .status status

/-- Where a row after a query comes from. -/
theorem mem_exec {op : UsersOp} {u : SuperAdminUser} (hu : u ∈ (op.exec d T).2.rows) :
    ∃ v ∈ T.rows, Makes v op u := by
  obtain ⟨g, hrows, hmakes⟩ := rows_exec op T
  rw [hrows] at hu
  obtain ⟨v, hv, rfl⟩ := List.mem_map.mp hu
  exact ⟨v, hv, hmakes v⟩

end UsersOp

/-- Where a user after an operation comes from. -/
theorem mem_exec_users {d : Deps} {r : Draws} {op : Op} {w : World d} {u : SuperAdminUser}
    (hu : u ∈ (exec d r op w).2.users.rows) :
    ∃ v ∈ w.users.rows, v = u ∨ ∃ uop, op = .users uop ∧ UsersOp.Makes v uop u := by
  by_cases hop : ∃ uop, op = .users uop
  · obtain ⟨uop, rfl⟩ := hop
    obtain ⟨v, hv, hmakes⟩ := UsersOp.mem_exec hu
    exact ⟨v, hv, .inr ⟨uop, rfl, hmakes⟩⟩
  · rw [exec_users r op w fun uop h => hop ⟨uop, h⟩] at hu
    exact ⟨u, hu, .inl rfl⟩

end SuperAdmin
