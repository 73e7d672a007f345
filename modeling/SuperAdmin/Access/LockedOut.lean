import SuperAdmin.Lib.History
import SuperAdmin.Http.Repertoire
import SuperAdmin.Users

/-! # A member without access gets no token

`Team.Revoke` first suspends the account and then revokes its refresh tokens.  Logins and renewals that run
beside it may have read the account before; every request that begins after the suspension is refused a
token, however its calls fall between the others.  Nothing that the server calls makes an account active
again. -/

namespace SuperAdmin

open Effects Http Usecase

/-- Whose account a call suspends. -/
def Op.suspends : Op → Option UUID
  | .users (.updateStatus id .suspended) => some id
  | _ => none

namespace LockedOut

variable {d : Deps} {r : Draws} {w : World d} {u : UUID}

/-- The account is suspended, if there is one. -/
def Locked (u : UUID) (w : World d) : Prop := ∀ v ∈ w.users.rows, v.id = u → v.status = .suspended

/-- No call that the server makes gives an account its access back. -/
theorem kept_exec {op : Op} (hop : op.regular = true) : Kept (Locked u) w (exec d r op w).2 := by
  intro hlocked v' hv' hid
  obtain ⟨v, hv, rfl | ⟨uop, rfl, hmakes⟩⟩ := mem_exec_users hv'
  · exact hlocked v hv hid
  · have hv := hlocked v hv (hmakes.id_eq.symm.trans hid)
    cases hmakes with
    | status status => exact eq_of_beq hop
    | _ => exact hv

theorem kept_ticks {w' : World d} (h : Ticks w w') : Kept (Locked u) w w' := by
  obtain ⟨t, -, rfl⟩ := h
  exact fun h => h

/-- The call that suspends an account. -/
theorem locked_suspended {op : Op} (hop : op.suspends = some u) : Locked u (exec d r op w).2 := by
  unfold Op.suspends at hop
  split at hop
  · cases hop
    intro v' hv' hid
    have hrows : (exec d r (.users (.updateStatus u .suspended)) w).2.users.rows =
        w.users.rows.map fun v => if v.id == u then { v with status := .suspended } else v :=
      w.users.rows_update (·.id == u) (fun v => { v with status := .suspended }) fun _ => rfl
    rw [hrows] at hv'
    obtain ⟨v, hv, rfl⟩ := List.mem_map.mp hv'
    by_cases hvu : (v.id == u) = true
    · rw [if_pos hvu]
    · rw [if_neg hvu] at hid
      exact absurd (beq_iff_eq.mpr hid) hvu
  · cases hop

theorem read_byEmail {email : String} {user : SuperAdminUser}
    (h : .ok user = (exec d r (.users (.getByEmail email)) w).1) : user ∈ w.users.rows :=
  (World.userByEmail_some (orNotFound_eq_ok.mp h.symm)).1

theorem read_byID {id : UUID} {user : SuperAdminUser}
    (h : .ok user = (exec d r (.users (.getByID id)) w).1) : user ∈ w.users.rows :=
  (World.userByID_some (orNotFound_eq_ok.mp h.symm)).1

variable {ι : Type} [DecidableEq ι] {draws : ι → Draws} {web : Web} {requests : ι → Request}
  {P : Pool Eff (Recorded Eff (World d) ι) ι Response} {newer mid older : List (Event Eff (World d) ι)}
  {e e' : Event Eff (World d) ι}

/-- Whoever gets a token had an active account when the same request read it. -/
theorem active_when_read {req : Request} {i : ι} {tr : List (Event Eff (World d) ι)} {sessionID : UUID}
    (h : Mediation.Proved d web req (calls (fun i => exec d (draws i)) i tr) u sessionID) :
    ∃ f ∈ tr, f.tid = i ∧ f.op.suspends = none ∧ ∃ v ∈ f.before.users.rows, v.id = u ∧ v.status = .active := by
  cases h with
  | password input user now sessionID _ huser _ _ hlogin _ =>
      obtain ⟨⟨tid, op, before⟩, hf, htid, hcall⟩ := (mem_calls _ _).mp huser
      obtain ⟨rfl, hanswer⟩ := Sigma.mk.inj hcall
      exact ⟨_, hf, htid, rfl, user, read_byEmail (eq_of_heq hanswer), rfl,
        (SuperAdminUser.ensureCanLogin_eq_none.mp hlogin).2⟩
  | token raw stored user now _ _ _ _ huser hlogin =>
      obtain ⟨⟨tid, op, before⟩, hf, htid, hcall⟩ := (mem_calls _ _).mp huser
      obtain ⟨rfl, hanswer⟩ := Sigma.mk.inj hcall
      exact ⟨_, hf, htid, rfl, user, read_byID (eq_of_heq hanswer), rfl,
        (SuperAdminUser.ensureCanLogin_eq_none.mp hlogin).2⟩

variable {w₀ : World d}

/-- **Whoever is suspended is locked out.** Once the call that suspends a member has been executed, no
request that begins later obtains an access token or a refresh token for this member, whatever requests run
beside it and however their calls interleave. -/
theorem suspended_locked_out
    (hr : Pool.Run (record fun i => exec d (draws i)) (recordEnv Ticks) (fun _ _ _ => True)
      (Mediation.serverPool d web requests w₀) P)
    (htrace : P.state.trace = newer ++ e' :: mid ++ e :: older) (hsuspends : e.op.suspends = some u)
    (hbegins : ∀ f ∈ older, f.tid ≠ e'.tid) (sessionID : UUID) : e'.op.opens ≠ some (u, sessionID) := by
  intro hopens
  obtain ⟨f, hf, htid, hnone, v, hv, hid, hactive⟩ := active_when_read
    ((Mediation.run_allowed hr (htrace.trans (List.append_assoc _ _ _))).opens u sessionID hopens)
  -- the account was read after the suspension
  have hfmid : f ∈ mid := by
    rcases List.mem_append.mp hf with hf | hf
    · exact hf
    · rcases List.mem_cons.mp hf with rfl | hf
      · rw [hsuspends] at hnone
        cases hnone
      · exact absurd htid (hbegins f hf)
  have hclimbs := (Repertoire.run_within hr).climbing (Kept (Locked u)) rfl (fun _ h => h)
    (fun _ _ _ => Kept.trans) (fun _ _ _ hop => kept_exec hop.1) fun _ _ => kept_ticks
  rw [htrace] at hclimbs
  have hlocked := hclimbs.between (fun _ _ _ => Kept.trans)
    (List.mem_append_right newer (List.mem_cons_of_mem e' hfmid)) (locked_suspended hsuspends) v hv hid
  rw [hactive] at hlocked
  cases hlocked

/-! ### The owner suspends a member who then logs in -/

/-- The member logs in. -/
def memberRequest : Request where
  route := .login
  body := some (.obj [("email", .str Sample.support.email), ("password", .str "correct horse")])
  ip := Sample.context.ip
  userAgent := Sample.context.userAgent

/-- The owner's request runs as far as the suspension, then the member's begins. -/
def twoRequests : Pool Eff (Recorded Eff (World Mediation.desk) (Fin 2)) (Fin 2) Response :=
  (Mediation.serverPool Mediation.desk ⟨fun _ => true⟩
    (fun i : Fin 2 => if i = 0 then Mediation.revokeRequest else memberRequest) Mediation.deskWorld).play
    (record fun _ => exec Mediation.desk (Sample.draws 0)) [0, 0, 0, 0, 0, 1, 0, 1, 0, 1]

/-- The last call of the member's request makes no token. -/
theorem suspended_locked_out_member : ∃ newer e' older, twoRequests.state.trace = newer ++ e' :: older ∧
    e'.tid = 1 ∧ ∀ sessionID, e'.op.opens ≠ some (Sample.support.id, sessionID) := by
  have htold : twoRequests.state.trace.map (fun e => (e.tid, e.op.suspends)) =
      [] ++ ((1, none) :: [(0, none), (1, none), (0, none), (1, none)] ++
        (0, some Sample.support.id) :: [(0, none), (0, none), (0, none), (0, none)]) := by decide
  obtain ⟨newer, e', mid, e, older, htrace, he', he, holder⟩ := exists_two_events _ htold
  obtain ⟨htid, -⟩ := Prod.mk.inj he'
  obtain ⟨-, hsuspends⟩ := Prod.mk.inj he
  have hbegins : ∀ f ∈ older, f.tid ≠ e'.tid := by
    intro f hf
    have hmem := List.mem_map_of_mem (f := fun e => (e.tid, e.op.suspends)) hf
    rw [holder] at hmem
    simp only [List.mem_cons, List.not_mem_nil, or_false, or_self] at hmem
    rw [htid, (Prod.mk.inj hmem).1]
    decide
  exact ⟨newer, e', mid ++ e :: older, htrace.trans (List.append_assoc _ _ _), htid,
    suspended_locked_out (Pool.play_run _ _) htrace hsuspends hbegins⟩

end LockedOut

end SuperAdmin
