import SuperAdmin.Clients.Tenants

/-! # Suspending and resuming a client

A row has one column for the status, and `Resume` sets it to `active`.  Suspending a client any number of
times and resuming it thus gives back everything but the status of a trial. -/

namespace SuperAdmin.Suspension

open Effects Usecase

variable {d : Deps} {w : World d} {id : UUID} {t : SuperAdmin.Tenant}

/-- The stored tenant with an id. -/
def tenantByID (w : World d) (id : UUID) : Option SuperAdmin.Tenant := w.clients.tenants.find? (·.id == id)

/-- A row with another status and its reason. -/
def withStatus (t : SuperAdmin.Tenant) (status : TenantStatus) (reason : Option String) :
    SuperAdmin.Tenant := { t with status := status, suspendedReason := reason }

@[simp] theorem withStatus_withStatus (status status' : TenantStatus) (reason reason' : Option String) :
    withStatus (withStatus t status reason) status' reason' = withStatus t status' reason' := rfl

/-! ### One change of the status -/

section change

variable (r : Draws) (hstored : tenantByID w id = some t) (status : TenantStatus) (reason : Option String)
include hstored

/-- `UpdateTenantStatus` returns the row as it stores it. -/
theorem exec_updateStatus :
    (exec d r (.tenants (.updateStatus id status reason)) w).1 = .ok (withStatus t status reason) ∧
      tenantByID (w.after r (.tenants (.updateStatus id status reason))) id =
        some (withStatus t status reason) := by
  have hfound := Table.find?_update (t := w.clients.tenants) (p := (·.id == id))
    (f := fun t => withStatus t status reason) (fun _ => rfl) fun _ => rfl
  have hrow := hfound.trans (congrArg (Option.map _) hstored)
  exact ⟨congrArg orNotFound hrow, hrow⟩

/-- A call that changes the status, returns the row and writes an entry. -/
theorem run_updateStatus {f : Except Error SuperAdmin.Tenant → Proc (Except Error SuperAdmin.Tenant)}
    (hok : ∀ t w', ∃ entry, (f (.ok t)).run (exec d r) w' = (.ok t, w'.audited entry)) :
    let res := (perform (.tenants (.updateStatus id status reason)) >>= f).run (exec d r) w
    res.1 = .ok (withStatus t status reason) ∧ tenantByID res.2 id = some (withStatus t status reason) := by
  obtain ⟨hanswer, hrow⟩ := exec_updateStatus r hstored status reason
  obtain ⟨entry, hrun⟩ := hok (withStatus t status reason)
    (w.after r (.tenants (.updateStatus id status reason)))
  dsimp only
  rw [Prog.run_bind, run_op, hanswer, hrun]
  refine ⟨rfl, ?_⟩
  show (World.writeAudit _ _).2.clients.tenants.find? _ = _
  rw [World.writeAudit_clients]
  exact hrow

end change

/-! ### Suspensions and a resumption -/

/-- A call of `Tenant.Suspend`. -/
structure Suspend where
  now : Time
  draws : Draws
  actor : AccessClaims
  reason : String
  rc : RequestContext

/-- Suspend a tenant as often as the list says. -/
def suspendAll (d : Deps) (id : UUID) (l : List Suspend) (w : World d) : World d :=
  l.foldl (fun w s => ((Tenant.suspend s.actor id s.reason s.rc).run (exec d s.draws)
    { w with clock := s.now }).2) w

/-- A suspension changes the status and its reason. -/
theorem suspend_row (hstored : tenantByID w id = some t) {s : Suspend} (hreason : s.reason ≠ "") :
    tenantByID ((Tenant.suspend s.actor id s.reason s.rc).run (exec d s.draws)
      { w with clock := s.now }).2 id =
        some (withStatus t .paused (some s.reason)) := by
  unfold Tenant.suspend
  rw [if_neg hreason]
  have hstored' : tenantByID { w with clock := s.now } id = some t := hstored
  exact (run_updateStatus s.draws hstored' .paused (some s.reason) fun _ _ => ⟨_, rfl⟩).2

/-- After any number of suspensions only the status and its reason are other ones. -/
theorem suspendAll_row (l : List Suspend) (hreasons : ∀ s ∈ l, s.reason ≠ "")
    (hstored : tenantByID w id = some t) :
    ∃ status reason, tenantByID (suspendAll d id l w) id = some (withStatus t status reason) := by
  induction l generalizing w t with
  | nil => exact ⟨t.status, t.suspendedReason, hstored⟩
  | cons s l ih =>
      have hnext := suspend_row hstored (hreasons s List.mem_cons_self)
      obtain ⟨status, reason, hrow⟩ := ih (fun s' hs' => hreasons s' (List.mem_cons_of_mem s hs')) hnext
      exact ⟨status, reason, hrow⟩

/-- A tenant that is suspended any number of times and then resumed is active, for no reason, and is
otherwise as it was. -/
theorem resume_after_suspends (l : List Suspend) (hreasons : ∀ s ∈ l, s.reason ≠ "")
    (hstored : tenantByID w id = some t) (now : Time) (r : Draws) (actor : AccessClaims)
    (rc : RequestContext) :
    let res := (Tenant.resume actor id rc).run (exec d r) { suspendAll d id l w with clock := now }
    res.1 = .ok (withStatus t .active none) ∧ tenantByID res.2 id = some (withStatus t .active none) := by
  obtain ⟨status, reason, hrow⟩ := suspendAll_row l hreasons hstored
  have hrow' : tenantByID { suspendAll d id l w with clock := now } id = _ := hrow
  exact run_updateStatus r hrow' .active none fun _ _ => ⟨_, rfl⟩

/-! ### A trial -/

/-- A client on a trial of nine days, and nobody else. -/
def trial : World Sample.deps :=
  { Sample.world with clients := {
      Sample.world.clients with tenants := ⟨[Sample.onTrial 1 "a@example.com" 9], List.pairwise_singleton _ _⟩ } }

/-- A suspension for a reason. -/
def suspend (reason : String) : Suspend where
  now := Sample.start
  draws := Sample.draws 0
  actor := Sample.firstClaims
  reason := reason
  rc := Sample.context

/-- The client is suspended, and then resumed. -/
def resumed (reasons : List String) : Except Error SuperAdmin.Tenant × World Sample.deps :=
  (Tenant.resume Sample.firstClaims 1 Sample.context).run (exec Sample.deps (Sample.draws 0))
    { suspendAll Sample.deps 1 (reasons.map suspend) trial with clock := Sample.start }

/-- Two suspensions. -/
theorem resume_after_two :
    (resumed ["долг", "долг за май"]).1 =
        .ok (withStatus (Sample.onTrial 1 "a@example.com" 9) .active none) ∧
      tenantByID (resumed ["долг", "долг за май"]).2 1 =
        some (withStatus (Sample.onTrial 1 "a@example.com" 9) .active none) :=
  resume_after_suspends _ (by decide) (by decide) _ _ _ _

/-- The columns that tell the state of a client are the same. -/
structure Undone (t t' : SuperAdmin.Tenant) : Prop where
  status : t'.status = t.status
  trialEndsAt : t'.trialEndsAt = t.trialEndsAt
  suspendedReason : t'.suspendedReason = t.suspendedReason
  plan : t'.plan = t.plan
  activationCode : t'.activationCode = t.activationCode
  activationCodeExpiresAt : t'.activationCodeExpiresAt = t.activationCodeExpiresAt

/-- A trial is not resumed. -/
theorem trial_resumed_active : ¬ ∀ (d : Deps) (w : World d) (id : UUID) (t t' : SuperAdmin.Tenant)
    (l : List Suspend) (now : Time) (r : Draws) (actor : AccessClaims) (rc : RequestContext),
    tenantByID w id = some t → t.status ≠ .paused → l ≠ [] → (∀ s ∈ l, s.reason ≠ "") →
    tenantByID ((Tenant.resume actor id rc).run (exec d r)
      { suspendAll d id l w with clock := now }).2 id = some t' → Undone t t' := by
  intro hclaim
  have hstored : tenantByID trial 1 = some (Sample.onTrial 1 "a@example.com" 9) := by decide
  have hstatus : (tenantByID (resumed ["долг"]).2 1).map (·.status) = some .active := by decide
  obtain ⟨t', hrow, hactive⟩ := Option.map_eq_some_iff.mp hstatus
  have hundone := hclaim _ _ _ _ t' [suspend "долг"] _ _ _ _ hstored (by decide) (List.cons_ne_nil _ _)
    (by decide) hrow
  have htrial : t'.status = .trial := hundone.status
  rw [hactive] at htrial
  cases htrial

end SuperAdmin.Suspension
