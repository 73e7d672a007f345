import SuperAdmin.Clients.Tenants

/-! # The end of a new trial

`Tenant.Create` multiplies the days of a trial as a 64-bit count of nanoseconds.  The product is exact up
to 106751 days, 292 years; more days wrap around, to an end in the past as well. -/

namespace SuperAdmin.TrialEnd

open Effects Usecase

variable {d : Deps} {r : Draws} {w w' : World d}

/-- What `Create` returns is the new row. -/
theorem create_ok {actor : AccessClaims} {input : NewTenant} {rc : RequestContext} {t : SuperAdmin.Tenant}
    (h : (Tenant.create actor input rc).run (exec d r) w = (.ok t, w')) :
    (∃ code, t = (Tenant.newTenant input w.clock code).inserted (r.uuid .row) w.clock) ∧
      t ∈ w'.clients.tenants.rows := by
  obtain ⟨code, T, rfl, hinsert, rfl⟩ := Tenant.create_ok h
  refine ⟨⟨code, rfl⟩, ?_⟩
  rw [World.audited, World.writeAudit_clients, (Table.insert?_eq_some hinsert).1]
  exact List.mem_append_right _ (List.mem_singleton_self _)

/-! ### The product -/

/-- The nanoseconds of a day. -/
def day : ℤ := 86400 * 1000000000

/-- The tenant is on a trial that ends so many days after `now`, to the microsecond that the column
keeps. -/
structure OnTrialFor (days : ℤ) (now : Time) (t : SuperAdmin.Tenant) : Prop where
  status : t.status = .trial
  ends : t.trialEndsAt = some (Time.timestamptz ⟨now.ns + days * day⟩)
  later : ∀ ends ∈ t.trialEndsAt, now < ends

theorem trialLength_toInt (days : Int64) :
    (days * 24 * Duration.hour).toInt = (days.toInt * day).bmod (2 ^ 64) := by
  have hday : (24 * Duration.hour.toInt : ℤ) = day := by decide
  rw [Int64.toInt_mul, Int64.toInt_mul, Int.bmod_mul_bmod, ← hday, Int.mul_assoc]
  rfl

/-- A product that wraps around is another instant, also to the microsecond. -/
theorem timestamptz_add_iff (now : Time) {days : Int64} (hdays : 0 < days) :
    (now.add (days * 24 * Duration.hour)).timestamptz = Time.timestamptz ⟨now.ns + days.toInt * day⟩ ↔
      days.toInt ≤ 106751 := by
  have hpos : 0 < days.toInt := Int64.lt_iff_toInt_lt.mp hdays
  have hlength := trialLength_toInt days
  rw [Int.bmod_def] at hlength
  have hkept : (now.add (days * 24 * Duration.hour)).timestamptz =
      Time.timestamptz ⟨now.ns + days.toInt * day⟩ ↔
      (now.ns + (days * 24 * Duration.hour).toInt) / 1000 = (now.ns + days.toInt * day) / 1000 := by
    show Time.mk ((now.ns + (days * 24 * Duration.hour).toInt) / 1000 * 1000) =
      Time.mk ((now.ns + days.toInt * day) / 1000 * 1000) ↔ _
    rw [Time.mk.injEq]
    omega
  rw [hkept, hlength]
  unfold day
  constructor
  · intro h
    split at h <;> omega
  · intro h
    split <;> omega

/-- A tenant that `Create` returns is stored, and it is on the trial that was asked for exactly if that
is not longer than 106751 days. -/
theorem create_onTrialFor_iff {actor : AccessClaims} {input : NewTenant} {rc : RequestContext}
    {t : SuperAdmin.Tenant} (hdays : 0 < input.trialDays)
    (h : (Tenant.create actor input rc).run (exec d r) w = (.ok t, w')) :
    t ∈ w'.clients.tenants.rows ∧
      (OnTrialFor input.trialDays.toInt w.clock t ↔ input.trialDays.toInt ≤ 106751) := by
  obtain ⟨⟨code, rfl⟩, hstored⟩ := create_ok h
  refine ⟨hstored, ?_⟩
  have hpos : 0 < input.trialDays.toInt := Int64.lt_iff_toInt_lt.mp hdays
  have hends : ((Tenant.newTenant input w.clock code).inserted (r.uuid .row) w.clock).trialEndsAt =
      some (w.clock.add (input.trialDays * 24 * Duration.hour)).timestamptz := by
    show Option.map Time.timestamptz (if input.trialDays > 0 then _ else none) = _
    rw [if_pos hdays]
    rfl
  rw [← timestamptz_add_iff w.clock hdays]
  constructor
  · intro htrial
    have hsame := htrial.ends
    rw [hends] at hsame
    exact Option.some.inj hsame
  · intro hsame
    refine ⟨if_pos hdays, by rw [hends, hsame], ?_⟩
    rw [hends, hsame]
    rintro ends ⟨⟩
    show w.clock.ns < (w.clock.ns + input.trialDays.toInt * day) / 1000 * 1000
    unfold day
    omega

/-! ### Two clients -/

/-- A client is created with a trial of so many days. -/
def created (days : Int64) : Except Error SuperAdmin.Tenant × World Sample.deps :=
  (Tenant.create Sample.firstClaims (Tenants.newClient days) Sample.context).run
    (exec Sample.deps (Sample.draws 0)) Sample.world

/-- A trial of two weeks. -/
theorem create_onTrialFor_fortnight :
    ∃ t, (created 14).1 = .ok t ∧ OnTrialFor 14 Sample.start t := by
  have hok : (created 14).1.isOk = true := by decide
  cases hres : (created 14).1 with
  | error e =>
      rw [hres] at hok
      cases hok
  | ok t =>
      exact ⟨t, rfl, (create_onTrialFor_iff (by decide) (Prod.ext hres rfl)).2.mpr (by decide)⟩

/-- A trial of 106752 days ended before it began. -/
theorem create_wraps : ¬ ∀ (d : Deps) (r : Draws) (w w' : World d) (actor : AccessClaims)
    (input : NewTenant) (rc : RequestContext) (t : SuperAdmin.Tenant),
    946684800 * 1000000000 ≤ w.clock.ns → w.clock.ns < 253402300800 * 1000000000 →
    0 < input.trialDays → (Tenant.create actor input rc).run (exec d r) w = (.ok t, w') →
    OnTrialFor input.trialDays.toInt w.clock t := by
  intro hclaim
  have hpast : (created 106752).1.toOption.any (fun t => t.trialEndsAt.any fun ends =>
      decide (ends ≤ Sample.start)) = true := by decide
  cases hres : (created 106752).1 with
  | error e =>
      rw [hres] at hpast
      cases hpast
  | ok t =>
      have htrial := hclaim _ _ _ _ _ _ _ t (by decide) (by decide) (by decide)
        (Prod.ext hres rfl)
      rw [hres] at hpast
      have hended : t.trialEndsAt.any (fun ends => decide (ends ≤ Sample.start)) = true := hpast
      rw [Option.any_eq_true] at hended
      obtain ⟨ends, hends, hle⟩ := hended
      exact not_le_of_gt (htrial.later ends hends) (of_decide_eq_true hle)

end SuperAdmin.TrialEnd
