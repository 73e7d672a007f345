import SuperAdmin.Lib.Least
import SuperAdmin.Usecase.Journal
import SuperAdmin.Sample

/-! # The trials that end soon

`Overview.Get` lists the trials that end within fourteen days so that the clients can be called before
they end.  It asks for an end that is not after the horizon, but not for one that is still to come: a
trial that ended, and that nothing closes, comes first in the list. -/

namespace SuperAdmin.Trials

open Effects Usecase Usecase.Overview

variable {tenants : List SuperAdmin.Tenant} {now : Time}

/-! ### What the panel is for -/

/-- The clients whose trial ends after `now` and within fourteen days. -/
def upcoming (tenants : List SuperAdmin.Tenant) (now : Time) : List SuperAdmin.Tenant :=
  tenants.filter fun t => t.status == .trial &&
    t.trialEndsAt.any fun ends => decide (now < ends) && decide (ends ≤ now.addDays trialHorizonDays)

/-- The trial of the one does not end after that of the other. -/
def EndsFirst (a b : SuperAdmin.Tenant) : Prop :=
  ∀ ends ∈ a.trialEndsAt, ∀ ends' ∈ b.trialEndsAt, ends ≤ ends'

/-- The answers of the repositories and of the clock: these clients, at this time. -/
def Answers (tenants : List SuperAdmin.Tenant) (now : Time) : (op : Op) → op.Res → Prop
  | .tenants .list, res => res = .ok tenants
  | .now, res => res = now
  | _, _ => True

/-! ### What `Get` shows -/

/-- The clients that `Get` chooses from. -/
def candidates (tenants : List SuperAdmin.Tenant) (horizon : Time) : List SuperAdmin.Tenant :=
  tenants.filter fun t => t.status == .trial && t.trialEndsAt.any fun ends => decide (ends ≤ horizon)

theorem endsFirst_refl (t : SuperAdmin.Tenant) : EndsFirst t t := by
  intro ends hends ends' hends'
  rw [Option.mem_def] at hends hends'
  rw [hends] at hends'
  exact (Option.some.inj hends').le

theorem leastOf_expiring (tenants : List SuperAdmin.Tenant) (horizon : Time) :
    LeastOf EndsFirst trialsShown (candidates tenants horizon) (expiring tenants horizon) := by
  refine LeastOf.mono ?_ (leastOf_take_mergeSort ?_ ?_ trialsShown (candidates tenants horizon))
  · intro a b hab ends hends ends' hends'
    rw [Option.mem_def] at hends hends'
    simpa [hends, hends'] using hab
  · intro a b c hab hbc
    rw [decide_eq_true_eq] at hab hbc ⊢
    exact hab.trans hbc
  · intro a b
    rw [Bool.or_eq_true, decide_eq_true_eq, decide_eq_true_eq]
    exact le_total _ _

theorem get_expiringTrials {data : Data} (h : Overview.get.CanReturn (Answers tenants now) (.ok data)) :
    data.expiringTrials = expiring tenants (now.addDays trialHorizonDays) := by
  obtain ⟨listed, rfl, tickets, -, h⟩ := h
  cases tickets with
  | error e => cases h
  | ok tickets =>
      obtain ⟨clock, rfl, events, -, h⟩ := h
      cases events with
      | error e => cases h
      | ok page =>
          cases h
          rfl

/-- Where no trial has ended, `Get` chooses from the trials to come. -/
theorem candidates_eq_upcoming
    (hcome : ∀ t ∈ tenants, t.status = .trial → ∀ ends ∈ t.trialEndsAt, now < ends) :
    candidates tenants (now.addDays trialHorizonDays) = upcoming tenants now := by
  refine List.filter_congr fun t ht => ?_
  by_cases htrial : t.status = .trial
  · cases hends : t.trialEndsAt with
    | none => rfl
    | some ends =>
        have hlater := hcome t ht htrial ends hends
        simp [htrial, hlater]
  · rw [beq_false_of_ne htrial, Bool.false_and, Bool.false_and]

/-- The list of `Get` is the five trials to come that end first exactly if no client is on a trial that
has ended. -/
theorem expiringTrials_iff {data : Data}
    (h : Overview.get.CanReturn (Answers tenants now) (.ok data)) :
    LeastOf EndsFirst trialsShown (upcoming tenants now) data.expiringTrials ↔
      ∀ t ∈ tenants, t.status = .trial → ∀ ends ∈ t.trialEndsAt, now < ends := by
  have hleast := leastOf_expiring tenants (now.addDays trialHorizonDays)
  rw [get_expiringTrials h]
  constructor
  · intro hshown t ht htrial ends hends
    by_contra hpast
    have hnow : now ≤ now.addDays trialHorizonDays := by
      show now.ns ≤ now.ns + (trialHorizonDays : ℤ) * (86400 * 1000000000)
      unfold trialHorizonDays
      omega
    have hcandidate : t ∈ candidates tenants (now.addDays trialHorizonDays) := by
      rw [Option.mem_def] at hends
      refine List.mem_filter.mpr ⟨ht, ?_⟩
      simpa [htrial, hends] using (not_lt.mp hpast).trans hnow
    -- a client whose trial ends no later is in the list
    obtain ⟨first, hfirst, hle⟩ := hleast.exists_le endsFirst_refl (by decide) hcandidate
    have hcoming := (List.mem_filter.mp (hshown.mem hfirst)).2
    rw [Bool.and_eq_true, Option.any_eq_true] at hcoming
    obtain ⟨-, ends', hends', hlater⟩ := hcoming
    rw [Bool.and_eq_true, decide_eq_true_eq] at hlater
    exact hpast (hlater.1.trans_le (hle ends' hends' ends hends))
  · intro hcome
    rwa [candidates_eq_upcoming hcome] at hleast

/-! ### Two panels -/

/-- What `Get` returns for such clients, with no tickets and no events. -/
def shown (tenants : List SuperAdmin.Tenant) : Data where
  periodDays := overviewPeriodDays
  totalClients := tenants.length
  metrics := metrics tenants []
  expiringTrials := expiring tenants (Sample.start.addDays trialHorizonDays)
  events := []

theorem get_shown (tenants : List SuperAdmin.Tenant) :
    Overview.get.CanReturn (Answers tenants Sample.start) (.ok (shown tenants)) :=
  ⟨.ok tenants, rfl, .ok [], trivial, Sample.start, rfl, .ok ([], 0), trivial, rfl⟩

/-- Two trials to come, and one that ends after the horizon. -/
theorem expiringTrials_two :
    LeastOf EndsFirst trialsShown
      (upcoming [Sample.onTrial 1 "a@example.com" 9, Sample.onTrial 2 "b@example.com" 2,
        Sample.onTrial 3 "c@example.com" 20] Sample.start)
      (shown [Sample.onTrial 1 "a@example.com" 9, Sample.onTrial 2 "b@example.com" 2,
        Sample.onTrial 3 "c@example.com" 20]).expiringTrials :=
  (expiringTrials_iff (get_shown _)).mpr (by decide)

/-- A trial that ended yesterday is shown. -/
theorem ended_trial_shown : ¬ ∀ (tenants : List SuperAdmin.Tenant) (now : Time) (data : Data),
    Overview.get.CanReturn (Answers tenants now) (.ok data) →
      LeastOf EndsFirst trialsShown (upcoming tenants now) data.expiringTrials := by
  intro hclaim
  have hleast := hclaim _ _ _ (get_shown [Sample.onTrial 1 "a@example.com" (-1)])
  have hshown : Sample.onTrial 1 "a@example.com" (-1) ∈
      (shown [Sample.onTrial 1 "a@example.com" (-1)]).expiringTrials := by decide +kernel
  have hcome := hleast.mem hshown
  revert hcome
  decide

end SuperAdmin.Trials
