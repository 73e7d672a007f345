import SuperAdmin.Usecase.Clients

/-! # The usecases that read the journal

`internal/usecase/journal.go` and `overview.go`. -/

namespace SuperAdmin.Usecase

open Effects

/-- `Journal.List`. -/
def Journal.list (f : AuditFilter) : Proc (Except Error (List AuditEntry × ℕ)) :=
  perform (.journal f)

/-! ### Overview -/

namespace Overview

def overviewPeriodDays : ℕ := 7
def trialHorizonDays : ℕ := 14
def trialsShown : ℕ := 5
def recentEventsShown : Int64 := 7

/-- `OverviewMetrics`. -/
structure Metrics where
  activeClients : ℕ
  trialClients : ℕ
  openTickets : ℕ
  pausedClients : ℕ

/-- `OverviewData`. -/
structure Data where
  periodDays : ℕ
  totalClients : ℕ
  metrics : Metrics
  expiringTrials : List Tenant
  events : List AuditEntry

/-- The numbers of clients and of open tickets. -/
def metrics (tenants : List Tenant) (tickets : List Ticket) : Metrics where
  activeClients := tenants.countP (·.status == .active)
  trialClients := tenants.countP (·.status == .trial)
  openTickets := tickets.countP fun t => t.status == .opened || t.status == .inProgress
  pausedClients := tenants.countP (·.status == .paused)

/-- The trials that end soon, the first five.  `sort.Slice` leaves the order of equal dates open. -/
def expiring (tenants : List Tenant) (horizon : Time) : List Tenant :=
  ((tenants.filter fun t => t.status == .trial && t.trialEndsAt.any fun ends => decide (ends ≤ horizon)).mergeSort
    fun a b => decide (a.trialEndsAt.getD Time.zero ≤ b.trialEndsAt.getD Time.zero)).take trialsShown

/-- `Overview.Get`. -/
def get : Proc (Except Error Data) := do
  match ← perform (.tenants .list) with
  | .error e => return .error e
  | .ok tenants =>
  match ← perform (.tickets (.list {})) with
  | .error e => return .error e
  | .ok tickets =>
  let now ← perform .now
  match ← perform (.journal { limit := recentEventsShown }) with
  | .error e => return .error e
  | .ok (events, _) => return .ok {
      periodDays := overviewPeriodDays
      totalClients := tenants.length
      metrics := metrics tenants tickets
      expiringTrials := expiring tenants (now.addDays trialHorizonDays)
      events := events }

end Overview

end SuperAdmin.Usecase
