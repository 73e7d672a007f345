import SuperAdmin.Journal.Pages
import SuperAdmin.Http.Answers
import SuperAdmin.Access.Passing
import SuperAdmin.Endings

/-! # What the journal tells a role that may not read it

A role without `audit_log:read` may still call two routes that show entries of the journal, under the
permission for another resource: the overview and the journal of a client.  But for the entries that
these two show, no answer to such a role depends on the journal. -/

namespace SuperAdmin.Confidential

open Effects Http

variable {d : Deps} {web : Web} {r : Draws} {req : Request}

/-! ### States with another journal -/

/-- Two states that differ in `audit_logs` only. -/
def SameButLog (w w' : World d) : Prop := ∃ log, w' = { w with audit := log }

/-- A call that does not read the journal is answered alike. -/
theorem exec_sameButLog {op : Op} {w w' : World d} (hop : op.skipsLog = true) (h : SameButLog w w') :
    (exec d r op w).1 = (exec d r op w').1 ∧
      SameButLog (exec d r op w).2 (exec d r op w').2 := by
  obtain ⟨log, rfl⟩ := h
  cases op with
  | audit e =>
      have huser : World.hasUser ({ w with audit := log } : World d) = w.hasUser := rfl
      show (w.writeAudit e).1 = (World.writeAudit { w with audit := log } e).1 ∧
        SameButLog (w.writeAudit e).2 (World.writeAudit { w with audit := log } e).2
      unfold World.writeAudit
      rw [huser]
      split
      · exact ⟨rfl, _, rfl⟩
      · exact ⟨rfl, _, rfl⟩
  | journal f => cases hop
  | _ => exact ⟨rfl, log, rfl⟩

/-- A program that does not read the journal returns the same. -/
theorem run_sameButLog {α : Type} {p : Proc α} (hp : p.Only fun op : Op => op.skipsLog = true)
    {w w' : World d} (h : SameButLog w w') :
    (p.run (exec d r) w).1 = (p.run (exec d r) w').1 ∧
      SameButLog (p.run (exec d r) w).2 (p.run (exec d r) w').2 :=
  hp.related (fun _ _ _ hop hw => exec_sameButLog hop hw) h

/-! ### Handlers that do not read the journal -/

theorem skipsLog_of_byAuth {op : Op} (h : op.byAuth = true) : op.skipsLog = true := by
  cases op with
  | journal f => cases h
  | _ => rfl

theorem closed_true : Closed fun _ => True := ⟨fun _ _ => trivial, trivial, trivial, fun _ _ _ => trivial⟩

theorem skipsLog_respond {α : Type} {res : Except Error α} {k : α → Proc Response}
    (hk : ∀ a, (k a).Only fun op : Op => op.skipsLog = true) :
    (respond res k).Only fun op : Op => op.skipsLog = true := by
  cases res with
  | error e => trivial
  | ok a => exact hk a

/-- The routes under `/auth`. -/
theorem handle_skipsLog_auth {ctx : Context} (hauth : req.route.underAuth = true) :
    (handle d web req ctx).Only fun op : Op => op.skipsLog = true := by
  unfold handle
  cases hroute : req.route with
  | login =>
      unfold Handler.Auth.login
      cases bound (bindLogin web req) "body" "email и пароль обязательны" with
      | error resp => trivial
      | ok input =>
          exact .bind ((Usecase.Auth.byAuth_login d req.context _).mono fun _ => skipsLog_of_byAuth)
            fun _ => skipsLog_respond fun _ => trivial
  | refresh =>
      dsimp only
      unfold Handler.Auth.refresh
      split
      · trivial
      · split
        · trivial
        · refine .bind ((Usecase.Auth.byAuth_refresh d req.context _).mono fun _ => skipsLog_of_byAuth)
            fun res => ?_
          cases res with
          | error e => dsimp only; split <;> trivial
          | ok pair => trivial
  | logout =>
      exact .bind ((Usecase.Auth.quiet_logout req.context _ _).byAuth.mono fun _ => skipsLog_of_byAuth)
        fun _ => skipsLog_respond fun _ => trivial
  | _ => rw [hroute] at hauth; cases hauth

theorem handle_skipsLog {ctx : Context} (hctx : ctx.claims.isSome = true ∨ req.route.underAuth = true)
    (hlog : req.route.readsLog = false) :
    (handle d web req ctx).Only fun op : Op => op.skipsLog = true := by
  by_cases hauth : req.route.underAuth = true
  · exact handle_skipsLog_auth hauth
  · exact (handle_plain closed_true (hctx.resolve_right hauth) (Bool.eq_false_iff.mpr hauth) hlog).only
      Op.within_true

theorem middleware_skipsLog (access : Access) :
    (middleware req access).Only fun op : Op => op.skipsLog = true :=
  middleware_only (fun _ => rfl) (fun _ => rfl) req access

/-! ### The routes that show entries -/

/-- The filter of the journal of a client. -/
def clientFilter (id : UUID) : AuditFilter :=
  { targetType := "tenant", targetID := id.string, limit := 200 }

/-- The entries of the journal that a route shows: the seven newest, or the 200 newest about a client. -/
def visible (d : Deps) (req : Request) (log : List AuditEntry) : List AuditEntry :=
  match req.route with
  | .overview => (newestFirst log).take 7
  | .tenantJournal =>
      match d.issuer.uuidParse req.id with
      | .ok id => ((clientFilter id).matching log).take 200
      | .error _ => []
  | _ => []

/-- What `Overview.Get` returns, given the events. -/
def overviewData (w : World d) (events : List AuditEntry) : Usecase.Overview.Data :=
  let tenants := w.clients.tenants.rows.mergeSort fun a b => decide (b.createdAt ≤ a.createdAt)
  let tickets := (w.clients.tickets.rows.mergeSort fun a b =>
    decide (b.lastMessageAt ≤ a.lastMessageAt)).filter (TicketFilter.keeps {})
  { periodDays := Usecase.Overview.overviewPeriodDays
    totalClients := tenants.length
    metrics := Usecase.Overview.metrics tenants tickets
    expiringTrials := Usecase.Overview.expiring tenants
      (w.clock.addDays Usecase.Overview.trialHorizonDays)
    events := events }

theorem overview_run (w : World d) :
    (Handler.Overview.get.run (exec d r) w).1 =
      .ok (Handler.Overview.toOverviewResponse (overviewData w ((newestFirst w.audit).take 7))) := by
  have htenants : exec d r (.tenants .list) w =
      (.ok (w.clients.tenants.rows.mergeSort fun a b => decide (b.createdAt ≤ a.createdAt)), w) := rfl
  have htickets : exec d r (.tickets (.list {})) w =
      (.ok ((w.clients.tickets.rows.mergeSort fun a b =>
        decide (b.lastMessageAt ≤ a.lastMessageAt)).filter (TicketFilter.keeps {})), w) := rfl
  have hnow : exec d r .now w = (w.clock, w) := rfl
  have hjournal : exec d r (.journal { limit := Usecase.Overview.recentEventsShown }) w =
      (.ok ((newestFirst w.audit).take 7, (newestFirst w.audit).length), w) := by
    have hpage : ({ limit := 7 } : AuditFilter).list w.audit = _ := AuditFilter.list_first rfl
    rw [AuditFilter.matching_all fun _ => rfl] at hpage
    exact Prod.ext hpage rfl
  unfold Handler.Overview.get Usecase.Overview.get
  simp only [Prog.run_bind, run_op, htenants, htickets, hnow, hjournal]
  rfl

theorem tenantJournal_run (w : World d) :
    ((Handler.Tenant.journal d req).run (exec d r) w).1 =
      match d.issuer.uuidParse req.id with
      | .error _ => .error (.invalid "id" Handler.Tenant.badID)
      | .ok id => .ok (.arr ((((clientFilter id).matching w.audit).take 200).map fun e => .obj [
            ("id", .str e.id.repr),
            ("occurred_at", .time e.createdAt),
            ("text", .str e.describe)])) := by
  unfold Handler.Tenant.journal paramID
  cases d.issuer.uuidParse req.id with
  | error e => rfl
  | ok id =>
      have hpage : (clientFilter id).list w.audit = _ := AuditFilter.list_first rfl
      have hjournal : exec d r (.journal (clientFilter id)) w = (.ok (_, _), w) := Prod.ext hpage rfl
      show (Prog.run (exec d r) (Prog.perform (S := Eff) (.journal (clientFilter id)) >>= _) w).1 = _
      simp only [Prog.run_bind, run_op, hjournal]
      rfl

/-! ### Confidentiality -/

/-- The claims of a request whose token the server accepts. -/
def callerClaims (w : World d) (req : Request) : Option AccessClaims :=
  (Middleware.bearerToken req.authorization).bind fun raw => (d.issuer.parse w.clock raw).toOption

/-- A handler that a request reaches finds claims, except under `/auth`, and the state as it was. -/
theorem middleware_passed {w : World d} {ctx : Context}
    (h : ((middleware req req.route.access).run (exec d r) w).1 = .ok ctx) :
    (ctx.claims.isSome = true ∨ req.route.underAuth = true) ∧
      ((middleware req req.route.access).run (exec d r) w).2 = w := by
  by_cases hanyone : req.route.access = .anyone
  · rw [hanyone]
    refine ⟨.inr ?_, rfl⟩
    revert hanyone
    cases req.route <;> decide
  · have hend := middleware_run r w req hanyone
    generalize (middleware req req.route.access).run (exec d r) w = res at hend h
    cases hend with
    | refused resp => cases h
    | passed claims hpasses =>
        cases h
        exact ⟨.inl rfl, rfl⟩

theorem Passes.callerClaims {w : World d} {claims : AccessClaims}
    (h : Middleware.Passes w req claims) : callerClaims w req = some claims := by
  obtain ⟨raw, htoken, hparse⟩ := h.token
  rw [Confidential.callerClaims, htoken, Option.bind_some, hparse]
  rfl

/-- The answer to a request of a role without `audit_log:read` depends on the journal only through the
entries that the overview and the journal of a client show. -/
theorem audit_confidential {w w' : World d} (hsame : SameButLog w w')
    (hrole : ∀ claims, callerClaims w req = some claims →
      Authz.can ⟨claims.userID.string, claims.role⟩ .auditLog .read = false)
    (hvisible : visible d req w.audit = visible d req w'.audit) :
    ((serve d web req).run (exec d r) w).1 = ((serve d web req).run (exec d r) w').1 := by
  obtain ⟨hanswer, -⟩ := run_sameButLog (d := d) (r := r) (middleware_skipsLog req.route.access) hsame
    (p := middleware req req.route.access)
  unfold serve
  simp only [Prog.run_bind]
  cases hpassed : ((middleware req req.route.access).run (exec d r) w).1 with
  | error resp =>
      rw [← hanswer, hpassed]
      rfl
  | ok ctx =>
      obtain ⟨hctx, hstate⟩ := middleware_passed hpassed
      obtain ⟨-, hstate'⟩ := middleware_passed (hanswer ▸ hpassed)
      rw [← hanswer, hpassed, hstate, hstate']
      dsimp only
      by_cases hlog : req.route.readsLog = false
      · exact (run_sameButLog (handle_skipsLog hctx hlog) hsame).1
      · unfold visible at hvisible
        unfold handle
        cases hroute : req.route with
        | overview =>
            rw [hroute] at hvisible
            dsimp only at hvisible ⊢
            rw [overview_run, overview_run, hvisible]
            obtain ⟨log, rfl⟩ := hsame
            rfl
        | tenantJournal =>
            rw [hroute] at hvisible
            dsimp only at hvisible ⊢
            rw [tenantJournal_run, tenantJournal_run]
            cases hid : d.issuer.uuidParse req.id with
            | error e => rfl
            | ok id =>
                rw [hid] at hvisible
                dsimp only at hvisible ⊢
                rw [hvisible]
        | journalList =>
            -- the policy does not let the role come here
            rw [hroute] at hpassed
            obtain ⟨claims, rfl, hpasses, hrequire⟩ := middleware_requires hpassed
            have hdenied := hrole claims (Passes.callerClaims hpasses)
            rw [Middleware.require, Middleware.contextOf] at hrequire
            dsimp only at hrequire
            rw [Authz.authorize, hdenied] at hrequire
            cases hrequire
        | _ => rw [hroute] at hlog; exact absurd rfl hlog

/-! ### A member of the support team -/

/-- What the access token of a login of the support user says. -/
def supportClaims : AccessClaims :=
  Usecase.Auth.accessClaims Sample.deps Sample.support ((Sample.draws 0).uuid .session)
    ((Sample.draws 0).uuid .accessToken) Sample.start

theorem passes_support (route : Route) {w : World Sample.deps} (hclock : w.clock = Sample.start)
    (hredis : w.redis = ⟨true, []⟩) :
    Middleware.Passes w (Sample.request route supportClaims) (Issuer.parsed supportClaims) := by
  refine Sample.passes_request route (by decide) ?_ ?_ ?_
  · rw [hclock]
    decide
  · rw [hredis]
  · rw [hredis]
    rfl

theorem denied_support (route : Route) : ∀ claims,
    callerClaims Sample.world (Sample.request route supportClaims) = some claims →
      Authz.can ⟨claims.userID.string, claims.role⟩ .auditLog .read = false := by
  intro claims h
  rw [Passes.callerClaims (passes_support route rfl rfl)] at h
  cases h
  decide

/-- The list of clients is the same to the support user, whatever the journal holds. -/
theorem audit_confidential_support :
    ((serve Sample.deps ⟨fun _ => true⟩ (Sample.request .tenantList supportClaims)).run
        (exec Sample.deps (Sample.draws 1)) Sample.world).1 =
      ((serve Sample.deps ⟨fun _ => true⟩ (Sample.request .tenantList supportClaims)).run
        (exec Sample.deps (Sample.draws 1)) (Sample.logged 5)).1 :=
  audit_confidential ⟨_, rfl⟩ (denied_support _) rfl

theorem events_of_overview {data data' : Usecase.Overview.Data}
    (h : Response.ok (Handler.Overview.toOverviewResponse data) =
      .ok (Handler.Overview.toOverviewResponse data')) : data.events.length = data'.events.length := by
  simp only [Response.ok, Handler.Overview.toOverviewResponse, Response.mk.injEq, Body.data.injEq,
    Json.obj.injEq, List.cons.injEq, Prod.mk.injEq, Json.arr.injEq, true_and, and_true] at h
  have hevents := congrArg List.length h.2.2.2.2
  rwa [List.length_map, List.length_map] at hevents

/-- The overview shows the journal to a role that may not read it. -/
theorem overview_shows_log : ¬ ∀ (d : Deps) (web : Web) (r : Draws) (req : Request) (w w' : World d),
    SameButLog w w' →
    (∀ claims, callerClaims w req = some claims →
      Authz.can ⟨claims.userID.string, claims.role⟩ .auditLog .read = false) →
    ((serve d web req).run (exec d r) w).1 = ((serve d web req).run (exec d r) w').1 := by
  intro hclaim
  have hsame := hclaim Sample.deps ⟨fun _ => true⟩ (Sample.draws 1) (Sample.request .overview supportClaims)
    Sample.world (Sample.logged 1) ⟨_, rfl⟩ (denied_support _)
  have hrun : ∀ w : World Sample.deps, w.clock = Sample.start → w.redis = ⟨true, []⟩ →
      ((serve Sample.deps ⟨fun _ => true⟩ (Sample.request .overview supportClaims)).run
        (exec Sample.deps (Sample.draws 1)) w).1 =
          .ok (Handler.Overview.toOverviewResponse (overviewData w ((newestFirst w.audit).take 7))) := by
    intro w hclock hredis
    have hpassed : (middleware (Sample.request .overview supportClaims)
        (Sample.request .overview supportClaims).route.access).run (exec Sample.deps (Sample.draws 1)) w = _ :=
      (passes_support .overview hclock hredis).middleware (Sample.draws 1) .metrics .read
        (by decide)
    rw [serve, Prog.run_bind, hpassed]
    exact overview_run w
  rw [hrun _ rfl rfl, hrun _ rfl rfl] at hsame
  have hnone : newestFirst Sample.world.audit = [] := List.mergeSort_nil
  have hone : newestFirst (Sample.logged 1).audit = (Sample.logged 1).audit :=
    List.mergeSort_singleton _
  rw [hnone, hone] at hsame
  have hlength := events_of_overview hsame
  exact absurd hlength (by decide)

end SuperAdmin.Confidential
