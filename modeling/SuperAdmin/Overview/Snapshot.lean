import SuperAdmin.Lib.Snapshot
import SuperAdmin.Usecase.Journal
import SuperAdmin.Endings
import SuperAdmin.Clients.Suspension

/-! # Whether the overview shows one moment

`Overview.Get` asks for the clients, then for the tickets, then for the latest entries of the journal.  What
it returns is the overview of one instant unless, while it reads, a step of another call leaves out of date
what it has read and changes what it still has to read.  Such a step is there: suspending a client after
`Get` has read the clients, and before it reads the entry about it. -/

namespace SuperAdmin.Snapshot

open Effects Usecase Usecase.Overview

variable {d : Deps} {ι β : Type}

/-! ### What `Get` makes of a state -/

/-- The clients that `TenantRepo.List` returns. -/
def clients (w : World d) : List SuperAdmin.Tenant :=
  w.clients.tenants.rows.mergeSort fun a b => decide (b.createdAt ≤ a.createdAt)

/-- The tickets that `TicketRepo.List` returns without a filter. -/
def tickets (w : World d) : List SuperAdmin.Ticket :=
  (w.clients.tickets.rows.mergeSort fun a b => decide (b.lastMessageAt ≤ a.lastMessageAt)).filter
    ({} : TicketFilter).keeps

/-- The number of open tickets. -/
def openTickets (w : World d) : ℕ := (metrics [] (tickets w)).openTickets

/-- The latest entries of the journal. -/
def events (w : World d) : Except Error (List AuditEntry) :=
  (({ limit := recentEventsShown } : AuditFilter).list w.audit).map Prod.fst

/-- `Get` shows the same of the clients, whenever it shows it. -/
structure SameClients (w w' : World d) : Prop where
  total : (clients w).length = (clients w').length
  metrics : metrics (clients w) [] = metrics (clients w') []
  expiring : ∀ horizon, expiring (clients w) horizon = expiring (clients w') horizon

theorem SameClients.refl (w : World d) : SameClients w w := ⟨rfl, rfl, fun _ => rfl⟩

/-- The overview of a state at a time. -/
def overview (w : World d) (now : Time) : Except Error Data :=
  (events w).map fun events => {
    periodDays := overviewPeriodDays
    totalClients := (clients w).length
    metrics := metrics (clients w) (tickets w)
    expiringTrials := expiring (clients w) (now.addDays trialHorizonDays)
    events := events }

section reads

variable (r : Draws) (w : World d)

theorem exec_clients : exec d r (.tenants .list) w = (.ok (clients w), w) := rfl

theorem exec_tickets : exec d r (.tickets (.list {})) w = (.ok (tickets w), w) := rfl

theorem exec_journal (f : AuditFilter) : exec d r (.journal f) w = (f.list w.audit, w) := rfl

/-- `Get` alone returns the overview of the state. -/
theorem get_run : (Overview.get.run (exec d r) w).1 = overview w w.clock := by
  unfold Overview.get overview events
  simp only [Prog.run_bind, run_op, exec_clients, exec_tickets, exec_now, exec_journal]
  cases ({ limit := recentEventsShown } : AuditFilter).list w.audit with
  | error e => rfl
  | ok page => rfl

end reads

/-- What `Get` makes of pieces that agree with a state is the overview of the state. -/
theorem overview_eq {read read' w : World d} (hclients : SameClients read w)
    (htickets : openTickets w = openTickets read') {found : List AuditEntry} (hfound : events w = .ok found)
    (now : Time) : overview w now = .ok {
      periodDays := overviewPeriodDays
      totalClients := (clients read).length
      metrics := metrics (clients read) (tickets read')
      expiringTrials := expiring (clients read) (now.addDays trialHorizonDays)
      events := found } := by
  have hmetrics : metrics (clients read) (tickets read') = metrics (clients w) (tickets w) := by
    have hcounts := hclients.metrics
    unfold openTickets at htickets
    simp only [metrics, Metrics.mk.injEq] at hcounts htickets ⊢
    exact ⟨hcounts.1, hcounts.2.1, htickets.symm, hcounts.2.2.2⟩
  unfold overview
  rw [hfound, hclients.total, hmetrics, hclients.expiring]
  rfl

/-! ### Calls around `Get` -/

/-- `Get` among other calls, which are any programs over the ports. -/
def overviewPool (others : ι → Proc β) (w : World d) :
    Pool Eff (Recorded Eff (World d) (Option ι)) (Option ι) (Except Error Data ⊕ β) where
  state := ⟨w, []⟩
  thread
    | none => Sum.inl <$> Overview.get
    | some i => Sum.inr <$> others i

/-- The data are the overview of an instant between the first and the last call of `Get`, at a time
between the two. -/
def IsSnapshot (tr : List (Event Eff (World d) (Option ι))) (data : Data) : Prop :=
  ∃ w w', During none tr w ∧ During none tr w' ∧
    ∀ r, (Overview.get.run (exec d r) { w with clock := w'.clock }).1 = .ok data

/-- The call for the clients. -/
def readsClients : Op → Bool
  | .tenants .list => true
  | _ => false

/-- The call for the tickets. -/
def readsTickets : Op → Bool
  | .tickets (.list _) => true
  | _ => false

/-- The call for the journal. -/
def readsEvents : Op → Bool
  | .journal _ => true
  | _ => false

/-- The state in which `Get` has made a call, if it has. -/
def readAt (reads : Op → Bool) (s : Recorded Eff (World d) (Option ι)) : Option (World d) :=
  (s.trace.find? fun e => e.tid.isNone && reads e.op).map (·.before)

/-- While `Get` is under way, another call makes no step that leaves out of date what `Get` has read and
changes what it still has to read. -/
def Apart (draws : Option ι → Draws) (i : Option ι) (op : Op) (s : Recorded Eff (World d) (Option ι)) : Prop :=
  i ≠ none → ∀ read ∈ readAt readsClients s, readAt readsEvents s = none →
    let w := (exec d (draws i) op s.now).2
    match readAt readsTickets s with
    | none => SameClients read w ∨ (openTickets w = openTickets s.now ∧ events w = events s.now)
    | some read' => (SameClients read w ∧ openTickets w = openTickets read') ∨ events w = events s.now

/-! ### What `Get` has read stays that of one instant -/

section run

variable (draws : Option ι → Draws)

/-- A step that is not one of `Get`. -/
inductive Other : Recorded Eff (World d) (Option ι) → Recorded Eff (World d) (Option ι) → Prop
  | act (s : Recorded Eff (World d) (Option ι)) (i : ι) (op : Op) (h : Apart draws (some i) op s) :
      Other s (record (fun i => exec d (draws i)) (some i) op s).2
  | tick (s s' : Recorded Eff (World d) (Option ι)) (h : recordEnv Ticks s s') : Other s s'

/-- `Get` runs among such steps. -/
def rules : Rules Eff (Recorded Eff (World d) (Option ι)) where
  assume _ _ := True
  rely := Relation.ReflTransGen (Other draws)
  guar _ _ := True
  rely_refl _ := .refl
  rely_trans := .trans

variable {draws} {s s' : Recorded Eff (World d) (Option ι)} {read read' : World d}

/-- What each of the other steps keeps, all of them keep. -/
theorem kept {J : Recorded Eff (World d) (Option ι) → Prop} (hJ : ∀ s s', Other draws s s' → J s → J s')
    (h : (rules draws).rely s s') (hs : J s) : J s' := by
  induction h with
  | refl => exact hs
  | tail _ hstep ih => exact hJ _ _ hstep ih

/-- The other steps make no call of `Get`. -/
theorem readAt_other (reads : Op → Bool) (h : Other draws s s') : readAt reads s' = readAt reads s := by
  cases h with
  | act i op h => rfl
  | tick _ htick =>
      unfold readAt
      rw [htick.2]

/-- A call of `Get` is the latest of its kind. -/
theorem readAt_record (reads : Op → Bool) (op : Op) (s : Recorded Eff (World d) (Option ι)) :
    readAt reads (record (fun i => exec d (draws i)) none op s).2 =
      if reads op then some s.now else readAt reads s := by
  unfold readAt
  rw [record_trace, List.find?_cons]
  cases reads op <;> simp

/-- Time shows in nothing that `Get` reads of the database. -/
theorem sameClients_tick {w w' : World d} (h : Ticks w w') : SameClients read w ↔ SameClients read w' := by
  obtain ⟨t, -, rfl⟩ := h
  exact ⟨fun h => ⟨h.total, h.metrics, h.expiring⟩, fun h => ⟨h.total, h.metrics, h.expiring⟩⟩

theorem openTickets_tick {w w' : World d} (h : Ticks w w') : openTickets w' = openTickets w := by
  obtain ⟨t, -, rfl⟩ := h
  rfl

theorem events_tick {w w' : World d} (h : Ticks w w') : events w' = events w := by
  obtain ⟨t, -, rfl⟩ := h
  rfl

/-- `Get` has made no call. -/
structure Idle (s : Recorded Eff (World d) (Option ι)) : Prop where
  clients : readAt readsClients s = none
  tickets : readAt readsTickets s = none
  events : readAt readsEvents s = none

/-- `Get` has read the clients. -/
structure ReadClients (read : World d) (s : Recorded Eff (World d) (Option ι)) : Prop where
  clients : readAt readsClients s = some read
  tickets : readAt readsTickets s = none
  events : readAt readsEvents s = none
  held : Held none (SameClients read) (fun w => (openTickets w, Snapshot.events w)) s

/-- `Get` has read the clients and the tickets. -/
structure ReadTickets (read read' : World d) (s : Recorded Eff (World d) (Option ι)) : Prop where
  clients : readAt readsClients s = some read
  tickets : readAt readsTickets s = some read'
  events : readAt readsEvents s = none
  held : Held none (fun w => SameClients read w ∧ openTickets w = openTickets read') Snapshot.events s

theorem Idle.other (h : Other draws s s') (hs : Idle s) : Idle s' where
  clients := (readAt_other _ h).trans hs.clients
  tickets := (readAt_other _ h).trans hs.tickets
  events := (readAt_other _ h).trans hs.events

theorem ReadClients.other (h : Other draws s s') (hs : ReadClients read s) : ReadClients read s' where
  clients := (readAt_other _ h).trans hs.clients
  tickets := (readAt_other _ h).trans hs.tickets
  events := (readAt_other _ h).trans hs.events
  held := by
    cases h with
    | act i op hapart =>
        have hstep := hapart (Option.some_ne_none i) read hs.clients hs.events
        rw [hs.tickets] at hstep
        exact hs.held.other (some i) (hstep.imp_right fun h => Prod.ext h.1 h.2)
    | tick _ htick =>
        refine hs.held.env htick.2 (sameClients_tick htick.1).mp ?_
        rw [openTickets_tick htick.1, events_tick htick.1]

theorem ReadTickets.other (h : Other draws s s') (hs : ReadTickets read read' s) : ReadTickets read read' s' where
  clients := (readAt_other _ h).trans hs.clients
  tickets := (readAt_other _ h).trans hs.tickets
  events := (readAt_other _ h).trans hs.events
  held := by
    cases h with
    | act i op hapart =>
        have hstep := hapart (Option.some_ne_none i) read hs.clients hs.events
        rw [hs.tickets] at hstep
        exact hs.held.other (some i) hstep
    | tick _ htick =>
        refine hs.held.env htick.2 (fun h => ?_) (events_tick htick.1)
        rw [openTickets_tick htick.1]
        exact ⟨(sameClients_tick htick.1).mp h.1, h.2⟩

/-- What `Get` has seen stays seen. -/
theorem during_other {w : World d} (h : Other draws s s') (hs : During none s.trace w) :
    During none s'.trace w := by
  cases h with
  | act i op hapart => exact hs.cons _
  | tick _ htick => rwa [htick.2]

theorem isSnapshot_other {data : Data} (h : Other draws s s') (hs : IsSnapshot s.trace data) :
    IsSnapshot s'.trace data := by
  obtain ⟨w, w', hw, hw', hrun⟩ := hs
  exact ⟨w, w', during_other h hw, during_other h hw', hrun⟩

variable (draws) in
/-- The last call of `Get` completes the overview of an instant. -/
theorem isSnapshot_last {f : AuditFilter} {seen : World d} (hread : ReadTickets read read' s)
    (hseen : During none s.trace seen) {found : List AuditEntry} (hfound : Snapshot.events s.now = .ok found) :
    IsSnapshot (record (fun i => exec d (draws i)) none (.journal f) s).2.trace {
      periodDays := overviewPeriodDays
      totalClients := (clients read).length
      metrics := metrics (clients read) (tickets read')
      expiringTrials := expiring (clients read) (seen.clock.addDays trialHorizonDays)
      events := found } := by
  obtain ⟨w, hw, ⟨hclients, htickets⟩, hevents⟩ := hread.held.last (.journal f)
  refine ⟨w, seen, hw, hseen.cons _, fun r => ?_⟩
  rw [get_run]
  exact overview_eq hclients htickets (hevents.trans hfound) seen.clock

/-- `Get` returns the overview of an instant. -/
theorem get_safe (hidle : Idle s) :
    Overview.get.Safe (record (fun i => exec d (draws i)) none) (rules draws)
      (fun res s => ∀ data, res = .ok data → IsSnapshot s.trace data) s := by
  unfold Overview.get
  refine .step fun s₁ h₁ _ => ⟨trivial, ?_⟩
  have hidle₁ := kept (fun _ _ => Idle.other) h₁ hidle
  have hclients : ReadClients s₁.now (record (fun i => exec d (draws i)) none (.tenants .list) s₁).2 := {
    clients := readAt_record readsClients (.tenants .list) s₁
    tickets := (readAt_record readsTickets (.tenants .list) s₁).trans hidle₁.tickets
    events := (readAt_record readsEvents (.tenants .list) s₁).trans hidle₁.events
    held := Held.first rfl (.refl s₁.now) }
  refine .step fun s₂ h₂ _ => ⟨trivial, ?_⟩
  have hclients₂ := kept (fun _ _ => ReadClients.other) h₂ hclients
  have htickets : ReadTickets s₁.now s₂.now
      (record (fun i => exec d (draws i)) none (.tickets (.list {})) s₂).2 := {
    clients := (readAt_record readsClients (.tickets (.list {})) s₂).trans hclients₂.clients
    tickets := readAt_record readsTickets (.tickets (.list {})) s₂
    events := (readAt_record readsEvents (.tickets (.list {})) s₂).trans hclients₂.events
    held := hclients₂.held.read rfl }
  refine .step fun s₃ h₃ _ => ⟨trivial, ?_⟩
  have htickets₃ := kept (fun _ _ => ReadTickets.other) h₃ htickets
  have hclock : ReadTickets s₁.now s₂.now (record (fun i => exec d (draws i)) none .now s₃).2 := {
    clients := (readAt_record readsClients .now s₃).trans htickets₃.clients
    tickets := (readAt_record readsTickets .now s₃).trans htickets₃.tickets
    events := (readAt_record readsEvents .now s₃).trans htickets₃.events
    held := htickets₃.held.skip rfl }
  refine .step fun s₄ h₄ _ => ⟨trivial, ?_⟩
  have hclock₄ := kept (fun _ _ => ReadTickets.other) h₄ hclock
  have hseen : During none s₄.trace s₃.now :=
    kept (J := fun s => During none s.trace s₃.now) (fun _ _ => during_other) h₄ (During.self rfl)
  generalize hpage : (record (fun i => exec d (draws i)) none
    (.journal { limit := recentEventsShown }) s₄).1 = page
  cases page with
  | error e => exact .pure fun _ _ _ h => by cases h
  | ok page =>
      have hfound : Snapshot.events s₄.now = .ok page.1 := congrArg (Except.map Prod.fst) hpage
      have hlast := isSnapshot_last draws (f := { limit := recentEventsShown }) hclock₄ hseen hfound
      refine .pure fun s₅ h₅ data hdata => ?_
      cases hdata
      exact kept (J := fun s => IsSnapshot s.trace _) (fun _ _ => isSnapshot_other) h₅ hlast

end run

/-- In every run in which no step of another call leaves out of date what `Get` has read and changes what it
still has to read, `Get` returns the overview of an instant. -/
theorem get_isSnapshot [DecidableEq ι] {draws : Option ι → Draws} {others : ι → Proc β} {w : World d}
    {P : Pool Eff (Recorded Eff (World d) (Option ι)) (Option ι) (Except Error Data ⊕ β)}
    (hr : Pool.Run (record fun i => exec d (draws i)) (recordEnv Ticks) (Apart draws) (overviewPool others w) P)
    {data : Data} (hdone : P.thread none = .pure (.inl (.ok data))) : IsSnapshot P.state.trace data := by
  have hsafe : (Sum.inl <$> Overview.get : Proc (Except Error Data ⊕ β)).Safe
      (record (fun i => exec d (draws i)) none) (rules draws)
      (fun res s => ∀ data, res = .inl (.ok data) → IsSnapshot s.trace data) ⟨w, []⟩ := by
    refine .map ((get_safe ⟨rfl, rfl, rfl⟩).mono fun res s h data hres => ?_)
    cases hres
    exact h data rfl
  refine Pool.Run.thread_result (Γ := rules draws) (j := none) (fun _ _ _ => trivial) ?_ ?_ hr hsafe hdone data rfl
  · intro i op s hi hapart
    obtain ⟨i, rfl⟩ := Option.ne_none_iff_exists'.mp hi
    exact .single (.act s i op hapart)
  · intro s s' htick
    exact .single (.tick s s' htick)

/-! ### A client that is suspended meanwhile -/

/-- `Get`, and a call that suspends the only client. -/
def suspending : Pool Eff (Recorded Eff (World Sample.deps) (Option Unit)) (Option Unit)
    (Except Error Data ⊕ Except Error SuperAdmin.Tenant) :=
  overviewPool (fun _ => Tenant.suspend Sample.firstClaims 1 "долг" Sample.context) Suspension.trial

/-- The two under a schedule. -/
def race (schedule : List (Option Unit)) :
    Pool Eff (Recorded Eff (World Sample.deps) (Option Unit)) (Option Unit)
      (Except Error Data ⊕ Except Error SuperAdmin.Tenant) :=
  suspending.play (record fun _ => exec Sample.deps (Sample.draws 0)) schedule

/-- The client is suspended before `Get` begins, which reads the clients before the entry about it is written. -/
def early : List (Option Unit) := [some (), none, some (), some (), none, none, none]

/-- The client is suspended once `Get` has read the clients. -/
def late : List (Option Unit) := [none, some (), some (), some (), none, none, none]

/-- The data that a finished `Get` has returned. -/
def returned (p : Proc (Except Error Data ⊕ β)) : Option Data :=
  match p with
  | .pure (.inl (.ok data)) => some data
  | _ => none

theorem returned_eq_some {p : Proc (Except Error Data ⊕ β)} {data : Data} (h : returned p = some data) :
    p = .pure (.inl (.ok data)) := by
  unfold returned at h
  split at h
  · cases h
    rfl
  · cases h

/-- A call of `Get`, or one before it reads the tickets that leaves the clients that it has read. -/
def quiet (i : Option Unit) (op : Op) (s : Recorded Eff (World Sample.deps) (Option Unit)) : Bool :=
  i.isNone || (readAt readsTickets s).isNone && (readAt readsClients s).all fun read =>
    read.clients.tenants.rows == (exec Sample.deps (Sample.draws 0) op s.now).2.clients.tenants.rows

theorem sameClients_of_rows {w w' : World d} (h : w.clients.tenants.rows = w'.clients.tenants.rows) :
    SameClients w w' := by
  have hclients : clients w = clients w' := congrArg (List.mergeSort · _) h
  exact ⟨congrArg List.length hclients, congrArg (metrics · []) hclients,
    fun horizon => congrArg (expiring · horizon) hclients⟩

theorem apart_of_quiet {i : Option Unit} {op : Op} {s : Recorded Eff (World Sample.deps) (Option Unit)}
    (h : quiet i op s = true) : Apart (fun _ => Sample.draws 0) i op s := by
  intro hi read hread _
  unfold quiet at h
  rw [Option.mem_def.mp hread, Option.isNone_eq_false_iff.mpr (Option.isSome_iff_ne_none.mpr hi), Bool.false_or,
    Bool.and_eq_true, Option.isNone_iff_eq_none, Option.all_some, beq_iff_eq] at h
  rw [h.1]
  exact .inl (sameClients_of_rows h.2)

/-- The numbers of suspended clients and of entries. -/
def suspensions (data : Data) : ℕ × ℕ := (data.metrics.pausedClients, data.events.length)

/-- A suspension before `Get` reads the clients is shown with its entry, which is written after that. -/
theorem get_isSnapshot_early : ∃ data, returned ((race early).thread none) = some data ∧
    suspensions data = (1, 1) ∧ IsSnapshot (race early).state.trace data := by
  have hshown : (returned ((race early).thread none)).map suspensions = some (1, 1) := by decide +kernel
  obtain ⟨data, hdata, hcounts⟩ := Option.map_eq_some_iff.mp hshown
  have hrun : Pool.Run (record fun _ => exec Sample.deps (Sample.draws 0)) (recordEnv Ticks)
      (fun i op s => quiet i op s = true) suspending (race early) := Pool.play_meets (by decide)
  exact ⟨data, hdata, hcounts,
    get_isSnapshot (hrun.mono fun _ _ _ => apart_of_quiet) (returned_eq_some hdata)⟩

theorem suspensions_overview (w : World d) (now now' : Time) :
    (overview w now).toOption.map suspensions = (overview w now').toOption.map suspensions := by
  unfold overview
  cases events w <;> rfl

/-- A suspension between the two reads is shown by its entry only. -/
theorem get_shows_two_moments : ¬ ∀ (d : Deps) (draws : Option Unit → Draws)
    (others : Unit → Proc (Except Error SuperAdmin.Tenant)) (w : World d)
    (P : Pool Eff (Recorded Eff (World d) (Option Unit)) (Option Unit)
      (Except Error Data ⊕ Except Error SuperAdmin.Tenant)) (data : Data),
    Pool.Run (record fun i => exec d (draws i)) (recordEnv Ticks) (fun _ _ _ => True)
      (overviewPool others w) P →
    P.thread none = .pure (.inl (.ok data)) → IsSnapshot P.state.trace data := by
  intro hclaim
  have hshown : (returned ((race late).thread none)).map suspensions = some (0, 1) := by decide +kernel
  obtain ⟨data, hdata, hcounts⟩ := Option.map_eq_some_iff.mp hshown
  obtain ⟨w, w', hw, -, hrun⟩ := hclaim _ _ _ _ (race late) data (Pool.play_run _ _) (returned_eq_some hdata)
  obtain ⟨e, he, rfl⟩ := hw.exists_event
  -- no call has met a state with an entry about a suspension and no suspended client
  have hnever : ∀ e ∈ (race late).state.trace,
      (overview e.before Sample.start).toOption.map suspensions ≠ some (0, 1) := by decide +kernel
  refine hnever e he ?_
  have hoverview := hrun (Sample.draws 0)
  rw [get_run] at hoverview
  have hsame : overview { e.before with clock := w'.clock } w'.clock = overview e.before w'.clock := rfl
  rw [suspensions_overview e.before Sample.start w'.clock, ← hsame, hoverview]
  exact congrArg some hcounts

end SuperAdmin.Snapshot
