import SuperAdmin.Journal.Pages
import SuperAdmin.Web.Format
import SuperAdmin.Sample

/-! # The journal screen

`JournalPage.tsx` asks the server once, for 200 entries, and applies its filters to what it got.  So it
shows what its filters say exactly as long as they leave nothing of what lies behind the newest 200. -/

namespace SuperAdmin.Web

open Effects Http Http.Handler

/-! ### fetchJournal -/

/-- `GlobalJournalEntry`. -/
structure GlobalJournalEntry where
  id : String
  occurredAt : Time
  actor : String
  kind : String
  text : String
  clientId : Option String
  clientName : Option String
deriving DecidableEq, Repr

/-- A string or `null`. -/
def nullable : Json → Option String
  | .str s => some s
  | _ => none

/-- `fromWire`; the fields of a `JournalEntryWire` have these types. -/
def fromWire : Json → Option GlobalJournalEntry
  | .obj e => do
      let .num id ← e.lookup "id" | none
      let .time occurredAt ← e.lookup "occurred_at" | none
      let .str actor ← e.lookup "actor" | none
      let .str kind ← e.lookup "kind" | none
      let .str text ← e.lookup "text" | none
      let clientId ← e.lookup "client_id"
      let clientName ← e.lookup "client_name"
      some ⟨toString id, occurredAt, actor, kind, text, nullable clientId, nullable clientName⟩
  | _ => none

/-- The request of `fetchJournal`: `/journal?limit=200`. -/
def journalRequest (browser : RequestContext) : Request where
  route := .journalList
  query name := if name = "limit" then "200" else ""
  ip := browser.ip
  userAgent := browser.userAgent

/-- What `fetchJournal` makes of an answer. -/
def journalEntries (resp : Response) : Option (List GlobalJournalEntry) :=
  match resp.body with
  | .list (.arr items) _ => items.mapM fromWire
  | _ => none

/-! ### JournalPage -/

/-- `JournalPeriod`. -/
inductive JournalPeriod where
  | week
  | month
  | custom
deriving DecidableEq

/-- The choices on the page. -/
structure JournalFilters where
  actor : String := "all"
  kind : String := "all"
  period : JournalPeriod := .week
  from_ : String := ""
  to_ : String := ""

/-- `new Date(occurredAt).getTime()`. -/
def timeValue (t : Time) : ℤ := t.ns / 1000000

/-- `withinPeriod`, at the time value `now`. -/
def withinPeriod (zone : Zone) (now : ℤ) (filters : JournalFilters) (entry : GlobalJournalEntry) :
    Bool :=
  let occurred := timeValue entry.occurredAt
  match filters.period with
  | .week => decide (now - 7 * 24 * 60 * 60000 ≤ occurred)
  | .month => decide (now - 30 * 24 * 60 * 60000 ≤ occurred)
  | .custom =>
      if (parseRuDate zone filters.from_).any fun from_ => decide (occurred < from_) then false
      else if (parseRuDate zone filters.to_).any fun to_ => decide (to_ + 24 * 60 * 60000 - 1 < occurred) then
        false
      else true

/-- `filtered`. -/
def filtered (zone : Zone) (now : ℤ) (filters : JournalFilters) (entries : List GlobalJournalEntry) :
    List GlobalJournalEntry :=
  entries.filter fun entry =>
    (filters.actor == "all" || entry.actor == filters.actor) &&
      (filters.kind == "all" || entry.kind == filters.kind) &&
      withinPeriod zone now filters entry

/-- The entries that `JournalPage` displays, where the server answers in the state `w`. -/
def journalPage (d : Deps) (r : Draws) (browser : RequestContext) (zone : Zone) (now : ℤ)
    (filters : JournalFilters) (w : World d) : Option (List GlobalJournalEntry) :=
  (journalEntries ((Journal.list d (journalRequest browser)).run (exec d r) w).1).map
    (filtered zone now filters)

end SuperAdmin.Web

namespace SuperAdmin.Screen

open Effects Http Http.Handler Web

variable {d : Deps} {r : Draws} {browser : RequestContext} {zone : Zone} {now : ℤ}
  {filters : JournalFilters} {w : World d}

/-! ### What the filters say -/

/-- The instant of a time value. -/
def instant (ms : ℤ) : Time := ⟨ms * 1000000⟩

/-- The period that the page names: the last days up to now, or from the midnight of one date to the end
of another; what is not a date does not bound it. -/
def InPeriod (zone : Zone) (now : ℤ) (filters : JournalFilters) (t : Time) : Prop :=
  match filters.period with
  | .week => instant (now - 7 * 86400000) ≤ t
  | .month => instant (now - 30 * 86400000) ≤ t
  | .custom => (∀ from_ ∈ parseRuDate zone filters.from_, instant from_ ≤ t) ∧
      ∀ to_ ∈ parseRuDate zone filters.to_, t < instant (to_ + 86400000)

instance (t : Time) : Decidable (InPeriod zone now filters t) := by
  unfold InPeriod
  split <;> infer_instance

/-- An entry of the log satisfies the three filters. -/
def Satisfies (zone : Zone) (now : ℤ) (filters : JournalFilters) (users : List SuperAdminUser)
    (e : AuditEntry) : Prop :=
  (filters.actor = "all" ∨ Journal.actorName users e = filters.actor) ∧
    (filters.kind = "all" ∨ e.kind = filters.kind) ∧ InPeriod zone now filters e.createdAt

instance (users : List SuperAdminUser) (e : AuditEntry) :
    Decidable (Satisfies zone now filters users e) := by
  unfold Satisfies
  infer_instance

/-- An entry as the page shows it. -/
def shown (users : List SuperAdminUser) (e : AuditEntry) : GlobalJournalEntry where
  id := toString e.id
  occurredAt := e.createdAt
  actor := Journal.actorName users e
  kind := e.kind
  text := e.describe
  clientId := (Journal.client e).1
  clientName := (Journal.client e).2

/-! ### What the page gets -/

theorem fromWire_toJournalEntryResponse (users : List SuperAdminUser) (e : AuditEntry) :
    fromWire (Journal.toJournalEntryResponse users e) = some (shown users e) := by
  have hid : toString (e.id : ℤ) = toString e.id := rfl
  have hnullable : ∀ s : Option String, nullable (.ofOption .str s) = s := by
    intro s
    cases s <;> rfl
  unfold shown
  rw [← hid, ← hnullable (Journal.client e).1, ← hnullable (Journal.client e).2]
  rfl

theorem parse_journalRequest :
    Journal.parseAuditFilter d (journalRequest browser) = .ok { limit := 200 } := by
  have hread : (atoi "200").filter (fun n => decide (0 < n)) = some 200 := by decide
  have hlimit : Journal.optional "200" (fun s => (atoi s).filter fun n => decide (0 < n)) "limit"
      "должно быть положительным числом" = .ok (some 200) := by
    rw [Journal.optional, if_neg (by decide), hread]
  unfold Journal.parseAuditFilter journalRequest
  simp only [String.reduceEq, if_false, if_true]
  rw [hlimit]
  rfl

/-- The page works on the newest 200 entries. -/
theorem journalPage_eq : journalPage d r browser zone now filters w =
    some (filtered zone now filters (((newestFirst w.audit).take 200).map (shown w.listedUsers))) := by
  have hlist : ({ limit := 200 } : AuditFilter).list w.audit =
      .ok ((newestFirst w.audit).take 200, (newestFirst w.audit).length) := by
    have hpage : ({ limit := 200 } : AuditFilter).list w.audit = _ := AuditFilter.list_first rfl
    rwa [AuditFilter.matching_all fun _ => rfl] at hpage
  have hitems : ∀ entries : List AuditEntry,
      (entries.map (Journal.toJournalEntryResponse w.listedUsers)).mapM fromWire =
        some (entries.map (shown w.listedUsers)) := by
    intro entries
    induction entries with
    | nil => rfl
    | cons e entries ih =>
        rw [List.map_cons, List.mapM_cons, fromWire_toJournalEntryResponse, ih]
        rfl
  rw [journalPage, Journal.run_list_ok parse_journalRequest hlist]
  show (List.mapM fromWire _).map _ = _
  rw [hitems]
  rfl

/-! ### The filters of the page -/

theorem withinPeriod_shown (users : List SuperAdminUser) (e : AuditEntry) :
    withinPeriod zone now filters (shown users e) = true ↔ InPeriod zone now filters e.createdAt := by
  have hle : ∀ ms : ℤ, instant ms ≤ e.createdAt ↔ ms ≤ timeValue e.createdAt := by
    intro ms
    show ms * 1000000 ≤ e.createdAt.ns ↔ ms ≤ e.createdAt.ns / 1000000
    omega
  have hlt : ∀ ms : ℤ, e.createdAt < instant (ms + 86400000) ↔
      ¬ ms + 24 * 60 * 60000 - 1 < timeValue e.createdAt := by
    intro ms
    show e.createdAt.ns < (ms + 86400000) * 1000000 ↔
      ¬ ms + 24 * 60 * 60000 - 1 < e.createdAt.ns / 1000000
    omega
  unfold withinPeriod InPeriod
  cases filters.period with
  | week =>
      dsimp only [shown]
      rw [decide_eq_true_eq, hle]
      omega
  | month =>
      dsimp only [shown]
      rw [decide_eq_true_eq, hle]
      omega
  | custom =>
      dsimp only [shown]
      simp only [hle, hlt]
      cases parseRuDate zone filters.from_ <;> cases parseRuDate zone filters.to_ <;> simp

/-- The page keeps the entries that satisfy its filters. -/
theorem filtered_shown (users : List SuperAdminUser) (entries : List AuditEntry) :
    filtered zone now filters (entries.map (shown users)) =
      (entries.filter (Satisfies zone now filters users)).map (shown users) := by
  unfold filtered
  rw [List.filter_map]
  congr 1
  refine List.filter_congr fun e _ => ?_
  have hperiod : withinPeriod zone now filters (shown users e) = true ↔ _ := withinPeriod_shown users e
  rw [Function.comp_apply, Bool.eq_iff_iff, decide_eq_true_eq, Bool.and_eq_true, Bool.and_eq_true, hperiod,
    Satisfies, and_assoc]
  simp only [Bool.or_eq_true, beq_iff_eq]
  rfl

/-! ### What the page shows -/

/-- What the page shows is at most 200 entries. -/
theorem journalPage_length {entries : List GlobalJournalEntry}
    (h : journalPage d r browser zone now filters w = some entries) : entries.length ≤ 200 := by
  rw [journalPage_eq, filtered_shown] at h
  rw [← Option.some.inj h, List.length_map]
  exact (List.length_filter_le _ _).trans (List.length_take_le _ _)

/-- The page shows exactly the entries of the log that satisfy its filters if and only if none of them
is older than the newest 200. -/
theorem screen_exact_iff :
    (∃ entries, journalPage d r browser zone now filters w = some entries ∧
      entries.Perm ((w.audit.filter (Satisfies zone now filters w.listedUsers)).map
        (shown w.listedUsers))) ↔
      ∀ e ∈ (newestFirst w.audit).drop 200, ¬ Satisfies zone now filters w.listedUsers e := by
  have hall : (w.audit.filter (Satisfies zone now filters w.listedUsers)).Perm
      (((newestFirst w.audit).take 200).filter (Satisfies zone now filters w.listedUsers) ++
        ((newestFirst w.audit).drop 200).filter (Satisfies zone now filters w.listedUsers)) := by
    rw [← List.filter_append, List.take_append_drop]
    exact ((List.mergeSort_perm w.audit AuditEntry.newer).filter _).symm
  rw [journalPage_eq, filtered_shown]
  constructor
  · rintro ⟨entries, hentries, hperm⟩ e he hsat
    cases hentries
    have hlength := hperm.length_eq
    rw [List.length_map, List.length_map, hall.length_eq, List.length_append] at hlength
    have hnone : (((newestFirst w.audit).drop 200).filter
        (Satisfies zone now filters w.listedUsers)).length = 0 := by omega
    have hmem : e ∈ ((newestFirst w.audit).drop 200).filter (Satisfies zone now filters w.listedUsers) :=
      List.mem_filter.mpr ⟨he, decide_eq_true hsat⟩
    rw [List.length_eq_zero_iff.mp hnone] at hmem
    cases hmem
  · intro hnone
    have hempty : ((newestFirst w.audit).drop 200).filter (Satisfies zone now filters w.listedUsers) = [] :=
      List.filter_eq_nil_iff.mpr fun e he => by
        rw [decide_eq_true_eq]
        exact hnone e he
    rw [hempty, List.append_nil] at hall
    exact ⟨_, rfl, (hall.map _).symm⟩

/-- Of 201 entries of the last minutes the page shows no more than 200. -/
theorem screen_misses_oldest : ¬ ∀ (d : Deps) (r : Draws) (browser : RequestContext) (zone : Zone)
    (now : ℤ) (filters : JournalFilters) (w : World d), ∃ entries,
    journalPage d r browser zone now filters w = some entries ∧
      entries.Perm ((w.audit.filter (Satisfies zone now filters w.listedUsers)).map
        (shown w.listedUsers)) := by
  intro hclaim
  obtain ⟨entries, hentries, hperm⟩ := hclaim Sample.deps (Sample.draws 0) Sample.context (fun _ => 0)
    (timeValue Sample.start) {} (Sample.logged 201)
  have hshown := journalPage_length hentries
  have hsatisfy : ((Sample.logged 201).audit.filter (Satisfies (fun _ => 0) (timeValue Sample.start) {}
      (Sample.logged 201).listedUsers)).length = 201 := by decide +kernel
  rw [hperm.length_eq, List.length_map, hsatisfy] at hshown
  omega

end SuperAdmin.Screen
