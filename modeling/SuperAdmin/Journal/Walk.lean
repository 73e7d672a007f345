import SuperAdmin.Journal.Pages
import SuperAdmin.Sample

/-! # Walking the journal by its own metadata

A client asks for the page from offset 0 and goes on by the limit that the server names until the
offset reaches the total.  The server names the limit of the request, `AuditRepo.List` works with a
limit of its own, so the walk is complete exactly as long as the two agree. -/

namespace SuperAdmin.Walk

open Effects Http Http.Handler

variable {d : Deps} {r : Draws} {worlds : ℕ → World d} {req : Request} {f : AuditFilter}
  {rows : List AuditEntry}

/-! ### The walk -/

/-- The request for the page from an offset. -/
def page (req : Request) (offset : ℕ) : Request :=
  { req with query := fun name => if name = "offset" then offset.repr else req.query name }

/-- The items that a client receives from an offset on, if every request is answered with a page;
`worlds offset` is the state in which the page from `offset` is asked for. -/
def walk (d : Deps) (r : Draws) (worlds : ℕ → World d) (req : Request) : ℕ → ℕ → Option (List Json)
  | 0, _ => none
  | fuel + 1, offset =>
      match ((Journal.list d (page req offset)).run (exec d r) (worlds offset)).1.body with
      | .list (.arr items) pages =>
          let next := offset + pages.limit.toInt.toNat
          if pages.total ≤ next then some items
          else (walk d r worlds req fuel next).map (items ++ ·)
      | _ => none

/-- The items show the entries in their order, each under the names of some moment of the walk. -/
def Shows (worlds : ℕ → World d) : List Json → List AuditEntry → Prop :=
  List.Forall₂ fun item e => ∃ n, item = Journal.toJournalEntryResponse (worlds n).listedUsers e

/-- The items show every row that the filter keeps, exactly once and newest first. -/
def Complete (worlds : ℕ → World d) (f : AuditFilter) (rows : List AuditEntry) (items : List Json) :
    Prop :=
  ∃ entries, entries.Perm (rows.filter f.keeps) ∧
    entries.Pairwise (fun a b => a.newer b = true) ∧ Shows worlds items entries

/-- The last offset that a walk asks for. -/
def lastOffset (limit total : ℕ) : ℕ := (total - 1) / limit * limit

/-! ### The filters of the requests -/

/-- The requests of a walk differ in the offset only. -/
theorem parseAuditFilter_page (o : ℕ) : Journal.parseAuditFilter d (page req o) = do
    let f ← Journal.parseAuditFilter d (page req 0)
    let offset ← Journal.optional o.repr Journal.parseOffset "offset"
      "должно быть неотрицательным числом"
    return { f with offset := offset.getD 0 } := by
  have hzero := Journal.parseOffset_repr (o := 0) (by omega)
  unfold Journal.parseOffset at hzero
  unfold Journal.parseAuditFilter page
  simp only [String.reduceEq, if_false, if_true]
  cases Journal.optional (req.query "actor_id") (fun s => (d.issuer.uuidParse s).toOption) "actor_id"
    "некорректный id сотрудника" with
  | error e => rfl
  | ok actorID =>
  cases Journal.optional (req.query "from") parseRFC3339 "from" "ожидается дата в формате RFC3339" with
  | error e => rfl
  | ok from_ =>
  cases Journal.optional (req.query "to") parseRFC3339 "to" "ожидается дата в формате RFC3339" with
  | error e => rfl
  | ok to_ =>
  cases Journal.optional (req.query "limit") (fun s => (atoi s).filter fun n => decide (0 < n))
    "limit" "должно быть положительным числом" with
  | error e => rfl
  | ok limit =>
  rw [hzero]
  rfl

theorem parse_page {o : ℕ} (ho : o < 2 ^ 63)
    (h : Journal.parseAuditFilter d (page req 0) = .ok f) :
    Journal.parseAuditFilter d (page req o) = .ok { f with offset := .ofInt o } := by
  rw [parseAuditFilter_page, h, Journal.parseOffset_repr ho]
  rfl

/-- A page that is accepted keeps the rows and has the limit of the first one. -/
theorem parse_page_same {o : ℕ} {g : AuditFilter}
    (h : Journal.parseAuditFilter d (page req 0) = .ok f)
    (hg : Journal.parseAuditFilter d (page req o) = .ok g) : ∃ k, g = { f with offset := k } := by
  rw [parseAuditFilter_page, h] at hg
  obtain ⟨first, hfirst, hg⟩ := bind_ok hg
  cases hfirst
  obtain ⟨offset, -, hg⟩ := bind_ok hg
  cases hg
  exact ⟨_, rfl⟩

/-! ### One page -/

section onePage

variable (hfilter : Journal.parseAuditFilter d (page req 0) = .ok f)
include hfilter

/-- A page from an offset that the database refuses. -/
theorem walk_refused {fuel o : ℕ} (hge : 2 ^ 31 ≤ o) (hlt : o < 2 ^ 32) :
    walk d r worlds req (fuel + 1) o = none := by
  have hparse := parse_page (by omega) hfilter (o := o)
  have hlist : ({ f with offset := .ofInt o } : AuditFilter).list (worlds o).audit = _ :=
    AuditFilter.list_of_ge hge hlt
  rw [walk, Journal.run_list_error hparse hlist]
  rfl

variable (hlog : ∀ n, (worlds n).audit = rows)
include hlog

/-- A page from an offset that the database accepts. -/
theorem walk_page {fuel o : ℕ} (ho : o < 2 ^ 31) :
    walk d r worlds req (fuel + 1) o =
      let items := (((f.matching rows).drop o).take f.pageSize).map
        (Journal.toJournalEntryResponse (worlds o).listedUsers)
      if (f.matching rows).length ≤ o + f.limit.toInt.toNat then some items
      else (walk d r worlds req fuel (o + f.limit.toInt.toNat)).map (items ++ ·) := by
  have hparse := parse_page (by omega) hfilter (o := o)
  have hlist : ({ f with offset := .ofInt o } : AuditFilter).list (worlds o).audit = _ :=
    AuditFilter.list_of_lt ho
  rw [walk, Journal.run_list_ok hparse hlist, hlog o]
  rfl

/-- Any page has room for `pageSize` entries and sends the walk on by the limit. -/
theorem walk_some {fuel o : ℕ} {items : List Json}
    (h : walk d r worlds req (fuel + 1) o = some items) :
    ∃ first rest : List Json, first.length ≤ f.pageSize ∧ items = first ++ rest ∧
      ((f.matching rows).length ≤ o + f.limit.toInt.toNat ∧ rest = [] ∨
        o + f.limit.toInt.toNat < (f.matching rows).length ∧
          walk d r worlds req fuel (o + f.limit.toInt.toNat) = some rest) := by
  cases hparse : Journal.parseAuditFilter d (page req o) with
  | error e =>
      rw [walk, Journal.run_list_invalid hparse] at h
      cases h
  | ok g =>
      cases hlist : g.list (worlds o).audit with
      | error e =>
          rw [walk, Journal.run_list_error hparse hlist] at h
          cases h
      | ok answer =>
          obtain ⟨entries, total⟩ := answer
          obtain ⟨hroom, htotal⟩ := AuditFilter.list_ok hlist
          obtain ⟨k, rfl⟩ := parse_page_same hfilter hparse
          rw [hlog o] at htotal
          have htotal' : total = (f.matching rows).length := htotal
          rw [walk, Journal.run_list_ok hparse hlist] at h
          dsimp only [Response.list] at h
          rw [htotal'] at h
          refine ⟨entries.map (Journal.toJournalEntryResponse (worlds o).listedUsers), ?_⟩
          split at h
          · rename_i hend
            refine ⟨[], ?_, ?_, .inl ⟨hend, rfl⟩⟩
            · rw [List.length_map]
              exact hroom
            · rw [List.append_nil]
              exact (Option.some.inj h).symm
          · rename_i hmore
            obtain ⟨rest, hrest, hitems⟩ := Option.map_eq_some_iff.mp h
            refine ⟨rest, ?_, hitems.symm, .inr ⟨not_le.mp hmore, hrest⟩⟩
            rw [List.length_map]
            exact hroom

end onePage

/-! ### The whole walk -/

theorem shows_map (o : ℕ) (entries : List AuditEntry) :
    Shows worlds (entries.map (Journal.toJournalEntryResponse (worlds o).listedUsers)) entries := by
  induction entries with
  | nil => exact .nil
  | cons e entries ih => exact .cons ⟨o, rfl⟩ ih

section wholeWalk

variable (hfilter : Journal.parseAuditFilter d (page req 0) = .ok f)
  (hlog : ∀ n, (worlds n).audit = rows)
include hfilter hlog

/-- Where the pages have the size of the limit and no offset is refused, a walk shows every row from
its offset on. -/
theorem walk_shows {limit : ℕ} (hlimit : f.limit.toInt.toNat = limit) (hpos : 0 < limit)
    (hsize : f.pageSize = limit) {fuel o : ℕ} (hfuel : (f.matching rows).length - o < fuel)
    (ho : o < 2 ^ 31)
    (hlast : ∀ k, o + k * limit < (f.matching rows).length → o + k * limit < 2 ^ 31) :
    ∃ items, walk d r worlds req fuel o = some items ∧
      Shows worlds items ((f.matching rows).drop o) := by
  have hpage : Shows worlds _ _ := shows_map o (((f.matching rows).drop o).take limit)
  induction fuel generalizing o with
  | zero => omega
  | succ fuel ih =>
      rw [walk_page hfilter hlog ho, hlimit, hsize]
      dsimp only
      by_cases hend : (f.matching rows).length ≤ o + limit
      · have hall : ((f.matching rows).drop o).take limit = (f.matching rows).drop o :=
          List.take_of_length_le (by rw [List.length_drop]; omega)
        rw [if_pos hend]
        rw [hall] at hpage ⊢
        exact ⟨_, rfl, hpage⟩
      · have hnext : o + limit < 2 ^ 31 := by
          have h := hlast 1
          omega
        obtain ⟨items, hwalk, hshows⟩ := ih (by omega) hnext (fun k hk => by
          have h := hlast (k + 1)
          rw [Nat.add_mul, Nat.one_mul] at h
          omega) (shows_map _ _)
        rw [if_neg hend, hwalk]
        have hboth := List.rel_append hpage hshows
        dsimp only at hboth
        rw [← List.drop_drop, List.take_append_drop] at hboth
        exact ⟨_, rfl, hboth⟩

/-- A walk that comes to an offset which is refused does not end well. -/
theorem walk_none {limit k : ℕ} (hlimit : f.limit.toInt.toNat = limit) (hle : limit ≤ 200)
    {fuel o : ℕ} (ho : o < 2 ^ 31 + 200) (hk : o + k * limit < (f.matching rows).length)
    (hlarge : 2 ^ 31 ≤ o + k * limit) : walk d r worlds req fuel o = none := by
  induction k generalizing fuel o with
  | zero =>
      cases fuel with
      | zero => rfl
      | succ fuel => exact walk_refused hfilter (by omega) (by omega)
  | succ k ih =>
      cases fuel with
      | zero => rfl
      | succ fuel =>
          by_cases hrefused : 2 ^ 31 ≤ o
          · exact walk_refused hfilter hrefused (by omega)
          · have hnext : o + limit + k * limit = o + (k + 1) * limit := by
              rw [Nat.add_mul, Nat.one_mul]
              omega
            rw [walk_page hfilter hlog (by omega), hlimit]
            dsimp only
            rw [if_neg (by omega), ih (by omega) (by omega) (by omega)]
            rfl

/-- Pages of 50 under a limit of more than 200 miss an entry, unless there are at most 50 left. -/
theorem walk_length {limit : ℕ} (hlimit : f.limit.toInt.toNat = limit) (hgt : 200 < limit)
    (hsize : f.pageSize = 50) {fuel o : ℕ} {items : List Json}
    (h : walk d r worlds req fuel o = some items) :
    items.length ≤ max 50 ((f.matching rows).length - o - 1) := by
  induction fuel generalizing o items with
  | zero => cases h
  | succ fuel ih =>
      obtain ⟨first, rest, hroom, rfl, hrest⟩ := walk_some hfilter hlog h
      rw [hsize] at hroom
      rw [hlimit] at hrest
      rw [List.length_append]
      rcases hrest with ⟨-, rfl⟩ | ⟨hmore, hwalk⟩
      · rw [List.length_nil]
        omega
      · have hrest := ih hwalk
        omega

end wholeWalk

/-! ### When a walk is complete -/

theorem Complete.length {items : List Json} (h : Complete worlds f rows items) :
    items.length = (f.matching rows).length := by
  obtain ⟨entries, hperm, -, hshows⟩ := h
  rw [List.Forall₂.length_eq hshows, hperm.length_eq, AuditFilter.matching_perm.length_eq]

theorem Shows.complete {items : List Json} (h : Shows worlds items (f.matching rows)) :
    Complete worlds f rows items :=
  ⟨_, AuditFilter.matching_perm, AuditFilter.matching_newestFirst, h⟩

/-- At most 50 entries match, or the limit is at most 200 and no offset of the walk is refused. -/
def InReach (limit : Int64) (total : ℕ) : Prop :=
  total ≤ 50 ∨ limit ≤ 200 ∧ lastOffset limit.toInt.toNat total < 2 ^ 31

theorem le_lastOffset {limit total k : ℕ} (hpos : 0 < limit) (hk : k * limit < total) :
    k * limit ≤ lastOffset limit total := by
  have hle : k ≤ (total - 1) / limit := (Nat.le_div_iff_mul_le hpos).mpr (by omega)
  exact Nat.mul_le_mul_right limit hle

section inReach

variable (hlog : ∀ n, (worlds n).audit = rows)
  (hfilter : Journal.parseAuditFilter d (page req 0) = .ok f)
include hlog hfilter

theorem complete_of_inReach {fuel : ℕ} (hfuel : (f.matching rows).length < fuel)
    (h : InReach f.limit (f.matching rows).length) :
    ∃ items, walk d r worlds req fuel 0 = some items ∧ Complete worlds f rows items := by
  have hlimit := Journal.limit_pos hfilter
  have hpos : 0 < f.limit.toInt := Int64.lt_iff_toInt_lt.mp hlimit
  by_cases hle : f.limit ≤ 200
  · have hsize := AuditFilter.pageSize_of_le hlimit hle
    have hlast : ∀ k, 0 + k * f.limit.toInt.toNat < (f.matching rows).length →
        0 + k * f.limit.toInt.toNat < 2 ^ 31 := by
      intro k hk
      rw [Nat.zero_add] at hk ⊢
      rcases h with hfew | ⟨-, hbelow⟩
      · omega
      · exact lt_of_le_of_lt (le_lastOffset (by omega) hk) hbelow
    obtain ⟨items, hwalk, hshows⟩ := walk_shows (r := r) hfilter hlog rfl (by omega) hsize
      (by omega : (f.matching rows).length - 0 < fuel) (by omega) hlast
    exact ⟨items, hwalk, hshows.complete⟩
  · -- the only page
    have hgt : 200 < f.limit.toInt := by
      have h := mt Int64.le_iff_toInt_le.mpr hle
      exact not_le.mp h
    have hfew : (f.matching rows).length ≤ 50 := h.resolve_right fun h' => hle h'.1
    have hsize := AuditFilter.pageSize_of_gt (Int64.lt_iff_toInt_lt.mpr hgt)
    have hall : ((f.matching rows).drop 0).take f.pageSize = f.matching rows := by
      rw [hsize, List.drop_zero, List.take_of_length_le hfew]
    obtain ⟨fuel, rfl⟩ : ∃ n, fuel = n + 1 := ⟨fuel - 1, by omega⟩
    rw [walk_page hfilter hlog (by omega), hall]
    dsimp only
    rw [if_pos (by omega)]
    exact ⟨_, rfl, (shows_map 0 _).complete⟩

theorem not_complete_of_not_inReach {fuel : ℕ} (h : ¬ InReach f.limit (f.matching rows).length) :
    ¬ ∃ items, walk d r worlds req fuel 0 = some items ∧ Complete worlds f rows items := by
  rintro ⟨items, hwalk, hcomplete⟩
  obtain ⟨hmany, hbeyond⟩ := not_or.mp h
  have hpos : 0 < f.limit.toInt := Int64.lt_iff_toInt_lt.mp (Journal.limit_pos hfilter)
  by_cases hle : f.limit ≤ 200
  · -- an offset is refused
    have hlarge : 2 ^ 31 ≤ lastOffset f.limit.toInt.toNat (f.matching rows).length := by
      by_contra hbelow
      exact hbeyond ⟨hle, not_le.mp hbelow⟩
    have hasked : lastOffset f.limit.toInt.toNat (f.matching rows).length
        < (f.matching rows).length := by
      have hdiv := Nat.div_mul_le_self ((f.matching rows).length - 1) f.limit.toInt.toNat
      unfold lastOffset
      omega
    have hsmall : f.limit.toInt ≤ 200 := Int64.le_iff_toInt_le.mp hle
    have hnone : walk d r worlds req fuel 0 = none :=
      walk_none hfilter hlog rfl (by omega) (by omega) (by rw [Nat.zero_add]; exact hasked)
        (by rw [Nat.zero_add]; exact hlarge)
    rw [hnone] at hwalk
    cases hwalk
  · -- the pages are smaller than the steps
    have hgt : 200 < f.limit.toInt := by
      have h := mt Int64.le_iff_toInt_le.mpr hle
      exact not_le.mp h
    have hsize := AuditFilter.pageSize_of_gt (Int64.lt_iff_toInt_lt.mpr hgt)
    have hshort := walk_length hfilter hlog rfl (by omega) hsize hwalk
    have hall := hcomplete.length
    omega

end inReach

/-- The walk receives every entry exactly once and in order if and only if at most 50 entries match, or
the limit is at most 200 and the offsets stay below 2³¹. -/
theorem walk_complete_iff (hlog : ∀ n, (worlds n).audit = rows)
    (hfilter : Journal.parseAuditFilter d (page req 0) = .ok f) {fuel : ℕ}
    (hfuel : (rows.filter f.keeps).length < fuel) :
    (∃ items, walk d r worlds req fuel 0 = some items ∧ Complete worlds f rows items) ↔
      InReach f.limit (rows.filter f.keeps).length := by
  have htotal : (f.matching rows).length = (rows.filter f.keeps).length :=
    AuditFilter.matching_perm.length_eq
  rw [← htotal] at hfuel ⊢
  constructor
  · intro h
    by_contra hout
    exact not_complete_of_not_inReach hlog hfilter hout h
  · exact complete_of_inReach hlog hfilter hfuel

/-! ### Two walks -/

/-- `GET /journal` with a limit. -/
def withLimit (limit : String) : Request where
  route := .journalList
  query name := if name = "limit" then limit else ""
  ip := "203.0.113.7"
  userAgent := "browser"

/-- Five entries in pages of two. -/
theorem walk_complete_two : ∃ items,
    walk Sample.deps (Sample.draws 0) (fun _ => Sample.logged 5) (withLimit "2") 6 0 = some items ∧
      Complete (fun _ => Sample.logged 5) { limit := 2 } (Sample.logged 5).audit items :=
  (walk_complete_iff (fun _ => rfl) rfl (by decide)).mpr (.inl (by decide))

/-- With a limit of 201 the last of 51 entries is never received. -/
theorem walk_incomplete : ¬ ∀ (d : Deps) (r : Draws) (worlds : ℕ → World d) (req : Request)
    (f : AuditFilter) (rows : List AuditEntry), (∀ n, (worlds n).audit = rows) →
    Journal.parseAuditFilter d (page req 0) = .ok f →
    ∃ fuel items, walk d r worlds req fuel 0 = some items ∧ Complete worlds f rows items := by
  intro hclaim
  have hfilter : Journal.parseAuditFilter Sample.deps (page (withLimit "201") 0) = .ok { limit := 201 } := rfl
  obtain ⟨fuel, h⟩ := hclaim Sample.deps (Sample.draws 0) (fun _ => Sample.logged 51) (withLimit "201") _ _
    (fun _ => rfl) hfilter
  refine not_complete_of_not_inReach (fun _ => rfl) hfilter ?_ h
  rw [AuditFilter.matching_perm.length_eq]
  rintro (hfew | ⟨hle, -⟩)
  · revert hfew
    decide
  · revert hle
    decide

end SuperAdmin.Walk
