import SuperAdmin.Http.Journal
import SuperAdmin.Store

/-! # Pages of the journal

What `GET /journal` answers for one request, in terms of the rows that its filter keeps: a page of
them, newest first, and their number. -/

namespace SuperAdmin

open Effects

/-! ### The order of the entries -/

namespace AuditEntry

theorem newer_trans (a b e : AuditEntry) (hab : a.newer b = true) (hbe : b.newer e = true) :
    a.newer e = true := by
  simp only [newer, Bool.or_eq_true, Bool.and_eq_true, decide_eq_true_eq, beq_iff_eq] at hab hbe ⊢
  rcases hab with hab | ⟨hab, hida⟩
  · rcases hbe with hbe | ⟨hbe, -⟩
    · exact .inl (lt_trans hbe hab)
    · exact .inl (hbe ▸ hab)
  · rcases hbe with hbe | ⟨hbe, hidb⟩
    · exact .inl (hab ▸ hbe)
    · exact .inr ⟨hab.trans hbe, le_trans hidb hida⟩

theorem newer_total (a b : AuditEntry) : (a.newer b || b.newer a) = true := by
  simp only [newer, Bool.or_eq_true, Bool.and_eq_true, decide_eq_true_eq, beq_iff_eq]
  rcases lt_trichotomy a.createdAt b.createdAt with hlt | heq | hgt
  · exact .inr (.inl hlt)
  · rcases le_total a.id b.id with hid | hid
    · exact .inr (.inr ⟨heq.symm, hid⟩)
    · exact .inl (.inr ⟨heq, hid⟩)
  · exact .inl (.inl hgt)

end AuditEntry

/-- The rows of a log, newest first. -/
def newestFirst (rows : List AuditEntry) : List AuditEntry := rows.mergeSort AuditEntry.newer

/-! ### The rows of a page -/

namespace AuditFilter

variable {f : AuditFilter} {rows : List AuditEntry}

theorem matching_perm : (f.matching rows).Perm (rows.filter f.keeps) := List.mergeSort_perm _ _

theorem matching_newestFirst : (f.matching rows).Pairwise fun a b => a.newer b = true :=
  List.pairwise_mergeSort AuditEntry.newer_trans AuditEntry.newer_total (rows.filter f.keeps)

/-- A filter that keeps every row gives the whole log. -/
theorem matching_all (hkeeps : ∀ e, f.keeps e = true) : f.matching rows = newestFirst rows := by
  rw [matching, List.filter_eq_self.mpr fun e _ => hkeeps e]
  rfl

/-- The number of rows that a page has room for. -/
def pageSize (f : AuditFilter) : ℕ := f.resultLimit.toInt32.toNatClampNeg

theorem pageSize_of_le (hpos : 0 < f.limit) (hle : f.limit ≤ 200) :
    f.pageSize = f.limit.toInt.toNat := by
  have hmin : 0 < f.limit.toInt := Int64.lt_iff_toInt_lt.mp hpos
  have hmax : f.limit.toInt ≤ 200 := Int64.le_iff_toInt_le.mp hle
  have hkeep : f.resultLimit = f.limit := by
    refine if_neg ?_
    rintro (h | h)
    · exact absurd (Int64.le_iff_toInt_le.mp h) (not_le_of_gt hmin)
    · exact absurd (Int64.lt_iff_toInt_lt.mp h) (not_lt_of_ge hmax)
  rw [pageSize, hkeep, ← Int32.toNat_toInt, Int64.toInt_toInt32,
    Int.bmod_eq_of_le (by omega) (by omega)]

/-- A larger limit than 200 is not cut to 200: it counts as 50. -/
theorem pageSize_of_gt (h : 200 < f.limit) : f.pageSize = 50 := by
  rw [pageSize, resultLimit, if_pos (.inr h)]
  rfl

/-- The offset of a page after its conversion to `int32`. -/
theorem resultOffset_toInt (h : 0 ≤ f.offset) :
    f.resultOffset.toInt32.toInt = f.offset.toInt.bmod (2 ^ 32) := by
  have hkeep : f.resultOffset = f.offset := if_neg fun hneg => by
    have hge := Int64.le_iff_toInt_le.mp h
    have hlt := Int64.lt_iff_toInt_lt.mp hneg
    omega
  rw [hkeep, Int64.toInt_toInt32]

/-- The page that the query returns. -/
theorem list_eq (h : 0 ≤ f.offset) :
    f.list rows = if f.offset.toInt.bmod (2 ^ 32) < 0 then .error (.foreign "OFFSET must not be negative")
      else .ok (((f.matching rows).drop (f.offset.toInt.bmod (2 ^ 32)).toNat).take f.pageSize,
        (f.matching rows).length) := by
  have hread := resultOffset_toInt h
  have hneg : f.resultOffset.toInt32 < 0 ↔ f.offset.toInt.bmod (2 ^ 32) < 0 := by
    rw [Int32.lt_iff_toInt_lt, hread]
    rfl
  have hnat : f.resultOffset.toInt32.toNatClampNeg = (f.offset.toInt.bmod (2 ^ 32)).toNat := by
    rw [← Int32.toNat_toInt, hread]
  rw [list, hnat]
  exact if_congr hneg rfl rfl

theorem toInt_offset {o : ℕ} (ho : o < 2 ^ 32) :
    ({ f with offset := .ofInt o } : AuditFilter).offset.toInt = o ∧
      0 ≤ ({ f with offset := .ofInt o } : AuditFilter).offset := by
  have hread : (Int64.ofInt o).toInt = o := Int64.toInt_ofInt_of_le (by omega) (by omega)
  refine ⟨hread, Int64.le_iff_toInt_le.mpr ?_⟩
  rw [hread]
  exact Int.natCast_nonneg o

/-- Below 2³¹ the page from an offset is what stands there. -/
theorem list_of_lt {o : ℕ} (ho : o < 2 ^ 31) :
    ({ f with offset := .ofInt o } : AuditFilter).list rows =
      .ok (((f.matching rows).drop o).take f.pageSize, (f.matching rows).length) := by
  obtain ⟨hread, hoffset⟩ := toInt_offset (f := f) (o := o) (by omega)
  rw [list_eq hoffset, hread, Int.bmod_eq_of_le (by omega) (by omega), if_neg (by omega), Int.toNat_natCast]
  rfl

/-- The first page. -/
theorem list_first (h : f.offset = 0) :
    f.list rows = .ok ((f.matching rows).take f.pageSize, (f.matching rows).length) := by
  have hpage : ({ f with offset := .ofInt (0 : ℕ) } : AuditFilter).list rows = _ :=
    list_of_lt (by omega)
  have hsame : ({ f with offset := .ofInt (0 : ℕ) } : AuditFilter) = f := by
    cases f
    cases h
    rfl
  rwa [hsame] at hpage

/-- From 2³¹ on an offset turns negative, which the database refuses. -/
theorem list_of_ge {o : ℕ} (hge : 2 ^ 31 ≤ o) (hlt : o < 2 ^ 32) :
    ({ f with offset := .ofInt o } : AuditFilter).list rows =
      .error (.foreign "OFFSET must not be negative") := by
  obtain ⟨hread, hoffset⟩ := toInt_offset (f := f) hlt
  rw [list_eq hoffset, hread, if_pos]
  rw [Int.bmod_def]
  split <;> omega

/-- A page has no more rows than its size, and comes with the number of all. -/
theorem list_ok {page : List AuditEntry} {total : ℕ} (h : f.list rows = .ok (page, total)) :
    page.length ≤ f.pageSize ∧ total = (f.matching rows).length := by
  unfold list at h
  split at h
  · cases h
  · obtain ⟨hpage, htotal⟩ := Prod.mk.inj (Except.ok.inj h)
    rw [← hpage]
    exact ⟨List.length_take_le _ _, htotal.symm⟩

end AuditFilter

/-! ### The filter of a request -/

namespace Http.Handler.Journal

variable {d : Deps} {req : Request} {f : AuditFilter}

theorem optional_some {α : Type} {raw : String} {parse : String → Option α} {field message : String}
    {a : α} (h : optional raw parse field message = .ok (some a)) : parse raw = some a := by
  unfold optional at h
  split at h
  · cases h
  · split at h
    · cases h
    · rename_i b hb
      cases h
      exact hb

/-- A filter that is accepted has a positive limit. -/
theorem limit_pos (h : parseAuditFilter d req = .ok f) : 0 < f.limit := by
  obtain ⟨actorID, -, h⟩ := bind_ok h
  obtain ⟨from_, -, h⟩ := bind_ok h
  obtain ⟨to_, -, h⟩ := bind_ok h
  obtain ⟨limit, hlimit, h⟩ := bind_ok h
  obtain ⟨offset, -, h⟩ := bind_ok h
  cases h
  cases limit with
  | none => exact (by decide : (0 : Int64) < 50)
  | some n =>
      obtain ⟨-, hpos⟩ := Option.filter_eq_some_iff.mp (optional_some hlimit)
      exact of_decide_eq_true hpos

/-- The parser of an offset. -/
def parseOffset (s : String) : Option Int64 := (atoi s).filter fun n => decide (0 ≤ n)

theorem parseOffset_repr {o : ℕ} (ho : o < 2 ^ 63) :
    optional o.repr parseOffset "offset" "должно быть неотрицательным числом" =
      .ok (some (.ofInt o)) := by
  have hne : o.repr ≠ "" := by
    intro h
    have hdigits := congrArg String.toList h
    rw [Nat.toList_repr] at hdigits
    exact Nat.toDigits_ne_nil hdigits
  have hread : (Int64.ofInt o).toInt = o := Int64.toInt_ofInt_of_le (by omega) (by omega)
  have hnonneg : (0 : Int64) ≤ Int64.ofInt o := by
    rw [Int64.le_iff_toInt_le, hread]
    exact Int.natCast_nonneg o
  rw [optional, if_neg hne, parseOffset, atoi_repr ho, Option.filter_some, decide_eq_true hnonneg]
  rfl

end Http.Handler.Journal

/-! ### One answer -/

/-- The users as `SuperAdminRepo.List` returns them. -/
def World.listedUsers {d : Deps} (w : World d) : List SuperAdminUser :=
  w.users.rows.mergeSort fun a b => decide (a.createdAt ≤ b.createdAt)

namespace Http.Handler.Journal

variable {d : Deps} {req : Request} {f : AuditFilter} {r : Draws} {w : World d}

/-- The answer to a request whose filter is accepted: a page under the names of the users. -/
theorem run_list_ok {entries : List AuditEntry} {total : ℕ} (hfilter : parseAuditFilter d req = .ok f)
    (hlist : f.list w.audit = .ok (entries, total)) :
    ((list d req).run (exec d r) w).1 =
      .list (.arr (entries.map (toJournalEntryResponse w.listedUsers))) ⟨total, f.limit, f.offset⟩ := by
  have hrows : (exec d r (.journal f) w).1 = .ok (entries, total) := hlist
  unfold list
  rw [hfilter]
  show (Prog.run (exec d r) ((respond (exec d r (.journal f) w).1 _ : Proc Response)) w).1 = _
  rw [hrows]
  rfl

theorem run_list_error {e : Error} (hfilter : parseAuditFilter d req = .ok f)
    (hlist : f.list w.audit = .error e) : ((list d req).run (exec d r) w).1 = .error e := by
  have hrows : (exec d r (.journal f) w).1 = .error e := hlist
  unfold list
  rw [hfilter]
  show (Prog.run (exec d r) ((respond (exec d r (.journal f) w).1 _ : Proc Response)) w).1 = _
  rw [hrows]
  rfl

theorem run_list_invalid {e : Error} (hfilter : parseAuditFilter d req = .error e) :
    ((list d req).run (exec d r) w).1 = .error e := by
  unfold list
  rw [hfilter]
  rfl

end Http.Handler.Journal

end SuperAdmin
