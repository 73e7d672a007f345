import SuperAdmin.Journal.Pages
import SuperAdmin.Sample

/-! # A page is the slice that was asked for

`AuditRepo.List` converts the offset of a filter to 32 bits.  Below 2³¹ this changes nothing; above, the
offset turns negative, which the database refuses, or it becomes a smaller one, and the page is another
than the one that was asked for, unless both are past the end of the log. -/

namespace SuperAdmin.Slice

open Effects

variable {f : AuditFilter} {rows : List AuditEntry}

/-- The page that a filter asks for: of the rows that it keeps, newest first, those from its offset on,
as many as its limit says, and the number of all. -/
def IsPage (f : AuditFilter) (rows : List AuditEntry) (res : Except Error (List AuditEntry × ℕ)) : Prop :=
  ∃ all : List AuditEntry, all.Perm (rows.filter f.keeps) ∧ all.Pairwise (fun a b => a.newer b = true) ∧
    res = .ok ((all.drop f.offset.toInt.toNat).take f.limit.toInt.toNat, all.length)

/-! ### The order of the rows is one -/

/-- Two entries that are each the newer one have one `id`. -/
theorem newer_antisymm {a b : AuditEntry} (hab : a.newer b = true) (hba : b.newer a = true) :
    a.id = b.id := by
  simp only [AuditEntry.newer, Bool.or_eq_true, Bool.and_eq_true, decide_eq_true_eq, beq_iff_eq] at hab hba
  rcases hab with hlt | ⟨heq, hid⟩
  · rcases hba with hlt' | ⟨heq', -⟩
    · exact absurd hlt' (lt_asymm hlt)
    · exact absurd heq' hlt.ne
  · rcases hba with hlt' | ⟨-, hid'⟩
    · exact absurd heq hlt'.ne
    · exact le_antisymm hid' hid

/-- Where the `id` is a key, the rows that a filter keeps have one order. -/
theorem eq_matching (hids : (rows.map (·.id)).Nodup) {all : List AuditEntry}
    (hperm : all.Perm (rows.filter f.keeps)) (hsorted : all.Pairwise fun a b => a.newer b = true) :
    all = f.matching rows := by
  refine List.Perm.eq_of_pairwise (fun a b ha hb hab hba => ?_) hsorted
    AuditFilter.matching_newestFirst (hperm.trans AuditFilter.matching_perm.symm)
  have hrows : a ∈ rows ∧ b ∈ rows :=
    ⟨List.mem_of_mem_filter (hperm.mem_iff.mp ha),
      List.mem_of_mem_filter (AuditFilter.matching_perm.mem_iff.mp hb)⟩
  exact List.inj_on_of_nodup_map hids hrows.1 hrows.2 (newer_antisymm hab hba)

theorem nodup_matching (hids : (rows.map (·.id)).Nodup) : (f.matching rows).Nodup :=
  AuditFilter.matching_perm.nodup_iff.mpr (hids.of_map.filter _)

/-! ### The offset in 32 bits -/

/-- The offset that the query gets. -/
def narrowed (f : AuditFilter) : ℤ := f.offset.toInt.bmod (2 ^ 32)

/-- Two slices of a list without duplicates are one exactly if they start at one place or past its end. -/
theorem slice_eq_iff {α : Type} {l : List α} (hl : l.Nodup) {n i j : ℕ} (hn : 0 < n) :
    (l.drop i).take n = (l.drop j).take n ↔ i = j ∨ (l.length ≤ i ∧ l.length ≤ j) := by
  constructor
  · intro h
    have hhead : l[i]? = l[j]? := by
      have hfirst := congrArg (fun s => s[0]?) h
      simpa [List.getElem?_take, hn] using hfirst
    by_cases hi : i < l.length
    · exact .inl ((List.getElem?_inj hi hl).mp hhead)
    · by_cases hj : j < l.length
      · exact .inl ((List.getElem?_inj hj hl).mp hhead.symm).symm
      · exact .inr ⟨by omega, by omega⟩
  · rintro (rfl | ⟨hi, hj⟩)
    · rfl
    · rw [List.drop_eq_nil_of_le hi, List.drop_eq_nil_of_le hj]

/-! ### The page -/

/-- `AuditRepo.List` returns the page that the filter asks for exactly if the offset is below 2³¹, or its
last 32 bits are a number that is past the end as well. -/
theorem list_isPage_iff (hids : (rows.map (·.id)).Nodup) (hmin : 1 ≤ f.limit) (hmax : f.limit ≤ 200)
    (hoffset : 0 ≤ f.offset) :
    IsPage f rows (f.list rows) ↔ f.offset.toInt < 2 ^ 31 ∨
      (f.offset.toInt % 2 ^ 32 < 2 ^ 31 ∧
        ((rows.filter f.keeps).length : ℤ) ≤ f.offset.toInt % 2 ^ 32) := by
  have hge : 0 ≤ f.offset.toInt := Int64.le_iff_toInt_le.mp hoffset
  have hlimit : 1 ≤ f.limit.toInt := Int64.le_iff_toInt_le.mp hmin
  have hpos : 0 < f.limit := Int64.lt_iff_toInt_lt.mpr hlimit
  have hlength : (f.matching rows).length = (rows.filter f.keeps).length :=
    AuditFilter.matching_perm.length_eq
  have hpage : IsPage f rows (f.list rows) ↔
      f.list rows = .ok (((f.matching rows).drop f.offset.toInt.toNat).take f.limit.toInt.toNat,
        (f.matching rows).length) := by
    constructor
    · rintro ⟨all, hperm, hsorted, hres⟩
      rw [hres, eq_matching hids hperm hsorted]
    · exact fun hres => ⟨_, AuditFilter.matching_perm, AuditFilter.matching_newestFirst, hres⟩
  have hnarrow : narrowed f = if f.offset.toInt % 2 ^ 32 < 2 ^ 31 then f.offset.toInt % 2 ^ 32
      else f.offset.toInt % 2 ^ 32 - 2 ^ 32 := by
    rw [narrowed, Int.bmod_def]
    rfl
  rw [hpage, AuditFilter.list_eq hoffset, ← narrowed, AuditFilter.pageSize_of_le hpos hmax, ← hlength]
  by_cases hlow : f.offset.toInt % 2 ^ 32 < 2 ^ 31
  · rw [if_pos hlow] at hnarrow
    rw [if_neg (by omega)]
    have hslice := slice_eq_iff (nodup_matching (f := f) hids) (n := f.limit.toInt.toNat)
      (i := (narrowed f).toNat) (j := f.offset.toInt.toNat) (by omega)
    rw [Except.ok.injEq, Prod.mk.injEq, and_iff_left rfl, hslice]
    omega
  · rw [if_neg hlow] at hnarrow
    rw [if_pos (by omega)]
    constructor
    · intro h
      cases h
    · omega

/-- The second of three entries. -/
theorem list_isPage_second : IsPage { limit := 1, offset := 1 } (Sample.logged 3).audit
    (AuditFilter.list { limit := 1, offset := 1 } (Sample.logged 3).audit) :=
  (list_isPage_iff (by decide) (by decide) (by decide) (by decide)).mpr (.inl (by decide))

/-- An offset of 2³¹ is refused. -/
theorem list_refused : ¬ ∀ (f : AuditFilter) (rows : List AuditEntry), (rows.map (·.id)).Nodup →
    1 ≤ f.limit → f.limit ≤ 200 → 0 ≤ f.offset → IsPage f rows (f.list rows) := by
  intro hclaim
  obtain ⟨all, -, -, hres⟩ := hclaim { limit := 50, offset := 2147483648 } [] .nil (by decide) (by decide)
    (by decide)
  cases hres

end SuperAdmin.Slice
