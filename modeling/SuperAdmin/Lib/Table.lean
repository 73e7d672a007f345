import Mathlib.Data.List.Pairwise
import Mathlib.Data.List.Basic
import Mathlib.Algebra.GroupWithZero.Nat

/-! # Tables with uniqueness constraints

A table is a list of rows in insertion order.  Its constraints are given by a function `key`
(the constrained columns of a row) and a relation `clash` on keys (two rows that the
constraints forbid to stand together: equal primary keys, an equal unique column, both rows
under a partial unique index).  A `Table` carries the proof that no two of its rows clash, so
an insert has to check and an update may not touch the constrained columns. -/

namespace Effects

/-- A map that changes no element. -/
theorem map_eq_self {A : Type} {f : A → A} {l : List A} (h : ∀ a ∈ l, f a = a) : l.map f = l :=
  (List.map_congr_left h).trans (List.map_id l)

/-- What a list has of a kind, it has by the owners of its elements. -/
theorem countP_eq_sum_countP {A K : Type} [DecidableEq K] (owner : A → K) (p : A → Bool) {owners : List K}
    (hnodup : owners.Nodup) {l : List A} (h : ∀ a ∈ l, owner a ∈ owners) :
    l.countP p = (owners.map fun k => l.countP fun a => p a && owner a == k).sum := by
  induction owners generalizing l with
  | nil =>
      obtain rfl := List.eq_nil_iff_forall_not_mem.mpr fun a ha => List.not_mem_nil (h a ha)
      rfl
  | cons k owners ih =>
      obtain ⟨hk, hnodup⟩ := List.nodup_cons.mp hnodup
      -- the elements of `k`, and the others
      have hothers := ih hnodup (l := l.filter fun a => !(owner a == k)) (by
        intro a ha
        obtain ⟨ha, hne⟩ := List.mem_filter.mp ha
        rcases List.mem_cons.mp (h a ha) with rfl | hmem
        · simp at hne
        · exact hmem)
      rw [List.countP_eq_countP_filter_add l p fun a => owner a == k, hothers, List.countP_filter,
        List.map_cons, List.sum_cons]
      congr 2
      refine List.map_congr_left fun k' hk' => ?_
      rw [List.countP_filter]
      congr 1
      funext a
      by_cases ha : owner a = k'
      · have hne : owner a ≠ k := by
          rintro rfl
          exact hk (ha ▸ hk')
        simp [ha, ha ▸ hne]
      · simp [ha]

/-- Rows in insertion order, no two of which clash. -/
structure Table {Row K : Type} (key : Row → K) (clash : K → K → Prop) where
  rows : List Row
  unclashed : rows.Pairwise fun a b => ¬ clash (key a) (key b)

namespace Table

variable {Row K : Type} {key : Row → K} {clash : K → K → Prop}

@[ext] theorem ext {t u : Table key clash} (h : t.rows = u.rows) : t = u := by
  cases t; cases u; cases h; rfl

/-- The table without rows. -/
def empty : Table key clash := ⟨[], .nil⟩

instance : Inhabited (Table key clash) := ⟨empty⟩

/-- `INSERT`: `none` on a violated constraint. -/
def insert? [DecidableRel clash] (t : Table key clash) (r : Row) : Option (Table key clash) :=
  if h : ∃ x ∈ t.rows, clash (key x) (key r) then none
  else some ⟨t.rows ++ [r], List.pairwise_append.mpr ⟨t.unclashed, List.pairwise_singleton _ _, by
    intro x hx y hy hc
    rw [List.mem_singleton] at hy
    exact h ⟨x, hx, hy ▸ hc⟩⟩⟩

/-- `UPDATE … WHERE p`: the rows that satisfy `p` are rewritten by `f`, which leaves the
constrained columns alone. -/
def update (t : Table key clash) (p : Row → Bool) (f : Row → Row) (hf : ∀ r, key (f r) = key r) :
    Table key clash where
  rows := t.rows.map fun r => if p r then f r else r
  unclashed := by
    rw [List.pairwise_map]
    refine t.unclashed.imp fun {a b} h => ?_
    have hkey : ∀ r, key (if p r then f r else r) = key r := by
      intro r; split
      · exact hf r
      · rfl
    rwa [hkey, hkey]

/-- `DELETE … WHERE p`. -/
def delete (t : Table key clash) (p : Row → Bool) : Table key clash where
  rows := t.rows.filter fun r => !p r
  unclashed := t.unclashed.filter _

/-- `SELECT … WHERE p`, for a query that returns at most one row. -/
def find? (t : Table key clash) (p : Row → Bool) : Option Row := t.rows.find? p

/-! ### What the statements do to the rows -/

@[simp] theorem rows_empty : (empty : Table key clash).rows = [] := rfl

@[simp] theorem rows_update (t : Table key clash) (p : Row → Bool) (f : Row → Row)
    (hf : ∀ r, key (f r) = key r) :
    (t.update p f hf).rows = t.rows.map fun r => if p r then f r else r := rfl

@[simp] theorem rows_delete (t : Table key clash) (p : Row → Bool) :
    (t.delete p).rows = t.rows.filter fun r => !p r := rfl

theorem mem_update {t : Table key clash} {p : Row → Bool} {f : Row → Row}
    (hf : ∀ r, key (f r) = key r) {r : Row} :
    r ∈ (t.update p f hf).rows ↔ ∃ x ∈ t.rows, r = if p x then f x else x := by
  rw [rows_update, List.mem_map]
  exact exists_congr fun x => and_congr_right fun _ => eq_comm

theorem insert?_eq_some [DecidableRel clash] {t u : Table key clash} {r : Row}
    (h : t.insert? r = some u) :
    u.rows = t.rows ++ [r] ∧ ∀ x ∈ t.rows, ¬ clash (key x) (key r) := by
  unfold insert? at h
  split at h
  · cases h
  · rename_i hfree
    cases h
    exact ⟨rfl, fun x hx hc => hfree ⟨x, hx, hc⟩⟩

theorem insert?_isSome [DecidableRel clash] {t : Table key clash} {r : Row}
    (h : ∀ x ∈ t.rows, ¬ clash (key x) (key r)) : ∃ u, t.insert? r = some u := by
  unfold insert?
  rw [dif_neg]
  · exact ⟨_, rfl⟩
  · rintro ⟨x, hx, hc⟩
    exact h x hx hc

theorem mem_of_find? {t : Table key clash} {p : Row → Bool} {r : Row} (h : t.find? p = some r) :
    r ∈ t.rows ∧ p r = true :=
  ⟨List.mem_of_find?_eq_some h, List.find?_some h⟩

theorem find?_eq_none {t : Table key clash} {p : Row → Bool} :
    t.find? p = none ↔ ∀ r ∈ t.rows, p r = false := by
  simp [find?, List.find?_eq_none]

/-- Rows whose keys clash are one row. -/
theorem eq_of_clash (hsymm : ∀ a b, clash a b → clash b a) {t : Table key clash} {a b : Row}
    (ha : a ∈ t.rows) (hb : b ∈ t.rows) (hc : clash (key a) (key b)) : a = b := by
  by_contra hne
  have hs : Std.Symm fun a b : Row => ¬ clash (key a) (key b) := ⟨fun a b h h' => h (hsymm _ _ h')⟩
  exact t.unclashed.forall ha hb hne hc

/-- A query on a column that no two rows share finds the row that has the value. -/
theorem find?_of_mem (hsymm : ∀ a b, clash a b → clash b a) {t : Table key clash} {p : Row → Bool}
    {r : Row} (hr : r ∈ t.rows) (hp : p r = true)
    (hc : ∀ x ∈ t.rows, p x = true → clash (key x) (key r)) : t.find? p = some r := by
  cases hf : t.find? p with
  | none => rw [find?_eq_none.mp hf r hr] at hp; cases hp
  | some x =>
      obtain ⟨hx, hpx⟩ := mem_of_find? hf
      rw [eq_of_clash hsymm hx hr (hc x hx hpx)]

/-- An update rewrites what a query on its own condition finds. -/
theorem find?_update {t : Table key clash} {p : Row → Bool} {f : Row → Row}
    (hf : ∀ r, key (f r) = key r) (hp : ∀ r, p (f r) = p r) :
    (t.update p f hf).find? p = (t.find? p).map f := by
  unfold find?
  rw [rows_update, List.find?_map]
  have hsame : (p ∘ fun r => if p r then f r else r) = p := by
    funext r
    by_cases hr : p r = true
    · rw [Function.comp_apply, if_pos hr, hp]
    · rw [Function.comp_apply, if_neg hr]
  rw [hsame]
  cases hfound : t.rows.find? p with
  | none => rfl
  | some r => rw [Option.map_some, Option.map_some, if_pos (List.find?_some hfound)]

/-- An update whose condition no row meets changes nothing. -/
theorem update_eq_self {t : Table key clash} {p : Row → Bool} {f : Row → Row}
    {hf : ∀ r, key (f r) = key r} (h : ∀ r ∈ t.rows, p r = false) : t.update p f hf = t := by
  ext1
  rw [rows_update]
  exact map_eq_self fun r hr => by simp [h r hr]

/-- A query does not see an update of other rows. -/
theorem filter_update {t : Table key clash} {p q : Row → Bool} {f : Row → Row} (hf : ∀ r, key (f r) = key r)
    (hq : ∀ r, q (f r) = q r) (hother : ∀ r ∈ t.rows, q r = true → p r = false) :
    (t.update p f hf).rows.filter q = t.rows.filter q := by
  have hsame : (q ∘ fun r => if p r then f r else r) = q := by
    funext r
    by_cases hp : p r = true
    · rw [Function.comp_apply, if_pos hp, hq]
    · rw [Function.comp_apply, if_neg hp]
  rw [rows_update, List.filter_map, hsame]
  refine map_eq_self fun r hr => ?_
  obtain ⟨hr, hqr⟩ := List.mem_filter.mp hr
  rw [hother r hr hqr]
  rfl

/-- A query does not see that other rows are deleted. -/
theorem filter_delete {t : Table key clash} {p q : Row → Bool}
    (hother : ∀ r ∈ t.rows, q r = true → p r = false) : (t.delete p).rows.filter q = t.rows.filter q := by
  rw [rows_delete, List.filter_filter]
  refine List.filter_congr fun r hr => ?_
  by_cases hq : q r = true
  · rw [hq, hother r hr hq]
    rfl
  · rw [Bool.not_eq_true] at hq
    rw [hq]
    rfl

/-- A query does not see a new row that it does not ask for. -/
theorem filter_insert? [DecidableRel clash] {t u : Table key clash} {r : Row} {q : Row → Bool}
    (h : t.insert? r = some u) (hq : q r = false) : u.rows.filter q = t.rows.filter q := by
  rw [(insert?_eq_some h).1, List.filter_append, List.filter_singleton, hq]
  exact List.append_nil _

/-- An update that returns no row, `UPDATE … WHERE p RETURNING`, changes nothing. -/
theorem update_of_find?_none {t : Table key clash} {p : Row → Bool} {f : Row → Row}
    (hf : ∀ r, key (f r) = key r) (hp : ∀ r, p (f r) = p r)
    (h : (t.update p f hf).find? p = none) : t.update p f hf = t := by
  refine update_eq_self fun r hr => ?_
  have hfree := find?_eq_none.mp h (if p r then f r else r) ((mem_update hf).mpr ⟨r, hr, rfl⟩)
  by_cases hpr : p r = true
  · rw [if_pos hpr, hp, hpr] at hfree
    cases hfree
  · simpa using hpr

end Table

/-! ### A primary key and one unique column -/

/-- Two pairs agree in a component. -/
def EitherEq {A B : Type} (a b : A × B) : Prop := a.1 = b.1 ∨ a.2 = b.2

instance {A B : Type} [DecidableEq A] [DecidableEq B] : DecidableRel (EitherEq (A := A) (B := B)) :=
  fun a b => inferInstanceAs (Decidable (a.1 = b.1 ∨ a.2 = b.2))

theorem EitherEq.symm {A B : Type} {a b : A × B} (h : EitherEq a b) : EitherEq b a :=
  h.imp Eq.symm Eq.symm

end Effects
