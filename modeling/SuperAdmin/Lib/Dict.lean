import SuperAdmin.Lib.Table

/-! # Finite maps

A map is a table of entries, no two of which have the same key.  Reading, writing and erasing go by the key;
the entries stay in the order in which their keys came. -/

namespace Effects

/-- A map: entries with different keys. -/
abbrev Dict (K V : Type) : Type := Table (fun e : K × V => e.1) Eq

namespace Dict

variable {K V : Type} {m : Dict K V} {k : K} {v : V}

theorem eq_of_key {a b : K × V} (ha : a ∈ m.rows) (hb : b ∈ m.rows) (h : a.1 = b.1) : a = b :=
  Table.eq_of_clash (fun _ _ => Eq.symm) ha hb h

/-- Rewrite the values that satisfy `p`. -/
def modify (m : Dict K V) (p : V → Bool) (f : V → V) : Dict K V :=
  m.update (fun e => p e.2) (fun e => (e.1, f e.2)) fun _ => rfl

variable [DecidableEq K]

/-- The value of a key. -/
def get? (m : Dict K V) (k : K) : Option V := (m.find? (·.1 == k)).map Prod.snd

/-- Write the value of a key. -/
def set (m : Dict K V) (k : K) (v : V) : Dict K V :=
  match m.insert? (k, v) with
  | some m' => m'
  | none => m.update (·.1 == k) (fun e => (e.1, v)) fun _ => rfl

def erase (m : Dict K V) (k : K) : Dict K V := m.delete fun e => decide (e.1 = k)

theorem get?_eq_some : m.get? k = some v ↔ (k, v) ∈ m.rows := by
  unfold get?
  rw [Option.map_eq_some_iff]
  constructor
  · rintro ⟨⟨k', v'⟩, hfind, rfl⟩
    obtain ⟨hmem, hkey⟩ := Table.mem_of_find? hfind
    obtain rfl : k' = k := eq_of_beq hkey
    exact hmem
  · intro hmem
    exact ⟨_, Table.find?_of_mem (fun _ _ => Eq.symm) hmem (beq_self_eq_true k) fun x _ hx => eq_of_beq hx, rfl⟩

theorem get?_eq_none : m.get? k = none ↔ ∀ e ∈ m.rows, e.1 ≠ k := by
  unfold get?
  rw [Option.map_eq_none_iff, Table.find?_eq_none]
  exact forall₂_congr fun e _ => beq_eq_false_iff_ne

/-- A new key comes last. -/
theorem rows_set_of_new (h : ∀ e ∈ m.rows, e.1 ≠ k) : (m.set k v).rows = m.rows ++ [(k, v)] := by
  obtain ⟨m', hm'⟩ := Table.insert?_isSome (t := m) (r := (k, v)) h
  unfold set
  rw [hm']
  exact (Table.insert?_eq_some hm').1

end Dict

end Effects
