import Mathlib.Data.List.Nodup

/-! # Byte strings in an alphabet of sixty-four letters

Three bytes are four digits of six bits.  One or two last bytes give two or three digits, whose unused
bits are zero; nothing else is read back (`ofSextets_eq_some_iff`).  An `Alphabet` writes the digits as
sixty-four different letters, so a text is the code of at most one byte string (`decode_eq_some_iff`). -/

namespace Sextets

/-! ### Digits -/

/-- The digits of a byte string. -/
def toSextets : List UInt8 → List (Fin 64)
  | [] => []
  | [a] => [.ofNat 64 (a.toNat / 4), .ofNat 64 (a.toNat % 4 * 16)]
  | [a, b] =>
      [.ofNat 64 (a.toNat / 4), .ofNat 64 (a.toNat % 4 * 16 + b.toNat / 16),
        .ofNat 64 (b.toNat % 16 * 4)]
  | a :: b :: c :: rest =>
      .ofNat 64 (a.toNat / 4) :: .ofNat 64 (a.toNat % 4 * 16 + b.toNat / 16) ::
        .ofNat 64 (b.toNat % 16 * 4 + c.toNat / 64) :: .ofNat 64 (c.toNat % 64) :: toSextets rest

/-- Read digits back.  A single last digit is an error, and so is an unused bit that is set. -/
def ofSextets : List (Fin 64) → Option (List UInt8)
  | [] => some []
  | [_] => none
  | [x, y] => if y.val % 16 = 0 then some [.ofNat (x.val * 4 + y.val / 16)] else none
  | [x, y, z] =>
      if z.val % 4 = 0 then
        some [.ofNat (x.val * 4 + y.val / 16), .ofNat (y.val % 16 * 16 + z.val / 4)]
      else none
  | x :: y :: z :: w :: rest => do
      let bytes ← ofSextets rest
      some (.ofNat (x.val * 4 + y.val / 16) :: .ofNat (y.val % 16 * 16 + z.val / 4) ::
        .ofNat (z.val % 4 * 64 + w.val) :: bytes)

theorem ofSextets_toSextets (b : List UInt8) : ofSextets (toSextets b) = some b := by
  induction b using toSextets.induct with
  | case1 => rfl
  | case2 a =>
      have ha := a.toNat_lt
      have hx : UInt8.ofNat (a.toNat / 4 % 64 * 4 + a.toNat % 4 * 16 % 64 / 16) = a := by
        rw [← UInt8.toNat_inj, UInt8.toNat_ofNat']
        omega
      have hunused : a.toNat % 4 * 16 % 64 % 16 = 0 := by omega
      rw [toSextets, ofSextets]
      simp only [Fin.val_ofNat]
      rw [if_pos hunused, hx]
  | case3 a b =>
      have ha := a.toNat_lt
      have hb := b.toNat_lt
      have hx : UInt8.ofNat (a.toNat / 4 % 64 * 4 + (a.toNat % 4 * 16 + b.toNat / 16) % 64 / 16) = a := by
        rw [← UInt8.toNat_inj, UInt8.toNat_ofNat']
        omega
      have hy : UInt8.ofNat ((a.toNat % 4 * 16 + b.toNat / 16) % 64 % 16 * 16 +
          b.toNat % 16 * 4 % 64 / 4) = b := by
        rw [← UInt8.toNat_inj, UInt8.toNat_ofNat']
        omega
      have hunused : b.toNat % 16 * 4 % 64 % 4 = 0 := by omega
      rw [toSextets, ofSextets]
      simp only [Fin.val_ofNat]
      rw [if_pos hunused, hx, hy]
  | case4 a b c rest ih =>
      have ha := a.toNat_lt
      have hb := b.toNat_lt
      have hc := c.toNat_lt
      have hx : UInt8.ofNat (a.toNat / 4 % 64 * 4 + (a.toNat % 4 * 16 + b.toNat / 16) % 64 / 16) = a := by
        rw [← UInt8.toNat_inj, UInt8.toNat_ofNat']
        omega
      have hy : UInt8.ofNat ((a.toNat % 4 * 16 + b.toNat / 16) % 64 % 16 * 16 +
          (b.toNat % 16 * 4 + c.toNat / 64) % 64 / 4) = b := by
        rw [← UInt8.toNat_inj, UInt8.toNat_ofNat']
        omega
      have hz : UInt8.ofNat ((b.toNat % 16 * 4 + c.toNat / 64) % 64 % 4 * 64 + c.toNat % 64 % 64) = c := by
        rw [← UInt8.toNat_inj, UInt8.toNat_ofNat']
        omega
      rw [toSextets, ofSextets, ih]
      simp only [Fin.val_ofNat, Option.bind_eq_bind, Option.bind_some]
      rw [hx, hy, hz]

/-- Only the digits of a byte string are read back. -/
theorem toSextets_of_ofSextets {l : List (Fin 64)} {b : List UInt8} (h : ofSextets l = some b) :
    toSextets b = l := by
  induction l using ofSextets.induct generalizing b with
  | case1 =>
      cases h
      rfl
  | case2 x => cases h
  | case3 x y hunused =>
      rw [ofSextets, if_pos hunused] at h
      cases h
      have hx := x.isLt
      have hy := y.isLt
      simp only [toSextets, UInt8.toNat_ofNat', List.cons.injEq, Fin.ext_iff, Fin.val_ofNat, and_true]
      omega
  | case4 x y hunused =>
      rw [ofSextets, if_neg hunused] at h
      cases h
  | case5 x y z hunused =>
      rw [ofSextets, if_pos hunused] at h
      cases h
      have hx := x.isLt
      have hy := y.isLt
      have hz := z.isLt
      simp only [toSextets, UInt8.toNat_ofNat', List.cons.injEq, Fin.ext_iff, Fin.val_ofNat, and_true]
      omega
  | case6 x y z hunused =>
      rw [ofSextets, if_neg hunused] at h
      cases h
  | case7 x y z w rest ih =>
      rw [ofSextets, Option.bind_eq_bind, Option.bind_eq_some_iff] at h
      obtain ⟨bytes, hrest, hb⟩ := h
      cases hb
      have hx := x.isLt
      have hy := y.isLt
      have hz := z.isLt
      have hw := w.isLt
      simp only [toSextets, ih hrest, UInt8.toNat_ofNat', List.cons.injEq, Fin.ext_iff, Fin.val_ofNat,
        and_true]
      omega

/-- What is read back, exactly. -/
theorem ofSextets_eq_some_iff {l : List (Fin 64)} {b : List UInt8} :
    ofSextets l = some b ↔ l = toSextets b :=
  ⟨fun h => (toSextets_of_ofSextets h).symm, fun h => h ▸ ofSextets_toSextets b⟩

/-! ### Letters -/

/-- Sixty-four different letters. -/
structure Alphabet where
  letters : List Char
  length : letters.length = 64
  nodup : letters.Nodup

namespace Alphabet

variable {a : Alphabet} {l : List Char} {b : List UInt8}

def letter (a : Alphabet) (d : Fin 64) : Char := a.letters.get (d.cast a.length.symm)

/-- The digit that a letter stands for. -/
def digit (a : Alphabet) (c : Char) : Option (Fin 64) :=
  (a.letters.finIdxOf? c).map (·.cast a.length)

theorem letter_mem (a : Alphabet) (d : Fin 64) : a.letter d ∈ a.letters := List.get_mem _ _

theorem digit_eq_some_iff {c : Char} {d : Fin 64} : a.digit c = some d ↔ c = a.letter d := by
  unfold digit letter
  rw [Option.map_eq_some_iff]
  constructor
  · rintro ⟨i, hi, rfl⟩
    exact (List.finIdxOf?_eq_some_iff.mp hi).1.symm
  · intro h
    refine ⟨d.cast a.length.symm, List.finIdxOf?_eq_some_iff.mpr ⟨h.symm, ?_⟩, rfl⟩
    -- no letter stands twice
    intro j hj heq
    exact absurd (List.nodup_iff_injective_get.mp a.nodup (heq.trans h)) (Fin.ne_of_lt hj)

theorem mapM_digit_eq_some_iff {ds : List (Fin 64)} : l.mapM a.digit = some ds ↔ l = ds.map a.letter := by
  induction l generalizing ds with
  | nil => cases ds <;> simp
  | cons c l ih =>
      rw [List.mapM_cons, Option.bind_eq_bind, Option.bind_eq_some_iff]
      constructor
      · rintro ⟨d, hd, hl⟩
        obtain ⟨ds', hds, hcons⟩ := Option.bind_eq_some_iff.mp hl
        cases hcons
        rw [digit_eq_some_iff.mp hd, ih.mp hds, List.map_cons]
      · intro h
        obtain ⟨d, ds', rfl, hd, hds⟩ := List.map_eq_cons_iff.mp h.symm
        exact ⟨d, digit_eq_some_iff.mpr hd.symm, Option.bind_eq_some_iff.mpr ⟨ds', ih.mpr hds.symm, rfl⟩⟩

/-- The code of a byte string, without padding. -/
def encode (a : Alphabet) (b : List UInt8) : List Char := (toSextets b).map a.letter

/-- Read a code back. -/
def decode (a : Alphabet) (l : List Char) : Option (List UInt8) := do
  ofSextets (← l.mapM a.digit)

theorem decode_eq_some_iff : a.decode l = some b ↔ l = a.encode b := by
  unfold decode encode
  rw [Option.bind_eq_bind, Option.bind_eq_some_iff]
  constructor
  · rintro ⟨ds, hds, hb⟩
    rw [mapM_digit_eq_some_iff.mp hds, ofSextets_eq_some_iff.mp hb]
  · intro h
    exact ⟨_, mapM_digit_eq_some_iff.mpr h, ofSextets_toSextets b⟩

theorem mem_letters_of_mem_encode {c : Char} (h : c ∈ a.encode b) : c ∈ a.letters := by
  obtain ⟨d, -, rfl⟩ := List.mem_map.mp h
  exact a.letter_mem d

end Alphabet

end Sextets
