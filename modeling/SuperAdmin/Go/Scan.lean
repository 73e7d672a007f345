import SuperAdmin.Lib.Sextets
import SuperAdmin.Go.Encoding
import Mathlib.Data.String.Basic
import Mathlib.Algebra.Group.Int.Defs

/-! # Splitting, base64 and `fmt.Sscanf`

The readers of the standard library that take a stored password hash apart.  The last two are lenient: the
base64 decoder skips line ends, and `Sscanf` skips blanks before a number and does not look at what follows
the last directive.  `strictDecodeString_eq_some_iff` and `sscanf_eq_some_iff` say exactly what they accept. -/

namespace SuperAdmin

/-! ### strings.Split -/

/-- The separator is in no part. -/
theorem not_mem_of_mem_splitOn {sep : Char} {l part : List Char} (h : part ∈ l.splitOn sep) : sep ∉ part := by
  induction l generalizing part with
  | nil =>
      obtain rfl := List.mem_singleton.mp h
      exact List.not_mem_nil
  | cons c l ih =>
      rw [List.splitOn_cons_eq_if_modifyHead] at h
      split at h
      · rcases List.mem_cons.mp h with rfl | hpart
        · exact List.not_mem_nil
        · exact ih hpart
      · rename_i hc
        obtain ⟨first, parts, hsplit⟩ := List.exists_cons_of_ne_nil (List.splitOn_ne_nil sep l)
        rw [hsplit, List.modifyHead_cons] at h
        rw [hsplit] at ih
        rcases List.mem_cons.mp h with rfl | hpart
        · rintro hmem
          rcases List.mem_cons.mp hmem with rfl | hfirst
          · exact hc (beq_self_eq_true _)
          · exact ih List.mem_cons_self hfirst
        · exact ih (List.mem_cons_of_mem _ hpart)

/-! ### encoding/base64 -/

/-- The standard alphabet. -/
def stdAlphabet : Sextets.Alphabet where
  letters := "ABCDEFGHIJKLMNOPQRSTUVWXYZabcdefghijklmnopqrstuvwxyz0123456789+/".toList
  length := by decide
  nodup := by decide

def rawStdDigits (b : Bytes) : List Char := stdAlphabet.encode b

/-- `base64.RawStdEncoding.EncodeToString`. -/
def rawStdEncodeToString (b : Bytes) : String := String.ofList (rawStdDigits b)

def isLineEnd (c : Char) : Bool := c == '\n' || c == '\r'

/-- `base64.RawStdEncoding.Strict().DecodeString`; `none` is an error. -/
def strictDecodeString (l : List Char) : Option Bytes :=
  stdAlphabet.decode (l.filter fun c => !isLineEnd c)

theorem strictDecodeString_eq_some_iff {l : List Char} {b : Bytes} :
    strictDecodeString l = some b ↔ (l.filter fun c => !isLineEnd c) = rawStdDigits b :=
  Sextets.Alphabet.decode_eq_some_iff

/-- A character that is no letter of the alphabet does not occur in a code. -/
theorem not_mem_rawStdDigits {c : Char} (h : c ∉ stdAlphabet.letters) (b : Bytes) :
    c ∉ rawStdDigits b :=
  fun hc => h (Sextets.Alphabet.mem_letters_of_mem_encode hc)

theorem strictDecodeString_rawStdDigits (b : Bytes) :
    strictDecodeString (rawStdDigits b) = some b := by
  rw [strictDecodeString_eq_some_iff, List.filter_eq_self]
  intro c hc
  have hletters : (stdAlphabet.letters.all fun c => !isLineEnd c) = true := by decide
  exact List.all_eq_true.mp hletters c (Sextets.Alphabet.mem_letters_of_mem_encode hc)

/-! ### fmt.Sscanf -/

/-- The types of the operands that `%d` is used with. -/
inductive IntType where
  | int
  | uint8
  | uint32
deriving DecidableEq

/-- The values of the type. -/
def IntType.Fits : IntType → ℤ → Prop
  | int, n => -2 ^ 63 ≤ n ∧ n < 2 ^ 63
  | uint8, n => 0 ≤ n ∧ n < 2 ^ 8
  | uint32, n => 0 ≤ n ∧ n < 2 ^ 32

instance (t : IntType) (n : ℤ) : Decidable (t.Fits n) := by
  cases t <;> unfold IntType.Fits <;> infer_instance

namespace Scan

/-- `SkipSpace`; a line feed is an error. -/
def skipSpace : List Char → Option (List Char)
  | [] => some []
  | c :: l => if c = '\n' then none else if isSpace c then skipSpace l else some (c :: l)

/-- The optional sign, for a signed type: its factor and the rest. -/
def scanSign : IntType → List Char → ℤ × List Char
  | .int, '+' :: l => (1, l)
  | .int, '-' :: l => (-1, l)
  | _, l => (1, l)

/-- `scanInt` and `scanUint`: as many digits as there are, at least one. -/
def scanNumber (t : IntType) (l : List Char) : Option (ℤ × List Char) :=
  let (factor, l) := scanSign t l
  let digits := l.takeWhile Char.isDigit
  if digits = [] then none
  else
    let n := factor * (Nat.ofDigitChars 10 digits 0 : ℕ)
    if t.Fits n then some (n, l.dropWhile Char.isDigit) else none

end Scan

open Scan in
/-- `fmt.Sscanf(l, format, operands...)`, for a format of `%d` and of characters that are neither blanks nor
`%`: the values that the operands get, or an error. -/
def sscanf : List Char → List IntType → List Char → Option (List ℤ)
  | '%' :: 'd' :: format, t :: operands, l => do
      let (n, l) ← scanNumber t (← skipSpace l)
      let ns ← sscanf format operands l
      some (n :: ns)
  | c :: format, operands, a :: l => if c ≠ '%' ∧ a = c then sscanf format operands l else none
  | _ :: _, _, [] => none
  | [], [], _ => some []
  -- too many operands
  | [], _ :: _, _ => none

namespace Scan

/-! ### What Sscanf accepts -/

/-- The signs of a type and their factors. -/
inductive Sign : IntType → List Char → ℤ → Prop
  | none (t : IntType) : Sign t [] 1
  | plus : Sign .int ['+'] 1
  | minus : Sign .int ['-'] (-1)

/-- `l` is a text of `n`. -/
structure Numeral (t : IntType) (l : List Char) (n : ℤ) : Prop where
  text : ∃ sign factor digits, Sign t sign factor ∧ l = sign ++ digits ∧ digits ≠ [] ∧
    (∀ c ∈ digits, c.isDigit = true) ∧ n = factor * (Nat.ofDigitChars 10 digits 0 : ℕ)
  fits : t.Fits n

def Blank (l : List Char) : Prop := ∀ c ∈ l, c ≠ '\n' ∧ isSpace c = true

/-- A number does not go on in `l`. -/
def Ends (l : List Char) : Prop := ∀ c ∈ l.head?, c.isDigit = false

/-- The texts that a format accepts, and the values of its operands. -/
inductive Matches : List Char → List IntType → List Char → List ℤ → Prop
  | done (rest : List Char) : Matches [] [] rest []
  | literal {c : Char} {format : List Char} {operands : List IntType} {l : List Char} {ns : List ℤ}
      (hc : c ≠ '%') (h : Matches format operands l ns) : Matches (c :: format) operands (c :: l) ns
  | number {t : IntType} {format : List Char} {operands : List IntType} {blanks num l : List Char}
      {n : ℤ} {ns : List ℤ} (hblanks : Blank blanks) (hnum : Numeral t num n) (hends : Ends l)
      (h : Matches format operands l ns) :
      Matches ('%' :: 'd' :: format) (t :: operands) (blanks ++ (num ++ l)) (n :: ns)

/-- Nothing is skipped from a text that does not begin with white space. -/
theorem skipSpace_append {blanks l : List Char} (hblanks : Blank blanks)
    (hl : ∀ c ∈ l.head?, isSpace c = false) : skipSpace (blanks ++ l) = some l := by
  induction blanks with
  | nil =>
      cases l with
      | nil => rfl
      | cons c l =>
          have hc := hl c rfl
          have hne : c ≠ '\n' := by
            rintro rfl
            exact absurd hc (by decide)
          rw [List.nil_append, skipSpace, if_neg hne, hc, if_neg Bool.false_ne_true]
  | cons b blanks ih =>
      obtain ⟨hb, hblanks⟩ := List.forall_mem_cons.mp hblanks
      rw [List.cons_append, skipSpace, if_neg hb.1, if_pos hb.2, ih hblanks]

theorem skipSpace_eq_some {l l' : List Char} (h : skipSpace l = some l') :
    ∃ blanks, Blank blanks ∧ l = blanks ++ l' := by
  induction l with
  | nil =>
      cases h
      exact ⟨[], List.forall_mem_nil _, rfl⟩
  | cons c l ih =>
      rw [skipSpace] at h
      split at h
      · cases h
      · rename_i hne
        split at h
        · rename_i hspace
          obtain ⟨blanks, hblanks, rfl⟩ := ih h
          exact ⟨c :: blanks, List.forall_mem_cons.mpr ⟨⟨hne, hspace⟩, hblanks⟩, rfl⟩
        · cases h
          exact ⟨[], List.forall_mem_nil _, rfl⟩

theorem scanSign_append {t : IntType} {sign digits rest : List Char} {factor : ℤ}
    (hsign : Sign t sign factor) (hne : digits ≠ []) (hdigit : ∀ c ∈ digits, c.isDigit = true) :
    scanSign t (sign ++ (digits ++ rest)) = (factor, digits ++ rest) := by
  cases hsign with
  | none =>
      cases digits with
      | nil => exact absurd rfl hne
      | cons d digits =>
          have hd := hdigit d List.mem_cons_self
          -- a digit is no sign
          unfold scanSign
          split
          · rename_i heq
            cases heq
            exact absurd hd (by decide)
          · rename_i heq
            cases heq
            exact absurd hd (by decide)
          · rfl
  | plus => rfl
  | minus => rfl

theorem scanSign_eq {t : IntType} {l l' : List Char} {factor : ℤ} (h : scanSign t l = (factor, l')) :
    ∃ sign, Sign t sign factor ∧ l = sign ++ l' := by
  unfold scanSign at h
  split at h
  · cases h
    exact ⟨_, .plus, rfl⟩
  · cases h
    exact ⟨_, .minus, rfl⟩
  · cases h
    exact ⟨_, .none t, rfl⟩

/-- The digits of a number, and what comes after them. -/
theorem takeWhile_dropWhile_digits {digits l : List Char} (hdigit : ∀ c ∈ digits, c.isDigit = true)
    (hends : Ends l) : (digits ++ l).takeWhile Char.isDigit = digits ∧
      (digits ++ l).dropWhile Char.isDigit = l := by
  have hl : l.takeWhile Char.isDigit = [] ∧ l.dropWhile Char.isDigit = l := by
    cases l with
    | nil => exact ⟨rfl, rfl⟩
    | cons c l =>
        have hc := hends c rfl
        exact ⟨List.takeWhile_cons_of_neg (Bool.eq_false_iff.mp hc),
          List.dropWhile_cons_of_neg (Bool.eq_false_iff.mp hc)⟩
  rw [List.takeWhile_append_of_pos hdigit, List.dropWhile_append_of_pos hdigit, hl.1, hl.2]
  exact ⟨List.append_nil _, rfl⟩

theorem ends_dropWhile (l : List Char) : Ends (l.dropWhile Char.isDigit) := by
  intro c hc
  have hhead := List.head?_dropWhile_not Char.isDigit l
  rw [hc] at hhead
  exact hhead

theorem scanNumber_eq_some_iff {t : IntType} {l l' : List Char} {n : ℤ} :
    scanNumber t l = some (n, l') ↔ ∃ num, Numeral t num n ∧ Ends l' ∧ l = num ++ l' := by
  constructor
  · intro h
    unfold scanNumber at h
    obtain ⟨factor, l₁, hscan⟩ : ∃ factor l₁, scanSign t l = (factor, l₁) := ⟨_, _, rfl⟩
    obtain ⟨sign, hsign, rfl⟩ := scanSign_eq hscan
    rw [hscan] at h
    dsimp only at h
    split at h
    · cases h
    · rename_i hne
      split at h
      · rename_i hfits
        cases h
        refine ⟨_, ⟨⟨sign, factor, _, hsign, rfl, hne, fun _ hc => List.mem_takeWhile_imp hc, rfl⟩,
          hfits⟩, ends_dropWhile l₁, ?_⟩
        rw [List.append_assoc, List.takeWhile_append_dropWhile]
      · cases h
  · rintro ⟨num, ⟨⟨sign, factor, digits, hsign, rfl, hne, hdigit, rfl⟩, hfits⟩, hends, rfl⟩
    obtain ⟨htake, hdrop⟩ := takeWhile_dropWhile_digits hdigit hends
    unfold scanNumber
    rw [List.append_assoc, scanSign_append hsign hne hdigit]
    dsimp only
    rw [htake, hdrop, if_neg hne, if_pos hfits]

/-- A number does not begin with white space. -/
theorem Numeral.head {t : IntType} {num : List Char} {n : ℤ} (h : Numeral t num n) (l : List Char) :
    ∀ c ∈ (num ++ l).head?, isSpace c = false := by
  obtain ⟨sign, factor, digits, hsign, rfl, hne, hdigit, -⟩ := h.text
  intro c hc
  cases hsign with
  | none =>
      obtain ⟨d, digits, rfl⟩ := List.exists_cons_of_ne_nil hne
      obtain rfl : d = c := Option.some.inj hc
      have hd := hdigit d List.mem_cons_self
      rw [Char.isDigit_iff_toNat, show '0'.toNat = 48 from rfl, show '9'.toNat = 57 from rfl] at hd
      simp [isSpace]
      omega
  | plus =>
      cases hc
      decide
  | minus =>
      cases hc
      decide

end Scan

open Scan in
/-- A number as `%d` prints it is accepted. -/
theorem Scan.Matches.digits {t : IntType} {format : List Char} {operands : List IntType} {l : List Char}
    {n : ℕ} {ns : List ℤ} (hfits : t.Fits n) (hends : Ends l) (h : Matches format operands l ns) :
    Matches ('%' :: 'd' :: format) (t :: operands) (Nat.toDigits 10 n ++ l) (n :: ns) := by
  have hdigit : ∀ c ∈ Nat.toDigits 10 n, c.isDigit = true := fun _ hc =>
    Nat.isDigit_of_mem_toDigits (by decide) (by decide) hc
  have hvalue : (n : ℤ) = 1 * (Nat.ofDigitChars 10 (Nat.toDigits 10 n) 0 : ℕ) := by
    rw [Nat.ofDigitChars_ten_toDigits, Int.one_mul]
  exact .number (List.forall_mem_nil _)
    ⟨⟨[], 1, Nat.toDigits 10 n, .none t, rfl, Nat.toDigits_ne_nil, hdigit, hvalue⟩, hfits⟩ hends h

open Scan in
/-- The values that `Sscanf` stores fit their operands. -/
theorem Scan.Matches.fits {format l : List Char} {operands : List IntType} {ns : List ℤ}
    (h : Matches format operands l ns) : List.Forall₂ IntType.Fits operands ns := by
  induction h with
  | done => exact .nil
  | literal _ _ ih => exact ih
  | number _ hnum _ _ ih => exact .cons hnum.fits ih

open Scan in
/-- What `Sscanf` accepts, exactly. -/
theorem sscanf_eq_some_iff {format l : List Char} {operands : List IntType} {ns : List ℤ} :
    sscanf format operands l = some ns ↔ Matches format operands l ns := by
  constructor
  · intro h
    induction format, operands, l using sscanf.induct generalizing ns with
    | case1 format t operands l ih =>
        rw [sscanf, Option.bind_eq_bind, Option.bind_eq_some_iff] at h
        obtain ⟨l₁, hskip, hscan⟩ := h
        obtain ⟨blanks, hblanks, rfl⟩ := skipSpace_eq_some hskip
        obtain ⟨⟨n, l₂⟩, hnumber, hthen⟩ := Option.bind_eq_some_iff.mp hscan
        obtain ⟨num, hnum, hends, rfl⟩ := scanNumber_eq_some_iff.mp hnumber
        obtain ⟨ns', hrest, hns⟩ := Option.bind_eq_some_iff.mp hthen
        cases hns
        exact .number hblanks hnum hends (ih _ hrest)
    | case2 c format operands a l hd hc ih =>
        rw [sscanf, if_pos hc] at h
        · obtain ⟨hne, rfl⟩ := hc
          exact .literal hne (ih h)
        · exact hd
    | case3 c format operands a l hd hc =>
        rw [sscanf, if_neg hc] at h
        · cases h
        · exact hd
    | case4 c format operands hd =>
        rw [sscanf] at h
        · cases h
        · exact hd
    | case5 l =>
        rw [sscanf] at h
        cases h
        exact .done l
    | case6 t operands l =>
        rw [sscanf] at h
        cases h
  · intro h
    induction h with
    | done => rw [sscanf]
    | literal hc _ ih =>
        rw [sscanf, if_pos ⟨hc, rfl⟩, ih]
        exact fun _ _ _ _ heq _ => absurd heq hc
    | number hblanks hnum hends _ ih =>
        rw [sscanf, skipSpace_append hblanks (hnum.head _)]
        simp only [Option.bind_eq_bind, Option.bind_some]
        rw [scanNumber_eq_some_iff.mpr ⟨_, hnum, hends, rfl⟩, Option.bind_some, ih, Option.bind_some]

end SuperAdmin
