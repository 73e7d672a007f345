import Mathlib.Data.List.Basic
import Mathlib.Data.List.DropRight
import Mathlib.Algebra.Group.Nat.Defs

/-! # Strings, base64 and SHA-256

The functions of the standard library that the secrets of the system pass through: the random
bytes of a token are written in unpadded URL base64, and only the SHA-256 of that string is
stored. -/

namespace SuperAdmin

/-- `[]byte`. -/
abbrev Bytes : Type := List UInt8

/-- `[]byte(s)`: the UTF-8 bytes. -/
def bytesOf (s : String) : Bytes := s.toList.flatMap String.utf8EncodeChar

/-! ### strings -/

/-- `unicode.IsSpace`. -/
def isSpace (c : Char) : Bool :=
  let n := c.toNat
  (9 ≤ n && n ≤ 13) || n == 0x20 || n == 0x85 || n == 0xa0 || n == 0x1680 ||
    (0x2000 ≤ n && n ≤ 0x200a) || n == 0x2028 || n == 0x2029 || n == 0x202f || n == 0x205f ||
    n == 0x3000

/-- `strings.TrimSpace`. -/
def trimSpace (s : String) : String :=
  String.ofList ((s.toList.dropWhile isSpace).rdropWhile isSpace)

/-- `strings.TrimRight`. -/
def trimRight (s cutset : String) : String := String.ofList (s.toList.rdropWhile fun c => c ∈ cutset.toList)

/-- There is nothing to trim where nothing is to be cut. -/
theorem trim_eq_self {α : Type} {p : α → Bool} {l : List α} (h : ∀ x ∈ l, p x = false) :
    (l.dropWhile p).rdropWhile p = l := by
  have hleft : l.dropWhile p = l := by
    rw [List.dropWhile_eq_self_iff]
    intro hl
    rw [h _ (List.getElem_mem _)]
    exact Bool.false_ne_true
  rw [hleft, List.rdropWhile_eq_self_iff]
  intro hl
  rw [h _ (List.getLast_mem hl)]
  exact Bool.false_ne_true

/-- A string without white space. -/
theorem trimSpace_eq_self {s : String} (h : ∀ c ∈ s.toList, isSpace c = false) :
    trimSpace s = s := by
  rw [trimSpace, trim_eq_self h, String.ofList_toList]

/-- What is trimmed stays as it is. -/
theorem trim_trim {α : Type} {p : α → Bool} {l : List α} :
    (((l.dropWhile p).rdropWhile p).dropWhile p).rdropWhile p = (l.dropWhile p).rdropWhile p := by
  have hinit : (l.dropWhile p).rdropWhile p <+: l.dropWhile p := List.rdropWhile_prefix _ _
  have hleft : ((l.dropWhile p).rdropWhile p).dropWhile p = (l.dropWhile p).rdropWhile p := by
    rw [List.dropWhile_eq_self_iff]
    intro hpos
    rw [hinit.getElem hpos]
    exact List.dropWhile_get_zero_not _ l (hpos.trans_le hinit.length_le)
  rw [hleft, List.rdropWhile_idempotent]

theorem trimSpace_trimSpace (s : String) : trimSpace (trimSpace s) = trimSpace s := by
  rw [trimSpace, trimSpace, String.toList_ofList, trim_trim]

/-- `strings.ToLower`, given `unicode.ToLower`. -/
def toLower (lower : Char → Char) (s : String) : String := String.ofList (s.toList.map lower)

/-! ### base64 -/

/-- A digit of the URL-safe base64 alphabet. -/
def base64URLDigit (n : ℕ) : Char :=
  if n < 26 then Char.ofNat (65 + n)
  else if n < 52 then Char.ofNat (97 + (n - 26))
  else if n < 62 then Char.ofNat (48 + (n - 52))
  else if n = 62 then '-' else '_'

/-- Three bytes give four digits; one or two last bytes give two or three, with no padding. -/
def rawURLDigits : Bytes → List Char
  | [] => []
  | [a] => [base64URLDigit (a.toNat / 4), base64URLDigit (a.toNat % 4 * 16)]
  | [a, b] => [base64URLDigit (a.toNat / 4), base64URLDigit (a.toNat % 4 * 16 + b.toNat / 16),
      base64URLDigit (b.toNat % 16 * 4)]
  | a :: b :: c :: rest =>
      base64URLDigit (a.toNat / 4) :: base64URLDigit (a.toNat % 4 * 16 + b.toNat / 16) ::
        base64URLDigit (b.toNat % 16 * 4 + c.toNat / 64) :: base64URLDigit (c.toNat % 64) ::
        rawURLDigits rest

/-- `base64.RawURLEncoding.EncodeToString`. -/
def rawURLEncodeToString (b : Bytes) : String := String.ofList (rawURLDigits b)

/-! ### SHA-256 -/

namespace Sha256

/-- A 32-bit word, as a number that the operations keep below `2 ^ 32`. -/
abbrev Word : Type := ℕ

def add (a b : Word) : Word := (a + b) % 2 ^ 32

def rotr (x n : Word) : Word := x >>> n ||| (x <<< (32 - n)) % 2 ^ 32

def not (x : Word) : Word := x ^^^ 0xffffffff

/-- The eight working variables. -/
structure Vars where
  a : Word
  b : Word
  c : Word
  d : Word
  e : Word
  f : Word
  g : Word
  h : Word

def init : Vars :=
  ⟨0x6a09e667, 0xbb67ae85, 0x3c6ef372, 0xa54ff53a, 0x510e527f, 0x9b05688c, 0x1f83d9ab, 0x5be0cd19⟩

/-- The round constants. -/
def constants : List Word := [
  0x428a2f98, 0x71374491, 0xb5c0fbcf, 0xe9b5dba5, 0x3956c25b, 0x59f111f1, 0x923f82a4, 0xab1c5ed5,
  0xd807aa98, 0x12835b01, 0x243185be, 0x550c7dc3, 0x72be5d74, 0x80deb1fe, 0x9bdc06a7, 0xc19bf174,
  0xe49b69c1, 0xefbe4786, 0x0fc19dc6, 0x240ca1cc, 0x2de92c6f, 0x4a7484aa, 0x5cb0a9dc, 0x76f988da,
  0x983e5152, 0xa831c66d, 0xb00327c8, 0xbf597fc7, 0xc6e00bf3, 0xd5a79147, 0x06ca6351, 0x14292967,
  0x27b70a85, 0x2e1b2138, 0x4d2c6dfc, 0x53380d13, 0x650a7354, 0x766a0abb, 0x81c2c92e, 0x92722c85,
  0xa2bfe8a1, 0xa81a664b, 0xc24b8b70, 0xc76c51a3, 0xd192e819, 0xd6990624, 0xf40e3585, 0x106aa070,
  0x19a4c116, 0x1e376c08, 0x2748774c, 0x34b0bcb5, 0x391c0cb3, 0x4ed8aa4a, 0x5b9cca4f, 0x682e6ff3,
  0x748f82ee, 0x78a5636f, 0x84c87814, 0x8cc70208, 0x90befffa, 0xa4506ceb, 0xbef9a3f7, 0xc67178f2]

/-- One round, with the sum of the round constant and the schedule word. -/
def round (s : Vars) (kw : Word) : Vars :=
  let s1 := rotr s.e 6 ^^^ rotr s.e 11 ^^^ rotr s.e 25
  let ch := (s.e &&& s.f) ^^^ (not s.e &&& s.g)
  let t1 := add (add (add s.h s1) ch) kw
  let s0 := rotr s.a 2 ^^^ rotr s.a 13 ^^^ rotr s.a 22
  let maj := (s.a &&& s.b) ^^^ (s.a &&& s.c) ^^^ (s.b &&& s.c)
  ⟨add t1 (add s0 maj), s.a, s.b, s.c, add s.d t1, s.e, s.f, s.g⟩

/-- The first `n` words of the message schedule that starts with the sixteen words of a block. -/
def schedule : ℕ → List Word → List Word
  | 0, _ => []
  | _ + 1, [] => []
  | n + 1, w :: ws =>
      let s0 := rotr (ws.getD 0 0) 7 ^^^ rotr (ws.getD 0 0) 18 ^^^ ws.getD 0 0 >>> 3
      let s1 := rotr (ws.getD 13 0) 17 ^^^ rotr (ws.getD 13 0) 19 ^^^ ws.getD 13 0 >>> 10
      w :: schedule n (ws ++ [add (add (add w s0) (ws.getD 8 0)) s1])

def compress (s : Vars) (block : List Word) : Vars :=
  let t := (List.zipWith add (schedule 64 block) constants).foldl round s
  ⟨add s.a t.a, add s.b t.b, add s.c t.c, add s.d t.d, add s.e t.e, add s.f t.f, add s.g t.g,
    add s.h t.h⟩

/-- The big-endian bytes of a word. -/
def wordBytes (w : Word) : Bytes :=
  [UInt8.ofNat (w >>> 24), UInt8.ofNat (w >>> 16), UInt8.ofNat (w >>> 8), UInt8.ofNat w]

/-- The big-endian words of a byte string of a multiple of four bytes. -/
def words : Bytes → List Word
  | a :: b :: c :: d :: rest =>
      (a.toNat <<< 24 + b.toNat <<< 16 + c.toNat <<< 8 + d.toNat) :: words rest
  | _ => []

/-- The message, a one bit, zeros, and the bit length in the last eight bytes of a block. -/
def pad (m : Bytes) : Bytes :=
  let bits := 8 * m.length
  m ++ 0x80 :: List.replicate ((119 - m.length % 64) % 64) 0 ++
    (List.range 8).map fun i => UInt8.ofNat (bits / 256 ^ (7 - i))

/-- Fold the blocks of sixteen words; `n` bounds their number. -/
def blocks : ℕ → Vars → List Word → Vars
  | 0, s, _ => s
  | n + 1, s, ws => if ws = [] then s else blocks n (compress s (ws.take 16)) (ws.drop 16)

end Sha256

open Sha256 in
/-- `sha256.Sum256`. -/
def sum256 (m : Bytes) : Bytes :=
  let ws := words (pad m)
  let s := blocks ws.length init ws
  [s.a, s.b, s.c, s.d, s.e, s.f, s.g, s.h].flatMap wordBytes

end SuperAdmin
