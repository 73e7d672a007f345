import SuperAdmin.Go.Time

/-! # Texts of fmt

What the verbs `%q` and `%s` write for a string and for a duration. -/

namespace SuperAdmin

/-! ### Strings -/

/-- The lower-case hexadecimal digits of `n`, as many as asked for. -/
def hexDigits (n : ℕ) : ℕ → List Char
  | 0 => []
  | width + 1 => hexDigits (n / 16) width ++ [Nat.digitChar (n % 16)]

/-- A rune of a quoted string, given `strconv.IsPrint`. -/
def quoteRune (isPrint : Char → Bool) (r : Char) : List Char :=
  if r = '"' ∨ r = '\\' then ['\\', r]
  else if isPrint r then [r]
  else
    match r.toNat with
    | 0x07 => ['\\', 'a']
    | 0x08 => ['\\', 'b']
    | 0x0c => ['\\', 'f']
    | 0x0a => ['\\', 'n']
    | 0x0d => ['\\', 'r']
    | 0x09 => ['\\', 't']
    | 0x0b => ['\\', 'v']
    | n =>
        if n < 0x20 ∨ n = 0x7f then '\\' :: 'x' :: hexDigits n 2
        else if n < 0x10000 then '\\' :: 'u' :: hexDigits n 4
        else '\\' :: 'U' :: hexDigits n 8

/-- `strconv.Quote`. -/
def quote (isPrint : Char → Bool) (s : String) : String :=
  String.ofList ('"' :: (s.toList.flatMap (quoteRune isPrint) ++ ['"']))

/-! ### Durations -/

namespace Duration

/-- `fmtFrac`: the last digits of a number in front of a text, without trailing zeros, and the rest of the
number; the point goes only before a digit. -/
def fmtFrac (v : ℕ) : ℕ → List Char → List Char × ℕ
  | 0, digits => (if digits = [] then [] else '.' :: digits, v)
  | prec + 1, digits =>
      fmtFrac (v / 10) prec (if v % 10 = 0 ∧ digits = [] then [] else Nat.digitChar (v % 10) :: digits)

/-- A number of nanoseconds in a smaller unit of the given precision. -/
def inUnit (u prec : ℕ) : String :=
  let (frac, whole) := fmtFrac u prec []
  whole.repr ++ String.ofList frac

/-- `Duration.String`. -/
def string (d : Duration) : String :=
  let u := d.toInt.natAbs
  let text :=
    if u = 0 then "0s"
    else if u < 1000 then inUnit u 0 ++ "ns"
    else if u < 1000000 then inUnit u 3 ++ "µs"
    else if u < 1000000000 then inUnit u 6 ++ "ms"
    else
      let (frac, seconds) := fmtFrac u 9 []
      let minutes := seconds / 60
      (if 0 < minutes / 60 then (minutes / 60).repr ++ "h" else "") ++
        (if 0 < minutes then (minutes % 60).repr ++ "m" else "") ++
        (seconds % 60).repr ++ String.ofList frac ++ "s"
  if d < 0 then "-" ++ text else text

example : string (90 * minute) = "1h30m0s" := by decide

end Duration

end SuperAdmin
