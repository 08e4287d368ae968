import Roster.Text.Numeral
import Roster.Time.Instant
import Roster.Toml.Basic
import Roster.Toml.Text

/-!
# Numbers, dates and times of TOML

Digits may be joined by single underscores.  A decimal number has no leading zero.  Whole numbers
are signed 64-bit words, those of base 16, 8 and 2 have no sign.  A number with a fraction or an
exponent may be of any size, but one that is positive must not round to infinity.
-/

namespace Roster.Toml

open Text

/-! ## Digits -/

/-- The digits that go on from a first digit, each perhaps behind an underscore. -/
def moreDigits (isDigit : Char → Bool) : List Char → List Char × List Char
  | '_' :: c :: cs =>
      if isDigit c then
        let (found, rest) := moreDigits isDigit cs
        (c :: found, rest)
      else ([], '_' :: c :: cs)
  | c :: cs =>
      if isDigit c then
        let (found, rest) := moreDigits isDigit cs
        (c :: found, rest)
      else ([], c :: cs)
  | [] => ([], [])

/-- One or more digits. -/
def digits (isDigit : Char → Bool) : Reader (List Char)
  | c :: cs =>
      if isDigit c then
        let (found, rest) := moreDigits isDigit cs
        some (c :: found, rest)
      else none
  | [] => none

/-- The digits of a decimal number without a leading zero. -/
def decimal : Reader (List Char)
  | '0' :: rest => some (['0'], rest)
  | cs => digits Char.isDigit cs

/-! ## Whole numbers -/

/-- The greatest whole number. -/
def maxInteger : Int := 9223372036854775807

/-- The least whole number. -/
def minInteger : Int := -9223372036854775808

/-- The number, if it is a 64-bit word. -/
def integer? (n : Int) : Option Toml :=
  if minInteger ≤ n ∧ n ≤ maxInteger then some (.integer n) else none

/-- A whole number of another base, behind its mark. -/
def basedInteger (base : Nat) : Reader Toml := fun cs =>
  let isDigit (c : Char) : Bool := (hexDigit? c).any (· < base)
  (digits isDigit cs).bind fun (found, rest) =>
    let n := found.foldl (fun n c => n * base + (hexDigit? c).getD 0) 0
    (integer? n).map (·, rest)

/-! ## Numbers with a fraction -/

/-- The least number that rounds to infinity: halfway from the greatest finite one to the next
power of two. -/
def infinityThreshold : Nat := (Nat.pow 2 54 - 1) * Nat.pow 2 970

/-- Whether `n * 10 ^ scale` rounds to infinity.  The number of digits settles all but the numbers
near the threshold. -/
def overflows (n : Nat) (scale : Int) : Bool :=
  let width : Int := (Nat.toDigits 10 n).length + scale
  if n = 0 || width < 300 then false
  else if 320 < width then true
  else if 0 ≤ scale then infinityThreshold ≤ n * Nat.pow 10 scale.toNat
  else infinityThreshold * Nat.pow 10 (-scale).toNat ≤ n

/-- An exponent behind its letter. -/
def exponent : Reader Int
  | '-' :: rest =>
      (digits Char.isDigit rest).map fun (found, rest) =>
        (-(Nat.ofDigitChars 10 found 0 : Int), rest)
  | '+' :: rest =>
      (digits Char.isDigit rest).map fun (found, rest) => (Nat.ofDigitChars 10 found 0, rest)
  | cs => (digits Char.isDigit cs).map fun (found, rest) => (Nat.ofDigitChars 10 found 0, rest)

/-- A finite number of the given digits, or one below zero. -/
def float? (negative : Bool) (whole fraction : List Char) (scale : Int) : Option Toml :=
  let n := Nat.ofDigitChars 10 (whole ++ fraction) 0
  if !negative && overflows n (scale - fraction.length) then none else some .float

/-- What may follow the digits of a number: a fraction, an exponent, both, or neither. -/
def numberTail (negative : Bool) (whole : List Char) : Reader Toml
  | '.' :: rest =>
      (digits Char.isDigit rest).bind fun (fraction, rest) =>
        match rest with
        | 'e' :: rest | 'E' :: rest =>
            (exponent rest).bind fun (scale, rest) =>
              (float? negative whole fraction scale).map (·, rest)
        | rest => (float? negative whole fraction 0).map (·, rest)
  | 'e' :: rest | 'E' :: rest =>
      (exponent rest).bind fun (scale, rest) => (float? negative whole [] scale).map (·, rest)
  | rest =>
      let n : Int := Nat.ofDigitChars 10 whole 0
      (integer? (if negative then -n else n)).map (·, rest)

/-- A number without its sign. -/
def unsigned (negative : Bool) : Reader Toml
  | 'i' :: 'n' :: 'f' :: rest => some (.float, rest)
  | 'n' :: 'a' :: 'n' :: rest => some (.float, rest)
  | cs => (decimal cs).bind fun (whole, rest) => numberTail negative whole rest

/-- A number. -/
def readNumber : Reader Toml
  | '-' :: rest => unsigned true rest
  | '+' :: rest => unsigned false rest
  | '0' :: 'x' :: rest => basedInteger 16 rest
  | '0' :: 'o' :: rest => basedInteger 8 rest
  | '0' :: 'b' :: rest => basedInteger 2 rest
  | cs => unsigned false cs

/-! ## Dates and times -/

/-- A number of exactly `width` digits, from `low` to `high`. -/
def fixedNumber (width low high : Nat) : Reader Nat := fun cs =>
  let found := cs.take width
  let n := Nat.ofDigitChars 10 found 0
  if found.length = width ∧ found.all Char.isDigit ∧ low ≤ n ∧ n ≤ high then
    some (n, cs.drop width)
  else none

/-- What follows a date. -/
def skipDate (cs : List Char) : Option (List Char) := do
  let (y, rest) ← fixedNumber 4 0 9999 cs
  let (m, rest) ← fixedNumber 2 1 12 (← dropStart? ['-'] rest)
  let (_, rest) ← fixedNumber 2 1 (daysInMonth y m) (← dropStart? ['-'] rest)
  return rest

/-- What follows a time of day, where a minute may have a sixty-first second. -/
def skipTime (cs : List Char) : Option (List Char) := do
  let (_, rest) ← fixedNumber 2 0 23 cs
  let (_, rest) ← fixedNumber 2 0 59 (← dropStart? [':'] rest)
  let (_, rest) ← fixedNumber 2 0 60 (← dropStart? [':'] rest)
  match rest with
  | '.' :: c :: more => return if c.isDigit then more.dropWhile Char.isDigit else rest
  | _ => return rest

/-- What follows hours and minutes. -/
def skipShift (cs : List Char) : Option (List Char) := do
  let (_, rest) ← fixedNumber 2 0 23 cs
  let (_, rest) ← fixedNumber 2 0 59 (← dropStart? [':'] rest)
  return rest

/-- What follows an offset from UTC, if one stands here. -/
def skipOffset (cs : List Char) : List Char :=
  match cs with
  | 'Z' :: rest | 'z' :: rest => rest
  | '+' :: rest | '-' :: rest => (skipShift rest).getD cs
  | _ => cs

/-- A date, a time of day, or both. -/
def readMoment : Reader Toml := fun cs =>
  match skipDate cs with
  | some rest =>
      match rest with
      | 'T' :: more | 't' :: more | ' ' :: more =>
          match skipTime more with
          | some more => some (.moment, skipOffset more)
          | none => some (.moment, rest)
      | _ => some (.moment, rest)
  | none => (skipTime cs).map (.moment, ·)

/-- A number or a moment. -/
def numberOrMoment : Reader Toml := fun cs => readMoment cs <|> readNumber cs

example : (readNumber "1_000,".toList).map (·.2) = some [','] := by decide

example : (readNumber "9223372036854775808".toList).isNone
    ∧ (readNumber "-9223372036854775808".toList).isSome := by decide +kernel

example : (readNumber "1.7976931348623158e308".toList).isSome
    ∧ (readNumber "1.7976931348623159e308".toList).isNone
    ∧ (readNumber "-1e999".toList).isSome := by decide +kernel

example : (readMoment "1979-05-27 07:32:00.5+01:00]".toList).map (·.2) = some [']']
    ∧ (readMoment "1979-02-29".toList).isNone
    ∧ (readMoment "1979-05-27 # c".toList).map (·.2) = some " # c".toList := by decide +kernel

end Roster.Toml
