import Roster.Text.Blank
import Roster.Text.Reader
import Roster.Time.Instant

/-!
# Timestamps

Instants are written as RFC 3339 timestamps in UTC: `2024-01-02T03:04:05.678Z`.  The fraction has
0, 3, 6 or 9 digits, the fewest that lose nothing, and years outside 0 to 9999 have a sign.

Reading is more generous.  Blanks may stand before each number and before each separator, the date
and the time may be joined by `T`, `t` or a blank, the fraction may have any number of digits of
which nine count, and any offset below a day is taken to UTC.
-/

namespace Roster.Rfc3339

open Text

/-! ## Writing -/

/-- The digits of a fraction, behind a point, in as few groups of three as lose nothing. -/
def writeFraction (nanos : Nat) : List Char :=
  if nanos = 0 then []
  else if nanos % 1000000 = 0 then '.' :: writePadded 3 (nanos / 1000000)
  else if nanos % 1000 = 0 then '.' :: writePadded 6 (nanos / 1000)
  else '.' :: writePadded 9 nanos

/-- A year, with a sign if it has not four digits. -/
def writeYear (y : Int) : List Char :=
  if 0 ≤ y ∧ y ≤ 9999 then writePadded 4 y.toNat
  else (if y < 0 then '-' else '+') :: writePadded 4 y.natAbs

/-- A time of day as `03:04:05`. -/
def writeClock (t : Instant) : List Char :=
  let (h, m, s) := t.clock
  writePadded 2 h ++ ':' :: writePadded 2 m ++ ':' :: writePadded 2 s

/-- The instant as a timestamp. -/
def write (t : Instant) : String :=
  let d := t.date
  String.ofList (writeYear d.year ++ '-' :: writePadded 2 d.month ++ '-' :: writePadded 2 d.day
    ++ 'T' :: writeClock t ++ writeFraction (t.nanos % 1000000000) ++ ['Z'])

/-! ## Reading -/

/-- The digits at the front of a text, at most `width` of them, and at least one. -/
def digits (width : Nat) : Reader (List Char) := fun cs =>
  let found := (cs.take width).takeWhile Char.isDigit
  if found.isEmpty then none else some (found, cs.drop found.length)

/-- A number of at most `width` digits, after blanks. -/
def number (width : Nat) : Reader Nat := fun cs => do
  let (found, rest) ← digits width (dropBlanks cs)
  return (Nat.ofDigitChars 10 found 0, rest)

/-- A year: four digits, or a sign and any number of digits. -/
def year : Reader Int := fun cs =>
  match dropBlanks cs with
  | '-' :: rest => do
      let (found, rest) ← digits rest.length rest
      return (-(Nat.ofDigitChars 10 found 0 : Int), rest)
  | '+' :: rest => do
      let (found, rest) ← digits rest.length rest
      return (Nat.ofDigitChars 10 found 0, rest)
  | cs => do
      let (found, rest) ← digits 4 cs
      return (Nat.ofDigitChars 10 found 0, rest)

/-- A given character, after blanks. -/
def mark (c : Char) : List Char → Option (List Char) := fun cs =>
  match dropBlanks cs with
  | d :: rest => if c = d then some rest else none
  | [] => none

/-- The fraction behind a point, in nanoseconds.  Digits behind the ninth do not count. -/
def fraction : Reader Nat := fun cs =>
  match cs with
  | '.' :: rest => do
      let (found, rest) ← digits 9 rest
      let nanos := Nat.ofDigitChars 10 found 0 * Nat.pow 10 (9 - found.length)
      return (nanos, rest.dropWhile Char.isDigit)
  | _ => some (0, cs)

/-- The two digits of an hour or a minute of an offset. -/
def twoDigits : Reader Nat := fun cs =>
  match cs with
  | a :: b :: rest =>
      if a.isDigit && b.isDigit then some (Nat.ofDigitChars 10 [a, b] 0, rest) else none
  | _ => none

/-- Hours and minutes of an offset, in seconds. -/
def offsetSize : Reader Nat := fun cs => do
  let (hours, rest) ← twoDigits cs
  let (minutes, rest) ← twoDigits (rest.dropWhile fun c => c == ':' || isBlank c)
  if minutes < 60 then return (hours * 3600 + minutes * 60, rest) else none

/-- An offset from UTC in seconds: a letter `Z`, the word `UTC`, or a sign with hours and
minutes. -/
def offset : Reader Int := fun cs =>
  match cs with
  | 'Z' :: rest | 'z' :: rest => some (0, rest)
  | '+' :: rest => (offsetSize rest).map fun (n, rest) => ((n : Int), rest)
  | '-' :: rest | '\u2212' :: rest => (offsetSize rest).map fun (n, rest) => (-(n : Int), rest)
  | a :: b :: c :: rest =>
      if a.toUpper = 'U' ∧ b.toUpper = 'T' ∧ c.toUpper = 'C' then some (0, rest) else none
  | _ => none

/-- A local date and time with its offset, as an instant, if all parts are in range. -/
def instantOf (date : Date) (h m s nanos : Nat) (shift : Int) : Option Instant :=
  if date.valid ∧ h < 24 ∧ m < 60 ∧ s ≤ 60 ∧ -86400 < shift ∧ shift < 86400 then
    let (second, nanos) := if s = 60 then (59, nanos + 1000000000) else (s, nanos)
    let seconds := daysOfCivil date * 86400 + (h * 3600 + m * 60 + second : Nat) - shift
    if firstSecond ≤ seconds ∧ seconds ≤ lastSecond then some ⟨seconds, nanos⟩ else none
  else none

/-- The instant of a timestamp. -/
def read? (s : String) : Option Instant := do
  let (y, rest) ← year s.toList
  let (mo, rest) ← number 2 (← mark '-' rest)
  let (d, rest) ← number 2 (← mark '-' rest)
  let rest ← match rest with
    | 'T' :: rest | 't' :: rest | ' ' :: rest => some rest
    | _ => none
  let (h, rest) ← number 2 rest
  let (mi, rest) ← number 2 (← mark ':' rest)
  let (sec, rest) ← number 2 (← mark ':' rest)
  let (nanos, rest) ← fraction rest
  let (shift, rest) ← offset (dropBlanks rest)
  if rest.all isBlank then instantOf ⟨y, mo, d⟩ h mi sec nanos shift else none

example : write ⟨0, 0⟩ = "1970-01-01T00:00:00Z" := by decide

example : write ⟨1704164645, 678000000⟩ = "2024-01-02T03:04:05.678Z" := by decide

example : read? "2024-01-02T05:04:05.678+02:00" = some ⟨1704164645, 678000000⟩ := by decide

/-- A leap second is kept beside the second before it. -/
example : (read? "2016-12-31T23:59:60Z").map write = some "2016-12-31T23:59:60Z" := by decide

example : (read? "-0001-03-01 00:00:00.5z").map write = some "-0001-03-01T00:00:00.500Z" := by
  decide

example : read? "2023-02-29T00:00:00Z" = none ∧ read? "2024-01-01T00:00:00" = none := by decide

end Roster.Rfc3339
