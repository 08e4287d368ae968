/-!
# Decimal numerals

Whole numbers are read from one or more ASCII digits, with a sign where the format allows one, and
must lie in the range that the caller gives.  `readUnsigned_write` and `readSigned_write` say that
what is written is read back.
-/

namespace Roster.Text

/-- The value of a run of digits, if it is one and not empty. -/
def readDigits (cs : List Char) : Option Nat :=
  if cs = [] ∨ cs.any (!·.isDigit) then none else some (Nat.ofDigitChars 10 cs 0)

/-- The characters behind a plus sign, if there is one. -/
def dropPlus : List Char → List Char
  | '+' :: rest => rest
  | cs => cs

/-- A number below `bound`, perhaps with a plus sign. -/
def readUnsigned (bound : Nat) (cs : List Char) : Option Nat :=
  (readDigits (dropPlus cs)).bind fun n => if n < bound then some n else none

/-- The value of a run of digits, perhaps behind a sign. -/
def readInteger : List Char → Option Int
  | '-' :: rest => (readDigits rest).map fun n => -Int.ofNat n
  | cs => (readDigits (dropPlus cs)).map Int.ofNat

/-- A number from `low` to `high`, perhaps with a sign. -/
def readSigned (low high : Int) (cs : List Char) : Option Int :=
  (readInteger cs).bind fun n => if low ≤ n ∧ n ≤ high then some n else none

/-- The decimal digits of a number. -/
def writeNat (n : Nat) : List Char := Nat.toDigits 10 n

/-- The decimal digits of a number, behind a minus sign if it is negative. -/
def writeInt : Int → List Char
  | .ofNat n => writeNat n
  | .negSucc n => '-' :: writeNat (n + 1)

/-- The digits of a number, behind zeros that bring them to `width`. -/
def writePadded (width n : Nat) : List Char :=
  let digits := writeNat n
  List.replicate (width - digits.length) '0' ++ digits

/-! ## Laws -/

theorem isDigit_of_mem_writeNat {n : Nat} {c : Char} (h : c ∈ writeNat n) : c.isDigit = true :=
  Nat.isDigit_of_mem_toDigits (by decide) (by decide) h

theorem writeNat_ne_nil (n : Nat) : writeNat n ≠ [] := Nat.toDigits_ne_nil

theorem readDigits_write (n : Nat) : readDigits (writeNat n) = some n := by
  have hd : (writeNat n).any (!·.isDigit) = false := by
    rw [List.any_eq_false]
    intro c hc
    simp [isDigit_of_mem_writeNat hc]
  rw [readDigits, if_neg (by simp [writeNat_ne_nil, hd])]
  exact congrArg some (Nat.ofDigitChars_toDigits (by decide) (by decide))

/-- A numeral does not start with a sign. -/
theorem writeNat_head_ne {n : Nat} {c : Char} {rest : List Char} (h : writeNat n = c :: rest) :
    c ≠ '+' ∧ c ≠ '-' := by
  have hc : c.isDigit = true := isDigit_of_mem_writeNat (h ▸ List.mem_cons_self ..)
  constructor <;> rintro rfl <;> exact absurd hc (by decide)

theorem dropPlus_writeNat (n : Nat) : dropPlus (writeNat n) = writeNat n := by
  cases hw : writeNat n with
  | nil => rfl
  | cons c rest =>
      unfold dropPlus
      split
      · next heq => exact absurd (List.cons.inj heq).1 (writeNat_head_ne hw).1
      · rfl

theorem readUnsigned_write {bound n : Nat} (h : n < bound) :
    readUnsigned bound (writeNat n) = some n := by
  simp [readUnsigned, dropPlus_writeNat, readDigits_write, h]

theorem readInteger_write (n : Int) : readInteger (writeInt n) = some n := by
  cases n with
  | ofNat n =>
      rw [writeInt]
      unfold readInteger
      split
      · next heq => exact absurd rfl (writeNat_head_ne heq).2
      · simp [dropPlus_writeNat, readDigits_write]
  | negSucc n => simp [writeInt, readInteger, readDigits_write, Int.negSucc_eq]

theorem readSigned_write {low high n : Int} (hl : low ≤ n) (hh : n ≤ high) :
    readSigned low high (writeInt n) = some n := by
  simp [readSigned, readInteger_write, hl, hh]

example : readUnsigned 10 "+07".toList = some 7 ∧ readUnsigned 10 "10".toList = none := by decide

example : readSigned (-5) 5 "-5".toList = some (-5) ∧ readSigned (-5) 5 "".toList = none := by
  decide

example : writePadded 4 7 = ['0', '0', '0', '7'] := by decide

end Roster.Text
