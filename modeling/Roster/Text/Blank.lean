/-!
# Blanks and trimming

A blank is a character with the Unicode property `White_Space`.  `trim` removes blanks at both
ends of a text and `trimEnd` those at its end.  `trim_trim` says that trimming once is enough.
-/

namespace Roster.Text

/-- Whether the character has the property `White_Space`. -/
def isBlank (c : Char) : Bool :=
  let n := c.toNat
  (0x9 ≤ n && n ≤ 0xD) || n == 0x20 || n == 0x85 || n == 0xA0 || n == 0x1680
    || (0x2000 ≤ n && n ≤ 0x200A) || n == 0x2028 || n == 0x2029 || n == 0x202F || n == 0x205F
    || n == 0x3000

/-- The characters from the first that is not blank. -/
def dropBlanks (cs : List Char) : List Char := cs.dropWhile isBlank

/-- The characters up to the last that is not blank. -/
def dropBlanksEnd (cs : List Char) : List Char := (cs.reverse.dropWhile isBlank).reverse

/-- The characters between the first and the last that are not blank. -/
def trimChars (cs : List Char) : List Char := dropBlanksEnd (dropBlanks cs)

/-- The text without the blanks at both ends. -/
def trim (s : String) : String := String.ofList (trimChars s.toList)

/-- The text without the blanks at its end. -/
def trimEnd (s : String) : String := String.ofList (dropBlanksEnd s.toList)

/-- Whether the text holds nothing but blanks. -/
def isBlankText (s : String) : Bool := s.toList.all isBlank

/-! ## Laws -/

theorem isBlank_of_isDigit {c : Char} (h : c.isDigit) : isBlank c = false := by
  simp only [Char.isDigit, Bool.and_eq_true, decide_eq_true_eq] at h
  have h0 : 48 ≤ c.toNat := h.1
  have h1 : c.toNat ≤ 57 := h.2
  simp only [isBlank, Bool.or_eq_false_iff, Bool.and_eq_false_iff, decide_eq_false_iff_not,
    beq_eq_false_iff_ne]
  omega

theorem dropBlanks_cons {c : Char} (h : isBlank c = false) (cs : List Char) :
    dropBlanks (c :: cs) = c :: cs := by
  simp [dropBlanks, h]

theorem dropBlanks_eq_nil_iff {cs : List Char} : dropBlanks cs = [] ↔ cs.all isBlank := by
  induction cs with
  | nil => simp [dropBlanks]
  | cons c cs ih =>
      cases h : isBlank c
      · simp [dropBlanks, h]
      · rw [show dropBlanks (c :: cs) = dropBlanks cs by simp [dropBlanks, h], ih]
        simp [h]

theorem dropBlanks_idem (cs : List Char) : dropBlanks (dropBlanks cs) = dropBlanks cs := by
  induction cs with
  | nil => rfl
  | cons c cs ih =>
      cases h : isBlank c
      · simp [dropBlanks, h]
      · simpa [dropBlanks, h] using ih

theorem dropBlanksEnd_idem (cs : List Char) :
    dropBlanksEnd (dropBlanksEnd cs) = dropBlanksEnd cs := by
  have h := dropBlanks_idem cs.reverse
  unfold dropBlanks at h
  simp [dropBlanksEnd, h]

/-- What is left after blanks are dropped at the end starts as the whole did. -/
theorem dropBlanksEnd_cons_of_not_blank {c : Char} (h : isBlank c = false) (cs : List Char) :
    dropBlanksEnd (c :: cs) = c :: dropBlanksEnd cs := by
  have key : ∀ l : List Char, (l ++ [c]).dropWhile isBlank = l.dropWhile isBlank ++ [c] := by
    intro l
    induction l with
    | nil => simp [h]
    | cons d l ih =>
        cases hd : isBlank d
        · simp [hd]
        · simpa [hd] using ih
  simp [dropBlanksEnd, key]

theorem trimChars_idem (cs : List Char) : trimChars (trimChars cs) = trimChars cs := by
  unfold trimChars
  cases hd : dropBlanks cs with
  | nil => rfl
  | cons c rest =>
      have hc : isBlank c = false := by
        have hi := dropBlanks_idem cs
        rw [hd] at hi
        cases hb : isBlank c
        · rfl
        · have hlen := congrArg List.length hi
          simp only [dropBlanks, List.dropWhile_cons_of_pos hb, List.length_cons] at hlen
          have hle := (List.dropWhile_sublist (l := rest) isBlank).length_le
          omega
      rw [dropBlanksEnd_cons_of_not_blank hc]
      have hkeep : dropBlanks (c :: dropBlanksEnd rest) = c :: dropBlanksEnd rest := by
        simp [dropBlanks, hc]
      rw [hkeep, dropBlanksEnd_cons_of_not_blank hc, dropBlanksEnd_idem]

/-- Trimming a trimmed text changes nothing. -/
theorem trim_trim (s : String) : trim (trim s) = trim s := by
  simp [trim, trimChars_idem]

/-- Nothing is left of a text exactly when it holds only blanks. -/
theorem trimChars_eq_nil_iff {cs : List Char} : trimChars cs = [] ↔ cs.all isBlank := by
  constructor
  · intro h
    cases hd : dropBlanks cs with
    | nil => exact dropBlanks_eq_nil_iff.1 hd
    | cons c rest =>
        have hc : isBlank c = false := by
          have := List.head?_dropWhile_not isBlank cs
          simp only [dropBlanks] at hd
          simpa [hd] using this
        rw [trimChars, hd, dropBlanksEnd_cons_of_not_blank hc] at h
        exact absurd h (by simp)
  · intro h
    simp [trimChars, dropBlanks_eq_nil_iff.2 h, dropBlanksEnd]

end Roster.Text
