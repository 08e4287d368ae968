import Mathlib.Data.List.DropRight
import Roster.Text.Lines
import Roster.Text.Numeral

/-!
# Fields, numerals and lines

What the readers of texts accept is said here by relations that do not mention them.  `Padded` says
that a field holds a text and blanks around it.  `Digits`, `Unsigned` and `Signed` say which number
a numeral denotes, digit by digit from the left and whatever its size.  `counted` gives the lines of
a text that are not blank.

Each reader is then shown to do what its relation says: `trimChars_eq_iff`,
`readDigits_eq_some_iff`, `readUnsigned_eq_some_iff`, `readSigned_eq_some_iff` and, for lines,
`counted_eq_lines` and `trimmed_lines`.
-/

namespace Roster.Text

/-! ## Blanks around a text -/

/-- The field holds the text, and nothing else but blanks before and after it. -/
def Padded (field text : List Char) : Prop :=
  ∃ before after, (∀ c ∈ before, isBlank c = true) ∧ (∀ c ∈ after, isBlank c = true)
    ∧ field = before ++ text ++ after

theorem padded_self (text : List Char) : Padded text text := ⟨[], [], nofun, nofun, by simp⟩

theorem padded_trimChars (field : List Char) : Padded field (trimChars field) := by
  refine ⟨field.takeWhile isBlank, ((dropBlanks field).reverse.takeWhile isBlank).reverse,
    fun c hc => List.mem_takeWhile_imp hc,
    fun c hc => List.mem_takeWhile_imp (List.mem_reverse.1 hc), ?_⟩
  have hend : trimChars field ++ ((dropBlanks field).reverse.takeWhile isBlank).reverse =
      dropBlanks field := by
    rw [trimChars, dropBlanksEnd, ← List.reverse_append, List.takeWhile_append_dropWhile,
      List.reverse_reverse]
  rw [List.append_assoc, hend]
  exact List.takeWhile_append_dropWhile.symm

/-- Blanks at the end do not count. -/
theorem dropBlanksEnd_append {text after : List Char} (htext : ∀ c ∈ text, isBlank c = false)
    (hafter : ∀ c ∈ after, isBlank c = true) : dropBlanksEnd (text ++ after) = text := by
  induction text with
  | nil =>
      rw [List.nil_append, dropBlanksEnd, List.reverse_eq_nil_iff, List.dropWhile_eq_nil_iff]
      exact fun c hc => hafter c (List.mem_reverse.1 hc)
  | cons c text ih =>
      obtain ⟨hc, htext⟩ := List.forall_mem_cons.1 htext
      rw [List.cons_append, dropBlanksEnd_cons_of_not_blank hc, ih htext]

/-- A text without blanks is what is left of a field exactly if the field holds it. -/
theorem trimChars_eq_iff {field text : List Char} (htext : ∀ c ∈ text, isBlank c = false) :
    trimChars field = text ↔ Padded field text := by
  constructor
  · rintro rfl
    exact padded_trimChars field
  · rintro ⟨before, after, hbefore, hafter, rfl⟩
    cases text with
    | nil =>
        refine trimChars_eq_nil_iff.2 (List.all_eq_true.2 fun c hc => ?_)
        rw [List.append_nil, List.mem_append] at hc
        exact hc.elim (hbefore c) (hafter c)
    | cons c text =>
        have hstart : dropBlanks (before ++ (c :: text) ++ after) = c :: text ++ after := by
          rw [List.append_assoc, dropBlanks, List.dropWhile_append_of_pos hbefore]
          exact dropBlanks_cons (htext c List.mem_cons_self) _
        rw [trimChars, hstart, dropBlanksEnd_append htext hafter]

/-- Up to its last character that is not blank, a text is kept. -/
theorem dropBlanksEnd_append_cons {c : Char} (h : isBlank c = false) (before after : List Char) :
    dropBlanksEnd (before ++ c :: after) = before ++ c :: dropBlanksEnd after := by
  induction before with
  | nil => exact dropBlanksEnd_cons_of_not_blank h after
  | cons b before ih =>
      have hne : (before ++ c :: after).reverse.dropWhile isBlank ≠ [] := fun hnil => by
        rw [dropBlanksEnd, hnil] at ih
        simp at ih
      rw [List.cons_append, dropBlanksEnd, List.reverse_cons, List.dropWhile_append, if_neg]
      · rw [List.reverse_append, ← dropBlanksEnd, ih]
        rfl
      · simpa using hne

/-- Trimming reaches no further than to a character that is not blank, from both sides. -/
theorem trimChars_append_cons {c : Char} (h : isBlank c = false) (before after : List Char) :
    trimChars (before ++ c :: after) = dropBlanks before ++ c :: dropBlanksEnd after := by
  have hstart : dropBlanks (before ++ c :: after) = dropBlanks before ++ c :: after := by
    induction before with
    | nil => exact dropBlanks_cons h after
    | cons b before ih =>
        cases hb : isBlank b
        · rw [List.cons_append, dropBlanks_cons hb, dropBlanks_cons hb, List.cons_append]
        · have hdrop (cs : List Char) : dropBlanks (b :: cs) = dropBlanks cs := by
            simp [dropBlanks, hb]
          rw [List.cons_append, hdrop, hdrop, ih]
  rw [trimChars, hstart, dropBlanksEnd_append_cons h]

theorem trimChars_dropBlanks (cs : List Char) : trimChars (dropBlanks cs) = trimChars cs := by
  rw [trimChars, dropBlanks_idem, trimChars]

theorem trimChars_dropBlanksEnd (cs : List Char) :
    trimChars (dropBlanksEnd cs) = trimChars cs := by
  by_cases h : cs.all isBlank
  · have hnil : dropBlanksEnd cs = [] := by
      rw [dropBlanksEnd, List.reverse_eq_nil_iff, ← dropBlanks, dropBlanks_eq_nil_iff,
        List.all_reverse, h]
    rw [hnil, trimChars_eq_nil_iff.2 h]
    rfl
  · -- up to some character that is not blank, both texts are the same
    rw [List.all_eq_true] at h
    push Not at h
    obtain ⟨c, hc, hblank⟩ := h
    replace hblank : isBlank c = false := by simpa using hblank
    obtain ⟨before, after, rfl⟩ := List.append_of_mem hc
    rw [dropBlanksEnd_append_cons hblank, trimChars_append_cons hblank,
      trimChars_append_cons hblank, dropBlanksEnd_idem]

theorem trimChars_rdropWhile_return (line : List Char) :
    trimChars (line.rdropWhile (· == '\r')) = trimChars line := by
  have hend : dropBlanksEnd (line.rdropWhile (· == '\r')) = dropBlanksEnd line := by
    induction line using List.reverseRecOn with
    | nil => rfl
    | append_singleton line c ih =>
        by_cases hc : c = '\r'
        · rw [List.rdropWhile_concat_pos _ _ _ (by simpa using hc), ih, hc, dropBlanksEnd,
            dropBlanksEnd, List.reverse_append, List.reverse_singleton, List.singleton_append,
            List.dropWhile_cons_of_pos (by decide)]
        · rw [List.rdropWhile_concat_neg _ _ _ (by simpa using hc)]
  rw [← trimChars_dropBlanksEnd, hend, trimChars_dropBlanksEnd]

/-! ## Numerals -/

/-- A run of digits denotes a number. -/
inductive Digits : List Char → Nat → Prop
  /-- A digit denotes its value. -/
  | one {d : Nat} (hd : d < 10) : Digits [d.digitChar] d
  /-- With one more digit it denotes ten times as much, and the value of that digit. -/
  | snoc {cs : List Char} {n d : Nat} (hcs : Digits cs n) (hd : d < 10) :
      Digits (cs ++ [d.digitChar]) (10 * n + d)

/-- A run of digits, perhaps behind a plus sign. -/
inductive Unsigned : List Char → Nat → Prop
  | plain {cs : List Char} {n : Nat} (h : Digits cs n) : Unsigned cs n
  | plus {cs : List Char} {n : Nat} (h : Digits cs n) : Unsigned ('+' :: cs) n

/-- A run of digits, perhaps behind a sign. -/
inductive Signed : List Char → Int → Prop
  | unsigned {cs : List Char} {n : Nat} (h : Unsigned cs n) : Signed cs n
  | minus {cs : List Char} {n : Nat} (h : Digits cs n) : Signed ('-' :: cs) (-n)

theorem exists_digitChar {c : Char} (h : c.isDigit = true) : ∃ d < 10, c = d.digitChar := by
  have hrange := Char.isDigit_iff_toNat.1 h
  simp only [Char.reduceToNat] at hrange
  refine ⟨c.toNat - 48, by omega, Char.toNat_inj.1 ?_⟩
  rw [Nat.toNat_digitChar_of_lt_ten (by omega)]
  omega

theorem Digits.isDigit {cs : List Char} {n : Nat} (h : Digits cs n) :
    ∀ c ∈ cs, c.isDigit = true := by
  induction h with
  | one hd => simp [hd]
  | snoc _ hd ih =>
      intro c hc
      rcases List.mem_append.1 hc with hc | hc
      · exact ih c hc
      · simp [List.mem_singleton.1 hc, hd]

theorem Digits.ne_nil {cs : List Char} {n : Nat} (h : Digits cs n) : cs ≠ [] := by
  cases h <;> simp

theorem ofDigitChars_snoc {cs : List Char} {d : Nat} (hd : d < 10) :
    Nat.ofDigitChars 10 (cs ++ [d.digitChar]) 0 = 10 * Nat.ofDigitChars 10 cs 0 + d := by
  rw [Nat.ofDigitChars_append, Nat.ofDigitChars_cons_digitChar_of_lt_ten hd, Nat.ofDigitChars_nil]

/-- A run of digits denotes the number that is computed from it. -/
theorem digits_of_isDigit {cs : List Char} (hne : cs ≠ []) (hcs : ∀ c ∈ cs, c.isDigit = true) :
    Digits cs (Nat.ofDigitChars 10 cs 0) := by
  induction cs using List.reverseRecOn with
  | nil => exact absurd rfl hne
  | append_singleton cs c ih =>
      obtain ⟨d, hd, rfl⟩ := exists_digitChar (hcs c (by simp))
      rw [ofDigitChars_snoc hd]
      rcases eq_or_ne cs [] with rfl | hcs'
      · simpa using Digits.one hd
      · exact .snoc (ih hcs' fun c hc => hcs c (List.mem_append_left _ hc)) hd

theorem Digits.ofDigitChars_eq {cs : List Char} {n : Nat} (h : Digits cs n) :
    Nat.ofDigitChars 10 cs 0 = n := by
  induction h with
  | one hd =>
      rw [← List.nil_append [_], ofDigitChars_snoc hd]
      simp
  | snoc _ hd ih => rw [ofDigitChars_snoc hd, ih]

theorem readDigits_eq_some_iff {cs : List Char} {n : Nat} :
    readDigits cs = some n ↔ Digits cs n := by
  have hany : cs.any (!·.isDigit) = true ↔ ¬ ∀ c ∈ cs, c.isDigit = true := by simp
  constructor
  · intro h
    unfold readDigits at h
    split at h
    next => cases h
    next hcs =>
      rw [hany, not_or, not_not] at hcs
      cases h
      exact digits_of_isDigit hcs.1 hcs.2
  · intro h
    rw [readDigits, if_neg, h.ofDigitChars_eq]
    rw [hany, not_or, not_not]
    exact ⟨h.ne_nil, h.isDigit⟩

/-- Digits start with no sign. -/
theorem Digits.head_ne {c : Char} {cs : List Char} {n : Nat} (h : Digits (c :: cs) n) :
    c ≠ '+' ∧ c ≠ '-' := by
  have hc := h.isDigit c List.mem_cons_self
  constructor
  all_goals
    rintro rfl
    exact absurd hc (by decide)

theorem Digits.dropPlus_eq {cs : List Char} {n : Nat} (h : Digits cs n) : dropPlus cs = cs := by
  unfold dropPlus
  split
  next => exact absurd rfl h.head_ne.1
  next => rfl

theorem readDigits_dropPlus {cs : List Char} {n : Nat} :
    readDigits (dropPlus cs) = some n ↔ Unsigned cs n := by
  rw [readDigits_eq_some_iff]
  constructor
  · intro h
    unfold dropPlus at h
    split at h
    next => exact .plus h
    next => exact .plain h
  · intro h
    cases h with
    | plain h => rwa [h.dropPlus_eq]
    | plus h => exact h

theorem readUnsigned_eq_some_iff {bound n : Nat} {cs : List Char} :
    readUnsigned bound cs = some n ↔ Unsigned cs n ∧ n < bound := by
  rw [readUnsigned, Option.bind_eq_some_iff]
  simp only [readDigits_dropPlus, Option.ite_none_right_eq_some, Option.some.injEq]
  constructor
  · rintro ⟨n, h, hlt, rfl⟩
    exact ⟨h, hlt⟩
  · rintro ⟨h, hlt⟩
    exact ⟨n, h, hlt, rfl⟩

theorem readInteger_eq_some_iff {cs : List Char} {n : Int} :
    readInteger cs = some n ↔ Signed cs n := by
  constructor
  · intro h
    unfold readInteger at h
    split at h
    all_goals
      obtain ⟨m, hm, rfl⟩ := Option.map_eq_some_iff.1 h
    · exact .minus (readDigits_eq_some_iff.1 hm)
    · exact .unsigned (readDigits_dropPlus.1 hm)
  · intro h
    cases h with
    | minus h =>
        rw [readInteger, readDigits_eq_some_iff.2 h]
        rfl
    | unsigned h =>
        rw [readInteger, readDigits_dropPlus.2 h]
        · rfl
        · rintro rest rfl
          cases h with
          | plain h => exact h.head_ne.2 rfl

theorem readSigned_eq_some_iff {low high n : Int} {cs : List Char} :
    readSigned low high cs = some n ↔ Signed cs n ∧ low ≤ n ∧ n ≤ high := by
  rw [readSigned, Option.bind_eq_some_iff]
  simp only [readInteger_eq_some_iff, Option.ite_none_right_eq_some, Option.some.injEq]
  constructor
  · rintro ⟨n, h, hrange, rfl⟩
    exact ⟨h, hrange⟩
  · rintro ⟨h, hrange⟩
    exact ⟨n, h, hrange, rfl⟩

theorem unsigned_writeNat (n : Nat) : Unsigned (writeNat n) n :=
  .plain (readDigits_eq_some_iff.1 (readDigits_write n))

theorem signed_writeInt (n : Int) : Signed (writeInt n) n :=
  readInteger_eq_some_iff.1 (readInteger_write n)

theorem Unsigned.not_blank {cs : List Char} {n : Nat} (h : Unsigned cs n) :
    ∀ c ∈ cs, isBlank c = false := by
  cases h with
  | plain h => exact fun c hc => isBlank_of_isDigit (h.isDigit c hc)
  | plus h =>
      exact List.forall_mem_cons.2 ⟨by decide, fun c hc => isBlank_of_isDigit (h.isDigit c hc)⟩

theorem Signed.not_blank {cs : List Char} {n : Int} (h : Signed cs n) :
    ∀ c ∈ cs, isBlank c = false := by
  cases h with
  | unsigned h => exact h.not_blank
  | minus h =>
      exact List.forall_mem_cons.2 ⟨by decide, fun c hc => isBlank_of_isDigit (h.isDigit c hc)⟩

theorem Unsigned.ne_nil {cs : List Char} {n : Nat} (h : Unsigned cs n) : cs ≠ [] := by
  cases h with
  | plain h => exact h.ne_nil
  | plus _ => exact List.cons_ne_nil _ _

theorem Signed.ne_nil {cs : List Char} {n : Int} (h : Signed cs n) : cs ≠ [] := by
  cases h with
  | unsigned h => exact h.ne_nil
  | minus _ => exact List.cons_ne_nil _ _

theorem readSigned_trimChars {low high n : Int} {field : List Char} :
    readSigned low high (trimChars field) = some n ↔
      ∃ numeral, Padded field numeral ∧ Signed numeral n ∧ low ≤ n ∧ n ≤ high := by
  rw [readSigned_eq_some_iff]
  constructor
  · rintro ⟨h, hrange⟩
    exact ⟨_, padded_trimChars field, h, hrange⟩
  · rintro ⟨numeral, hfield, h, hrange⟩
    rw [(trimChars_eq_iff h.not_blank).2 hfield]
    exact ⟨h, hrange⟩

theorem readUnsigned_trimChars {bound n : Nat} {field : List Char} :
    readUnsigned bound (trimChars field) = some n ↔
      ∃ numeral, Padded field numeral ∧ Unsigned numeral n ∧ n < bound := by
  rw [readUnsigned_eq_some_iff]
  constructor
  · rintro ⟨h, hbound⟩
    exact ⟨_, padded_trimChars field, h, hbound⟩
  · rintro ⟨numeral, hfield, h, hbound⟩
    rw [(trimChars_eq_iff h.not_blank).2 hfield]
    exact ⟨h, hbound⟩

theorem not_mem_writeNat {c : Char} (hc : c.isDigit = false) (n : Nat) : c ∉ writeNat n := by
  intro h
  rw [isDigit_of_mem_writeNat h] at hc
  cases hc

theorem not_mem_writeInt {c : Char} (hc : c.isDigit = false) (hminus : c ≠ '-') (n : Int) :
    c ∉ writeInt n := by
  cases n with
  | ofNat n => exact not_mem_writeNat hc n
  | negSucc n => exact List.not_mem_cons_of_ne_of_not_mem hminus (not_mem_writeNat hc (n + 1))

/-! ## Lines -/

/-- The lines of a text that are not blank, without the carriage returns at their ends. -/
def counted (text : List Char) : List (List Char) :=
  ((text.splitOn '\n').map (List.rdropWhile (· == '\r'))).filter fun line => !line.all isBlank

/-- A carriage return that the line end takes would be dropped in any case. -/
theorem dropReturns_dropReturn (line : List Char) :
    dropReturns (dropReturn line) = line.rdropWhile (· == '\r') := by
  unfold dropReturn
  split
  next h =>
    obtain ⟨line, rfl⟩ := List.getLast?_eq_some_iff.1 h
    rw [List.dropLast_concat, List.rdropWhile_concat_pos _ _ _ (by decide)]
    rfl
  next => rfl

theorem modifyHead_nil_append (ls : List (List Char)) :
    ls.modifyHead (([] : List Char).reverse ++ ·) = ls := congrFun List.modifyHead_id ls

/-- Lines from the middle of a line on. -/
theorem counted_linesFrom (current cs : List Char) :
    ((linesFrom current cs).map dropReturns).filter (fun line => !line.all isBlank) =
      (((cs.splitOn '\n').modifyHead (current.reverse ++ ·)).map
        (List.rdropWhile (· == '\r'))).filter fun line => !line.all isBlank := by
  induction cs generalizing current with
  | nil =>
      cases current with
      | nil => rfl
      | cons c current => simp [linesFrom, dropReturns, List.rdropWhile]
  | cons c cs ih =>
      rw [linesFrom, List.splitOn_cons_eq_if_modifyHead]
      rcases eq_or_ne c '\n' with rfl | hc
      · -- a line ends here, and the next one starts with nothing passed
        have hrest := ih []
        rw [modifyHead_nil_append] at hrest
        simp only [if_true, beq_self_eq_true, List.modifyHead_cons, List.append_nil,
          List.map_cons, List.filter_cons, dropReturns_dropReturn, hrest]
      · rw [if_neg hc, if_neg (by simpa using hc), List.modifyHead_modifyHead, ih (c :: current)]
        simp [Function.comp_def]

theorem counted_eq_lines (text : List Char) :
    ((lines text).map dropReturns).filter (fun line => !line.all isBlank) = counted text := by
  rw [lines, counted_linesFrom, modifyHead_nil_append]
  rfl

/-- Whether lines are counted or trimmed, the line ends leave no trace. -/
theorem trimmed_lines (text : List Char) :
    ((lines text).map trimChars).filter (fun line => !line.isEmpty) =
      ((text.splitOn '\n').map trimChars).filter fun line => !line.isEmpty := by
  have hfilter (ls : List (List Char)) (strip : List Char → List Char)
      (hstrip : ∀ l, trimChars (strip l) = trimChars l) :
      (ls.map trimChars).filter (fun line => !line.isEmpty) =
        ((ls.map strip).filter fun line => !line.all isBlank).map trimChars := by
    have hblank (line : List Char) : (trimChars line).isEmpty = (strip line).all isBlank := by
      rw [Bool.eq_iff_iff, List.isEmpty_iff, ← trimChars_eq_nil_iff, hstrip]
    rw [List.filter_map, List.filter_map, List.map_map]
    simp only [Function.comp_def, hblank, hstrip]
  rw [hfilter _ dropReturns trimChars_rdropWhile_return, counted_eq_lines, counted,
    hfilter _ _ trimChars_rdropWhile_return]

/-- The lines of a text are those that were put into it, if each of them counts. -/
theorem counted_flatMap {ls : List (List Char)} (hline : ∀ l ∈ ls, '\n' ∉ l)
    (hreturn : ∀ l ∈ ls, l.rdropWhile (· == '\r') = l) (hblank : ∀ l ∈ ls, l.all isBlank = false) :
    counted (ls.flatMap (· ++ ['\n'])) = ls := by
  have hsplit : (ls.flatMap (· ++ ['\n'])).splitOn '\n' = ls ++ [[]] := by
    clear hreturn hblank
    induction ls with
    | nil => rfl
    | cons l ls ih =>
        obtain ⟨hl, hls⟩ := List.forall_mem_cons.1 hline
        rw [List.flatMap_cons, List.append_assoc, List.singleton_append,
          List.splitOn_append_cons_self_of_not_mem hl, ih hls, List.cons_append]
  have hmap : ls.map (List.rdropWhile (· == '\r')) = ls :=
    (List.map_congr_left hreturn).trans (List.map_id _)
  rw [counted, hsplit, List.map_append, hmap, List.filter_append,
    List.filter_eq_self.2 fun l hl => by simp [hblank l hl]]
  simp

end Roster.Text
