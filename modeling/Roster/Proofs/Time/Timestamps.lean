import Roster.Proofs.Time.Calendar
import Roster.Time.Rfc3339

/-!
# Timestamps are read as they are written

An instant is *valid* if the calendar covers it and only a leap second has a nanosecond count of
10^9 or more (`Instant.Valid`).  A valid instant is read from its timestamp (`read?_write`), and
only valid instants are read from any text (`valid_of_read?`).

The proofs go part by part: each part of a timestamp is read as it was written, and what follows it
is left to the next reader.
-/

namespace Roster

/-- The calendar covers the instant, and a count of 10^9 nanoseconds or more is one of a leap
second, which comes at the end of a minute. -/
structure Instant.Valid (t : Instant) : Prop where
  /-- The calendar has begun. -/
  first : firstSecond ≤ t.seconds
  /-- The calendar has not ended. -/
  last : t.seconds ≤ lastSecond
  /-- The nanoseconds are those of a second, or of a leap second. -/
  nanos : t.nanos < 1000000000 ∨ t.nanos < 2000000000 ∧ t.seconds % 60 = 59

namespace Rfc3339

open Text

/-! ## Digits -/

/-- A run of digits is taken, if it is as long as it may be or no digit follows. -/
theorem digits_append {width : Nat} {ds rest : List Char} (hdigit : ∀ c ∈ ds, c.isDigit)
    (hne : ds ≠ []) (hlen : ds.length ≤ width)
    (hstop : ds.length = width ∨ ∀ c, rest.head? = some c → c.isDigit = false) :
    digits width (ds ++ rest) = some (ds, rest) := by
  have hfound : ((ds ++ rest).take width).takeWhile Char.isDigit = ds := by
    rw [List.take_append, List.take_of_length_le hlen, List.takeWhile_append_of_pos hdigit]
    rcases hstop with rfl | hstop
    · simp
    · cases rest with
      | nil => simp
      | cons c rest =>
          cases hw : width - ds.length with
          | zero => simp
          | succ n => simp [hstop c rfl]
  simp [digits, hfound, hne]

theorem isDigit_of_mem_writePadded {width n : Nat} {c : Char} (h : c ∈ writePadded width n) :
    c.isDigit := by
  rcases List.mem_append.1 h with h | h
  · rw [List.eq_of_mem_replicate h]
    rfl
  · exact isDigit_of_mem_writeNat h

theorem length_writePadded {width n : Nat} (hw : 0 < width) (h : n < Nat.pow 10 width) :
    (writePadded width n).length = width := by
  have hlen : (writeNat n).length ≤ width :=
    (Nat.length_toDigits_le_iff (by decide) hw).2 h
  simp only [writePadded, List.length_append, List.length_replicate]
  omega

theorem writePadded_ne_nil (width n : Nat) : writePadded width n ≠ [] := by
  simp [writePadded, writeNat_ne_nil]

/-- The zeros in front do not count. -/
theorem ofDigitChars_writePadded (width n : Nat) :
    Nat.ofDigitChars 10 (writePadded width n) 0 = n := by
  rw [writePadded, Nat.ofDigitChars_append, Nat.ofDigitChars_replicate_zero, Nat.mul_zero]
  exact Nat.ofDigitChars_toDigits (by decide) (by decide)

/-- A padded number is taken as a whole, whatever follows. -/
theorem digits_writePadded {w n : Nat} (hw : 0 < w) (h : n < Nat.pow 10 w)
    (rest : List Char) : digits w (writePadded w n ++ rest) = some (writePadded w n, rest) :=
  have hlen := length_writePadded hw h
  digits_append (fun _ => isDigit_of_mem_writePadded) (writePadded_ne_nil w n) (Nat.le_of_eq hlen)
    (Or.inl hlen)

theorem dropBlanks_writePadded (width n : Nat) (rest : List Char) :
    dropBlanks (writePadded width n ++ rest) = writePadded width n ++ rest := by
  obtain ⟨c, cs, hcs⟩ := List.exists_cons_of_ne_nil (writePadded_ne_nil width n)
  have hc : c.isDigit := isDigit_of_mem_writePadded (hcs ▸ List.mem_cons_self ..)
  rw [hcs, List.cons_append, dropBlanks_cons (isBlank_of_isDigit hc)]

/-! ## Parts -/

theorem number_writePadded {w n : Nat} (hw : 0 < w) (h : n < Nat.pow 10 w)
    (rest : List Char) : number w (writePadded w n ++ rest) = some (n, rest) := by
  simp only [number, dropBlanks_writePadded, digits_writePadded hw h, ofDigitChars_writePadded,
    Option.bind_eq_bind, Option.bind_some, Option.pure_def]

theorem mark_cons {c : Char} (h : isBlank c = false) (rest : List Char) :
    mark c (c :: rest) = some rest := by
  simp [mark, dropBlanks_cons h]

/-- The digits of a year behind its sign end where the month's separator stands. -/
theorem digits_writeYear (width n : Nat) (rest : List Char) :
    digits (writePadded width n ++ '-' :: rest).length (writePadded width n ++ '-' :: rest)
      = some (writePadded width n, '-' :: rest) := by
  refine digits_append (fun _ => isDigit_of_mem_writePadded) (writePadded_ne_nil width n) (by simp)
    (Or.inr fun c hc => ?_)
  cases hc
  rfl

/-- What starts with a digit starts with no sign. -/
theorem year_of_isDigit {c : Char} (h : c.isDigit) (cs : List Char) :
    year (c :: cs) = (digits 4 (c :: cs)).map fun (found, rest) =>
      ((Nat.ofDigitChars 10 found 0 : Int), rest) := by
  unfold year
  rw [dropBlanks_cons (isBlank_of_isDigit h)]
  split
  next heq =>
    cases heq
    exact absurd h (by decide)
  next heq =>
    cases heq
    exact absurd h (by decide)
  next => cases digits 4 (c :: cs) <;> rfl

theorem year_writeYear (y : Int) (rest : List Char) :
    year (writeYear y ++ '-' :: rest) = some (y, '-' :: rest) := by
  unfold writeYear
  split
  next hfour =>
    obtain ⟨c, cs, hcs⟩ := List.exists_cons_of_ne_nil (writePadded_ne_nil 4 y.toNat)
    have hc : c.isDigit := isDigit_of_mem_writePadded (hcs ▸ List.mem_cons_self ..)
    have hdigits := digits_writePadded (w := 4) (by decide) (show y.toNat < 10000 by omega)
      ('-' :: rest)
    have hvalue := ofDigitChars_writePadded 4 y.toNat
    rw [hcs] at hdigits hvalue ⊢
    rw [List.cons_append] at hdigits ⊢
    simp only [year_of_isDigit hc, hdigits, Option.map_some, hvalue, Int.toNat_of_nonneg hfour.1]
  next =>
    have habs := ofDigitChars_writePadded 4 y.natAbs
    split
    next hneg =>
      have hy : -(y.natAbs : Int) = y := by omega
      rw [List.cons_append, year, dropBlanks_cons (by decide)]
      simp only [digits_writeYear, habs, hy, Option.bind_eq_bind, Option.bind_some, Option.pure_def]
    next hpos =>
      have hy : (y.natAbs : Int) = y := by omega
      rw [List.cons_append, year, dropBlanks_cons (by decide)]
      simp only [digits_writeYear, habs, hy, Option.bind_eq_bind, Option.bind_some, Option.pure_def]

/-- The digits of a fraction that are kept are all that tell it. -/
theorem fraction_digits {width n : Nat} (hw : 0 < width) (hmax : width ≤ 9)
    (h : n < Nat.pow 10 width) (rest : List Char) :
    fraction ('.' :: writePadded width n ++ 'Z' :: rest)
      = some (n * Nat.pow 10 (9 - width), 'Z' :: rest) := by
  have hlen := length_writePadded hw h
  have hdigits : digits 9 (writePadded width n ++ 'Z' :: rest)
      = some (writePadded width n, 'Z' :: rest) :=
    digits_append (fun _ => isDigit_of_mem_writePadded) (writePadded_ne_nil width n)
      (hlen.symm ▸ hmax : _ ≤ 9) (Or.inr fun c hc => by cases hc; rfl)
  simp [fraction, hdigits, ofDigitChars_writePadded, hlen]

theorem fraction_writeFraction {n : Nat} (h : n < 1000000000) (rest : List Char) :
    fraction (writeFraction n ++ 'Z' :: rest) = some (n, 'Z' :: rest) := by
  unfold writeFraction
  split
  next h0 =>
    rw [h0]
    rfl
  next =>
    split
    next h6 =>
      have hn : n / 1000000 * Nat.pow 10 (9 - 3) = n :=
        Nat.div_mul_cancel (Nat.dvd_of_mod_eq_zero h6)
      rw [fraction_digits (by decide) (by decide) (show n / 1000000 < 1000 by omega), hn]
    next =>
      split
      next h3 =>
        have hn : n / 1000 * Nat.pow 10 (9 - 6) = n :=
          Nat.div_mul_cancel (Nat.dvd_of_mod_eq_zero h3)
        rw [fraction_digits (by decide) (by decide) (show n / 1000 < 1000000 by omega), hn]
      next =>
        have hn : n * Nat.pow 10 (9 - 9) = n := Nat.mul_one n
        rw [fraction_digits (by decide) (by decide) h, hn]

/-! ## Whole timestamps -/

theorem valid_date {t : Instant} (h : t.Valid) : t.date.valid := by
  have hfirst := h.first
  have hlast := h.last
  rw [Instant.date, Int.fdiv_eq_ediv_of_nonneg _ (by decide)]
  apply valid_civilOfDays <;> unfold firstSecond lastSecond at * <;> omega

/-- The second of the day is that of the count. -/
theorem secondOfDay_eq (t : Instant) : (t.secondOfDay : Int) = t.seconds % 86400 := by
  rw [Instant.secondOfDay, Int.fmod_eq_emod_of_nonneg _ (by decide)]
  omega

theorem clock_bounds (t : Instant) :
    t.clock.1 < 24 ∧ t.clock.2.1 < 60 ∧ t.clock.2.2 ≤ 60 := by
  have hsecond := secondOfDay_eq t
  unfold Instant.clock
  refine ⟨?_, ?_, ?_⟩
  · simp only
    omega
  · simp only
    omega
  · simp only
    split <;> omega

/-- The date and the time of day of a valid instant denote it. -/
theorem instantOf_clock {t : Instant} (h : t.Valid) :
    instantOf t.date t.clock.1 t.clock.2.1 t.clock.2.2 (t.nanos % 1000000000) 0 = some t := by
  obtain ⟨hhour, hminute, hle⟩ := clock_bounds t
  have hsecond := secondOfDay_eq t
  have hdays : daysOfCivil t.date = t.seconds / 86400 := by
    rw [Instant.date, Int.fdiv_eq_ediv_of_nonneg _ (by decide), daysOfCivil_civilOfDays]
  have hcovered : firstSecond ≤ t.seconds ∧ t.seconds ≤ lastSecond := ⟨h.first, h.last⟩
  have hnanos := h.nanos
  unfold instantOf
  rw [if_pos ⟨valid_date h, hhour, hminute, hle, by decide, by decide⟩, hdays]
  unfold Instant.clock
  by_cases hleap : 1000000000 ≤ t.nanos
  · -- A leap second is the last second of a minute, counted once more.
    have hlast : t.secondOfDay % 60 = 59 := by omega
    have hseconds : t.seconds / 86400 * 86400
        + ((t.secondOfDay / 3600 * 3600 + t.secondOfDay / 60 % 60 * 60 + 59 : Nat) : Int) - 0
        = t.seconds := by omega
    have hcount : t.nanos % 1000000000 + 1000000000 = t.nanos := by omega
    simp only [hleap, if_true, hlast, hseconds, hcovered, and_self, hcount]
  · have hlast : t.secondOfDay % 60 ≠ 60 := by omega
    have hseconds : t.seconds / 86400 * 86400 + ((t.secondOfDay / 3600 * 3600
        + t.secondOfDay / 60 % 60 * 60 + t.secondOfDay % 60 : Nat) : Int) - 0 = t.seconds := by
      omega
    have hcount : t.nanos % 1000000000 = t.nanos := by omega
    simp only [hleap, if_false, Nat.add_zero, hlast, hseconds, hcovered, and_self, if_true, hcount]

/-- A valid instant is read from its timestamp. -/
theorem read?_write {t : Instant} (h : t.Valid) : read? (write t) = some t := by
  obtain ⟨hhour, hminute, hsecond⟩ := clock_bounds t
  have hclock : t.clock.1 < 100 ∧ t.clock.2.1 < 100 ∧ t.clock.2.2 < 100 := by omega
  have hdate := valid_date h
  have hmonth : t.date.month < 100 ∧ t.date.day < 100 := by
    simp only [Date.valid, Bool.and_eq_true, decide_eq_true_eq] at hdate
    have hdays : daysInMonth t.date.year t.date.month ≤ 31 := by
      unfold daysInMonth
      split
      · split <;> decide
      all_goals decide
    omega
  have htext : (write t).toList = writeYear t.date.year ++ '-' :: (writePadded 2 t.date.month
      ++ '-' :: (writePadded 2 t.date.day ++ 'T' :: (writePadded 2 t.clock.1
      ++ ':' :: (writePadded 2 t.clock.2.1 ++ ':' :: (writePadded 2 t.clock.2.2
      ++ (writeFraction (t.nanos % 1000000000) ++ ['Z'])))))) := by
    simp only [write, writeClock, String.toList_ofList, List.append_assoc, List.cons_append]
  unfold read?
  rw [htext]
  refine Option.bind_eq_some_iff.2 ⟨_, year_writeYear _ _, ?_⟩
  refine Option.bind_eq_some_iff.2 ⟨_, mark_cons (by decide) _, ?_⟩
  refine Option.bind_eq_some_iff.2 ⟨_, number_writePadded (by decide) hmonth.1 _, ?_⟩
  refine Option.bind_eq_some_iff.2 ⟨_, mark_cons (by decide) _, ?_⟩
  refine Option.bind_eq_some_iff.2 ⟨_, number_writePadded (by decide) hmonth.2 _, ?_⟩
  refine Option.bind_eq_some_iff.2 ⟨_, rfl, ?_⟩
  refine Option.bind_eq_some_iff.2 ⟨_, number_writePadded (by decide) hclock.1 _, ?_⟩
  refine Option.bind_eq_some_iff.2 ⟨_, mark_cons (by decide) _, ?_⟩
  refine Option.bind_eq_some_iff.2 ⟨_, number_writePadded (by decide) hclock.2.1 _, ?_⟩
  refine Option.bind_eq_some_iff.2 ⟨_, mark_cons (by decide) _, ?_⟩
  refine Option.bind_eq_some_iff.2 ⟨_, number_writePadded (by decide) hclock.2.2 _, ?_⟩
  refine Option.bind_eq_some_iff.2
    ⟨_, fraction_writeFraction (Nat.mod_lt t.nanos (by decide)) [], ?_⟩
  refine Option.bind_eq_some_iff.2 ⟨(0, []), rfl, ?_⟩
  exact instantOf_clock h

/-! ## Any text -/

/-- Only valid instants come of a fraction of a second and an offset of whole minutes. -/
theorem valid_of_instantOf {date : Date} {hour minute second nanos : Nat} {shift : Int}
    {t : Instant} (hnanos : nanos < 1000000000) (hshift : shift % 60 = 0)
    (h : instantOf date hour minute second nanos shift = some t) : t.Valid := by
  unfold instantOf at h
  split at h
  next =>
    by_cases hleap : second = 60
    · simp only [hleap, if_true] at h
      split at h
      next hcovered =>
        cases h
        refine ⟨hcovered.1, hcovered.2, Or.inr ⟨?_, ?_⟩⟩
        · simp only
          omega
        · simp only
          omega
      next => cases h
    · simp only [hleap, if_false] at h
      split at h
      next hcovered =>
        cases h
        exact ⟨hcovered.1, hcovered.2, Or.inl hnanos⟩
      next => cases h
  next => cases h

theorem ofDigitChars_lt {ds : List Char} (h : ∀ c ∈ ds, c.isDigit) (init : Nat) :
    Nat.ofDigitChars 10 ds init < (init + 1) * Nat.pow 10 ds.length := by
  induction ds generalizing init with
  | nil => simp
  | cons c ds ih =>
      have hc := h c (List.mem_cons_self ..)
      simp only [Char.isDigit, Bool.and_eq_true, decide_eq_true_eq] at hc
      have hle : c.toNat - '0'.toNat + 1 ≤ 10 := by
        have h1 : c.toNat ≤ 57 := hc.2
        have h0 : '0'.toNat = 48 := rfl
        omega
      rw [Nat.ofDigitChars_cons]
      calc Nat.ofDigitChars 10 ds (10 * init + (c.toNat - '0'.toNat))
          < (10 * init + (c.toNat - '0'.toNat) + 1) * Nat.pow 10 ds.length :=
            ih (fun d hd => h d (List.mem_cons_of_mem c hd)) _
        _ ≤ ((init + 1) * 10) * Nat.pow 10 ds.length := Nat.mul_le_mul_right _ (by omega)
        _ = (init + 1) * (Nat.pow 10 ds.length * 10) := by
            rw [Nat.mul_assoc, Nat.mul_comm 10]

theorem digits_eq_some {width : Nat} {cs found rest : List Char}
    (h : digits width cs = some (found, rest)) : found.length ≤ width ∧ ∀ c ∈ found, c.isDigit := by
  simp only [digits] at h
  split at h
  next => cases h
  next =>
    cases h
    refine ⟨?_, fun c hc => List.all_eq_true.1 List.all_takeWhile c hc⟩
    exact Nat.le_trans (List.takeWhile_sublist _).length_le (List.length_take_le ..)

theorem fraction_lt {cs rest : List Char} {n : Nat} (h : fraction cs = some (n, rest)) :
    n < 1000000000 := by
  unfold fraction at h
  split at h
  next cs' =>
    obtain ⟨⟨found, after⟩, hfound, hn⟩ := Option.bind_eq_some_iff.1 h
    obtain ⟨hlen, hdigit⟩ := digits_eq_some hfound
    cases hn
    have hlt := ofDigitChars_lt hdigit 0
    rw [Nat.zero_add, Nat.one_mul] at hlt
    calc Nat.ofDigitChars 10 found 0 * Nat.pow 10 (9 - found.length)
        < Nat.pow 10 found.length * Nat.pow 10 (9 - found.length) :=
          Nat.mul_lt_mul_of_pos_right hlt (Nat.pow_pos (by decide))
      _ = Nat.pow 10 (found.length + (9 - found.length)) := (Nat.pow_add 10 _ _).symm
      _ = 1000000000 := by rw [Nat.add_sub_cancel' hlen]
  next =>
    cases h
    decide

theorem offsetSize_mod {cs rest : List Char} {n : Nat} (h : offsetSize cs = some (n, rest)) :
    n % 60 = 0 := by
  unfold offsetSize at h
  obtain ⟨⟨hours, after⟩, -, h⟩ := Option.bind_eq_some_iff.1 h
  obtain ⟨⟨minutes, after'⟩, -, h⟩ := Option.bind_eq_some_iff.1 h
  simp only at h
  split at h
  next =>
    cases h
    omega
  next => cases h

/-- An offset is one of whole minutes. -/
theorem offset_mod {cs rest : List Char} {n : Int} (h : offset cs = some (n, rest)) :
    n % 60 = 0 := by
  unfold offset at h
  split at h
  case h_1 | h_2 =>
    cases h
    rfl
  case h_3 | h_4 | h_5 =>
    obtain ⟨⟨m, after⟩, hm, heq⟩ := Option.map_eq_some_iff.1 h
    have hmod := offsetSize_mod hm
    cases heq
    omega
  case h_6 =>
    split at h
    next =>
      cases h
      rfl
    next => cases h
  case h_7 => cases h

/-- Only valid instants are read. -/
theorem valid_of_read? {s : String} {t : Instant} (h : read? s = some t) : t.Valid := by
  obtain ⟨⟨year, rest₁⟩, -, h⟩ := Option.bind_eq_some_iff.1 h
  obtain ⟨rest₂, -, h⟩ := Option.bind_eq_some_iff.1 h
  obtain ⟨⟨month, rest₃⟩, -, h⟩ := Option.bind_eq_some_iff.1 h
  obtain ⟨rest₄, -, h⟩ := Option.bind_eq_some_iff.1 h
  obtain ⟨⟨day, rest₅⟩, -, h⟩ := Option.bind_eq_some_iff.1 h
  dsimp only at h
  split at h
  case h_4 => cases h
  case h_1 | h_2 | h_3 =>
    obtain ⟨rest₆, -, h⟩ := Option.bind_eq_some_iff.1 h
    obtain ⟨⟨hour, rest₇⟩, -, h⟩ := Option.bind_eq_some_iff.1 h
    obtain ⟨rest₈, -, h⟩ := Option.bind_eq_some_iff.1 h
    obtain ⟨⟨minute, rest₉⟩, -, h⟩ := Option.bind_eq_some_iff.1 h
    obtain ⟨rest₁₀, -, h⟩ := Option.bind_eq_some_iff.1 h
    obtain ⟨⟨second, rest₁₁⟩, -, h⟩ := Option.bind_eq_some_iff.1 h
    obtain ⟨⟨nanos, rest₁₂⟩, hfraction, h⟩ := Option.bind_eq_some_iff.1 h
    obtain ⟨⟨shift, rest₁₃⟩, hoffset, h⟩ := Option.bind_eq_some_iff.1 h
    dsimp only at h
    split at h
    next => exact valid_of_instantOf (fraction_lt hfraction) (offset_mod hoffset) h
    next => cases h

end Rfc3339

end Roster
