import Mathlib
import Roster.Proofs.Text.Fields
import Roster.Session.Line
import Roster.Session.Listing

/-!
# What a listing of sessions may look like

`Fits` is the grammar of one line: a name that is not empty, a creation time and a count of
terminals, with a bar between any two of them.  Only the name may hold bars of its own, so there is
one way to take a line apart.  A text is read as a listing exactly if each of its lines that are not
blank fits (`sessions_eq_ok_iff`); otherwise the first line that does not fit is named
(`sessions_eq_error_iff`).

The listing format is written for the program that lists the sessions.  What is relied on of that
program is that it puts the values of variables into a format and prints the rest as it stands
(`Expands`).  A *row* is what it may know of a session, and its line fits (`Row.fits_line`).
`read_accepts_grammar` puts this together, and says that a listing of rows is read back.
-/

namespace Roster.Listing

open Text

/-! ## The grammar of a line -/

/-- What a creation field tells: nothing if it is blank, and otherwise a number of seconds, which 64
bits with a sign can hold and the calendar covers. -/
inductive Created : List Char → Option Instant → Prop
  | absent {field : List Char} (hfield : Padded field []) : Created field none
  | seconds {field numeral : List Char} {n : Int} (hfield : Padded field numeral)
      (hnumeral : Signed numeral n) (hbits : -2 ^ 63 ≤ n ∧ n < 2 ^ 63)
      (hcalendar : firstSecond ≤ n ∧ n ≤ lastSecond) : Created field (some ⟨n, 0⟩)

/-- The line tells of the session.  The name is kept as it is, and the terminals, of which 32 bits
can hold the number, only count as some or none. -/
inductive Fits : List Char → Session → Prop
  | line {name created attached numeral : List Char} {createdAt : Option Instant} {n : Nat}
      (hname : name ≠ []) (hbar : '|' ∉ created) (hcreated : Created created createdAt)
      (hlast : '|' ∉ attached) (hattached : Padded attached numeral)
      (hnumeral : Unsigned numeral n) (hbits : n < 2 ^ 32) :
      Fits (name ++ '|' :: (created ++ '|' :: attached)) ⟨String.ofList name, createdAt, 0 < n⟩

/-- Of the lines it is the first that fits no session. -/
inductive FirstMisfit : List (List Char) → List Char → Prop
  | here {line : List Char} {rest : List (List Char)} (hline : ∀ s, ¬ Fits line s) :
      FirstMisfit (line :: rest) line
  | later {l line : List Char} {s : Session} {rest : List (List Char)} (hfits : Fits l s)
      (hrest : FirstMisfit rest line) : FirstMisfit (l :: rest) line

/-! ## Lines are read by the grammar -/

theorem ofSeconds?_eq_some_iff {n : Int} {t : Instant} :
    Instant.ofSeconds? n = some t ↔ (firstSecond ≤ n ∧ n ≤ lastSecond) ∧ t = ⟨n, 0⟩ := by
  rw [Instant.ofSeconds?, Option.ite_none_right_eq_some, Option.some.injEq, eq_comm (a := t)]

theorem trimChars_eq_nil_iff_padded {field : List Char} :
    trimChars field = [] ↔ Padded field [] := trimChars_eq_iff nofun

theorem created_of_read {field : List Char} {createdAt : Option Instant}
    (h : created? field = .ok createdAt) : Created field createdAt := by
  unfold created? at h
  split at h
  next hempty =>
    cases h
    exact .absent (trimChars_eq_nil_iff_padded.1 hempty)
  next =>
    split at h
    next => cases h
    next n hread =>
      obtain ⟨numeral, hfield, hnumeral, hlow, hhigh⟩ := readSigned_trimChars.1 hread
      split at h
      next => cases h
      next t hsecond =>
        obtain ⟨hcalendar, rfl⟩ := ofSeconds?_eq_some_iff.1 hsecond
        cases h
        exact .seconds hfield hnumeral ⟨hlow, Int.lt_add_one_iff.2 hhigh⟩ hcalendar

theorem Created.read {field : List Char} {createdAt : Option Instant}
    (h : Created field createdAt) : created? field = .ok createdAt := by
  cases h with
  | absent hfield => rw [created?, if_pos (trimChars_eq_nil_iff_padded.2 hfield)]
  | seconds hfield hnumeral hbits hcalendar =>
      have hne : trimChars field ≠ [] := by
        rw [(trimChars_eq_iff hnumeral.not_blank).2 hfield]
        exact hnumeral.ne_nil
      have hread : readSigned minSeconds maxSeconds (trimChars field) = some _ :=
        readSigned_trimChars.2 ⟨_, hfield, hnumeral, hbits.1, Int.le_sub_one_of_lt hbits.2⟩
      simp only [created?, if_neg hne, hread, ofSeconds?_eq_some_iff.2 ⟨hcalendar, rfl⟩]

theorem fits_of_read {line : List Char} {s : Session} (h : session? line = .ok s) :
    Fits line s := by
  unfold session? at h
  split at h
  next => cases h
  next before attached hlast =>
    obtain ⟨rfl, hattached⟩ := cutLast?_eq_some_iff.1 hlast
    split at h
    next => cases h
    next => cases h
    next name created hne hcut =>
      obtain ⟨rfl, hbar⟩ := cutLast?_eq_some_iff.1 hcut
      split at h
      next => cases h
      next n hread =>
        obtain ⟨numeral, hfield, hnumeral, hbits⟩ := readUnsigned_trimChars.1 hread
        split at h
        next => cases h
        next createdAt hcreated =>
          cases h
          rw [List.append_assoc, List.cons_append]
          exact .line (fun hname => hne hname) hbar (created_of_read hcreated) hattached hfield
            hnumeral hbits

theorem Fits.read {line : List Char} {s : Session} (h : Fits line s) : session? line = .ok s := by
  cases h with
  | @line name created attached numeral createdAt n hname hbar hcreated hlast hattached hnumeral
      hbits =>
      have hcut : cutLast? '|' (name ++ '|' :: (created ++ '|' :: attached)) =
          some (name ++ '|' :: created, attached) :=
        cutLast?_eq_some_iff.2 ⟨by simp, hlast⟩
      have hcut' : cutLast? '|' (name ++ '|' :: created) = some (name, created) :=
        cutLast?_eq_some_iff.2 ⟨rfl, hbar⟩
      have hread : readUnsigned attachedBound (trimChars attached) = some n :=
        readUnsigned_trimChars.2 ⟨_, hattached, hnumeral, hbits⟩
      obtain ⟨c, name, rfl⟩ := List.exists_cons_of_ne_nil hname
      simp only [session?, hcut, hcut', hread, hcreated.read]

/-- A line is read exactly if it fits. -/
theorem session?_eq_ok_iff {line : List Char} {s : Session} :
    session? line = .ok s ↔ Fits line s :=
  ⟨fits_of_read, Fits.read⟩

theorem session?_eq_error_iff {line : List Char} :
    (∃ flaw, session? line = .error flaw) ↔ ∀ s, ¬ Fits line s := by
  simp only [← session?_eq_ok_iff]
  cases session? line <;> simp

/-- Lines are read exactly if each of them fits. -/
theorem sessions_eq_ok_iff {ls : List (List Char)} {found : List Session} :
    sessions ls = .ok found ↔ List.Forall₂ Fits ls found := by
  induction ls generalizing found with
  | nil =>
      rw [sessions, List.forall₂_nil_left_iff, Except.ok.injEq, eq_comm]
  | cons line rest ih =>
      rw [List.forall₂_cons_left_iff]
      simp only [← session?_eq_ok_iff, ← ih, sessions]
      cases session? line with
      | error flaw => simp
      | ok s =>
          cases sessions rest with
          | error fault => simp [Except.map]
          | ok more => simp [Except.map, eq_comm]

/-- Otherwise the first line is named that does not fit. -/
theorem sessions_eq_error_iff {ls : List (List Char)} {line : String} :
    (∃ flaw, sessions ls = .error ⟨line, flaw⟩) ↔ FirstMisfit ls line.toList := by
  induction ls with
  | nil =>
      constructor
      · rintro ⟨_, ⟨⟩⟩
      · nofun
  | cons l rest ih =>
      cases hl : session? l with
      | error flaw =>
          have hmisfit := session?_eq_error_iff.1 ⟨flaw, hl⟩
          simp only [sessions, hl]
          constructor
          · rintro ⟨_, ⟨⟩⟩
            rw [String.toList_ofList]
            exact .here hmisfit
          · intro h
            generalize hchars : line.toList = chars at h
            cases h with
            | here _ => exact ⟨flaw, by rw [← hchars, String.ofList_toList]⟩
            | later hfits _ => exact absurd hfits (hmisfit _)
      | ok s =>
          have hfits := session?_eq_ok_iff.1 hl
          have hrest : (∃ flaw, sessions (l :: rest) = .error ⟨line, flaw⟩) ↔
              ∃ flaw, sessions rest = .error ⟨line, flaw⟩ := by
            simp only [sessions, hl]
            cases sessions rest <;> simp [Except.map]
          rw [hrest, ih]
          constructor
          · exact .later hfits
          · intro h
            cases h with
            | here hline => exact absurd hfits (hline s)
            | later _ h => exact h

/-! ## What the format prints -/

/-- A format with the values of its variables in their places, and all else as it stands. -/
inductive Expands (value : List Char → List Char) : List Char → List Char → Prop
  | done : Expands value [] []
  | plain {c : Char} {format text : List Char} (hc : c ≠ '#') (h : Expands value format text) :
      Expands value (c :: format) (c :: text)
  | place {name format text : List Char} (hname : '}' ∉ name) (h : Expands value format text) :
      Expands value ('#' :: '{' :: (name ++ '}' :: format)) (value name ++ text)

theorem expands_place_iff {value : List Char → List Char} {name format text : List Char}
    (hname : '}' ∉ name) :
    Expands value ('#' :: '{' :: (name ++ '}' :: format)) text ↔
      ∃ rest, Expands value format rest ∧ text = value name ++ rest := by
  constructor
  · intro h
    generalize hwhole : '#' :: '{' :: (name ++ '}' :: format) = whole at h
    cases h with
    | done => cases hwhole
    | plain hc _ => exact absurd (List.cons.inj hwhole).1.symm hc
    | @place name' format' text hname' h =>
        have hparts := congrArg (cut '}') (List.cons.inj (List.cons.inj hwhole).2).2
        rw [cut_append hname, cut_append hname'] at hparts
        cases hparts
        exact ⟨text, h, rfl⟩
  · rintro ⟨rest, h, rfl⟩
    exact .place hname h

theorem expands_plain_iff {value : List Char → List Char} {c : Char} {format text : List Char}
    (hc : c ≠ '#') :
    Expands value (c :: format) text ↔ ∃ rest, Expands value format rest ∧ text = c :: rest := by
  constructor
  · intro h
    cases h with
    | plain _ h => exact ⟨_, h, rfl⟩
    | place _ _ => exact absurd rfl hc
  · rintro ⟨rest, h, rfl⟩
    exact .plain hc h

theorem expands_nil_iff {value : List Char → List Char} {text : List Char} :
    Expands value [] text ↔ text = [] := by
  constructor
  · intro h
    cases h
    rfl
  · rintro rfl
    exact .done

/-- The listing format has three variables, with a bar between any two of them. -/
theorem expands_listFormat_iff {value : List Char → List Char} {text : List Char} :
    Expands value Line.listFormat.toList text ↔
      text = value "session_name".toList ++ '|' ::
        (value "session_created".toList ++ '|' :: value "session_attached".toList) := by
  have hformat : Line.listFormat.toList =
      '#' :: '{' :: ("session_name".toList ++ '}' :: '|' ::
        '#' :: '{' :: ("session_created".toList ++ '}' :: '|' ::
          '#' :: '{' :: ("session_attached".toList ++ '}' :: []))) := by decide +kernel
  rw [hformat, expands_place_iff (by decide)]
  simp only [expands_plain_iff (show '|' ≠ '#' by decide),
    expands_place_iff (show '}' ∉ "session_created".toList by decide),
    expands_place_iff (show '}' ∉ "session_attached".toList by decide), expands_nil_iff]
  constructor
  · rintro ⟨_, ⟨_, ⟨_, ⟨_, ⟨_, rfl, rfl⟩, rfl⟩, rfl⟩, rfl⟩, rfl⟩
    simp
  · rintro rfl
    simp

/-! ## Rows -/

/-- What the program that lists the sessions knows of one. -/
structure Row where
  /-- The name. -/
  name : String
  /-- When it was made, in seconds since 1970, if that is known. -/
  created : Option Int
  /-- How many terminals are attached. -/
  clients : Nat
  /-- The name is not empty. -/
  name_ne : name ≠ ""
  /-- The name has one line. -/
  name_line : '\n' ∉ name.toList
  /-- The calendar covers the creation time. -/
  created_covered : ∀ n ∈ created, firstSecond ≤ n ∧ n ≤ lastSecond
  /-- The number of terminals has 32 bits. -/
  clients_lt : clients < 2 ^ 32

/-- The session of a row. -/
def Row.session (r : Row) : Session :=
  ⟨r.name, r.created.map fun n => ⟨n, 0⟩, 0 < r.clients⟩

/-- The creation time as it is printed, which is not at all if it is not known. -/
def Row.createdText (r : Row) : List Char := r.created.elim [] writeInt

/-- The value of a variable.  Other variables have none. -/
def Row.value (r : Row) (name : List Char) : List Char :=
  if name = "session_name".toList then r.name.toList
  else if name = "session_created".toList then r.createdText
  else if name = "session_attached".toList then writeNat r.clients
  else []

/-- The line of a row. -/
def Row.line (r : Row) : List Char :=
  r.name.toList ++ '|' :: (r.createdText ++ '|' :: writeNat r.clients)

theorem Row.expands_iff {r : Row} {line : List Char} :
    Expands r.value Line.listFormat.toList line ↔ line = r.line := expands_listFormat_iff

theorem created_writeInt {n : Int} (h : firstSecond ≤ n ∧ n ≤ lastSecond) :
    Created (writeInt n) (some ⟨n, 0⟩) := by
  refine .seconds (padded_self _) (signed_writeInt n) ?_ h
  rw [firstSecond, lastSecond] at h
  omega

theorem Row.created_createdText (r : Row) :
    Created r.createdText (r.created.map fun n => ⟨n, 0⟩) := by
  unfold createdText
  cases hcreated : r.created with
  | none => exact .absent (padded_self [])
  | some n => exact created_writeInt (r.created_covered n hcreated)

theorem Row.not_mem_createdText {c : Char} (hc : c.isDigit = false) (hminus : c ≠ '-') (r : Row) :
    c ∉ r.createdText := by
  unfold createdText
  cases r.created with
  | none => exact List.not_mem_nil
  | some n => exact not_mem_writeInt hc hminus n

/-- The line of a row tells of its session. -/
theorem Row.fits_line (r : Row) : Fits r.line r.session := by
  have hbar : '|' ∉ r.createdText := r.not_mem_createdText (by decide) (by decide)
  have hname : r.name.toList ≠ [] := by simpa using r.name_ne
  have hfits := Fits.line hname hbar r.created_createdText
    (not_mem_writeNat (by decide) r.clients) (padded_self _) (unsigned_writeNat r.clients)
    r.clients_lt
  rwa [String.ofList_toList] at hfits

theorem Row.newline_not_mem_line (r : Row) : '\n' ∉ r.line := by
  simp only [line, List.mem_append, List.mem_cons, not_or]
  exact ⟨r.name_line, by decide, r.not_mem_createdText (by decide) (by decide), by decide,
    not_mem_writeNat (by decide) r.clients⟩

/-- The line of a row ends in a digit, so it has no carriage return to lose. -/
theorem Row.rdropWhile_line (r : Row) : r.line.rdropWhile (· == '\r') = r.line := by
  obtain ⟨front, last, hend⟩ := (List.eq_nil_or_concat _).resolve_left (writeNat_ne_nil r.clients)
  have hlast : last ≠ '\r' := by
    rintro rfl
    have hreturn : '\r' ∉ writeNat r.clients := not_mem_writeNat (by decide) r.clients
    rw [hend] at hreturn
    exact hreturn (by simp)
  have hline : r.line = (r.name.toList ++ '|' :: (r.createdText ++ '|' :: front)) ++ [last] := by
    simp [line, hend]
  rw [hline]
  exact List.rdropWhile_concat_neg _ _ _ (by simpa using hlast)

theorem Row.line_not_blank (r : Row) : r.line.all isBlank = false := by
  rw [List.all_eq_false]
  exact ⟨'|', by simp [line], by decide⟩

/-! ## The listing -/

theorem read_eq_sessions (text : String) : read text = sessions (counted text.toList) := by
  rw [read, linesOf, counted_eq_lines]

/-- A text is read as a listing exactly if each of its lines that are not blank, without the
carriage returns at its end, fits a session, and the sessions of these lines in their order are its
sessions.  Otherwise nothing is read, and the first line that does not fit is named.

So if the listing format is printed for some rows, one a line, their sessions are read. -/
theorem read_accepts_grammar :
    (∀ text found, read text = .ok found ↔ List.Forall₂ Fits (counted text.toList) found)
    ∧ (∀ text line, (∃ flaw, read text = .error ⟨line, flaw⟩) ↔
        FirstMisfit (counted text.toList) line.toList)
    ∧ ∀ (rows : List Row) (ls : List (List Char)),
        List.Forall₂ (fun r l => Expands r.value Line.listFormat.toList l) rows ls →
        read (String.ofList (ls.flatMap (· ++ ['\n']))) = .ok (rows.map Row.session) := by
  refine ⟨fun text found => ?_, fun text line => ?_, fun rows ls hprint => ?_⟩
  · rw [read_eq_sessions]
    exact sessions_eq_ok_iff
  · rw [read_eq_sessions]
    exact sessions_eq_error_iff
  · obtain rfl : ls = rows.map Row.line := by
      induction hprint with
      | nil => rfl
      | cons hline _ ih => rw [Row.expands_iff.1 hline, ih, List.map_cons]
    have hcounted : counted ((rows.map Row.line).flatMap (· ++ ['\n'])) = rows.map Row.line := by
      refine counted_flatMap ?_ ?_ ?_
      all_goals rw [List.forall_mem_map]
      · exact fun r _ => r.newline_not_mem_line
      · exact fun r _ => r.rdropWhile_line
      · exact fun r _ => r.line_not_blank
    rw [read_eq_sessions, String.toList_ofList, hcounted, sessions_eq_ok_iff,
      List.forall₂_map_left_iff, List.forall₂_map_right_iff]
    exact List.forall₂_same.2 fun r _ => r.fits_line

/-- A name may hold bars and blanks.  The first of two sessions has no creation time. -/
theorem read_accepts_grammar_printed :
    read "a|b ||0\n night|1767225600|2\n" =
      .ok [⟨"a|b ", none, false⟩, ⟨" night", some ⟨1767225600, 0⟩, true⟩] := by
  let first : Row :=
    { name := "a|b ", created := none, clients := 0, name_ne := by decide, name_line := by decide,
      created_covered := nofun, clients_lt := by decide }
  let second : Row :=
    { name := " night", created := some 1767225600, clients := 2, name_ne := by decide,
      name_line := by decide, created_covered := by rintro n ⟨⟩; decide, clients_lt := by decide }
  have htext : String.ofList ([first.line, second.line].flatMap (· ++ ['\n'])) =
      "a|b ||0\n night|1767225600|2\n" := by decide +kernel
  rw [← htext]
  exact read_accepts_grammar.2.2 [first, second] [first.line, second.line]
    (.cons (Row.expands_iff.2 rfl) (.cons (Row.expands_iff.2 rfl) .nil))

end Roster.Listing
