import Roster.Json.Basic
import Roster.Json.Reader

/-!
# What is written is read

A written string is read character by character: what is written of one takes the reader from
between two characters to between two (`stringBody_escapedChar`).  An object is read member by
member, if the readers of its members read what is written of them.

`Takes` says of a reader that it takes what is written of a JSON value, at any depth and whatever
follows.  It holds of strings (`takes_string`) and passes from members to objects
(`takes_object`), and `document_write` brings it to whole texts.
-/

namespace Roster.Json

open Text

/-- The reader takes what is written of a value, behind a gap, as `a`. -/
def Takes {α : Type} (reader : Reader α) (j : Json) (a : α) : Prop :=
  ∀ (gap : List Char) (depth : Nat) (rest : List Char), gap.all isGap →
    reader (gap ++ writeAt depth j ++ rest) = some (a, rest)

/-! ## Gaps -/

theorem skipGap_append {gap : List Char} (h : gap.all isGap) (cs : List Char) :
    skipGap (gap ++ cs) = skipGap cs :=
  List.dropWhile_append_of_pos (List.all_eq_true.1 h)

theorem skipGap_cons {c : Char} (h : isGap c = false) (cs : List Char) :
    skipGap (c :: cs) = c :: cs := by
  simp [skipGap, h]

theorem mark_append {gap : List Char} (h : gap.all isGap) (c : Char) (cs : List Char) :
    mark c (gap ++ cs) = mark c cs := by
  simp only [mark, skipGap_append h]

theorem mark_cons {c : Char} (h : isGap c = false) (cs : List Char) :
    mark c (c :: cs) = some cs := by
  simp [mark, skipGap_cons h]

theorem newLine_gap (depth : Nat) : (newLine depth).all isGap := by
  simp [newLine, isGap]

/-! ## Strings -/

theorem hexDigit?_hexChar : ∀ n < 16, hexDigit? (hexChar n) = some n := by decide

/-- What is written of a character is read as it. -/
theorem stringBody_escapedChar (c : Char) (cs : List Char) :
    stringBody .plain (escapedChar c ++ cs)
      = (stringBody .plain cs).map fun (s, rest) => (c :: s, rest) := by
  unfold escapedChar
  split
  case h_8 hquote hslash _ _ _ _ _ =>
    split
    next hcontrol =>
      -- A control character is written as a code below 0x20, which is half of no pair.
      have hvalue : c.toNat / 16 * 16 + c.toNat % 16 = c.toNat := Nat.div_add_mod' ..
      simp [stringBody, show hexDigit? '0' = some 0 from rfl,
        hexDigit?_hexChar (c.toNat / 16) (by omega), hexDigit?_hexChar (c.toNat % 16) (by omega),
        hvalue, show ¬ 0xD800 ≤ c.toNat by omega, show ¬ 0xDC00 ≤ c.toNat by omega,
        Char.ofNat_toNat]
    next hcontrol =>
      rw [List.singleton_append, stringBody, if_neg hquote, if_neg hslash, if_neg hcontrol]
  all_goals simp [stringBody, shortEscape?]

theorem stringBody_escaped (cs rest : List Char) :
    stringBody .plain (escaped cs ++ rest) = some (cs, rest) := by
  induction cs with
  | nil => simp [escaped, stringBody]
  | cons c cs ih =>
      have hcons : escaped (c :: cs) ++ rest = escapedChar c ++ (escaped cs ++ rest) := by
        simp only [escaped, List.flatMap_cons, List.append_assoc]
      rw [hcons, stringBody_escapedChar, ih]
      rfl

theorem readString_writeString {gap : List Char} (h : gap.all isGap) (s : String)
    (rest : List Char) : readString (gap ++ writeString s ++ rest) = some (s, rest) := by
  have hmark : mark '"' (gap ++ writeString s ++ rest) = some (escaped s.toList ++ rest) := by
    rw [List.append_assoc, mark_append h, writeString, List.cons_append, mark_cons (by decide)]
  simp only [readString, hmark, Option.bind_some, stringBody_escaped, Option.map_some,
    String.ofList_toList]

/-- A string is read as its text. -/
theorem takes_string (s : String) : Takes readString (.string s) s := by
  intro gap depth rest hgap
  rw [writeAt]
  exact readString_writeString hgap s rest

/-! ## Objects -/

/-- A member of an object: its key, its value in JSON, and what that is read as. -/
structure MemberOf (α : Type) where
  /-- The key. -/
  key : String
  /-- The value in JSON. -/
  json : Json
  /-- The value that is read. -/
  value : α

/-- The members as they are written. -/
def written {α : Type} (ms : List (MemberOf α)) : List (String × Json) :=
  ms.map fun m => (m.key, m.json)

/-- The members as they are read. -/
def taken {α : Type} (ms : List (MemberOf α)) : List (String × α) :=
  ms.map fun m => (m.key, m.value)

/-- Every member takes characters. -/
theorem length_writeFields (depth : Nat) (fields : List (String × Json)) :
    fields.length < (writeFields depth fields).length := by
  induction fields with
  | nil => simp [writeFields]
  | cons field fields ih =>
      simp only [writeFields, List.length_append, List.length_cons]
      omega

variable {α : Type} {value : String → Reader α}

/-- The text of a member is read as its value, and what follows is left. -/
theorem members_member {gap : List Char} (hgap : gap.all isGap) (depth fuel : Nat)
    {m : MemberOf α} (h : Takes (value m.key) m.json m.value) (rest : List Char) :
    members value (fuel + 1) (gap ++ writeString m.key ++ ':' :: ' '
        :: writeAt depth m.json ++ rest)
      = match skipGap rest with
        | ',' :: rest =>
            (members value fuel rest).map fun (more, rest) => ((m.key, m.value) :: more, rest)
        | '}' :: rest => some ([(m.key, m.value)], rest)
        | _ => none := by
  have hkey : readString (gap ++ writeString m.key ++ ':' :: ' ' :: writeAt depth m.json ++ rest)
      = some (m.key, ':' :: ' ' :: writeAt depth m.json ++ rest) := by
    rw [List.append_assoc _ (_ :: _)]
    exact readString_writeString hgap m.key _
  have hvalue : value m.key (' ' :: writeAt depth m.json ++ rest) = some (m.value, rest) :=
    h [' '] depth rest (by decide)
  simp only [members, hkey, Option.bind_some, List.cons_append, mark_cons (c := ':') (by decide)]
  rw [← List.cons_append, hvalue]
  rfl

/-- A reader of members reads what is written of the first and the others. -/
theorem members_writeFields {gap : List Char} (hgap : gap.all isGap) (depth : Nat)
    (rest : List Char) {m : MemberOf α} {ms : List (MemberOf α)}
    (h : ∀ m' ∈ m :: ms, Takes (value m'.key) m'.json m'.value)
    {fuel : Nat} (hfuel : ms.length ≤ fuel) :
    members value (fuel + 1) (gap ++ writeString m.key ++ ':' :: ' '
        :: writeAt (depth + 1) m.json ++ (writeFields depth (written ms) ++ rest))
      = some (taken (m :: ms), rest) := by
  induction ms generalizing gap m fuel with
  | nil =>
      rw [members_member hgap (depth + 1) fuel (h m (List.mem_cons_self ..))]
      simp only [written, List.map_nil, writeFields, List.append_assoc,
        skipGap_append (newLine_gap depth), List.singleton_append,
        skipGap_cons (c := '}') (by decide)]
      rfl
  | cons m' ms ih =>
      obtain ⟨fuel, rfl⟩ := Nat.exists_eq_add_one_of_ne_zero (n := fuel) (by
        rintro rfl
        simp at hfuel)
      rw [members_member hgap (depth + 1) (fuel + 1) (h m (List.mem_cons_self ..))]
      have hmore := ih (newLine_gap (depth + 1)) (fun m'' hm => h m'' (List.mem_cons_of_mem m hm))
        (Nat.le_of_succ_le_succ hfuel)
      simp only [written, List.map_cons, writeFields, List.cons_append, List.append_assoc,
        skipGap_cons (c := ',') (by decide)] at hmore ⊢
      rw [hmore]
      rfl

/-- An object is read as its members, if each of them is. -/
theorem takes_object (value : String → Reader α) (ms : List (MemberOf α))
    (h : ∀ m ∈ ms, Takes (value m.key) m.json m.value) :
    Takes (readObject value) (.object (written ms)) (taken ms) := by
  intro gap depth rest hgap
  rw [List.append_assoc, readObject, mark_append hgap]
  cases ms with
  | nil => simp [written, taken, writeAt, mark_cons, isGap, skipGap_cons]
  | cons m ms =>
      -- The gap before the first member is dropped already when its reader starts.
      have hlen : ms.length ≤ (escaped m.key.toList ++ ':' :: ' ' :: writeAt (depth + 1) m.json
          ++ (writeFields depth (written ms) ++ rest)).length := by
        have hle := length_writeFields depth (written ms)
        simp only [written, List.length_map] at hle
        simp only [List.length_append, written]
        omega
      have hmembers := members_writeFields (List.all_nil (f := isGap)) depth rest h hlen
      simp only [written, List.map_cons, writeAt, List.cons_append,
        mark_cons (c := '{') (by decide), Option.bind_some, List.append_assoc, skipGap_append (newLine_gap (depth + 1)), writeString,
        skipGap_cons (c := '"') (by decide), List.nil_append] at hmembers ⊢
      exact hmembers

/-- What is read as members was taken by the readers of their keys. -/
theorem value_of_members {fuel : Nat} {cs rest : List Char} {ms : List (String × α)}
    (h : members value fuel cs = some (ms, rest)) {m : String × α} (hm : m ∈ ms) :
    ∃ cs' rest', value m.1 cs' = some (m.2, rest') := by
  induction fuel generalizing cs rest ms with
  | zero => cases h
  | succ fuel ih =>
      obtain ⟨⟨key, cs₁⟩, -, h⟩ := Option.bind_eq_some_iff.1 h
      obtain ⟨cs₂, -, h⟩ := Option.bind_eq_some_iff.1 h
      obtain ⟨⟨v, cs₃⟩, hvalue, h⟩ := Option.bind_eq_some_iff.1 h
      simp only at h
      split at h
      next =>
        obtain ⟨⟨more, cs₄⟩, hmore, heq⟩ := Option.map_eq_some_iff.1 h
        cases heq
        rcases List.mem_cons.1 hm with rfl | hm
        · exact ⟨cs₂, cs₃, hvalue⟩
        · exact ih hmore hm
      next =>
        cases h
        rw [List.mem_singleton.1 hm]
        exact ⟨cs₂, cs₃, hvalue⟩
      next => cases h

theorem value_of_readObject {cs rest : List Char} {ms : List (String × α)}
    (h : readObject value cs = some (ms, rest)) {m : String × α} (hm : m ∈ ms) :
    ∃ cs' rest', value m.1 cs' = some (m.2, rest') := by
  obtain ⟨cs₁, -, h⟩ := Option.bind_eq_some_iff.1 h
  split at h
  next =>
    cases h
    cases hm
  next => exact value_of_members h hm

/-- What is written of a value is a text that holds nothing else. -/
theorem document_write {reader : Reader α} {j : Json} {a : α} (h : Takes reader j a) :
    document reader (write j) = some a := by
  have hall := h [] 0 [] rfl
  rw [List.nil_append, List.append_nil] at hall
  rw [document, write, String.toList_ofList, hall, Option.bind_some]
  rfl

end Roster.Json
