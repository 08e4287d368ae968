import Roster.Text.Blank

/-!
# Lines and fields

A text is cut into lines at each newline.  A carriage return right before the newline belongs to
the line end, and text after the last newline is a line of its own unless it is empty.

`cutLast?` cuts at the last separator only, so that the part before it may hold more.
-/

namespace Roster.Text

/-- The characters before the first `sep`, and those behind it if there is one. -/
def cut (sep : Char) : List Char → List Char × Option (List Char)
  | [] => ([], none)
  | c :: cs =>
      if c = sep then ([], some cs)
      else ((c :: (cut sep cs).1), (cut sep cs).2)

/-- The line without one carriage return at its end. -/
def dropReturn (line : List Char) : List Char :=
  if line.getLast? = some '\r' then line.dropLast else line

/-- The line without all the carriage returns at its end. -/
def dropReturns (line : List Char) : List Char :=
  (line.reverse.dropWhile (· == '\r')).reverse

/-- Lines, where `current` holds the part of the current line already passed, backwards. -/
def linesFrom (current : List Char) : List Char → List (List Char)
  | [] => if current.isEmpty then [] else [current.reverse]
  | c :: cs =>
      if c = '\n' then dropReturn current.reverse :: linesFrom [] cs
      else linesFrom (c :: current) cs

/-- The lines of a text, without their ends. -/
def lines (cs : List Char) : List (List Char) := linesFrom [] cs

/-- The last field behind a separator, and the part before that separator. -/
def cutLast? (sep : Char) (cs : List Char) : Option (List Char × List Char) :=
  match cut sep cs.reverse with
  | (field, some before) => some (before.reverse, field.reverse)
  | (_, none) => none

/-! ## Laws -/

/-- The parts of a cut make up the whole again. -/
theorem cut_eq_some {sep : Char} {cs a b : List Char} (h : cut sep cs = (a, some b)) :
    cs = a ++ sep :: b ∧ sep ∉ a := by
  induction cs generalizing a with
  | nil => simp [cut] at h
  | cons c cs ih =>
      by_cases hc : c = sep
      · simp [cut, hc] at h
        obtain ⟨rfl, rfl⟩ := h
        simp [hc]
      · simp only [cut, if_neg hc, Prod.mk.injEq] at h
        obtain ⟨rfl, h2⟩ := h
        obtain ⟨h3, h4⟩ := ih (a := (cut sep cs).1) (by rw [← h2])
        exact ⟨by rw [List.cons_append, ← h3], by simp [Ne.symm hc, h4]⟩

/-- A separator that the first part does not hold is the one cut at. -/
theorem cut_append {sep : Char} {a : List Char} (h : sep ∉ a) (b : List Char) :
    cut sep (a ++ sep :: b) = (a, some b) := by
  induction a with
  | nil => simp [cut]
  | cons c a ih =>
      simp only [List.mem_cons, not_or] at h
      simp [cut, Ne.symm h.1, ih h.2]

theorem cut_of_not_mem {sep : Char} {cs : List Char} (h : sep ∉ cs) :
    cut sep cs = (cs, none) := by
  induction cs with
  | nil => rfl
  | cons c cs ih =>
      simp only [List.mem_cons, not_or] at h
      simp [cut, Ne.symm h.1, ih h.2]

/-- Cutting at the last separator gives the parts around it. -/
theorem cutLast?_eq_some_iff {sep : Char} {cs before field : List Char} :
    cutLast? sep cs = some (before, field) ↔ cs = before ++ sep :: field ∧ sep ∉ field := by
  constructor
  · intro h
    unfold cutLast? at h
    split at h
    · next f b hcut =>
        simp only [Option.some.injEq, Prod.mk.injEq] at h
        obtain ⟨rfl, rfl⟩ := h
        obtain ⟨h1, h2⟩ := cut_eq_some hcut
        refine ⟨?_, by simpa using h2⟩
        have := congrArg List.reverse h1
        simpa using this
    · simp at h
  · rintro ⟨rfl, h⟩
    have hr : sep ∉ field.reverse := by simpa using h
    simp [cutLast?, cut_append hr]

theorem cut_snd_ne_none {sep : Char} {cs : List Char} (h : sep ∈ cs) : (cut sep cs).2 ≠ none := by
  induction cs with
  | nil => simp at h
  | cons c cs ih =>
      by_cases hc : c = sep
      · simp [cut, hc]
      · simp only [cut, if_neg hc]
        exact ih (by simpa [Ne.symm hc] using h)

/-- There is no last separator only if there is none at all. -/
theorem cutLast?_eq_none_iff {sep : Char} {cs : List Char} :
    cutLast? sep cs = none ↔ sep ∉ cs := by
  constructor
  · intro h hm
    unfold cutLast? at h
    split at h
    · simp at h
    · next f hcut =>
        have hr : sep ∈ cs.reverse := by simpa using hm
        exact cut_snd_ne_none hr (by rw [hcut])
  · intro h
    have hr : sep ∉ cs.reverse := by simpa using h
    simp [cutLast?, cut_of_not_mem hr]

example : lines "a\r\nb\n\nc\r".toList = [['a'], ['b'], [], ['c', '\r']] := by decide

example : lines "\n".toList = [[]] ∧ lines [] = [] := by decide

end Roster.Text
