import Roster.Proofs.Text.Fields
import Roster.Text.Lowercase

/-!
# Lower case of a part

A text is mapped to lower case character by character, but for the sigma, which asks what stands
around it.  So the small form of a part is not always a part of the small form of the whole.  Here
is when it is.

* *Parts.*  `lowerBy` leaves the question a sigma asks open, and `lower_middle` gives the small form
  of a part inside a whole: there the question is that of `within`.
* *Blanks.*  A part is trimmed before it is mapped.  This makes no difference to its sigmas
  (`lower_padded`), as a blank is neither cased nor passed over.
* *Settled.*  A sigma is settled if the part itself holds what decides its form.  Nothing around the
  part changes it then (`endsWord_of_settled`), and otherwise one letter does
  (`within_of_not_settled`).
* *Steady.*  A part is steady if every sigma of it is settled; if it has none, it is
  (`steady_of_not_mem`).  The small form of a steady part is in the small form of every whole
  (`Steady.lower_infix`), and that of any other part is missing from that of some whole
  (`exists_not_lower_infix`).  There the two forms of the sigma are counted: the letter makes one of
  them rarer, and no part of a text has more of a character than the text.
-/

namespace Roster.Text

/-! ## What a sigma meets -/

/-- The nearest character that a sigma does not pass over. -/
def nearest (cs : List Char) : Option Char := cs.find? (!caseIgnorableRanges.contains ·)

theorem nearest_append (cs ds : List Char) :
    nearest (cs ++ ds) = (nearest cs).or (nearest ds) := List.find?_append

theorem meetsCased_eq (cs : List Char) :
    meetsCased cs = (nearest cs).any casedRanges.contains := by
  induction cs with
  | nil => rfl
  | cons c cs ih =>
      cases h : caseIgnorableRanges.contains c
      · simp [meetsCased, nearest, h]
      · simpa [meetsCased, nearest, h] using ih

/-- What lies behind makes no difference if it is not cased. -/
theorem meetsCased_append {ds : List Char} (h : meetsCased ds = false) (cs : List Char) :
    meetsCased (cs ++ ds) = meetsCased cs := by
  rw [meetsCased_eq] at h
  rw [meetsCased_eq, meetsCased_eq, nearest_append]
  cases nearest cs with
  | none => exact h
  | some c => rfl

theorem meetsCased_append_of_left {cs : List Char} (h : meetsCased cs = true) (ds : List Char) :
    meetsCased (cs ++ ds) = true := by
  rw [meetsCased_eq] at h
  rw [meetsCased_eq, nearest_append]
  cases hc : nearest cs with
  | none => simp [hc] at h
  | some c => rwa [hc] at h

/-- Whether a sigma ends a word, where `before` is read backwards. -/
def endsWord (before after : List Char) : Bool := meetsCased before && !meetsCased after

/-- The small form of a sigma. -/
def smallSigma : Bool → Char
  | true => 'ς'
  | false => 'σ'

theorem smallSigma_eq_final_iff {ends : Bool} : smallSigma ends = 'ς' ↔ ends = true := by
  cases ends <;> decide

theorem smallSigma_eq_inner_iff {ends : Bool} : smallSigma ends = 'σ' ↔ ends = false := by
  cases ends <;> decide

/-! ## Lower case with the question left open -/

/-- Lower case, where `ends` says of a sigma, from what is passed and what follows, whether it ends
a word. -/
def lowerBy (ends : List Char → List Char → Bool) (before : List Char) : List Char → List Char
  | [] => []
  | c :: rest =>
      (if c = 'Σ' then [smallSigma (ends before rest)] else lowerChar c)
        ++ lowerBy ends (c :: before) rest

variable {ends ends' : List Char → List Char → Bool}

theorem lowerFrom_eq_lowerBy (before cs : List Char) :
    lowerFrom before cs = lowerBy endsWord before cs := by
  induction cs generalizing before with
  | nil => rfl
  | cons c cs ih =>
      rw [lowerFrom, lowerBy, ih]
      cases h : endsWord before cs <;> rw [endsWord] at h <;> simp [h, smallSigma]

theorem lowerBy_append (before cs ds : List Char) :
    lowerBy ends before (cs ++ ds) =
      lowerBy (fun b a => ends b (a ++ ds)) before cs ++ lowerBy ends (cs.reverse ++ before) ds := by
  induction cs generalizing before with
  | nil => rfl
  | cons c cs ih =>
      rw [List.cons_append, lowerBy, lowerBy, ih, List.append_assoc, List.reverse_cons,
        List.append_assoc, List.singleton_append]

theorem lowerBy_append_before (before outside cs : List Char) :
    lowerBy ends (before ++ outside) cs = lowerBy (fun b a => ends (b ++ outside) a) before cs := by
  induction cs generalizing before with
  | nil => rfl
  | cons c cs ih => rw [lowerBy, lowerBy, ← ih (c :: before), List.cons_append]

/-- Only the answers for the sigmas of the text count. -/
theorem lowerBy_congr {before cs : List Char}
    (h : ∀ u v, cs = u ++ 'Σ' :: v → ends (u.reverse ++ before) v = ends' (u.reverse ++ before) v) :
    lowerBy ends before cs = lowerBy ends' before cs := by
  induction cs generalizing before with
  | nil => rfl
  | cons c cs ih =>
      have hrest : lowerBy ends (c :: before) cs = lowerBy ends' (c :: before) cs :=
        ih fun u v huv => by simpa using h (c :: u) v (by rw [huv, List.cons_append])
      rw [lowerBy, lowerBy, hrest]
      by_cases hc : c = 'Σ'
      · have := h [] cs (by rw [hc, List.nil_append])
        rw [List.reverse_nil, List.nil_append] at this
        rw [this]
      · rw [if_neg hc, if_neg hc]

/-- If every sigma that has a form by the second question has it by the first, then the first gives
no fewer of them. -/
theorem count_lowerBy_le {d : Char}
    (h : ∀ b a, smallSigma (ends' b a) = d → smallSigma (ends b a) = d) (before cs : List Char) :
    (lowerBy ends' before cs).count d ≤ (lowerBy ends before cs).count d := by
  induction cs generalizing before with
  | nil => rfl
  | cons c cs ih =>
      rw [lowerBy, lowerBy, List.count_append, List.count_append]
      refine Nat.add_le_add ?_ (ih _)
      by_cases hc : c = 'Σ'
      · by_cases hd : smallSigma (ends' before cs) = d
        · rw [hd, h _ _ hd]
        · rw [if_pos hc, List.count_singleton, if_neg (by simpa using hd)]
          exact Nat.zero_le _
      · rw [if_neg hc, if_neg hc]

/-- It gives more of them if it gives the form to one more sigma. -/
theorem count_lowerBy_lt {d : Char} {before u v : List Char}
    (h : ∀ b a, smallSigma (ends' b a) = d → smallSigma (ends b a) = d)
    (hone : smallSigma (ends (u.reverse ++ before) v) = d)
    (hother : smallSigma (ends' (u.reverse ++ before) v) ≠ d) :
    (lowerBy ends' before (u ++ 'Σ' :: v)).count d
      < (lowerBy ends before (u ++ 'Σ' :: v)).count d := by
  have hu := count_lowerBy_le (fun b a => h b (a ++ 'Σ' :: v)) before u
  have hv := count_lowerBy_le h ('Σ' :: (u.reverse ++ before)) v
  have hzero : [smallSigma (ends' (u.reverse ++ before) v)].count d = 0 := by
    rw [List.count_singleton, if_neg (by simpa using hother)]
  have hunit : [smallSigma (ends (u.reverse ++ before) v)].count d = 1 := by
    rw [hone, List.count_singleton_self]
  simp only [lowerBy_append, lowerBy, List.count_append, if_true, hzero, hunit]
  omega

/-! ## A part of a whole -/

/-- Whether a sigma of a part ends a word, where `left` and `right` surround the part. -/
def within (left right before after : List Char) : Bool :=
  endsWord (before ++ left.reverse) (after ++ right)

/-- The small form of a whole, part by part. -/
theorem lower_middle (left part right : List Char) :
    lowerFrom [] (left ++ part ++ right) =
      lowerBy (fun before after => endsWord before (after ++ (part ++ right))) [] left ++
        (lowerBy (within left right) [] part ++
          lowerFrom (part.reverse ++ left.reverse) right) := by
  have hpart : lowerBy (fun before after => endsWord before (after ++ right)) left.reverse part =
      lowerBy (within left right) [] part := lowerBy_append_before [] left.reverse part
  rw [List.append_assoc, lowerFrom_eq_lowerBy, lowerFrom_eq_lowerBy, lowerBy_append,
    List.append_nil, lowerBy_append, hpart]

/-- What surrounds the part makes no difference if it is not cased. -/
theorem within_eq_endsWord {left right : List Char} (hleft : meetsCased left.reverse = false)
    (hright : meetsCased right = false) : within left right = endsWord := by
  funext before after
  rw [within, endsWord, endsWord, meetsCased_append hleft, meetsCased_append hright]

/-! ## Characters that are themselves in lower case -/

theorem lowerBy_eq_self {cs : List Char} (h : ∀ c ∈ cs, c ≠ 'Σ' ∧ lowerChar c = [c])
    (before : List Char) : lowerBy ends before cs = cs := by
  induction cs generalizing before with
  | nil => rfl
  | cons c cs ih =>
      obtain ⟨⟨hc, hlower⟩, hcs⟩ := List.forall_mem_cons.1 h
      rw [lowerBy, if_neg hc, hlower, ih hcs, List.singleton_append]

/-- The blanks. -/
def blanks : List Char :=
  ['\t', '\n', '\x0b', '\x0c', '\r', ' ', '\u0085', '\u00a0', '\u1680', '\u2000', '\u2001',
   '\u2002', '\u2003', '\u2004', '\u2005', '\u2006', '\u2007', '\u2008', '\u2009', '\u200a',
   '\u2028', '\u2029', '\u202f', '\u205f', '\u3000']

theorem mem_blanks {c : Char} (h : isBlank c = true) : c ∈ blanks := by
  have hcodes : blanks.map Char.toNat = [9, 10, 11, 12, 13, 32, 133, 160, 5760, 8192, 8193, 8194,
      8195, 8196, 8197, 8198, 8199, 8200, 8201, 8202, 8232, 8233, 8239, 8287, 12288] := by decide
  have hcode : c.toNat ∈ blanks.map Char.toNat := by
    simp only [isBlank, Bool.or_eq_true, Bool.and_eq_true, decide_eq_true_eq, beq_iff_eq] at h
    simp only [hcodes, List.mem_cons, List.not_mem_nil, or_false]
    omega
  obtain ⟨b, hb, heq⟩ := List.mem_map.1 hcode
  exact Char.toNat_inj.1 heq ▸ hb

/-- A blank is in lower case, and it is not cased. -/
theorem lowerChar_of_isBlank {c : Char} (h : isBlank c = true) :
    (c ≠ 'Σ' ∧ lowerChar c = [c]) ∧ casedRanges.contains c = false := by
  have hall : (blanks.all fun b =>
      b != 'Σ' && lowerChar b == [b] && !casedRanges.contains b) = true := by decide +kernel
  have hc := List.all_eq_true.1 hall c (mem_blanks h)
  simpa [and_assoc] using hc

theorem meetsCased_of_blank {cs : List Char} (h : ∀ c ∈ cs, isBlank c = true) :
    meetsCased cs = false := by
  rw [meetsCased_eq]
  cases hc : nearest cs with
  | none => rfl
  | some c => exact (lowerChar_of_isBlank (h c (List.mem_of_find?_eq_some hc))).2

/-- Blanks around a text stand around its small form too. -/
theorem lower_padded {field text : List Char} (h : Padded field text) :
    Padded (lowerFrom [] field) (lowerFrom [] text) := by
  obtain ⟨before, after, hbefore, hafter, rfl⟩ := h
  have hwithin : within before after = endsWord :=
    within_eq_endsWord (meetsCased_of_blank fun c hc => hbefore c (List.mem_reverse.1 hc))
      (meetsCased_of_blank hafter)
  refine ⟨before, after, hbefore, hafter, ?_⟩
  rw [lower_middle, hwithin, lowerBy_eq_self fun c hc => (lowerChar_of_isBlank (hbefore c hc)).1,
    lowerFrom_eq_lowerBy _ after, lowerBy_eq_self fun c hc => (lowerChar_of_isBlank (hafter c hc)).1,
    ← lowerFrom_eq_lowerBy, List.append_assoc]

/-! ## Settled sigmas -/

/-- Whether two sides of a sigma, the left one read backwards, decide its form: there is a character
to meet on both, or the one there is says that the sigma ends no word. -/
def settled (before after : List Char) : Bool :=
  match nearest before, nearest after with
  | some _, some _ => true
  | some c, none => !casedRanges.contains c
  | none, some c => casedRanges.contains c
  | none, none => false

/-- The form of a settled sigma is the same whatever lies further out. -/
theorem endsWord_of_settled {before after : List Char} (h : settled before after = true)
    (left right : List Char) :
    endsWord (before ++ left) (after ++ right) = endsWord before after := by
  simp only [endsWord, meetsCased_eq, nearest_append]
  unfold settled at h
  cases hb : nearest before <;> cases ha : nearest after <;> simp_all

theorem meetsCased_digit : meetsCased ['1'] = false := by decide +kernel

theorem meetsCased_letter : meetsCased ['a'] = true := by decide +kernel

/-- If it is not settled, a letter on the one side changes its form, with a digit on the other. -/
theorem within_of_not_settled {before after : List Char} (h : settled before after = false) :
    endsWord before after = true ∧ within ['1'] ['a'] before after = false ∨
      endsWord before after = false ∧ within ['a'] ['1'] before after = true := by
  have hdigit := meetsCased_digit
  have hletter := meetsCased_letter
  simp only [within, endsWord, List.reverse_singleton]
  unfold settled at h
  simp only [meetsCased_eq, nearest_append] at hdigit hletter ⊢
  cases hb : nearest before <;> cases ha : nearest after <;> simp_all

/-- Before a letter no sigma comes to end a word, -/
theorem endsWord_of_before_letter {before after : List Char}
    (h : within ['1'] ['a'] before after = true) : endsWord before after = true := by
  simp only [within, endsWord, List.reverse_singleton, meetsCased_append meetsCased_digit,
    Bool.and_eq_true, Bool.not_eq_true'] at h ⊢
  refine ⟨h.1, ?_⟩
  by_contra hne
  rw [meetsCased_append_of_left (Bool.not_eq_false _ ▸ hne)] at h
  exact absurd h.2 (by decide)

/-- and behind a letter none ceases to. -/
theorem within_behind_letter {before after : List Char} (h : endsWord before after = true) :
    within ['a'] ['1'] before after = true := by
  simp only [within, endsWord, List.reverse_singleton, meetsCased_append meetsCased_digit,
    Bool.and_eq_true] at h ⊢
  exact ⟨meetsCased_append_of_left h.1 _, h.2⟩

/-! ## Steady parts -/

/-- Every sigma of the text is settled by the text itself. -/
def Steady (part : List Char) : Prop :=
  ∀ u v, part = u ++ 'Σ' :: v → settled u.reverse v = true

/-- Whether every sigma is settled, where `before` holds the characters already passed. -/
def steadyFrom (before : List Char) : List Char → Bool
  | [] => true
  | c :: rest => (c != 'Σ' || settled before rest) && steadyFrom (c :: before) rest

theorem steadyFrom_iff {before cs : List Char} :
    steadyFrom before cs = true ↔
      ∀ u v, cs = u ++ 'Σ' :: v → settled (u.reverse ++ before) v = true := by
  induction cs generalizing before with
  | nil => simp [steadyFrom]
  | cons c cs ih =>
      rw [steadyFrom, Bool.and_eq_true, ih]
      constructor
      · rintro ⟨hhead, hrest⟩ (_ | ⟨d, u⟩) v huv
        · obtain ⟨rfl, rfl⟩ := List.cons.inj huv
          simpa using hhead
        · obtain ⟨rfl, hcs⟩ := List.cons.inj huv
          simpa using hrest u v hcs
      · intro h
        refine ⟨?_, fun u v huv => by simpa using h (c :: u) v (by rw [huv, List.cons_append])⟩
        by_cases hc : c = 'Σ'
        · have hhead := h [] cs (by rw [hc, List.nil_append])
          rw [List.reverse_nil, List.nil_append] at hhead
          rw [hhead, Bool.or_true]
        · simp [hc]

instance (part : List Char) : Decidable (Steady part) :=
  decidable_of_iff (steadyFrom [] part = true) (by simp [steadyFrom_iff, Steady])

theorem steady_of_not_mem {part : List Char} (h : 'Σ' ∉ part) : Steady part :=
  fun u v huv => absurd (by simp [huv]) h

/-- The small form of a steady part is in the small form of every whole. -/
theorem Steady.lower_infix {part whole : List Char} (h : Steady part) (hin : part <:+: whole) :
    lowerFrom [] (trimChars part) <:+: lowerFrom [] whole := by
  obtain ⟨left, right, rfl⟩ := hin
  have hpart : lowerBy (within left right) [] part = lowerFrom [] part := by
    rw [lowerFrom_eq_lowerBy]
    refine lowerBy_congr fun u v huv => ?_
    rw [List.append_nil]
    exact endsWord_of_settled (h u v huv) left.reverse right
  obtain ⟨before, after, -, -, hpad⟩ := lower_padded (padded_trimChars part)
  have hself : lowerFrom [] (trimChars part) <:+: lowerFrom [] part :=
    ⟨before, after, hpad.symm⟩
  rw [lower_middle, hpart]
  exact hself.trans ⟨_, _, List.append_assoc _ _ _⟩

theorem trimChars_between {l r : Char} (hl : isBlank l = false) (hr : isBlank r = false)
    (part : List Char) : trimChars ([l] ++ part ++ [r]) = [l] ++ part ++ [r] := by
  have h := trimChars_append_cons hl [] (part ++ [r])
  rw [dropBlanksEnd_append_cons hr] at h
  simpa [dropBlanks, dropBlanksEnd] using h

/-- If a character that is not blank is rarer in the small form of a part between two others than in
that of the part alone, then the small form of the trimmed part is not there. -/
theorem not_lower_infix_of_count {l r d : Char} {part : List Char}
    (hl : l ≠ 'Σ' ∧ lowerChar l = [l]) (hr : r ≠ 'Σ' ∧ lowerChar r = [r]) (hne : l ≠ d ∧ r ≠ d)
    (hd : isBlank d = false)
    (hcount : (lowerBy (within [l] [r]) [] part).count d < (lowerBy endsWord [] part).count d) :
    ¬ lowerFrom [] (trimChars part) <:+: lowerFrom [] ([l] ++ part ++ [r]) := by
  intro hin
  obtain ⟨before, after, hbefore, hafter, hpad⟩ := lower_padded (padded_trimChars part)
  have hzero {cs : List Char} (h : ∀ c ∈ cs, isBlank c = true) : cs.count d = 0 :=
    List.count_eq_zero.2 fun hmem => by simp [h d hmem] at hd
  have htrim : (lowerBy endsWord [] part).count d = (lowerFrom [] (trimChars part)).count d := by
    rw [← lowerFrom_eq_lowerBy, hpad, List.count_append, List.count_append, hzero hbefore,
      hzero hafter, Nat.zero_add, Nat.add_zero]
  have hwhole : (lowerFrom [] ([l] ++ part ++ [r])).count d =
      (lowerBy (within [l] [r]) [] part).count d := by
    rw [lower_middle, lowerFrom_eq_lowerBy, lowerBy_eq_self (List.forall_mem_singleton.2 hl),
      lowerBy_eq_self (List.forall_mem_singleton.2 hr)]
    simp [hne.1, hne.2]
  have hle := hin.sublist.count_le d
  omega

/-- The small form of any other part is missing from that of some trimmed whole. -/
theorem exists_not_lower_infix {part : List Char} (h : ¬ Steady part) :
    ∃ whole, part <:+: whole ∧ trimChars whole = whole ∧
      ¬ lowerFrom [] (trimChars part) <:+: lowerFrom [] whole := by
  simp only [Steady, not_forall, Bool.not_eq_true] at h
  obtain ⟨u, v, rfl, hopen⟩ := h
  have hdigit : '1' ≠ 'Σ' ∧ lowerChar '1' = ['1'] := by decide +kernel
  have hletter : 'a' ≠ 'Σ' ∧ lowerChar 'a' = ['a'] := by decide +kernel
  rcases within_of_not_settled hopen with ⟨hends, hchange⟩ | ⟨hends, hchange⟩
  · -- the sigma ends a word, and no longer does so before a letter
    refine ⟨['1'] ++ (u ++ 'Σ' :: v) ++ ['a'], ⟨_, _, rfl⟩,
      trimChars_between (by decide) (by decide) _,
      not_lower_infix_of_count (d := 'ς') hdigit hletter (by decide) (by decide)
        (count_lowerBy_lt ?_ ?_ ?_)⟩
    · intro before after hfinal
      exact smallSigma_eq_final_iff.2
        (endsWord_of_before_letter (smallSigma_eq_final_iff.1 hfinal))
    · rw [List.append_nil, hends, smallSigma]
    · rw [List.append_nil, hchange, smallSigma]
      decide
  · -- it ends no word, but does so behind a letter
    refine ⟨['a'] ++ (u ++ 'Σ' :: v) ++ ['1'], ⟨_, _, rfl⟩,
      trimChars_between (by decide) (by decide) _,
      not_lower_infix_of_count (d := 'σ') hletter hdigit (by decide) (by decide)
        (count_lowerBy_lt ?_ ?_ ?_)⟩
    · intro before after hinner
      rw [smallSigma_eq_inner_iff] at hinner ⊢
      by_contra hne
      rw [within_behind_letter (Bool.not_eq_false _ ▸ hne)] at hinner
      exact absurd hinner (by decide)
    · rw [List.append_nil, hends, smallSigma]
    · rw [List.append_nil, hchange, smallSigma]
      decide

example : Steady ['Α', 'Σ', 'Α'] ∧ Steady ['Α', 'Σ', ' '] ∧ ¬ Steady ['Α', 'Σ', '.']
    ∧ ¬ Steady ['Σ', ' '] ∧ Steady ['1', 'Σ'] := by decide +kernel

end Roster.Text
