import Roster.Proofs.Disk.Operations

/-!
# Paths told apart, and the path above

Paths with the same parts mean the same place (`place_of_same`): what is no part of a path is a dot,
which leads nowhere.

The path above another is one that it starts with, and the disk comes by it on its way
(`parent?_spec`).  So if there is a slot at a path, the path above leads to a directory
(`Slot.isDirectory_above`).
-/

namespace Roster

namespace Path

/-! ## Splitting and joining -/

theorem splitSlash_ne_nil (cs : List Char) : splitSlash cs ≠ [] := by
  obtain ⟨init, last, hsplit, -⟩ := splitSlash_append cs
  rw [hsplit]
  exact List.concat_ne_nil last init

theorem slash_not_mem_splitSlash (cs : List Char) : ∀ text ∈ splitSlash cs, '/' ∉ text := by
  induction cs with
  | nil => simp [splitSlash]
  | cons c cs ih =>
      obtain ⟨first, rest, hs⟩ := List.exists_cons_of_ne_nil (splitSlash_ne_nil cs)
      rw [hs] at ih
      by_cases hc : c = '/'
      · simpa [splitSlash, hc, hs] using ih
      · simpa [splitSlash, hc, hs, Ne.symm hc] using ih

/-- A text without slashes in front of a slash is split off. -/
theorem splitSlash_cons {text : List Char} (h : '/' ∉ text) (cs : List Char) :
    splitSlash (text ++ '/' :: cs) = text :: splitSlash cs := by
  induction text with
  | nil => simp [splitSlash]
  | cons c text ih =>
      rw [List.mem_cons, not_or] at h
      simp [splitSlash, Ne.symm h.1, ih h.2]

/-- Joining texts without slashes loses nothing. -/
theorem splitSlash_joinSlash {texts : List (List Char)} (hne : texts ≠ [])
    (h : ∀ text ∈ texts, '/' ∉ text) : splitSlash (joinSlash texts) = texts := by
  induction texts with
  | nil => exact absurd rfl hne
  | cons text rest ih =>
      have htext := h text (List.mem_cons_self ..)
      cases rest with
      | nil =>
          obtain ⟨init, last, hsplit, happend, -⟩ := splitSlash_append []
          obtain ⟨rfl, rfl⟩ : init = [] ∧ last = [] := by
            cases init with
            | nil => exact ⟨rfl, by simpa [splitSlash] using hsplit.symm⟩
            | cons _ _ => simp [splitSlash] at hsplit
          simpa [joinSlash] using happend text htext
      | cons next rest =>
          rw [joinSlash, splitSlash_cons htext, ih (List.cons_ne_nil _ _)
            fun text hmem => h text (List.mem_cons_of_mem _ hmem)]
          exact List.cons_ne_nil _ _

theorem joinSlash_append {texts texts' : List (List Char)} (h : texts ≠ []) (h' : texts' ≠ []) :
    joinSlash (texts ++ texts') = joinSlash texts ++ '/' :: joinSlash texts' := by
  induction texts with
  | nil => exact absurd rfl h
  | cons text rest ih =>
      cases rest with
      | nil => cases texts' with
        | nil => exact absurd rfl h'
        | cons next rest => simp [joinSlash]
      | cons next rest =>
          have hrest := ih (List.cons_ne_nil _ _)
          simp only [List.cons_append, joinSlash] at hrest ⊢
          simp [hrest]

/-- The names among some texts. -/
def namesOf (texts : List (List Char)) : List String :=
  (texts.map String.ofList).filter (· != "")

theorem names_eq (path : String) : names path = namesOf (splitSlash path.toList) := rfl

theorem namesOf_append (texts texts' : List (List Char)) :
    namesOf (texts ++ texts') = namesOf texts ++ namesOf texts' := by
  simp [namesOf]

/-! ## The path above -/

/-- What is dropped in front is no part. -/
theorem dropIdle_spec {texts : List (List Char)} (h : texts ≠ []) :
    ∃ idle, texts = idle ++ dropIdle texts ∧ dropIdle texts ≠ []
      ∧ ∀ text ∈ idle, text = [] ∨ text = ['.'] := by
  induction texts with
  | nil => exact absurd rfl h
  | cons text rest ih =>
      cases rest with
      | nil => exact ⟨[], rfl, List.cons_ne_nil _ _, nofun⟩
      | cons next rest =>
          unfold dropIdle
          split
          next hidle =>
            obtain ⟨idle, htexts, hne, hall⟩ := ih (List.cons_ne_nil _ _)
            refine ⟨text :: idle, congrArg (List.cons text) htexts, hne, ?_⟩
            exact List.forall_mem_cons.2 ⟨hidle, hall⟩
          next => exact ⟨[], rfl, List.cons_ne_nil _ _, nofun⟩

/-- Names of texts that are no parts are dots. -/
theorem eq_dot_of_mem_namesOf {texts : List (List Char)}
    (h : ∀ text ∈ texts, text = [] ∨ text = ['.']) : ∀ name ∈ namesOf texts, name = "." := by
  intro name hmem
  obtain ⟨hmap, hne⟩ := List.mem_filter.1 hmem
  obtain ⟨text, htext, rfl⟩ := List.mem_map.1 hmap
  rcases h text htext with rfl | rfl
  · simp at hne
  · rfl

/-- The path above one that ends in a real name, whose texts before that are these. -/
def aboveOf (init : List (List Char)) : String :=
  if init = [] then ""
  else if dropIdle init.reverse = [[]] then "/"
  else String.ofList (joinSlash (dropIdle init.reverse).reverse)

theorem parent?_of_split {path : String} {init : List (List Char)} {text : List Char}
    (hsplit : splitSlash path.toList = init ++ [text]) (htext : ¬ (text = [] ∨ text = ['.'])) :
    parent? path = some (aboveOf init) := by
  have hreverse : (init ++ [text]).reverse = text :: init.reverse := by simp
  have hempty : text ≠ [] := (not_or.1 htext).1
  rw [parent?, hsplit, hreverse]
  rcases hinit : init.reverse with _ | ⟨next, rest⟩
  · rw [List.reverse_eq_nil_iff.1 hinit]
    simp [dropIdle, aboveOf, hempty]
  · have hne : init ≠ [] := by
      rintro rfl
      cases hinit
    rw [dropIdle, if_neg htext, aboveOf, if_neg hne, hinit]
    dsimp only
    split
    next hroot => rw [hroot, if_pos rfl]
    next hroot => rw [if_neg hroot]

/-- The path starts with the path above, and has dots behind it. -/
theorem aboveOf_spec {init : List (List Char)} (text : List Char)
    (hfree : ∀ t ∈ init, '/' ∉ t) (hne : aboveOf init ≠ "") :
    (∃ tail, joinSlash (init ++ [text]) = (aboveOf init).toList ++ tail)
      ∧ ∃ dots, (∀ name ∈ dots, name = ".") ∧ namesOf init = names (aboveOf init) ++ dots := by
  have hinit : init.reverse ≠ [] := by
    rw [ne_eq, List.reverse_eq_nil_iff]
    rintro rfl
    exact hne rfl
  obtain ⟨idle, hidle, hfound, hall⟩ := dropIdle_spec hinit
  have hback : init = (dropIdle init.reverse).reverse ++ idle.reverse := by
    rw [← List.reverse_append, ← hidle, List.reverse_reverse]
  have hdots : ∀ name ∈ namesOf idle.reverse, name = "." :=
    eq_dot_of_mem_namesOf fun t ht => hall t (List.mem_reverse.1 ht)
  have hjoin : joinSlash (init ++ [text]) =
      joinSlash (dropIdle init.reverse).reverse ++ '/' :: joinSlash (idle.reverse ++ [text]) := by
    rw [← joinSlash_append (by simpa using hfound) (by simp), ← List.append_assoc, ← hback]
  have hnames : namesOf init = namesOf (dropIdle init.reverse).reverse ++ namesOf idle.reverse := by
    rw [← namesOf_append, ← hback]
  unfold aboveOf at hne ⊢
  split at hne
  next => exact absurd rfl hne
  next hsome =>
    rw [if_neg hsome]
    split
    next hroot =>
      rw [hroot] at hjoin hnames
      exact ⟨⟨_, hjoin⟩, _, hdots, hnames⟩
    next =>
      refine ⟨⟨_, by rw [hjoin, String.toList_ofList]⟩, _, hdots, ?_⟩
      rw [hnames, names_eq, String.toList_ofList, splitSlash_joinSlash (by simpa using hfound)]
      intro t ht
      refine hfree t ?_
      rw [hback]
      exact List.mem_append_left _ ht

/-- A path whose last name is one starts with the path above, and has dots and the last name behind
it. -/
theorem parent?_spec {path above last : String} {dir : List String}
    (hslash : endsInSlash path = false) (hpath : path ≠ "") (hnames : names path = dir ++ [last])
    (hlast : last ≠ ".") (h : parent? path = some above) (hne : above ≠ "") :
    (∃ tail, path = above ++ tail)
      ∧ ∃ dots, (∀ name ∈ dots, name = ".") ∧ dir = names above ++ dots := by
  obtain ⟨init, text, hsplit, -, hempty⟩ := splitSlash_append path.toList
  have htext : text ≠ [] := by
    intro he
    rcases hempty he with hnil | hend
    · exact hpath (String.toList_eq_nil_iff.1 hnil)
    · simp [endsInSlash, hend] at hslash
  have hone : namesOf [text] = [String.ofList text] := by simp [namesOf, htext]
  rw [names_eq, hsplit, namesOf_append, hone] at hnames
  obtain ⟨hdir, hname⟩ := List.append_inj' hnames rfl
  have hdot : text ≠ ['.'] := by
    rintro rfl
    exact hlast (List.cons.inj hname).1.symm
  rw [parent?_of_split hsplit (not_or.2 ⟨htext, hdot⟩)] at h
  cases h
  have hfree : ∀ t ∈ init, '/' ∉ t := by
    intro t ht
    refine slash_not_mem_splitSlash path.toList t ?_
    rw [hsplit]
    exact List.mem_append_left _ ht
  obtain ⟨⟨tail, htail⟩, hdots⟩ := aboveOf_spec text hfree hne
  rw [← hsplit, joinSlash_splitSlash] at htail
  refine ⟨⟨String.ofList tail, ?_⟩, hdir ▸ hdots⟩
  rw [← String.toList_inj, htail, String.toList_append, String.toList_ofList]

/-! ## Paths with the same parts -/

/-- The names of a path are its parts, but for dots. -/
theorem filter_names (path : String) :
    (names path).filter (· != ".") = (parts path).filter (· != ".") := by
  have htwice : ∀ name : String,
      (name != "." && (name != "" && name != ".")) = (name != "." && name != "") := by
    intro name
    cases name != "." <;> simp
  unfold names parts
  cases (splitSlash path.toList).map String.ofList with
  | nil => rfl
  | cons first rest =>
      by_cases h : first = ""
      · simp [h, List.filter_filter, htwice]
      · simp [h, List.filter_filter, List.filter_cons, htwice]

end Path

namespace Disk

variable {d : Disk} {path above : String}

/-- Dots lead nowhere. -/
theorem follow_filter (here : Place) (names : List String) :
    follow here (names.filter (· != ".")) = follow here names := by
  induction names generalizing here with
  | nil => rfl
  | cons name rest ih =>
      by_cases hdot : name = "."
      · simp [follow, hdot, ih]
      · by_cases hdots : name = ".."
        · simp [follow, hdots, ih]
        · simp [follow, hdot, hdots, ih]

/-- Paths with the same parts mean the same place. -/
theorem place_of_same (d : Disk) {a b : String} (h : Path.same a b = true) :
    d.place a = d.place b := by
  simp only [Path.same, Bool.and_eq_true, beq_iff_eq] at h
  unfold place
  rw [h.1, ← follow_filter _ (Path.names a), ← follow_filter _ (Path.names b), Path.filter_names,
    Path.filter_names, h.2]

/-! ## The directory above -/

/-- Where dots lead from is a directory, if they lead to one. -/
theorem directory_of_dots {here q : Place} {dots : List String} (h : ∀ name ∈ dots, name = ".")
    (hwalk : d.walk here dots = .ok q) (hq : d.item? q = some .directory) :
    d.item? here = some .directory := by
  cases dots with
  | nil =>
      cases hwalk
      exact hq
  | cons name rest => exact (walk_cons_eq_ok.1 hwalk).1

theorem IsPath.of_append {tail : String} (h : IsPath (path ++ tail)) (hne : path ≠ "") :
    IsPath path := by
  refine ⟨fun hmem => h.nul ?_, hne, Nat.le_trans ?_ h.fits⟩
  · rw [String.toList_append]
    exact List.mem_append_left _ hmem
  · rw [String.utf8ByteSize_append]
    exact Nat.le_add_right _ _

/-- The path above a slot leads to a directory. -/
theorem Slot.isDirectory_above (h : d.Slot path) (habove : Path.parent? path = some above)
    (hne : above ≠ "") : d.isDirectory above = true := by
  obtain ⟨hpath, hslash, dir, last, hnames, hdot, -, -, q, hwalk, hq⟩ := h
  obtain ⟨⟨tail, rfl⟩, dots, hdots, rfl⟩ :=
    Path.parent?_spec hslash hpath.ne hnames hdot habove hne
  obtain ⟨r, hr, hrest⟩ := walk_append_eq_ok.1 hwalk
  rw [base, Path.isAbsolute_append hne] at hr
  unfold isDirectory
  rw [find_eq_ok.2 ⟨hpath.of_append hne, hr, directory_of_dots hdots hrest hq, fun h => absurd rfl h⟩]

end Disk

end Roster
