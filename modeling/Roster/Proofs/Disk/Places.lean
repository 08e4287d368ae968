import Roster.Disk

/-!
# Places that paths mean

The disk follows a path name by name, and fails where a name leads through no directory.  Where it
does not fail, the place that it comes to can be told from the names alone (`Disk.place`), since
there are no links.  So what a path means does not change while files come and go, and two paths can
be told to be apart before either of them leads anywhere.

`walk_eq`, `find_eq_ok` and `findLast_eq_ok` say that the disk comes to the place that the path means.

A text behind a path that leads to a file changes the last name only.  So the path and its
*siblings*, as `notes.json.tmp` is one of `notes.json`, mean places in one directory
(`names_append`).
-/

namespace Roster

namespace Path

/-! ## Siblings -/

/-- A text without slashes behind another lengthens the last of its parts, which is empty only if
the text is empty or ends in a slash. -/
theorem splitSlash_append (cs : List Char) :
    ∃ init last, splitSlash cs = init ++ [last]
      ∧ (∀ suffix, '/' ∉ suffix → splitSlash (cs ++ suffix) = init ++ [last ++ suffix])
      ∧ (last = [] → cs = [] ∨ cs.getLast? = some '/') := by
  induction cs with
  | nil =>
      refine ⟨[], [], rfl, fun suffix h => ?_, fun _ => Or.inl rfl⟩
      induction suffix with
      | nil => rfl
      | cons c suffix ih =>
          rw [List.mem_cons, not_or] at h
          have hs : splitSlash suffix = [suffix] := ih h.2
          simp [splitSlash, Ne.symm h.1, hs]
  | cons c cs ih =>
      obtain ⟨init, last, hcs, happend, hlast⟩ := ih
      by_cases hc : c = '/'
      · refine ⟨[] :: init, last, ?_, fun suffix h => ?_, fun he => ?_⟩
        · simp only [splitSlash, if_pos hc, hcs, List.cons_append]
        · simp only [List.cons_append, splitSlash, if_pos hc, happend suffix h]
        · right
          rcases hlast he with rfl | hslash
          · simp [hc]
          · simp [List.getLast?_cons, hslash]
      · cases init with
        | nil =>
            refine ⟨[], c :: last, ?_, fun suffix h => ?_,
              fun he => absurd he (List.cons_ne_nil c last)⟩
            · simp only [splitSlash, if_neg hc, hcs, List.nil_append]
            · simp only [List.cons_append, splitSlash, if_neg hc, happend suffix h,
                List.nil_append]
        | cons first init =>
            refine ⟨(c :: first) :: init, last, ?_, fun suffix h => ?_, fun he => ?_⟩
            · simp only [splitSlash, if_neg hc, hcs, List.cons_append]
            · simp only [List.cons_append, splitSlash, if_neg hc, happend suffix h]
            · right
              rcases hlast he with rfl | hslash
              · simp [splitSlash] at hcs
              · simp [List.getLast?_cons, hslash]

/-- A text behind a path that does not end in a slash lengthens the last name on it. -/
theorem names_append {path : String} (hne : path ≠ "") (hslash : endsInSlash path = false) :
    ∃ dir last, last ≠ "" ∧ names path = dir ++ [last]
      ∧ ∀ suffix : String, '/' ∉ suffix.toList →
          names (path ++ suffix) = dir ++ [last ++ suffix] := by
  obtain ⟨init, last, hsplit, happend, hempty⟩ := splitSlash_append path.toList
  have hlast : last ≠ [] := by
    intro he
    rcases hempty he with h | h
    · exact hne (String.toList_eq_nil_iff.1 h)
    · simp [endsInSlash, h] at hslash
  refine ⟨(init.map String.ofList).filter (· != ""), String.ofList last, ?_, ?_, fun suffix h => ?_⟩
  · simpa using hlast
  · simp [names, hsplit, hlast]
  · simp [names, happend suffix.toList h, hlast]

theorem isAbsolute_append {path : String} (hne : path ≠ "") (suffix : String) :
    isAbsolute (path ++ suffix) = isAbsolute path := by
  have hcs : path.toList ≠ [] := fun h => hne (String.toList_eq_nil_iff.1 h)
  obtain ⟨c, cs, hcs⟩ := List.exists_cons_of_ne_nil hcs
  simp [isAbsolute, hcs]

theorem splitSlash_append_slash (cs cs' : List Char) :
    splitSlash (cs ++ '/' :: cs') = splitSlash cs ++ splitSlash cs' := by
  induction cs with
  | nil => simp [splitSlash]
  | cons c cs ih =>
      by_cases hc : c = '/'
      · simp [splitSlash, hc, ih]
      · simp only [List.cons_append, splitSlash, if_neg hc, ih]
        obtain ⟨init, last, hsplit, -⟩ := splitSlash_append cs
        rw [hsplit]
        cases init <;> rfl

/-- A text behind nothing, or behind a slash, is a name of its own. -/
theorem names_append_of_slash {path suffix : String} (h : path = "" ∨ endsInSlash path = true)
    (hne : suffix ≠ "") (hs : '/' ∉ suffix.toList) :
    names (path ++ suffix) = names path ++ [suffix] := by
  obtain ⟨init, last, hsplit, happend, -⟩ := splitSlash_append []
  obtain ⟨rfl, rfl⟩ : init = [] ∧ last = [] := by
    cases init <;> simp_all [splitSlash]
  have hsuffix : splitSlash suffix.toList = [suffix.toList] := happend _ hs
  rcases h with rfl | h
  · simp [names, hsuffix, hne, splitSlash]
  · obtain ⟨cs, hcs⟩ := List.getLast?_eq_some_iff.1 (by simpa [endsInSlash] using h)
    have happended : (path ++ suffix).toList = cs ++ '/' :: suffix.toList := by
      rw [String.toList_append, hcs, List.append_assoc, List.singleton_append]
    rw [names, names, happended, hcs, splitSlash_append_slash, splitSlash_append_slash, hsuffix]
    simp [splitSlash, hne]

end Path

/-- Of steps that may fail, each succeeds if the whole does. -/
theorem bind_eq_ok {ε α β : Type} {x : Except ε α} {f : α → Except ε β} {b : β} :
    (x >>= f) = .ok b ↔ ∃ a, x = .ok a ∧ f a = .ok b := by
  cases x with
  | error fault => exact ⟨nofun, nofun⟩
  | ok a => exact ⟨fun h => ⟨a, rfl, h⟩, fun ⟨_, ha, hb⟩ => by cases ha; exact hb⟩

namespace Disk

/-! ## Places -/

/-- Where names lead from a place, if they lead through directories. -/
def follow : Place → List String → Place
  | here, [] => here
  | here, name :: rest =>
      if name = "." then follow here rest
      else if name = ".." then follow here.dropLast rest
      else follow (here ++ [name]) rest

/-- The place that a path means. -/
def place (d : Disk) (path : String) : Place :=
  follow (if Path.isAbsolute path then [] else d.cwd) (Path.names path)

theorem follow_append (here : Place) (names names' : List String) :
    follow here (names ++ names') = follow (follow here names) names' := by
  induction names generalizing here with
  | nil => rfl
  | cons name rest ih =>
      simp only [List.cons_append, follow]
      split
      · exact ih here
      · split
        · exact ih here.dropLast
        · exact ih (here ++ [name])

theorem follow_name (here : Place) {name : String} (h : name ≠ "." ∧ name ≠ "..") :
    follow here [name] = here ++ [name] := by
  simp [follow, h.1, h.2]

/-! ## The way to a place -/

theorem below_eq_ok {dir p : Place} {name : String} :
    below dir name = .ok p ↔ name.utf8ByteSize ≤ maxNameBytes ∧ p = dir ++ [name] := by
  unfold below
  split
  next hlt => exact ⟨nofun, fun h => absurd hlt (Nat.not_lt_of_le h.1)⟩
  next hle =>
    simp only [Except.ok.injEq]
    exact ⟨fun h => ⟨Nat.le_of_not_lt hle, h.symm⟩, fun h => h.2.symm⟩

theorem inside_eq_ok {d : Disk} {p : Place} {u : Unit} :
    d.inside p = .ok u ↔ d.item? p = some .directory := by
  unfold inside
  split <;> simp_all

/-- A step of the walk goes from a directory to where the name leads. -/
theorem walk_cons_eq_ok {d : Disk} {here p : Place} {name : String} {rest : List String} :
    d.walk here (name :: rest) = .ok p ↔
      d.item? here = some .directory
      ∧ (name ≠ "." ∧ name ≠ ".." → name.utf8ByteSize ≤ maxNameBytes)
      ∧ d.walk (follow here [name]) rest = .ok p := by
  rw [walk, bind_eq_ok]
  by_cases hdot : name = "."
  · simp [hdot, inside_eq_ok, follow]
  · by_cases hdots : name = ".."
    · simp [hdots, inside_eq_ok, follow]
    · simp only [hdot, hdots, if_false, bind_eq_ok, inside_eq_ok, below_eq_ok, follow, ne_eq,
        not_false_eq_true, and_self, forall_const]
      constructor
      · rintro ⟨_, hdir, _, ⟨hfits, rfl⟩, hrest⟩
        exact ⟨hdir, hfits, hrest⟩
      · rintro ⟨hdir, hfits, hrest⟩
        exact ⟨(), hdir, _, ⟨hfits, rfl⟩, hrest⟩

theorem walk_append_eq_ok {d : Disk} {here p : Place} {names names' : List String} :
    d.walk here (names ++ names') = .ok p ↔
      ∃ q, d.walk here names = .ok q ∧ d.walk q names' = .ok p := by
  induction names generalizing here with
  | nil => simp [walk]
  | cons name rest ih =>
      rw [List.cons_append, walk_cons_eq_ok, ih]
      simp only [walk_cons_eq_ok]
      constructor
      · rintro ⟨hdir, hfits, q, hq, hp⟩
        exact ⟨q, ⟨hdir, hfits, hq⟩, hp⟩
      · rintro ⟨q, ⟨hdir, hfits, hq⟩, hp⟩
        exact ⟨hdir, hfits, q, hq, hp⟩

/-- The disk comes to where the names lead. -/
theorem walk_eq {d : Disk} {here p : Place} {names : List String}
    (h : d.walk here names = .ok p) : p = follow here names := by
  induction names generalizing here with
  | nil =>
      cases h
      rfl
  | cons name rest ih =>
      obtain ⟨-, -, hrest⟩ := walk_cons_eq_ok.1 h
      rw [ih hrest, ← follow_append, List.singleton_append]

/-- Where a path starts. -/
def base (d : Disk) (path : String) : Place := if Path.isAbsolute path then [] else d.cwd

/-- The text may be that of a path. -/
structure IsPath (path : String) : Prop where
  /-- It holds no NUL. -/
  nul : '\x00' ∉ path.toList
  /-- It is not empty. -/
  ne : path ≠ ""
  /-- It is not too long. -/
  fits : path.utf8ByteSize ≤ maxPathBytes

theorem start_eq_ok {d : Disk} {path : String} {p : Place} :
    d.start path = .ok p ↔ IsPath path ∧ p = d.base path := by
  unfold start base
  split
  next h =>
    refine ⟨nofun, fun hp => absurd hp.1.nul ?_⟩
    simpa using h
  next hnul =>
    split
    next h => exact ⟨nofun, fun hp => absurd h hp.1.ne⟩
    next hne =>
      split
      next h => exact ⟨nofun, fun hp => absurd h (Nat.not_lt_of_le hp.1.fits)⟩
      next hfits =>
        simp only [Except.ok.injEq]
        exact ⟨fun h => ⟨⟨by simpa using hnul, hne, Nat.le_of_not_lt hfits⟩, h.symm⟩,
          fun h => h.2.symm⟩

/-- What the disk finds stands at the place that the path means. -/
theorem find_eq_ok {d : Disk} {path : String} {p : Place} {item : Item} :
    d.find path = .ok (p, item) ↔
      IsPath path ∧ d.walk (d.base path) (Path.names path) = .ok p ∧ d.item? p = some item
      ∧ (item ≠ .directory → Path.endsInSlash path = false) := by
  unfold find
  simp only [bind_eq_ok, start_eq_ok]
  constructor
  · rintro ⟨_, ⟨hpath, rfl⟩, q, hwalk, hitem⟩
    split at hitem
    next => cases hitem
    next f hf =>
      split at hitem
      next => cases hitem
      next hslash =>
        cases hitem
        exact ⟨hpath, hwalk, hf, fun _ => Bool.eq_false_iff.2 hslash⟩
    next hd =>
      cases hitem
      exact ⟨hpath, hwalk, hd, fun h => absurd rfl h⟩
  · rintro ⟨hpath, hwalk, hitem, hslash⟩
    refine ⟨_, ⟨hpath, rfl⟩, p, hwalk, ?_⟩
    rw [hitem]
    cases item with
    | directory => rfl
    | file f => simp [hslash Item.noConfusion]

/-- What is read stands at the place that the path means. -/
theorem read_eq_ok {d : Disk} {path text : String} :
    d.read path = .ok text ↔
      IsPath path ∧ d.walk (d.base path) (Path.names path) = .ok (d.place path)
      ∧ d.item? (d.place path) = some (.file (.text text)) ∧ Path.endsInSlash path = false := by
  unfold read
  rw [bind_eq_ok]
  constructor
  · rintro ⟨⟨p, item⟩, hfind, hitem⟩
    obtain ⟨hpath, hwalk, hp, hslash⟩ := find_eq_ok.1 hfind
    have hplace : p = d.place path := walk_eq hwalk
    subst hplace
    cases item with
    | directory => cases hitem
    | file f =>
        cases f with
        | bytes b => cases hitem
        | text t =>
            cases hitem
            exact ⟨hpath, hwalk, hp, hslash Item.noConfusion⟩
  · rintro ⟨hpath, hwalk, hitem, hslash⟩
    exact ⟨(d.place path, .file (.text text)),
      find_eq_ok.2 ⟨hpath, hwalk, hitem, fun _ => hslash⟩, rfl⟩

/-! ## Slots -/

/-- A path whose last name is one and fits, in a directory that is there.  A file can stand at such
a path, unless a directory does. -/
structure Slot (d : Disk) (path : String) : Prop where
  /-- It is a path. -/
  isPath : IsPath path
  /-- It does not end in a slash. -/
  slash : Path.endsInSlash path = false
  /-- The names before the last lead to a directory. -/
  leads : ∃ dir last, Path.names path = dir ++ [last] ∧ last ≠ "." ∧ last ≠ ".."
    ∧ last.utf8ByteSize ≤ maxNameBytes
    ∧ ∃ q, d.walk (d.base path) dir = .ok q ∧ d.item? q = some .directory

/-- Where the last name of a path is one, the disk finds its directory. -/
theorem findLast_eq_ok {d : Disk} {path name : String} {q : Place} :
    d.findLast path = .ok (q, some name) ↔
      IsPath path ∧ ∃ dir, Path.names path = dir ++ [name] ∧ name ≠ "." ∧ name ≠ ".."
        ∧ d.walk (d.base path) dir = .ok q ∧ d.item? q = some .directory := by
  unfold findLast
  simp only [bind_eq_ok, start_eq_ok]
  rcases List.eq_nil_or_concat (Path.names path) with hnil | ⟨dir, last, hnames⟩
  · simp [hnil]
  · simp only [List.concat_eq_append] at hnames
    simp only [hnames, List.getLast?_concat, List.dropLast_concat, bind_eq_ok, inside_eq_ok]
    constructor
    · rintro ⟨_, ⟨hpath, rfl⟩, r, hwalk, _, hdir, hlast⟩
      split at hlast
      next => cases hlast
      next hdots =>
        cases hlast
        rw [not_or] at hdots
        exact ⟨hpath, dir, rfl, hdots.1, hdots.2, hwalk, hdir⟩
    · rintro ⟨hpath, dir', heq, hdot, hdots, hwalk, hdir⟩
      obtain ⟨rfl, hname⟩ := List.append_inj' heq rfl
      cases hname
      exact ⟨_, ⟨hpath, rfl⟩, q, hwalk, (), hdir, by simp [hdot, hdots]⟩

/-- The place of a path is in the directory that the names before the last lead to. -/
theorem place_eq_of_walk {d : Disk} {path name : String} {dir : List String} {q : Place}
    (hnames : Path.names path = dir ++ [name]) (hname : name ≠ "." ∧ name ≠ "..")
    (hwalk : d.walk (d.base path) dir = .ok q) : d.place path = q ++ [name] := by
  rw [walk_eq hwalk, place, hnames, follow_append, follow_name _ hname, base]

theorem place_of_below {d : Disk} {path name : String} {q p : Place}
    (hlast : d.findLast path = .ok (q, some name)) (hp : below q name = .ok p) :
    p = d.place path := by
  obtain ⟨-, dir, hnames, hdot, hdots, hwalk, -⟩ := findLast_eq_ok.1 hlast
  rw [(below_eq_ok.1 hp).2, place_eq_of_walk hnames ⟨hdot, hdots⟩ hwalk]

/-- A slot is where the disk finds the directory of the last name, and the name fits. -/
theorem slot_iff {d : Disk} {path : String} :
    d.Slot path ↔ Path.endsInSlash path = false
      ∧ ∃ q name, d.findLast path = .ok (q, some name) ∧ below q name = .ok (d.place path) := by
  constructor
  · rintro ⟨hpath, hslash, dir, last, hnames, hdot, hdots, hfits, q, hwalk, hdir⟩
    exact ⟨hslash, q, last, findLast_eq_ok.2 ⟨hpath, dir, hnames, hdot, hdots, hwalk, hdir⟩,
      below_eq_ok.2 ⟨hfits, place_eq_of_walk hnames ⟨hdot, hdots⟩ hwalk⟩⟩
  · rintro ⟨hslash, q, name, hlast, hbelow⟩
    obtain ⟨hpath, dir, hnames, hdot, hdots, hwalk, hdir⟩ := findLast_eq_ok.1 hlast
    exact ⟨hpath, hslash, dir, name, hnames, hdot, hdots, (below_eq_ok.1 hbelow).1, q, hwalk, hdir⟩

/-- The disk follows a path with a slot to its place. -/
theorem Slot.walk {d : Disk} {path : String} (h : d.Slot path) :
    d.walk (d.base path) (Path.names path) = .ok (d.place path) := by
  obtain ⟨-, -, dir, last, hnames, hdot, hdots, hfits, q, hwalk, hdir⟩ := h
  rw [place_eq_of_walk hnames ⟨hdot, hdots⟩ hwalk, hnames, walk_append_eq_ok]
  refine ⟨q, hwalk, walk_cons_eq_ok.2 ⟨hdir, fun _ => hfits, ?_⟩⟩
  rw [follow_name _ ⟨hdot, hdots⟩]
  rfl

/-- What is read at a slot is what stands at its place. -/
theorem Slot.read_eq_ok {d : Disk} {path text : String} (h : d.Slot path) :
    d.read path = .ok text ↔ d.item? (d.place path) = some (.file (.text text)) := by
  rw [Disk.read_eq_ok]
  exact ⟨fun hr => hr.2.2.1, fun hi => ⟨h.isPath, h.walk, hi, h.slash⟩⟩

/-- A file at a path whose last name is one has a slot. -/
theorem slot_of_read {d : Disk} {path text last : String}
    {names : List String} (hread : d.read path = .ok text)
    (hnames : Path.names path = names ++ [last]) (hlast : last ≠ "." ∧ last ≠ "..") :
    d.Slot path := by
  obtain ⟨hpath, hwalk, -, hslash⟩ := Disk.read_eq_ok.1 hread
  rw [hnames, walk_append_eq_ok] at hwalk
  obtain ⟨q, hq, hstep⟩ := hwalk
  obtain ⟨hdir, hfits, -⟩ := walk_cons_eq_ok.1 hstep
  exact ⟨hpath, hslash, names, last, hnames, hlast.1, hlast.2, hfits hlast, q, hq, hdir⟩

/-! ## Places of siblings -/

theorem follow_long (here : Place) {name : String} (h : 2 < name.length) :
    follow here [name] = here ++ [name] := by
  refine follow_name here ⟨?_, ?_⟩ <;> rintro rfl <;> exact absurd h (by decide)

/-- A path and its siblings mean places in one directory. -/
theorem place_append (d : Disk) {path : String} (hne : path ≠ "")
    (hslash : Path.endsInSlash path = false) :
    ∃ here last, d.place path = follow here [last]
      ∧ ∀ suffix : String, '/' ∉ suffix.toList → 2 < suffix.length →
          d.place (path ++ suffix) = here ++ [last ++ suffix] := by
  obtain ⟨dir, last, -, hnames, happend⟩ := Path.names_append hne hslash
  refine ⟨follow (d.base path) dir, last, ?_, fun suffix hs hlen => ?_⟩
  · rw [place, hnames, follow_append, base]
  · have hlong : 2 < (last ++ suffix).length := by
      rw [String.length_append]
      omega
    rw [place, happend suffix hs, follow_append, follow_long _ hlong,
      Path.isAbsolute_append hne suffix, base]

/-- A path and its sibling mean different places. -/
theorem place_ne_append (d : Disk) {path suffix : String} (hs : '/' ∉ suffix.toList)
    (hlen : 2 < suffix.length) : d.place path ≠ d.place (path ++ suffix) := by
  by_cases hpath : path = "" ∨ Path.endsInSlash path = true
  · -- the sibling is in the directory that the path means
    have hne : suffix ≠ "" := by
      rintro rfl
      exact absurd hlen (by decide)
    have hbase : Path.isAbsolute (path ++ suffix) = Path.isAbsolute path := by
      by_cases hempty : path = ""
      · subst hempty
        have hhead : suffix.toList.head? ≠ some '/' := fun h => hs (List.mem_of_mem_head? h)
        simpa [Path.isAbsolute] using hhead
      · exact Path.isAbsolute_append hempty suffix
    rw [place, place, Path.names_append_of_slash hpath hne hs, hbase, follow_append,
      follow_long _ hlen]
    exact fun heq => absurd (congrArg List.length heq) (by simp)
  · obtain ⟨hne, hslash⟩ := not_or.1 hpath
    obtain ⟨here, last, hplace, happend⟩ := place_append d hne (Bool.eq_false_iff.2 hslash)
    rw [hplace, happend suffix hs hlen]
    intro heq
    have hlength := congrArg List.length heq
    by_cases hdot : last = "."
    · simp [follow, hdot] at hlength
    · by_cases hdots : last = ".."
      · simp [follow, hdots] at hlength
      · rw [follow_name here ⟨hdot, hdots⟩] at heq
        have hname : last = last ++ suffix := by simpa using heq
        have := congrArg String.length hname
        rw [String.length_append] at this
        omega

/-- Two siblings of a path mean different places. -/
theorem place_append_ne_append (d : Disk) {path suffix suffix' : String} (hne : path ≠ "")
    (hslash : Path.endsInSlash path = false) (hs : '/' ∉ suffix.toList) (hlen : 2 < suffix.length)
    (hs' : '/' ∉ suffix'.toList) (hlen' : 2 < suffix'.length) (hdiff : suffix ≠ suffix') :
    d.place (path ++ suffix) ≠ d.place (path ++ suffix') := by
  obtain ⟨here, last, -, happend⟩ := place_append d hne hslash
  rw [happend suffix hs hlen, happend suffix' hs' hlen']
  intro heq
  have hname : last ++ suffix = last ++ suffix' := by simpa using heq
  have hlists := congrArg String.toList hname
  rw [String.toList_append, String.toList_append, List.append_cancel_left_eq] at hlists
  exact hdiff (String.toList_inj.1 hlists)

/-- Where a path has a slot, its sibling has one, if the name of the sibling is not too long. -/
theorem Slot.sibling {d d' : Disk} {path suffix : String} (h : d.Slot path)
    (hs : '/' ∉ suffix.toList) (h' : d'.Slot (path ++ suffix)) : d.Slot (path ++ suffix) := by
  obtain ⟨hpath, hslash, dir, last, hnames, -, -, -, q, hwalk, hdir⟩ := h
  obtain ⟨dir₁, last₁, -, hnames₁, happend⟩ := Path.names_append hpath.ne hslash
  obtain ⟨hpath', hslash', dir₂, last₂, hnames₂, hdot, hdots, hfits, -⟩ := h'
  obtain ⟨rfl, -⟩ := List.append_inj' (hnames.symm.trans hnames₁) rfl
  obtain ⟨rfl, -⟩ := List.append_inj' (hnames₂.symm.trans (happend suffix hs)) rfl
  refine ⟨hpath', hslash', dir₂, last₂, hnames₂, hdot, hdots, hfits, q, ?_, hdir⟩
  rw [base, Path.isAbsolute_append hpath.ne suffix]
  exact hwalk

/-- A text at the sibling of a path that has a slot is at a slot of its own. -/
theorem Slot.sibling_of_read {d d' : Disk} {path suffix text : String} (h : d.Slot path)
    (hs : '/' ∉ suffix.toList) (hlen : 2 < suffix.length)
    (hread : d'.read (path ++ suffix) = .ok text) : d.Slot (path ++ suffix) := by
  obtain ⟨dir, last, -, -, happend⟩ := Path.names_append h.isPath.ne h.slash
  have hlong : 2 < (last ++ suffix).length := by
    rw [String.length_append]
    omega
  refine h.sibling hs (slot_of_read hread (happend suffix hs) ⟨?_, ?_⟩) <;>
    intro heq <;> exact absurd (heq ▸ hlong) (by decide)

/-- A path with a text has a slot where it has one on another disk. -/
theorem Slot.of_read {d d' : Disk} {path text : String} (h : d'.Slot path)
    (hread : d.read path = .ok text) : d.Slot path := by
  obtain ⟨-, -, dir, last, hnames, hdot, hdots, -⟩ := h
  exact slot_of_read hread hnames ⟨hdot, hdots⟩

end Disk

end Roster
