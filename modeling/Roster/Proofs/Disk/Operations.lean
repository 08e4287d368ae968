import Roster.Proofs.Disk.Places

/-!
# What operations change

An operation writes files at few places, which its paths tell (`FileOp.places`), and makes
directories where there is nothing.  So directories stay, and so do the files at all other places,
whatever becomes of the operation.  `Changes` says this of two disks, and `writeFile_changes` and
`moveFile_changes` show it for files.

Since directories stay, a path leads where it led before, and a text that no operation writes over
can be read as before (`Changes.read`).
-/

namespace Roster.Disk

/-! ## Disks that differ in few files -/

/-- The second disk is the first after operations that write files at the given places only. -/
structure Changes (d d' : Disk) (places : List Place) : Prop where
  /-- Relative paths start at the same directory. -/
  cwd : d'.cwd = d.cwd
  /-- Directories stay. -/
  directory : ∀ p, d.item? p = some .directory → d'.item? p = some .directory
  /-- Files at other places stay. -/
  file : ∀ p ∉ places, ∀ f, d.item? p = some (.file f) → d'.item? p = some (.file f)

namespace Changes

variable {d d' d'' : Disk} {places places' : List Place} {path text : String}

theorem refl (d : Disk) (places : List Place) : d.Changes d places :=
  ⟨rfl, fun _ h => h, fun _ _ _ h => h⟩

theorem trans (h : d.Changes d' places) (h' : d'.Changes d'' places) : d.Changes d'' places :=
  ⟨h'.cwd.trans h.cwd, fun p hp => h'.directory p (h.directory p hp),
    fun p hp f hf => h'.file p hp f (h.file p hp f hf)⟩

theorem mono (h : d.Changes d' places) (hsub : places ⊆ places') : d.Changes d' places' :=
  ⟨h.cwd, h.directory, fun p hp => h.file p fun hmem => hp (hsub hmem)⟩

theorem base (h : d.Changes d' places) : d'.base path = d.base path := by
  simp only [Disk.base, h.cwd]

/-- A path means the same place. -/
theorem place (h : d.Changes d' places) : d'.place path = d.place path := by
  simp only [Disk.place, h.cwd]

theorem walk (h : d.Changes d' places) {here p : Place} {names : List String}
    (hwalk : d.walk here names = .ok p) : d'.walk here names = .ok p := by
  induction names generalizing here with
  | nil => exact hwalk
  | cons name rest ih =>
      obtain ⟨hdir, hfits, hrest⟩ := walk_cons_eq_ok.1 hwalk
      exact walk_cons_eq_ok.2 ⟨h.directory _ hdir, hfits, ih hrest⟩

theorem slot (h : d.Changes d' places) (hslot : d.Slot path) : d'.Slot path := by
  obtain ⟨hpath, hslash, dir, last, hnames, hdot, hdots, hfits, q, hwalk, hdir⟩ := hslot
  exact ⟨hpath, hslash, dir, last, hnames, hdot, hdots, hfits, q, h.base ▸ h.walk hwalk,
    h.directory q hdir⟩

/-- A text at a place that is not written can be read as before. -/
theorem read (h : d.Changes d' places) (hplace : d.place path ∉ places)
    (hread : d.read path = .ok text) : d'.read path = .ok text := by
  obtain ⟨hpath, hwalk, hitem, hslash⟩ := read_eq_ok.1 hread
  refine read_eq_ok.2 ⟨hpath, ?_, ?_, hslash⟩
  · rw [h.base, h.place]
    exact h.walk hwalk
  · rw [h.place]
    exact h.file _ hplace _ hitem

end Changes

/-! ## Files -/

theorem item?_put {d : Disk} {p q : Place} {item : Item} (hp : p ≠ []) :
    (d.put p item).item? q = if q = p then some item else d.item? q := by
  unfold item? put
  by_cases hq : q = []
  · simp [hq, hp.symm]
  · simp [hq, Table.get?_insert]

/-- No directory means not the root. -/
theorem ne_root {d : Disk} {p : Place} (h : d.item? p ≠ some .directory) : p ≠ [] := by
  rintro rfl
  exact h rfl

theorem put_changes {d : Disk} {p : Place} {f : File} (h : d.item? p ≠ some .directory) :
    d.Changes (d.put p (.file f)) [p] := by
  refine ⟨rfl, fun q hq => ?_, fun q hq g hg => ?_⟩
  · rw [item?_put (ne_root h), if_neg ?_, hq]
    rintro rfl
    exact h hq
  · rw [item?_put (ne_root h), if_neg (fun he => hq (List.mem_singleton.2 he)), hg]

/-- A file is written where a slot is and no directory stands. -/
theorem writeFile_eq_ok {d d' : Disk} {path : String} {f : File} :
    d.writeFile path f = .ok d' ↔
      d.Slot path ∧ d.item? (d.place path) ≠ some .directory
        ∧ d' = d.put (d.place path) (.file f) := by
  unfold writeFile
  rw [bind_eq_ok, slot_iff]
  constructor
  · rintro ⟨⟨q, last⟩, hlast, hwrite⟩
    cases last with
    | none => cases hwrite
    | some name =>
        simp only at hwrite
        split at hwrite
        next => cases hwrite
        next hslash =>
          obtain ⟨p, hp, hput⟩ := bind_eq_ok.1 hwrite
          cases place_of_below hlast hp
          split at hput
          next => cases hput
          next hdir =>
            cases hput
            exact ⟨⟨Bool.eq_false_iff.2 hslash, q, name, hlast, hp⟩, hdir, rfl⟩
  · rintro ⟨⟨hslash, q, name, hlast, hp⟩, hdir, rfl⟩
    refine ⟨_, hlast, ?_⟩
    simp only [hslash, Bool.false_eq_true, if_false]
    refine bind_eq_ok.2 ⟨_, hp, ?_⟩
    split
    next h => exact absurd h hdir
    next => rfl

theorem writeFile_changes {d d' : Disk} {path : String} {f : File}
    (h : d.writeFile path f = .ok d') : d.Changes d' [d.place path] := by
  obtain ⟨-, hdir, rfl⟩ := writeFile_eq_ok.1 h
  exact put_changes hdir

/-- The disk without a file. -/
def without (d : Disk) (p : Place) : Disk := { d with items := d.items.erase p }

theorem item?_without {d : Disk} {p q : Place} (hp : p ≠ []) :
    (d.without p).item? q = if q = p then none else d.item? q := by
  unfold item? without
  by_cases hq : q = []
  · simp [hq, hp.symm]
  · simp [hq, Table.get?_erase, eq_comm (a := p)]

/-- A file is moved between slots, if no directory stands at the second. -/
theorem moveFile_eq_ok {d d' : Disk} {source target : String} :
    d.moveFile source target = .ok d' ↔
      d.Slot source ∧ d.Slot target ∧ d.item? (d.place target) ≠ some .directory
        ∧ ∃ f, d.item? (d.place source) = some (.file f)
          ∧ d' = (d.without (d.place source)).put (d.place target) (.file f) := by
  unfold moveFile
  simp only [bind_eq_ok, slot_iff]
  constructor
  · rintro ⟨⟨q, last⟩, hlast, ⟨q', last'⟩, hlast', hmove⟩
    cases last with
    | none => cases hmove
    | some name =>
        cases last' with
        | none => cases hmove
        | some name' =>
            obtain ⟨p, hp, hmove⟩ := bind_eq_ok.1 hmove
            cases place_of_below hlast hp
            split at hmove
            next => cases hmove
            next => cases hmove
            next f hf =>
              obtain ⟨p', hp', hmove⟩ := bind_eq_ok.1 hmove
              cases place_of_below hlast' hp'
              split at hmove
              next => cases hmove
              next hslash =>
                obtain ⟨hs, ht⟩ : Path.endsInSlash source = false
                    ∧ Path.endsInSlash target = false := by simpa using hslash
                split at hmove
                next => cases hmove
                next hdir =>
                  cases hmove
                  exact ⟨⟨hs, q, name, hlast, hp⟩, ⟨ht, q', name', hlast', hp'⟩, hdir, f, hf, rfl⟩
  · rintro ⟨⟨hs, q, name, hlast, hp⟩, ⟨ht, q', name', hlast', hp'⟩, hdir, f, hf, rfl⟩
    refine ⟨_, hlast, _, hlast', bind_eq_ok.2 ⟨_, hp, ?_⟩⟩
    simp only [hf]
    refine bind_eq_ok.2 ⟨_, hp', ?_⟩
    simp only [hs, ht, Bool.or_self, Bool.false_eq_true, if_false]
    rfl

/-- What stands where after a file was moved. -/
theorem item?_of_moveFile {d d' : Disk} {source target : String}
    (h : d.moveFile source target = .ok d') :
    ∃ f, d.item? (d.place source) = some (.file f)
      ∧ ∀ p, d'.item? p = if p = d.place target then some (.file f)
        else if p = d.place source then none else d.item? p := by
  obtain ⟨-, -, hdir, f, hf, rfl⟩ := moveFile_eq_ok.1 h
  have hsource : d.place source ≠ [] := ne_root (by rw [hf]; exact nofun)
  refine ⟨f, hf, fun p => ?_⟩
  rw [item?_put (ne_root hdir), item?_without hsource]

theorem moveFile_changes {d d' : Disk} {source target : String}
    (h : d.moveFile source target = .ok d') :
    d.Changes d' [d.place source, d.place target] := by
  obtain ⟨f, hf, hitem⟩ := item?_of_moveFile h
  obtain ⟨-, -, hdir, g, -, rfl⟩ := moveFile_eq_ok.1 h
  refine ⟨rfl, fun p hp => ?_, fun p hp g hg => ?_⟩
  · have htarget : p ≠ d.place target := fun he => hdir (by rw [← he, hp])
    have hsource : p ≠ d.place source := fun he => by
      rw [he, hf] at hp
      cases hp
    rw [hitem, if_neg htarget, if_neg hsource, hp]
  · simp only [List.mem_cons, List.not_mem_nil, or_false, not_or] at hp
    rw [hitem, if_neg hp.2, if_neg hp.1, hg]

/-- Moving a file makes no directory. -/
theorem directory_of_moveFile {d d' : Disk} {source target : String} {p : Place}
    (h : d.moveFile source target = .ok d') (hdir : d'.item? p = some .directory) :
    d.item? p = some .directory := by
  obtain ⟨f, -, hitem⟩ := item?_of_moveFile h
  rw [hitem] at hdir
  split at hdir
  next => cases hdir
  next =>
    split at hdir
    next => cases hdir
    next => exact hdir

/-! ## Operations -/

/-- The places at which an operation may write a file or take one away. -/
def FileOp.places (d : Disk) : FileOp → List Place
  | .makeDirs _ => []
  | .write path _ => [d.place path]
  | .rename source target => [d.place source, d.place target]

theorem FileOp.places_of_changes {d d' : Disk} {places : List Place} (h : d.Changes d' places)
    (op : FileOp) : op.places d' = op.places d := by
  cases op <;> simp only [FileOp.places, h.place]

/-- An operation that does not fail was granted. -/
theorem attempt_eq_none {d d' : Disk} {fate : Fate} {op : FileOp}
    (h : d.attempt fate op = (none, d')) : d.apply op = (none, d') := by
  cases fate with
  | granted => exact h
  | refused fault => cases h
  | torn fault left =>
      cases op with
      | makeDirs path => cases h
      | rename source target => cases h
      | write path text =>
          simp only [attempt] at h
          split at h <;> cases h

theorem outcome_eq_none {d d' : Disk} {result : Except DiskFault Disk}
    (h : d.outcome result = (none, d')) : result = .ok d' := by
  cases result with
  | error fault => cases h
  | ok d'' =>
      cases h
      rfl

theorem outcome_eq_some {d d' : Disk} {result : Except DiskFault Disk} {fault : DiskFault}
    (h : d.outcome result = (some fault, d')) : d' = d := by
  cases result with
  | error fault =>
      cases h
      rfl
  | ok d'' => cases h

end Roster.Disk
