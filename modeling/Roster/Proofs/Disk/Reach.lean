import Mathlib.Logic.Relation
import Roster.Proofs.Disk.Operations

/-!
# How far operations reach

`Changes` leaves open what comes to stand where there was nothing.  Here this is said too: a disk
*reaches* another if files are written at few places only, and directories are made only on given
ways, where nothing stood (`Reaches`).

An operation may also be broken off.  Then the disk is left partway: of the directories to be made
some are there, a file that was to be written holds anything, and a file that was to be moved is
where it was (`Partway`).  Operations one after the other *come out* with a fault or without
(`AllComeOut`), and every disk on the way is *amid* them (`Amid`).  What is done by `attempt` and
`attemptAll` is one of the courses that this allows (`attemptAll_comesOut`).

`Amid.reaches` says how far several operations reach, wherever they are broken off.  For whole
attempts `attempt_changes` and `attemptAll_changes` follow from it.
-/

namespace Roster.Disk

variable {d d' d'' : Disk} {places places' ways ways' : List Place} {path : String}

/-! ## Reaching -/

/-- Files are written at the places only, and directories made only on the ways. -/
structure Reaches (d d' : Disk) (places ways : List Place) : Prop
    extends Changes d d' places where
  /-- Where nothing stood, there is nothing or a directory that was made. -/
  made : ∀ p ∉ places, d.item? p = none →
    d'.item? p = none ∨ p ∈ ways ∧ d'.item? p = some .directory

/-- What stood at the place still stands there, but a directory may be made where there was
nothing. -/
def Kept (d d' : Disk) (ways : List Place) (p : Place) : Prop :=
  d'.item? p = d.item? p ∨ d.item? p = none ∧ p ∈ ways ∧ d'.item? p = some .directory

namespace Reaches

theorem refl (d : Disk) (places ways : List Place) : d.Reaches d places ways :=
  ⟨.refl d places, fun _ _ h => .inl h⟩

theorem trans (h : d.Reaches d' places ways) (h' : d'.Reaches d'' places ways) :
    d.Reaches d'' places ways := by
  refine ⟨h.toChanges.trans h'.toChanges, fun p hp hnone => ?_⟩
  rcases h.made p hp hnone with hnone' | ⟨hway, hdir⟩
  · exact h'.made p hp hnone'
  · exact .inr ⟨hway, h'.directory p hdir⟩

theorem mono (h : d.Reaches d' places ways) (hplaces : places ⊆ places') (hways : ways ⊆ ways') :
    d.Reaches d' places' ways' :=
  ⟨h.toChanges.mono hplaces, fun p hp hnone =>
    (h.made p (fun hmem => hp (hplaces hmem)) hnone).imp_right fun hmade =>
      ⟨hways hmade.1, hmade.2⟩⟩

theorem kept (h : d.Reaches d' places ways) {p : Place} (hp : p ∉ places) : d.Kept d' ways p := by
  cases hitem : d.item? p with
  | none => exact (h.made p hp hitem).imp (·.trans hitem.symm) fun hmade => ⟨hitem, hmade⟩
  | some item =>
      cases item with
      | directory => exact .inl ((h.directory p hitem).trans hitem.symm)
      | file f => exact .inl ((h.file p hp f hitem).trans hitem.symm)

/-- Off the ways everything stays. -/
theorem item (h : d.Reaches d' places ways) {p : Place} (hp : p ∉ places) (hway : p ∉ ways) :
    d'.item? p = d.item? p :=
  (h.kept hp).resolve_right fun hmade => hway hmade.2.1

end Reaches

theorem Kept.trans {p : Place} (h : d.Kept d' ways p) (h' : d'.Kept d'' ways p) :
    d.Kept d'' ways p := by
  rcases h with h | ⟨hnone, hway, hdir⟩
  · exact h'.imp (·.trans h) fun ⟨hnone, hmade⟩ => ⟨h ▸ hnone, hmade⟩
  · rcases h' with h' | ⟨hnone', -, -⟩
    · exact .inr ⟨hnone, hway, h'.trans hdir⟩
    · rw [hdir] at hnone'
      cases hnone'

theorem Kept.mono {p : Place} (h : d.Kept d' ways p) (hways : ways ⊆ ways') : d.Kept d' ways' p :=
  h.imp_right fun ⟨hnone, hway, hdir⟩ => ⟨hnone, hways hway, hdir⟩

/-- At the place is what was there, perhaps a new directory, or the whole of the text. -/
def Whole (d d' : Disk) (ways : List Place) (p : Place) (text : String) : Prop :=
  d.Kept d' ways p ∨ d'.item? p = some (.file (.text text))

theorem Whole.trans {p : Place} {text : String} (h : d.Whole d' ways p text)
    (h' : d'.Kept d'' ways p) : d.Whole d'' ways p text := by
  rcases h with h | htext
  · exact .inl (h.trans h')
  · rcases h' with h' | ⟨hnone, -, -⟩
    · exact .inr (h'.trans htext)
    · rw [htext] at hnone
      cases hnone

theorem Whole.mono {p : Place} {text : String} (h : d.Whole d' ways p text) (hways : ways ⊆ ways') :
    d.Whole d' ways' p text :=
  h.imp_left (·.mono hways)

theorem Kept.whole {p : Place} {text : String} (h : d.Kept d' ways p)
    (h' : d'.Whole d'' ways p text) : d.Whole d'' ways p text :=
  h'.imp_left h.trans

/-! ## Directories -/

/-- The places of a path and of those above it. -/
def wayUp (d : Disk) (path : String) : List Place := (Path.ancestors path).map d.place

/-- Some of the directories are made, one at a time. -/
def Making (paths : List String) : Disk → Disk → Prop :=
  Relation.ReflTransGen fun d d' => ∃ path ∈ paths, d.makeDir path = .ok d'

/-- A directory is made where nothing stands. -/
theorem makeDir_eq_put (h : d.makeDir path = .ok d') :
    d.item? (d.place path) = none ∧ d' = d.put (d.place path) .directory := by
  unfold makeDir at h
  obtain ⟨⟨q, last⟩, hlast, hmake⟩ := bind_eq_ok.1 h
  cases last with
  | none => cases hmake
  | some name =>
      obtain ⟨p, hp, hput⟩ := bind_eq_ok.1 hmake
      cases place_of_below hlast hp
      split at hput
      next => cases hput
      next hnone =>
        cases hput
        exact ⟨hnone, rfl⟩

theorem makeDir_reaches (h : d.makeDir path = .ok d') (hway : d.place path ∈ ways) :
    d.Reaches d' [] ways := by
  obtain ⟨hnone, rfl⟩ := makeDir_eq_put h
  have hput (p : Place) : (d.put (d.place path) .directory).item? p =
      if p = d.place path then some .directory else d.item? p :=
    item?_put (ne_root (by rw [hnone]; exact nofun))
  refine ⟨⟨rfl, fun p hp => ?_, fun p _ f hf => ?_⟩, fun p _ hitem => ?_⟩
  · rw [hput, hp, ite_self]
  · rw [hput, if_neg ?_, hf]
    rintro rfl
    rw [hnone] at hf
    cases hf
  · rw [hput]
    split
    next heq => exact .inr ⟨heq ▸ hway, rfl⟩
    next => exact .inl hitem

theorem Making.reaches {paths : List String} (h : Making paths d d')
    (hways : ∀ path ∈ paths, d.place path ∈ ways) : d.Reaches d' [] ways := by
  induction h with
  | refl => exact .refl d [] ways
  | tail _ hstep ih =>
      obtain ⟨path, hpath, hmake⟩ := hstep
      refine ih.trans (makeDir_reaches hmake ?_)
      rw [ih.place]
      exact hways path hpath

theorem makeEach_making {paths rest : List String} (d : Disk) (h : rest ⊆ paths) :
    Making paths d (d.makeEach rest).2 := by
  induction rest generalizing d with
  | nil => exact .refl
  | cons path rest ih =>
      obtain ⟨hpath, hrest⟩ := List.cons_subset.1 h
      unfold makeEach
      split
      next d' hmake => exact .head ⟨path, hpath, hmake⟩ (ih d' hrest)
      next =>
        split
        · exact ih d hrest
        · exact .refl

theorem makeFirst_making {paths above missing : List String} (d : Disk) (h : above ⊆ paths)
    (hmissing : missing ⊆ paths) : Making paths d (d.makeFirst above missing).2 := by
  induction above generalizing missing with
  | nil => exact makeEach_making d hmissing
  | cons path above ih =>
      obtain ⟨hpath, habove⟩ := List.cons_subset.1 h
      unfold makeFirst
      split
      next d' hmake => exact .head ⟨path, hpath, hmake⟩ (makeEach_making d' hmissing)
      next => exact ih habove (List.cons_subset.2 ⟨hpath, hmissing⟩)
      next =>
        split
        · exact makeEach_making d hmissing
        · exact .refl

theorem makeDirs_making (d : Disk) (path : String) :
    Making (Path.ancestors path) d (d.makeDirs path).2 :=
  makeFirst_making d (List.Subset.refl _) (List.nil_subset _)

/-! ## Operations that are broken off -/

/-- The places at which an operation may make directories. -/
def FileOp.dirs (d : Disk) : FileOp → List Place
  | .makeDirs path => d.wayUp path
  | .write _ _ => []
  | .rename _ _ => []

/-- The disk while an operation is under way, or after it was broken off. -/
inductive Partway (d : Disk) : FileOp → Disk → Prop
  /-- Nothing has happened yet. -/
  | unbegun (op : FileOp) : Partway d op d
  /-- Some of the directories are there. -/
  | making {path : String} {d' : Disk} (h : Making (Path.ancestors path) d d') :
      Partway d (.makeDirs path) d'
  /-- The file holds anything. -/
  | writing {path text : String} {left : File} {d' : Disk} (h : d.writeFile path left = .ok d') :
      Partway d (.write path text) d'

/-- What becomes of an operation: the disk does it, or it fails partway for whatever reason. -/
inductive ComesOut (d : Disk) (op : FileOp) : Option DiskFault → Disk → Prop
  | done {d' : Disk} (h : d.apply op = (none, d')) : ComesOut d op none d'
  | broken {fault : DiskFault} {d' : Disk} (h : Partway d op d') : ComesOut d op (some fault) d'

/-- What becomes of operations of which each follows if the one before it does not fail. -/
inductive AllComeOut : Disk → List FileOp → Option DiskFault → Disk → Prop
  | nil (d : Disk) : AllComeOut d [] none d
  | halt {d d' : Disk} {op : FileOp} {ops : List FileOp} {fault : DiskFault}
      (h : ComesOut d op (some fault) d') : AllComeOut d (op :: ops) (some fault) d'
  | step {d d' d'' : Disk} {op : FileOp} {ops : List FileOp} {fault? : Option DiskFault}
      (h : ComesOut d op none d') (hrest : AllComeOut d' ops fault? d'') :
      AllComeOut d (op :: ops) fault? d''

/-- The disk at some moment of operations one after the other. -/
inductive Amid : Disk → List FileOp → Disk → Prop
  | nil (d : Disk) : Amid d [] d
  | partway {d d' : Disk} {op : FileOp} {ops : List FileOp} (h : Partway d op d') :
      Amid d (op :: ops) d'
  | step {d d' d'' : Disk} {op : FileOp} {ops : List FileOp} (h : ComesOut d op none d')
      (hrest : Amid d' ops d'') : Amid d (op :: ops) d''

/-! ## Attempts come out so -/

/-- An operation that the disk refuses ends partway. -/
theorem apply_partway {op : FileOp} {fault : DiskFault} (h : d.apply op = (some fault, d')) :
    Partway d op d' := by
  cases op with
  | makeDirs path =>
      have hmaking := makeDirs_making d path
      rw [show d.makeDirs path = _ from h] at hmaking
      exact .making hmaking
  | write path text =>
      rw [outcome_eq_some h]
      exact .unbegun _
  | rename source target =>
      rw [outcome_eq_some h]
      exact .unbegun _

theorem attempt_comesOut {fate : Fate} {op : FileOp} {fault? : Option DiskFault}
    (h : d.attempt fate op = (fault?, d')) : ComesOut d op fault? d' := by
  cases fault? with
  | none => exact .done (attempt_eq_none h)
  | some fault =>
      cases fate with
      | granted => exact .broken (apply_partway h)
      | refused _ =>
          cases h
          exact .broken (.unbegun op)
      | torn _ left =>
          cases op with
          | makeDirs path =>
              cases h
              exact .broken (.unbegun _)
          | rename source target =>
              cases h
              exact .broken (.unbegun _)
          | write path text =>
              simp only [attempt] at h
              split at h
              next hwrite =>
                cases h
                exact .broken (.writing hwrite)
              next =>
                cases h
                exact .broken (.unbegun _)

theorem attemptAll_comesOut (d : Disk) (fates : List Fate) (ops : List FileOp) :
    AllComeOut d ops (d.attemptAll fates ops).1 (d.attemptAll fates ops).2 := by
  induction ops generalizing d fates with
  | nil => exact .nil d
  | cons op ops ih =>
      unfold attemptAll
      split
      next fault d' h => exact .halt (attempt_comesOut h)
      next d' h => exact .step (attempt_comesOut h) (ih d' fates.tail)

/-! ## Courses in parts -/

theorem AllComeOut.amid {ops : List FileOp} {fault? : Option DiskFault}
    (h : AllComeOut d ops fault? d') : Amid d ops d' := by
  induction h with
  | nil d => exact .nil d
  | halt h =>
      cases h with
      | broken h => exact .partway h
  | step h _ ih => exact .step h ih

/-- A moment of operations and of more behind them is one of the first, or comes after these. -/
theorem Amid.of_append {ops rest : List FileOp} (h : Amid d (ops ++ rest) d') :
    Amid d ops d' ∨ ∃ d₁, AllComeOut d ops none d₁ ∧ Amid d₁ rest d' := by
  induction ops generalizing d with
  | nil => exact .inr ⟨d, .nil d, h⟩
  | cons op ops ih =>
      cases h with
      | partway h => exact .inl (.partway h)
      | step hstep hrest =>
          rcases ih hrest with hamid | ⟨d₁, hdone, hamid⟩
          · exact .inl (.step hstep hamid)
          · exact .inr ⟨d₁, .step hstep hdone, hamid⟩

theorem AllComeOut.of_append {ops rest : List FileOp} {fault? : Option DiskFault}
    (h : AllComeOut d (ops ++ rest) fault? d') :
    AllComeOut d ops fault? d' ∧ fault? ≠ none
      ∨ ∃ d₁, AllComeOut d ops none d₁ ∧ AllComeOut d₁ rest fault? d' := by
  induction ops generalizing d with
  | nil => exact .inr ⟨d, .nil d, h⟩
  | cons op ops ih =>
      cases h with
      | halt h => exact .inl ⟨.halt h, nofun⟩
      | step hstep hrest =>
          rcases ih hrest with ⟨hhalt, hfault⟩ | ⟨d₁, hdone, hcourse⟩
          · exact .inl ⟨.step hstep hhalt, hfault⟩
          · exact .inr ⟨d₁, .step hstep hdone, hcourse⟩

/-! ## Operations reach no further -/

theorem Partway.reaches {op : FileOp} (h : Partway d op d') :
    d.Reaches d' (op.places d) (op.dirs d) := by
  cases h with
  | unbegun => exact .refl d _ _
  | making h => exact h.reaches fun path hpath => List.mem_map_of_mem hpath
  | writing h =>
      refine ⟨writeFile_changes h, fun p hp hnone => .inl ?_⟩
      obtain ⟨-, hdir, rfl⟩ := writeFile_eq_ok.1 h
      rw [item?_put (ne_root hdir), if_neg fun heq => hp (List.mem_singleton.2 heq), hnone]

theorem ComesOut.reaches {op : FileOp} {fault? : Option DiskFault}
    (h : ComesOut d op fault? d') : d.Reaches d' (op.places d) (op.dirs d) := by
  cases h with
  | broken h => exact h.reaches
  | done h =>
      cases op with
      | makeDirs path =>
          have hmaking := makeDirs_making d path
          rw [show d.makeDirs path = _ from h] at hmaking
          exact (Partway.making hmaking).reaches
      | write path text =>
          have hpartway : Partway d (.write path text) d' := .writing (outcome_eq_none h)
          exact hpartway.reaches
      | rename source target =>
          have hmove := outcome_eq_none h
          refine ⟨moveFile_changes hmove, fun p hp hnone => .inl ?_⟩
          obtain ⟨f, -, hitem⟩ := item?_of_moveFile hmove
          simp only [FileOp.places, List.mem_cons, List.not_mem_nil, or_false, not_or] at hp
          rw [hitem, if_neg hp.2, if_neg hp.1, hnone]

theorem FileOp.dirs_of_changes (h : d.Changes d' places) (op : FileOp) : op.dirs d' = op.dirs d := by
  cases op with
  | makeDirs path => exact List.map_congr_left fun _ _ => h.place
  | write path text => rfl
  | rename source target => rfl

/-- Wherever operations are broken off, they have reached no further than they may. -/
theorem Amid.reaches {ops : List FileOp} (h : Amid d ops d')
    (hops : ∀ op ∈ ops, op.places d ⊆ places ∧ op.dirs d ⊆ ways) : d.Reaches d' places ways := by
  induction h with
  | nil d => exact .refl d places ways
  | partway h =>
      obtain ⟨hplaces, hways⟩ := hops _ List.mem_cons_self
      exact h.reaches.mono hplaces hways
  | step h _ ih =>
      obtain ⟨hplaces, hways⟩ := hops _ List.mem_cons_self
      have hfirst := h.reaches.mono hplaces hways
      refine hfirst.trans (ih fun op hop => ?_)
      rw [FileOp.places_of_changes hfirst.toChanges, FileOp.dirs_of_changes hfirst.toChanges]
      exact hops op (List.mem_cons_of_mem _ hop)

/-! ## Attempts -/

theorem attempt_changes (d : Disk) (fate : Fate) (op : FileOp) :
    d.Changes (d.attempt fate op).2 (op.places d) :=
  (attempt_comesOut rfl).reaches.toChanges

theorem attemptAll_changes {fates : List Fate} {ops : List FileOp}
    (h : ∀ op ∈ ops, op.places d ⊆ places) : d.Changes (d.attemptAll fates ops).2 places := by
  have hreach : d.Reaches (d.attemptAll fates ops).2 places (ops.flatMap (·.dirs d)) :=
    (attemptAll_comesOut d fates ops).amid.reaches fun op hop =>
      ⟨h op hop, fun _ hp => List.mem_flatMap.2 ⟨op, hop, hp⟩⟩
  exact hreach.toChanges

end Roster.Disk
