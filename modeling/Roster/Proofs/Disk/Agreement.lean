import Roster.Proofs.Disk.Reach

/-!
# Disks that agree on some places

Two disks *agree* on some places if the same stands there (`AgreeOn`).

*Elsewhere.*  An operation that writes at other places, and makes no directory, leads to a disk that
agrees with the one before (`attemptAll_agrees`).  `Changes` says less of it: it leaves open what
comes to stand where there was nothing.

*There.*  An operation beside a path that has a slot on two disks comes to the same fault on both,
or to none, and leads to disks that agree again (`attemptAll_together`).
-/

namespace Roster

namespace Path

/-- The second path is the first with a text without slashes behind it. -/
def Sibling (path other : String) : Prop :=
  ∃ suffix : String, '/' ∉ suffix.toList ∧ other = path ++ suffix

theorem Sibling.refl (path : String) : Sibling path path :=
  ⟨"", by decide, String.append_empty.symm⟩

theorem sibling_append (path : String) {suffix : String} (h : '/' ∉ suffix.toList) :
    Sibling path (path ++ suffix) :=
  ⟨suffix, h, rfl⟩

end Path

namespace Disk

/-- The same stands on two disks at the given places. -/
structure AgreeOn (d d' : Disk) (places : List Place) : Prop where
  /-- Relative paths start at the same directory. -/
  cwd : d'.cwd = d.cwd
  /-- The same stands at each of the places. -/
  item : ∀ p ∈ places, d'.item? p = d.item? p

namespace AgreeOn

variable {d d' d'' : Disk} {places : List Place} {path : String}

theorem refl (d : Disk) (places : List Place) : d.AgreeOn d places := ⟨rfl, fun _ _ => rfl⟩

theorem symm (h : d.AgreeOn d' places) : d'.AgreeOn d places :=
  ⟨h.cwd.symm, fun p hp => (h.item p hp).symm⟩

theorem trans (h : d.AgreeOn d' places) (h' : d'.AgreeOn d'' places) : d.AgreeOn d'' places :=
  ⟨h'.cwd.trans h.cwd, fun p hp => (h'.item p hp).trans (h.item p hp)⟩

theorem base (h : d.AgreeOn d' places) : d'.base path = d.base path := by
  simp only [Disk.base, h.cwd]

theorem place (h : d.AgreeOn d' places) : d'.place path = d.place path := by
  simp only [Disk.place, h.cwd]

theorem put (h : d.AgreeOn d' places) {p : Place} (hp : p ≠ []) (item : Item) :
    (d.put p item).AgreeOn (d'.put p item) places := by
  refine ⟨h.cwd, fun q hq => ?_⟩
  rw [item?_put hp, item?_put hp, h.item q hq]

theorem without (h : d.AgreeOn d' places) {p : Place} (hp : p ≠ []) :
    (d.without p).AgreeOn (d'.without p) places := by
  refine ⟨h.cwd, fun q hq => ?_⟩
  rw [item?_without hp, item?_without hp, h.item q hq]

end AgreeOn

/-! ## Directories that are there -/

variable {d d' : Disk} {path : String} {places : List Place}

theorem ok_bind {α β : Type} (a : α) (f : α → Except DiskFault β) : (.ok a >>= f) = f a := rfl

theorem isDirectory_eq_true :
    d.isDirectory path = true ↔ ∃ p, d.find path = .ok (p, .directory) := by
  unfold isDirectory
  split
  next p hfind => exact ⟨fun _ => ⟨p, hfind⟩, fun _ => rfl⟩
  next hnot => exact ⟨nofun, fun ⟨p, hfind⟩ => absurd hfind (hnot p)⟩

theorem Changes.isDirectory (h : d.Changes d' places) (hdir : d.isDirectory path = true) :
    d'.isDirectory path = true := by
  obtain ⟨p, hfind⟩ := isDirectory_eq_true.1 hdir
  obtain ⟨hpath, hwalk, hitem, -⟩ := find_eq_ok.1 hfind
  refine isDirectory_eq_true.2 ⟨p, find_eq_ok.2 ⟨hpath, ?_, h.directory p hitem, nofun⟩⟩
  rw [h.base]
  exact h.walk hwalk

/-- Where the disk finds something, it finds the directory of the last name. -/
theorem findLast_of_find {p : Place} {item : Item} (h : d.find path = .ok (p, item)) :
    ∃ q last, d.findLast path = .ok (q, last)
      ∧ ∀ name, last = some name → below q name = .ok p := by
  obtain ⟨hpath, hwalk, -, -⟩ := find_eq_ok.1 h
  have hstart : d.start path = .ok (d.base path) := start_eq_ok.2 ⟨hpath, rfl⟩
  unfold findLast
  rw [hstart]
  rcases List.eq_nil_or_concat (Path.names path) with hnil | ⟨dir, last, hnames⟩
  · exact ⟨d.base path, none, by rw [hnil]; rfl, nofun⟩
  · rw [List.concat_eq_append] at hnames
    rw [hnames] at hwalk
    obtain ⟨q, hq, hstep⟩ := walk_append_eq_ok.1 hwalk
    obtain ⟨hdir, hfits, hlast⟩ := walk_cons_eq_ok.1 hstep
    have hinside : d.inside q = .ok () := inside_eq_ok.2 hdir
    refine ⟨q, if last = "." ∨ last = ".." then none else some last, ?_, fun name hname => ?_⟩
    · simp only [hnames, List.getLast?_concat, List.dropLast_concat, ok_bind, hq, hinside]
    · split at hname
      next => cases hname
      next hdots =>
        cases hname
        rw [not_or] at hdots
        cases walk_eq hlast
        exact below_eq_ok.2 ⟨hfits hdots, follow_name q hdots⟩

/-- A directory that is there is not made again. -/
theorem makeDir_of_isDirectory (h : d.isDirectory path = true) :
    d.makeDir path = .error .alreadyExists := by
  obtain ⟨p, hfind⟩ := isDirectory_eq_true.1 h
  obtain ⟨q, last, hlast, hbelow⟩ := findLast_of_find hfind
  have hitem : d.item? p = some .directory := (find_eq_ok.1 hfind).2.2.1
  unfold makeDir
  rw [hlast]
  cases last with
  | none => rfl
  | some name => simp only [ok_bind, hbelow name rfl, hitem]

/-- On the way to a directory that is there nothing is made. -/
theorem makeDirs_of_isDirectory (h : d.isDirectory path = true) : d.makeDirs path = (none, d) := by
  unfold makeDirs Path.ancestors
  cases (Path.names path).length with
  | zero => rfl
  | succ fuel =>
      unfold Path.ancestorsWithin
      split
      next => rfl
      next => simp only [makeFirst, makeDir_of_isDirectory h, h, if_true, makeEach]

/-! ## Operations beside a path -/

/-- An operation works beside a path, and makes no directory that is missing. -/
def FileOp.Beside (d : Disk) (path : String) : FileOp → Prop
  | .makeDirs above => d.isDirectory above = true
  | .write other _ => Path.Sibling path other
  | .rename source target => Path.Sibling path source ∧ Path.Sibling path target

theorem FileOp.beside_of_changes (h : d.Changes d' places) {op : FileOp}
    (hop : op.Beside d path) : op.Beside d' path := by
  cases op with
  | makeDirs above => exact h.isDirectory hop
  | write other text => exact hop
  | rename source target => exact hop

/-! ## Operations elsewhere -/

theorem writeFile_agrees {f : File} (h : d.writeFile path f = .ok d')
    (hp : d.place path ∉ places) : d.AgreeOn d' places := by
  obtain ⟨-, hdir, rfl⟩ := writeFile_eq_ok.1 h
  refine ⟨rfl, fun q hq => ?_⟩
  rw [item?_put (ne_root hdir), if_neg]
  rintro rfl
  exact hp hq

theorem moveFile_agrees {source target : String} (h : d.moveFile source target = .ok d')
    (hs : d.place source ∉ places) (ht : d.place target ∉ places) : d.AgreeOn d' places := by
  obtain ⟨f, -, hitem⟩ := item?_of_moveFile h
  refine ⟨(moveFile_changes h).cwd, fun q hq => ?_⟩
  have htarget : q ≠ d.place target := fun he => ht (he ▸ hq)
  have hsource : q ≠ d.place source := fun he => hs (he ▸ hq)
  rw [hitem, if_neg htarget, if_neg hsource]

theorem outcome_agrees {result : Except DiskFault Disk}
    (h : ∀ d', result = .ok d' → d.AgreeOn d' places) : d.AgreeOn (d.outcome result).2 places := by
  cases result with
  | error fault => exact .refl d places
  | ok d' => exact h d' rfl

/-- An operation leaves all other places as they are. -/
theorem attempt_agrees {op : FileOp} (hop : op.Beside d path) (h : ∀ p ∈ op.places d, p ∉ places)
    (fate : Fate) : d.AgreeOn (d.attempt fate op).2 places := by
  cases fate with
  | refused fault => exact .refl d places
  | granted =>
      cases op with
      | makeDirs path =>
          show d.AgreeOn (d.makeDirs path).2 places
          rw [makeDirs_of_isDirectory hop]
          exact .refl d places
      | write path text =>
          exact outcome_agrees fun _ hwrite => writeFile_agrees hwrite (h _ (by simp [FileOp.places]))
      | rename source target =>
          exact outcome_agrees fun _ hmove => moveFile_agrees hmove
            (h _ (by simp [FileOp.places])) (h _ (by simp [FileOp.places]))
  | torn fault left =>
      cases op with
      | makeDirs path => exact .refl d places
      | rename source target => exact .refl d places
      | write path text =>
          simp only [attempt]
          split
          next d' hwrite => exact writeFile_agrees hwrite (h _ (by simp [FileOp.places]))
          next => exact .refl d places

/-- Operations leave all other places as they are. -/
theorem attemptAll_agrees {ops : List FileOp} {fates : List Fate}
    (h : ∀ op ∈ ops, op.Beside d path ∧ ∀ p ∈ op.places d, p ∉ places) :
    d.AgreeOn (d.attemptAll fates ops).2 places := by
  induction ops generalizing d fates with
  | nil => exact .refl d places
  | cons op rest ih =>
      obtain ⟨hbeside, hplaces⟩ := h op (List.mem_cons_self ..)
      have hfirst := attempt_agrees hbeside hplaces (fates.headD .granted)
      have hchanges := attempt_changes d (fates.headD .granted) op
      unfold attemptAll
      split
      next fault d' hop =>
        rw [hop] at hfirst
        exact hfirst
      next d' hop =>
        rw [hop] at hfirst hchanges
        refine hfirst.trans (ih fun op' hmem => ?_)
        obtain ⟨hbeside', hplaces'⟩ := h op' (List.mem_cons_of_mem op hmem)
        rw [FileOp.places_of_changes hchanges]
        exact ⟨FileOp.beside_of_changes hchanges hbeside', hplaces'⟩

/-! ## Operations on both disks -/

/-- On two disks with a slot at a path, what is found there is the same if the same stands there. -/
theorem AgreeOn.find (h : d.AgreeOn d' places) (hslot : d.Slot path) (hslot' : d'.Slot path)
    (hp : d.place path ∈ places) : d'.find path = d.find path := by
  have hstart : d.start path = .ok (d.base path) := start_eq_ok.2 ⟨hslot.isPath, rfl⟩
  have hstart' : d'.start path = .ok (d'.base path) := start_eq_ok.2 ⟨hslot.isPath, rfl⟩
  unfold Disk.find
  simp only [hstart, hstart', ok_bind, hslot.walk, hslot'.walk, h.place, h.item _ hp]

theorem AgreeOn.read (h : d.AgreeOn d' places) (hslot : d.Slot path) (hslot' : d'.Slot path)
    (hp : d.place path ∈ places) : d'.read path = d.read path := by
  unfold Disk.read
  rw [h.find hslot hslot' hp]

/-- Two disks with a slot at a path find the directory of its siblings, or fail, in the same way. -/
theorem findLast_sibling {other : String} (hcwd : d'.cwd = d.cwd) (hslot : d.Slot path)
    (hslot' : d'.Slot path) (h : Path.Sibling path other) :
    d'.findLast other = d.findLast other := by
  obtain ⟨suffix, hsuffix, rfl⟩ := h
  obtain ⟨hpath, hslash, dir, last, hnames, -, -, -, q, hwalk, hdir⟩ := hslot
  obtain ⟨-, -, dir', last', hnames', -, -, -, q', hwalk', hdir'⟩ := hslot'
  obtain ⟨rfl, -⟩ := List.append_inj' (hnames.symm.trans hnames') rfl
  obtain ⟨dir₁, last₁, -, hnames₁, happend⟩ := Path.names_append hpath.ne hslash
  obtain ⟨rfl, -⟩ := List.append_inj' (hnames.symm.trans hnames₁) rfl
  have hbase : d'.base path = d.base path := by simp only [base, hcwd]
  have hq : q' = q := by rw [walk_eq hwalk, walk_eq hwalk', hbase]
  subst hq
  have hstart : d'.start (path ++ suffix) = d.start (path ++ suffix) := by
    simp only [start, hcwd]
  unfold findLast
  rw [hstart, happend suffix hsuffix, List.getLast?_concat, List.dropLast_concat]
  cases hfirst : d.start (path ++ suffix) with
  | error fault => rfl
  | ok first =>
      have hfirst' : first = d.base path := by
        rw [(start_eq_ok.1 hfirst).2]
        simp only [base, Path.isAbsolute_append hpath.ne suffix]
      subst hfirst'
      rw [hbase] at hwalk'
      have hinside : d.inside q' = .ok () := inside_eq_ok.2 hdir
      have hinside' : d'.inside q' = .ok () := inside_eq_ok.2 hdir'
      simp only [ok_bind, hwalk, hwalk', hinside, hinside']

/-- The same fault on two disks, or disks that agree again. -/
inductive Together (places : List Place) : Except DiskFault Disk → Except DiskFault Disk → Prop where
  /-- Both fail, for the same reason. -/
  | fail (fault : DiskFault) : Together places (.error fault) (.error fault)
  /-- Both are changed. -/
  | done {d d' : Disk} (h : d.AgreeOn d' places) : Together places (.ok d) (.ok d')

/-- What follows on the same answer on two disks goes the same way if it does so for each answer. -/
theorem Together.bind {α : Type} (x : Except DiskFault α) {f f' : α → Except DiskFault Disk}
    (h : ∀ a, x = .ok a → Together places (f a) (f' a)) : Together places (x >>= f) (x >>= f') := by
  cases x with
  | error fault => exact .fail fault
  | ok a => exact h a rfl

theorem writeFile_together (hway : d'.findLast path = d.findLast path)
    (h : d.AgreeOn d' places) (hp : d.place path ∈ places) (f : File) :
    Together places (d.writeFile path f) (d'.writeFile path f) := by
  unfold writeFile
  rw [hway]
  refine .bind _ fun found hlast => ?_
  obtain ⟨dir, last⟩ := found
  cases last with
  | none => exact .fail _
  | some name =>
      dsimp only
      split
      next => exact .fail _
      next =>
        refine .bind _ fun p hbelow => ?_
        cases place_of_below hlast hbelow
        rw [h.item _ hp]
        split
        next => exact .fail _
        next hdir => exact .done (h.put (ne_root hdir) _)

theorem moveFile_together {source target : String}
    (hsource : d'.findLast source = d.findLast source)
    (htarget : d'.findLast target = d.findLast target) (h : d.AgreeOn d' places)
    (hp : d.place source ∈ places) (hq : d.place target ∈ places) :
    Together places (d.moveFile source target) (d'.moveFile source target) := by
  unfold moveFile
  rw [hsource, htarget]
  refine .bind _ fun found hlast => .bind _ fun found' hlast' => ?_
  obtain ⟨dir, last⟩ := found
  obtain ⟨dir', last'⟩ := found'
  cases last with
  | none => exact .fail _
  | some name =>
      cases last' with
      | none => exact .fail _
      | some name' =>
          refine .bind _ fun p hbelow => ?_
          cases place_of_below hlast hbelow
          rw [h.item _ hp]
          split
          next => exact .fail _
          next => exact .fail _
          next f hf =>
            refine .bind _ fun q hbelow' => ?_
            cases place_of_below hlast' hbelow'
            rw [h.item _ hq]
            split
            next => exact .fail _
            next =>
              split
              next => exact .fail _
              next hdir =>
                have hfile : d.item? (d.place source) ≠ some .directory := by simp [hf]
                exact .done ((h.without (ne_root hfile)).put (ne_root hdir) _)

theorem Together.outcome {r r' : Except DiskFault Disk} (h : d.AgreeOn d' places)
    (hr : Together places r r') :
    (d'.outcome r').1 = (d.outcome r).1 ∧ (d.outcome r).2.AgreeOn (d'.outcome r').2 places := by
  cases hr with
  | fail fault => exact ⟨rfl, h⟩
  | done hdone => exact ⟨rfl, hdone⟩

/-- An operation beside a path that has a slot on two disks does the same on both. -/
theorem attempt_together {op : FileOp} (h : d.AgreeOn d' places) (hslot : d.Slot path)
    (hslot' : d'.Slot path) (hop : op.Beside d path) (hop' : op.Beside d' path)
    (hsub : op.places d ⊆ places) (fate : Fate) :
    (d'.attempt fate op).1 = (d.attempt fate op).1
      ∧ (d.attempt fate op).2.AgreeOn (d'.attempt fate op).2 places := by
  have hway : ∀ other, Path.Sibling path other → d'.findLast other = d.findLast other :=
    fun _ hother => findLast_sibling h.cwd hslot hslot' hother
  cases fate with
  | refused fault => exact ⟨rfl, h⟩
  | granted =>
      cases op with
      | makeDirs above =>
          show (d'.makeDirs above).1 = (d.makeDirs above).1
            ∧ (d.makeDirs above).2.AgreeOn (d'.makeDirs above).2 places
          rw [makeDirs_of_isDirectory hop, makeDirs_of_isDirectory hop']
          exact ⟨rfl, h⟩
      | write other text =>
          exact (writeFile_together (hway other hop) h (hsub (by simp [FileOp.places])) _).outcome h
      | rename source target =>
          exact (moveFile_together (hway source hop.1) (hway target hop.2) h
            (hsub (by simp [FileOp.places])) (hsub (by simp [FileOp.places]))).outcome h
  | torn fault left =>
      cases op with
      | makeDirs above => exact ⟨rfl, h⟩
      | rename source target => exact ⟨rfl, h⟩
      | write other text =>
          have hboth := writeFile_together (hway other hop) h (hsub (by simp [FileOp.places])) left
          simp only [attempt]
          generalize d.writeFile other left = r, d'.writeFile other left = r' at hboth
          cases hboth with
          | fail _ => exact ⟨rfl, h⟩
          | done hdone => exact ⟨rfl, hdone⟩

/-- Operations beside a path that has a slot on two disks do the same on both. -/
theorem attemptAll_together {ops : List FileOp} {fates : List Fate} (h : d.AgreeOn d' places)
    (hslot : d.Slot path) (hslot' : d'.Slot path)
    (hops : ∀ op ∈ ops, op.Beside d path ∧ op.Beside d' path ∧ op.places d ⊆ places) :
    (d'.attemptAll fates ops).1 = (d.attemptAll fates ops).1
      ∧ (d.attemptAll fates ops).2.AgreeOn (d'.attemptAll fates ops).2 places := by
  induction ops generalizing d d' fates with
  | nil => exact ⟨rfl, h⟩
  | cons op rest ih =>
      obtain ⟨hop, hop', hsub⟩ := hops op (List.mem_cons_self ..)
      have hfirst := attempt_together h hslot hslot' hop hop' hsub (fates.headD .granted)
      have hchanges := attempt_changes d (fates.headD .granted) op
      have hchanges' := attempt_changes d' (fates.headD .granted) op
      unfold attemptAll
      generalize d.attempt (fates.headD .granted) op = x,
        d'.attempt (fates.headD .granted) op = x' at hfirst hchanges hchanges'
      obtain ⟨fault, e⟩ := x
      obtain ⟨fault', e'⟩ := x'
      obtain ⟨hfault, hagree⟩ := hfirst
      cases hfault
      cases fault with
      | some fault => exact ⟨rfl, hagree⟩
      | none =>
          refine ih hagree (hchanges.slot hslot) (hchanges'.slot hslot') fun op' hmem => ?_
          obtain ⟨hnext, hnext', hsub'⟩ := hops op' (List.mem_cons_of_mem op hmem)
          rw [FileOp.places_of_changes hchanges]
          exact ⟨FileOp.beside_of_changes hchanges hnext,
            FileOp.beside_of_changes hchanges' hnext', hsub'⟩

end Disk

end Roster
