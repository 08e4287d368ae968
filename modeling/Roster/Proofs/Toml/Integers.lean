import Roster.Toml.Document

/-!
# The whole numbers of a document

A document with a whole number that is no 64-bit word is refused, so the whole number of a key is
one (`read?_inRange`).  Values are followed from where they are read to the root table: readers give
only values in range (`Gives`), and so do the lines of a document (`lines_inRange`).  The root table
holds them as they are (`Fields.InRange`), and what headers add to it are tables.
-/

namespace Roster.Toml

/-- The value, if it is a whole number, is a 64-bit word.  Nothing is said of the parts of a
value. -/
def InRange : Toml → Prop
  | .integer n => minInteger ≤ n ∧ n ≤ maxInteger
  | _ => True

/-! ## Values -/

/-- What is read, if anything, is in range. -/
def Gives (found : Option (Toml × List Char)) : Prop := ∀ v rest, found = some (v, rest) → v.InRange

variable {α : Type} {v : Toml}

theorem gives_none : Gives none := nofun

theorem gives_some (v : Toml) (h : v.InRange) (rest : List Char) : Gives (some (v, rest)) := by
  intro w more heq
  cases heq
  exact h

theorem gives_bind {found : Option α} {f : α → Option (Toml × List Char)} (h : ∀ a, Gives (f a)) :
    Gives (found.bind f) := by
  cases found with
  | none => exact gives_none
  | some a => exact h a

theorem gives_map {found : Option α} {f : α → Toml × List Char}
    (h : ∀ a, found = some a → (f a).1.InRange) : Gives (found.map f) := by
  cases found with
  | none => exact gives_none
  | some a => exact gives_some _ (h a rfl) _

theorem integer?_inRange {n : Int} (h : integer? n = some v) : v.InRange := by
  unfold integer? at h
  split at h
  · next hrange => exact Option.some.inj h ▸ hrange
  · cases h

theorem float?_inRange {negative : Bool} {whole fraction : List Char} {scale : Int}
    (h : float? negative whole fraction scale = some v) : v.InRange := by
  unfold float? at h
  dsimp only at h
  split at h
  · cases h
  · exact Option.some.inj h ▸ trivial

theorem gives_basedInteger (base : Nat) (cs : List Char) : Gives (basedInteger base cs) :=
  gives_bind fun _ => gives_map fun _ => integer?_inRange

theorem gives_numberTail (negative : Bool) (whole cs : List Char) :
    Gives (numberTail negative whole cs) := by
  unfold numberTail
  split
  · refine gives_bind fun found => ?_
    dsimp only
    split
    · exact gives_bind fun _ => gives_map fun _ => float?_inRange
    · exact gives_bind fun _ => gives_map fun _ => float?_inRange
    · exact gives_map fun _ => float?_inRange
  · exact gives_bind fun _ => gives_map fun _ => float?_inRange
  · exact gives_bind fun _ => gives_map fun _ => float?_inRange
  · exact gives_map fun _ => integer?_inRange

theorem gives_unsigned (negative : Bool) (cs : List Char) : Gives (unsigned negative cs) := by
  unfold unsigned
  split
  · exact gives_some .float trivial _
  · exact gives_some .float trivial _
  · exact gives_bind fun _ => gives_numberTail _ _ _

theorem gives_readNumber (cs : List Char) : Gives (readNumber cs) := by
  unfold readNumber
  split
  · exact gives_unsigned _ _
  · exact gives_unsigned _ _
  · exact gives_basedInteger _ _
  · exact gives_basedInteger _ _
  · exact gives_basedInteger _ _
  · exact gives_unsigned _ _

theorem gives_readMoment (cs : List Char) : Gives (readMoment cs) := by
  unfold readMoment
  split
  · split
    · split
      · exact gives_some .moment trivial _
      · exact gives_some .moment trivial _
    · split
      · exact gives_some .moment trivial _
      · exact gives_some .moment trivial _
    · split
      · exact gives_some .moment trivial _
      · exact gives_some .moment trivial _
    · exact gives_some .moment trivial _
  · exact gives_map fun _ _ => trivial

theorem gives_numberOrMoment (cs : List Char) : Gives (numberOrMoment cs) := by
  unfold numberOrMoment
  cases h : readMoment cs with
  | none => exact gives_readNumber cs
  | some found => exact (h ▸ gives_readMoment cs : Gives (some found))

theorem inRange_of_ofPairs? {pairs : List (List String × Toml)} (h : ofPairs? pairs = some v) :
    v.InRange := by
  obtain ⟨_, -, rfl⟩ := Option.map_eq_some_iff.1 h
  trivial

theorem gives_value (fuel depth : Nat) (cs : List Char) : Gives (value fuel depth cs) := by
  cases fuel with
  | zero => exact gives_none
  | succ fuel =>
      unfold value
      split
      · exact gives_map fun _ _ => trivial
      · exact gives_map fun _ _ => trivial
      · split
        · exact gives_none
        · exact gives_map fun _ _ => trivial
      · split
        · exact gives_none
        · split
          · exact gives_some (.table []) trivial _
          · exact gives_bind fun _ => gives_map fun _ => inRange_of_ofPairs?
      · exact gives_map fun _ _ => trivial
      · exact gives_map fun _ _ => trivial
      · exact gives_numberOrMoment _

/-! ## Lines -/

/-- The value of a pair is in range. -/
def Line.InRange : Line → Prop
  | .pair _ v => v.InRange
  | .header _ => True

theorem headerLine_inRange {cs rest : List Char} {line : Line} (h : headerLine cs = some (line, rest)) :
    line.InRange := by
  unfold headerLine at h
  split at h
  all_goals
    obtain ⟨_, -, h⟩ := Option.bind_eq_some_iff.1 h
    obtain ⟨_, -, heq⟩ := Option.map_eq_some_iff.1 h
    cases heq
    trivial

theorem pairLine_inRange {cs rest : List Char} {line : Line} (h : pairLine cs = some (line, rest)) :
    line.InRange := by
  obtain ⟨_, -, h⟩ := Option.bind_eq_some_iff.1 h
  obtain ⟨_, -, h⟩ := Option.bind_eq_some_iff.1 h
  obtain ⟨found, hvalue, heq⟩ := Option.map_eq_some_iff.1 h
  cases heq
  exact gives_value _ _ _ _ _ hvalue

theorem lines_inRange {fuel : Nat} {cs : List Char} {found : List Line}
    (h : lines fuel cs = some found) : ∀ line ∈ found, line.InRange := by
  induction fuel generalizing cs found with
  | zero => cases h
  | succ fuel ih =>
      unfold lines at h
      split at h
      · cases h
        exact nofun
      · obtain ⟨_, -, h⟩ := Option.bind_eq_some_iff.1 h
        exact ih h
      · exact ih h
      · exact ih h
      · obtain ⟨⟨line, more⟩, hline, h⟩ := Option.bind_eq_some_iff.1 h
        obtain ⟨_, -, h⟩ := Option.bind_eq_some_iff.1 h
        obtain ⟨found, hfound, rfl⟩ := Option.map_eq_some_iff.1 h
        exact List.forall_mem_cons.2 ⟨headerLine_inRange hline, ih hfound⟩
      · obtain ⟨⟨line, more⟩, hline, h⟩ := Option.bind_eq_some_iff.1 h
        obtain ⟨_, -, h⟩ := Option.bind_eq_some_iff.1 h
        obtain ⟨found, hfound, rfl⟩ := Option.map_eq_some_iff.1 h
        exact List.forall_mem_cons.2 ⟨pairLine_inRange hline, ih hfound⟩

/-- The pairs above the first header are pairs of lines. -/
theorem sections_inRange {found : List Line} (h : ∀ line ∈ found, line.InRange) :
    ∀ pair ∈ (sections found).1, pair.2.InRange := by
  induction found with
  | nil => exact nofun
  | cons line found ih =>
      obtain ⟨hline, hfound⟩ := List.forall_mem_cons.1 h
      cases line with
      | pair path v => exact List.forall_mem_cons.2 ⟨hline, ih hfound⟩
      | header _ => exact nofun

/-! ## The root table -/

/-- A value that stands in a table as it is, is in range. -/
def Node.InRange : Node → Prop
  | .value v => v.InRange
  | _ => True

/-- The values that stand in a table as they are, are in range. -/
def Fields.InRange (fields : Fields) : Prop := ∀ entry ∈ fields, entry.2.InRange

theorem Fields.InRange.put {fields : Fields} (h : fields.InRange) (key : String) (node : Node)
    (hnode : node.InRange) : (fields.put key node).InRange := by
  induction fields with
  | nil => exact List.forall_mem_singleton.2 hnode
  | cons entry fields ih =>
      obtain ⟨hentry, hfields⟩ := List.forall_mem_cons.1 h
      rw [Fields.put]
      split
      · exact List.forall_mem_cons.2 ⟨hnode, hfields⟩
      · exact List.forall_mem_cons.2 ⟨hentry, ih hfields⟩

/-- An edit keeps a table in range if its change does where it is made; further down it changes
tables. -/
theorem Fields.InRange.edit {dotted : Bool} {change : Kind → Fields → Option Fields}
    {path : List String} {kind : Kind} {fields next : Fields} (h : fields.InRange)
    (hchange : ∀ fields next, Fields.InRange fields → change kind fields = some next →
      Fields.InRange next)
    (hedit : edit dotted change path kind fields = some next) : next.InRange := by
  cases path with
  | nil => exact hchange _ _ h hedit
  | cons key path =>
      unfold Toml.edit at hedit
      split at hedit
      · obtain ⟨sub, -, rfl⟩ := Option.map_eq_some_iff.1 hedit
        exact h.put key (.table _ sub) trivial
      · split at hedit
        · cases hedit
        · obtain ⟨sub, -, rfl⟩ := Option.map_eq_some_iff.1 hedit
          exact h.put key (.table _ sub) trivial
      · obtain ⟨last, -, rfl⟩ := Option.map_eq_some_iff.1 hedit
        exact h.put key (.tables _) trivial
      · cases hedit

theorem addPair_inRange {fields next : Fields} {pair : List String × Toml} (h : fields.InRange)
    (hpair : pair.2.InRange) (hadd : addPair fields pair = some next) : next.InRange := by
  unfold addPair at hadd
  split at hadd
  · cases hadd
  · refine h.edit (fun fields next hfields hnext => ?_) hadd
    split at hnext
    · cases hnext
    · cases hnext
      exact hfields.put _ (.value pair.2) hpair

theorem addSection_inRange {fields next : Fields}
    {part : Header × List (List String × Toml)} (h : fields.InRange)
    (hadd : addSection fields part = some next) : next.InRange := by
  unfold addSection at hadd
  split at hadd
  · unfold addTable at hadd
    split at hadd
    · cases hadd
    · refine h.edit (fun fields next hfields hnext => ?_) hadd
      dsimp only at hnext
      split at hnext
      all_goals
        obtain ⟨_, -, hnext⟩ := Option.bind_eq_some_iff.1 hnext
        obtain ⟨_, -, hnext⟩ := Option.bind_eq_some_iff.1 hnext
        cases hnext
        exact hfields.put _ (.table .header _) trivial
  · unfold addItem at hadd
    split at hadd
    · cases hadd
    · refine h.edit (fun fields next hfields hnext => ?_) hadd
      dsimp only at hnext
      split at hnext
      all_goals
        obtain ⟨_, -, hnext⟩ := Option.bind_eq_some_iff.1 hnext
        obtain ⟨_, -, hnext⟩ := Option.bind_eq_some_iff.1 hnext
        cases hnext
        exact hfields.put _ (.tables _) trivial

/-- What every step of a fold keeps, the fold keeps. -/
theorem inRange_foldlM {β : Type} {f : Fields → β → Option Fields} {items : List β}
    (hstep : ∀ item ∈ items, ∀ fields next, Fields.InRange fields → f fields item = some next →
      Fields.InRange next)
    {fields next : Fields} (h : fields.InRange) (hfold : items.foldlM f fields = some next) :
    next.InRange := by
  induction items generalizing fields with
  | nil => exact Option.some.inj hfold ▸ h
  | cons item items ih =>
      rw [List.foldlM_cons] at hfold
      obtain ⟨middle, hitem, hfold⟩ := Option.bind_eq_some_iff.1 hfold
      obtain ⟨hhead, htail⟩ := List.forall_mem_cons.1 hstep
      exact ih htail (hhead _ _ h hitem) hfold

/-- A key that has a whole number has one in range. -/
theorem Fields.InRange.field? {fields : Fields} {key : String} {v : Toml} (h : fields.InRange)
    (hv : Toml.field? key (fieldValues fields) = some v) : v.InRange := by
  induction fields with
  | nil => cases hv
  | cons entry fields ih =>
      obtain ⟨hentry, hfields⟩ := List.forall_mem_cons.1 h
      obtain ⟨k, node⟩ := entry
      rw [fieldValues, Toml.field?] at hv
      split at hv
      · cases hv
        cases node with
        | value v => exact hentry
        | table _ _ => trivial
        | tables _ => trivial
      · exact ih hfields hv

/-- A whole number at the root of a document is a 64-bit word. -/
theorem read?_inRange {text : String} {fields : List (String × Toml)}
    (h : read? text = some fields) {key : String} {n : Int}
    (hkey : field? key fields = some (.integer n)) : minInteger ≤ n ∧ n ≤ maxInteger := by
  obtain ⟨found, hfound, h⟩ := Option.bind_eq_some_iff.1 h
  obtain ⟨root, hroot, h⟩ := Option.bind_eq_some_iff.1 h
  obtain ⟨whole, hwhole, h⟩ := Option.bind_eq_some_iff.1 h
  cases h
  have hpairs := sections_inRange (lines_inRange hfound)
  have hempty : Fields.InRange [] := nofun
  have hrootRange : Fields.InRange root :=
    inRange_foldlM (fun pair hpair _ _ h hadd => addPair_inRange h (hpairs pair hpair) hadd)
      hempty hroot
  have hwholeRange : Fields.InRange whole :=
    inRange_foldlM (fun _ _ _ _ h hadd => addSection_inRange h hadd) hrootRange hwhole
  exact hwholeRange.field? hkey

end Roster.Toml
