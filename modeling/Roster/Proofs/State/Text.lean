import Roster.Proofs.Json.RoundTrip
import Roster.Proofs.Table
import Roster.Proofs.Time.Timestamps
import Roster.State.Text

/-!
# State texts are read as they are written

Notes and outputs are *storable* if their identities can be told from their keys, no note is empty
and all times are valid (`Saved.Storable`).  What is written of storable notes and outputs is read
as them, and no key is amiss (`notesOf_byKey`, `capturesOf_byKey`).  What is read of any text is
storable (`notesOf_storable`, `capturesOf_storable`).
-/

namespace Roster

/-! ## Storable notes and outputs -/

/-- The identity can be told from its key. -/
structure Identity.Plain (id : Identity) : Prop where
  /-- There is a node. -/
  node : id.node ≠ ""
  /-- The node holds no colon. -/
  colon : ':' ∉ id.node.toList
  /-- There is a name. -/
  name : id.name ≠ ""

theorem Identity.plain_iff {id : Identity} : id.Plain ↔ Identity.ofKey? id.key = some id := by
  constructor
  · intro h
    exact Identity.ofKey?_key h.colon h.node h.name
  · intro h
    unfold Identity.ofKey? at h
    split at h
    next node name hcut =>
      split at h
      next => cases h
      next hparts =>
        cases h
        rw [not_or] at hparts
        exact ⟨by simpa using hparts.1, by simpa using (Text.cut_eq_some hcut).2,
          by simpa using hparts.2⟩
    next => cases h

/-- The notes can be kept in a file. -/
def StorableNotes (notes : Table Identity String) : Prop :=
  ∀ id note, notes.get? id = some note → id.Plain ∧ note ≠ ""

/-- The outputs can be kept in a file. -/
def StorableCaptures (captures : Table Identity Captured) : Prop :=
  ∀ id c, captures.get? id = some c → id.Plain ∧ c.takenAt.Valid

/-- Notes and outputs that can be kept in files. -/
structure Saved.Storable (saved : Saved) : Prop where
  /-- The notes can. -/
  notes : StorableNotes saved.notes
  /-- The outputs can. -/
  captures : StorableCaptures saved.captures

namespace StateText

open Text Json

/-! ## Keys -/

variable {α : Type}

/-- What stands under the key of an identity is what stands under the identity. -/
theorem get?_byKey {t : Table Identity α} (h : ∀ id v, t.get? id = some v → id.Plain) {k : String}
    {v : α} : (byKey t).get? k = some v ↔ ∃ id, id.key = k ∧ t.get? id = some v := by
  have hmem : ∀ w, (k, w) ∈ (t.entries.map fun e => (e.1.key, e.2))
      ↔ ∃ id, id.key = k ∧ t.get? id = some w := by
    intro w
    simp only [List.mem_map, Prod.mk.injEq, Prod.exists]
    constructor
    · rintro ⟨id, w', hentry, hkey, rfl⟩
      exact ⟨id, hkey, Table.mem_entries_iff.1 hentry⟩
    · rintro ⟨id, hkey, hget⟩
      exact ⟨id, w, Table.mem_entries_iff.2 hget, hkey, rfl⟩
  constructor
  · intro hget
    exact (hmem v).1 (Table.mem_of_get?_ofList hget)
  · rintro ⟨id, rfl, hget⟩
    refine Table.get?_ofList ((hmem v).2 ⟨id, rfl, hget⟩) fun w hw => ?_
    obtain ⟨id', hkey, hget'⟩ := (hmem w).1 hw
    -- Two identities with one key would both be what the key denotes.
    have hid := Identity.plain_iff.1 (h id' w hget')
    rw [hkey, Identity.plain_iff.1 (h id v hget)] at hid
    cases hid
    rw [hget] at hget'
    exact (Option.some.inj hget').symm

/-- What stands under an identity is what stands under its key, if that denotes it. -/
theorem get?_byIdentity {t : Table String α} {id : Identity} {v : α} :
    (byIdentity t).1.get? id = some v ↔ id.Plain ∧ t.get? id.key = some v := by
  have hmem : ∀ w, (id, w) ∈ (t.entries.filterMap fun e => (Identity.ofKey? e.1).map (·, e.2))
      ↔ id.Plain ∧ t.get? id.key = some w := by
    intro w
    simp only [List.mem_filterMap, Option.map_eq_some_iff, Prod.mk.injEq, Prod.exists]
    constructor
    · rintro ⟨k, w', hentry, id', hid, rfl, rfl⟩
      cases Identity.key_of_ofKey? hid
      exact ⟨Identity.plain_iff.2 hid, Table.mem_entries_iff.1 hentry⟩
    · rintro ⟨hplain, hget⟩
      exact ⟨id.key, w, Table.mem_entries_iff.2 hget, id, Identity.plain_iff.1 hplain, rfl, rfl⟩
  constructor
  · intro hget
    exact (hmem v).1 (Table.mem_of_get?_ofList hget)
  · intro h
    refine Table.get?_ofList ((hmem v).2 h) fun w hw => ?_
    obtain ⟨-, hget⟩ := (hmem w).1 hw
    rw [h.2] at hget
    exact (Option.some.inj hget).symm

/-- Filing under keys and back changes nothing, and no key is amiss. -/
theorem byIdentity_byKey {t : Table Identity α} (h : ∀ id v, t.get? id = some v → id.Plain) :
    byIdentity (byKey t) = (t, []) := by
  refine Prod.ext (Table.ext_get? fun id => Option.ext fun v => ?_) ?_
  · rw [get?_byIdentity, get?_byKey h]
    constructor
    · rintro ⟨hplain, id', hkey, hget⟩
      have hid := Identity.plain_iff.1 (h id' v hget)
      rw [hkey, Identity.plain_iff.1 hplain] at hid
      cases hid
      exact hget
    · intro hget
      exact ⟨h id v hget, id, rfl, hget⟩
  · simp only [byIdentity, List.filter_eq_nil_iff, Table.keys, List.mem_map, Prod.exists]
    rintro k ⟨k', v, hentry, rfl⟩
    obtain ⟨id, rfl, hget⟩ := (get?_byKey h).1 (Table.mem_entries_iff.1 hentry)
    rw [Identity.plain_iff.1 (h id v hget)]
    simp

theorem notesOf_byKey {notes : Table Identity String} (h : StorableNotes notes) :
    notesOf (byKey notes) = (notes, []) := by
  have hkeep : (notes.filter fun _ note => note != "") = notes := by
    refine Table.ext_get? fun id => ?_
    rw [Table.get?_filter]
    cases hget : notes.get? id with
    | none => rfl
    | some note => simp [Option.filter, (h id note hget).2]
  simp only [notesOf, byIdentity_byKey fun id note hget => (h id note hget).1, hkeep, List.map_nil]

theorem capturesOf_byKey {captures : Table Identity Captured} (h : StorableCaptures captures) :
    capturesOf (byKey captures) = (captures, []) := by
  simp only [capturesOf, byIdentity_byKey fun id c hget => (h id c hget).1, List.map_nil]

/-! ## Texts -/

/-- A table is read from its text, if its values are. -/
theorem readTable_writeObject {reader : Reader α} {value : α → Json} {t : Table String α}
    (h : ∀ k v, t.get? k = some v → Takes reader (value v) v) :
    readTable reader (writeObject value t) = some t := by
  have hobject := takes_object (fun _ => reader)
    (t.entries.map fun e => ⟨e.1, value e.2, e.2⟩) (by
      simp only [List.mem_map]
      rintro m ⟨e, hentry, rfl⟩
      exact h e.1 e.2 (Table.mem_entries_iff.1 hentry))
  have hwritten : written (t.entries.map fun e => (⟨e.1, value e.2, e.2⟩ : MemberOf α))
      = t.entries.map fun e => (e.1, value e.2) := by
    simp only [written, List.map_map, Function.comp_def]
  have htaken : taken (t.entries.map fun e => (⟨e.1, value e.2, e.2⟩ : MemberOf α))
      = t.entries := by
    simp only [taken, List.map_map, Function.comp_def, List.map_id']
  rw [hwritten, htaken] at hobject
  rw [readTable, writeObject, document_write hobject, Option.map_some, Table.ofList_entries]

/-- An object is no blank text. -/
theorem isBlankText_writeObject (value : α → Json) (t : Table String α) :
    isBlankText (writeObject value t) = false := by
  have hbrace : isBlank '{' = false := by decide
  unfold writeObject Json.write isBlankText
  rw [String.toList_ofList]
  cases t.entries with
  | nil => simp [writeAt, hbrace]
  | cons e rest => simp [writeAt, hbrace]

/-- An output is read as it is written. -/
theorem takes_captured {c : Captured} (h : c.takenAt.Valid) :
    Takes captured (Record.capturedJson c) c := by
  have hmembers := takes_object member
    [⟨"text", .string c.text, .text c.text⟩,
      ⟨"captured_at", .string (Rfc3339.write c.takenAt), .takenAt c.takenAt⟩] (by
      simp only [List.mem_cons, List.not_mem_nil, or_false, forall_eq_or_imp, forall_eq]
      constructor
      · intro gap depth rest hgap
        rw [member, if_pos rfl, takes_string c.text gap depth rest hgap]
        rfl
      · intro gap depth rest hgap
        rw [member, if_neg (by decide), if_pos rfl, instant,
          takes_string (Rfc3339.write c.takenAt) gap depth rest hgap]
        simp [Rfc3339.read?_write h])
  intro gap depth rest hgap
  have hobject := hmembers gap depth rest hgap
  have hmark : mark '[' (gap ++ writeAt depth (Record.capturedJson c) ++ rest) = none := by
    rw [List.append_assoc, mark_append hgap]
    simp [Record.capturedJson, writeAt, mark, skipGap_cons, isGap]
  unfold captured
  rw [hmark]
  simp only [written, List.map_cons, List.map_nil] at hobject
  simp only [Record.capturedJson, hobject]
  rfl

/-- Notes are read as they are written. -/
theorem readTable_writeNotes (notes : Table Identity String) :
    readTable readString (writeNotes notes) = some (byKey notes) :=
  readTable_writeObject fun _ note _ => takes_string note

/-- Outputs are read as they are written, if their times are valid. -/
theorem readTable_writeCaptures {captures : Table Identity Captured}
    (h : ∀ id c, captures.get? id = some c → c.takenAt.Valid) :
    readTable captured (writeCaptures captures) = some (byKey captures) := by
  refine readTable_writeObject fun k c hget => takes_captured ?_
  obtain ⟨e, hentry, heq⟩ := List.mem_map.1 (Table.mem_of_get?_ofList hget)
  cases heq
  exact h e.1 e.2 (Table.mem_entries_iff.1 hentry)

/-! ## What is read of any text -/

theorem notesOf_storable (t : Table String String) : StorableNotes (notesOf t).1 := by
  intro id note hget
  simp only [notesOf, Table.get?_filter, Option.filter_eq_some_iff] at hget
  obtain ⟨hget, hne⟩ := hget
  exact ⟨(get?_byIdentity.1 hget).1, by simpa using hne⟩

theorem capturesOf_storable {t : Table String Captured}
    (h : ∀ k c, t.get? k = some c → c.takenAt.Valid) : StorableCaptures (capturesOf t).1 := by
  intro id c hget
  obtain ⟨hplain, hget⟩ := get?_byIdentity.1 hget
  exact ⟨hplain, h id.key c hget⟩

theorem valid_of_instant {cs rest : List Char} {t : Instant} (h : instant cs = some (t, rest)) :
    t.Valid := by
  obtain ⟨⟨s, rest'⟩, -, h⟩ := Option.bind_eq_some_iff.1 h
  obtain ⟨t', hread, heq⟩ := Option.map_eq_some_iff.1 h
  cases heq
  exact Rfc3339.valid_of_read? hread

theorem mem_times {members : List (String × Member)} {t : Instant} (h : t ∈ times members) :
    ∃ key, (key, .takenAt t) ∈ members := by
  induction members with
  | nil => cases h
  | cons m rest ih =>
      obtain ⟨key, m⟩ := m
      cases m with
      | takenAt t' =>
          rcases List.mem_cons.1 h with rfl | h
          · exact ⟨key, List.mem_cons_self ..⟩
          · obtain ⟨key', hmem⟩ := ih h
            exact ⟨key', List.mem_cons_of_mem _ hmem⟩
      | text s =>
          obtain ⟨key', hmem⟩ := ih h
          exact ⟨key', List.mem_cons_of_mem _ hmem⟩
      | other =>
          obtain ⟨key', hmem⟩ := ih h
          exact ⟨key', List.mem_cons_of_mem _ hmem⟩

theorem valid_of_member {key : String} {cs rest : List Char} {t : Instant}
    (h : member key cs = some (.takenAt t, rest)) : t.Valid := by
  unfold member at h
  split at h
  next =>
    obtain ⟨⟨_, _⟩, _, heq⟩ := Option.map_eq_some_iff.1 h
    cases heq
  next =>
    split at h
    next =>
      obtain ⟨⟨t', rest'⟩, hread, heq⟩ := Option.map_eq_some_iff.1 h
      cases heq
      exact valid_of_instant hread
    next =>
      obtain ⟨⟨_, _⟩, _, heq⟩ := Option.map_eq_some_iff.1 h
      cases heq

/-- The time of an output that is read is valid. -/
theorem valid_of_captured {cs rest : List Char} {c : Captured}
    (h : captured cs = some (c, rest)) : c.takenAt.Valid := by
  unfold captured at h
  split at h
  next =>
    simp only [Option.bind_eq_bind, Option.bind_eq_some_iff] at h
    obtain ⟨⟨s, rest₁⟩, -, rest₂, -, ⟨t, rest₃⟩, hread, rest₄, -, heq⟩ := h
    cases heq
    exact valid_of_instant hread
  next =>
    obtain ⟨⟨ms, rest'⟩, hobject, h⟩ := Option.bind_eq_some_iff.1 h
    obtain ⟨c', hof, heq⟩ := Option.map_eq_some_iff.1 h
    cases heq
    unfold ofMembers at hof
    split at hof
    next s t _ htimes =>
      cases hof
      obtain ⟨key, hmem⟩ := mem_times (htimes.symm ▸ List.mem_singleton_self t)
      obtain ⟨cs', rest'', hread⟩ := value_of_readObject hobject hmem
      exact valid_of_member hread
    next => cases hof

theorem valid_of_readTable {text : String} {t : Table String Captured}
    (h : readTable captured text = some t) (k : String) (c : Captured) (hget : t.get? k = some c) :
    c.takenAt.Valid := by
  obtain ⟨ms, hdocument, heq⟩ := Option.map_eq_some_iff.1 h
  cases heq
  obtain ⟨⟨ms', rest⟩, hobject, hms⟩ := Option.bind_eq_some_iff.1 hdocument
  simp only at hms
  split at hms
  next =>
    cases hms
    obtain ⟨cs', rest', hread⟩ := value_of_readObject hobject (Table.mem_of_get?_ofList hget)
    exact valid_of_captured hread
  next => cases hms

end StateText

end Roster
