import Roster.Proofs.Inventory.Filter
import Roster.Report

/-!
# What a report shows

A report of a query is one line on top, a row for each record that the query asks for, in the order
of the view, and perhaps the nodes on which no session runs (`exists_inventory_eq`).  A row bears
the texts of its record (`isPart_row`), and it is longer than what is said where there are no rows
(`le_length_row`), so the two cannot be mistaken for each other.

A filter trims its query.  The nodes at the end are shown for the empty query only, and what is said
on top looks at the rows that are left, not at the records.  So a query of blanks hides the nodes,
and a query that asks for none of the records makes a view without nodes look as if nothing were
remembered.  Apart from that the report agrees with the view (`inventory_agrees_iff`).
-/

namespace Roster.Report

open Text

/-- What is said if no node is allocated and no session remembered. -/
def nothingKnown : String := "No allocated nodes and no remembered sessions."

/-- The line above the nodes on which no session runs. -/
def idleHeading : String := "Nodes without sessions:"

/-! ## Cells and lines -/

theorem length_padRight (width : Nat) (s : String) :
    (padRight width s).length = max width s.length := by
  simp only [padRight, String.length_append, String.length_ofList, List.length_replicate]
  omega

theorem isPart_padRight (width : Nat) (s : String) : IsPart s (padRight width s) := by
  rw [IsPart, padRight, String.toList_append]
  exact (List.prefix_append _ _).isInfix

/-- A line bears each of its cells. -/
theorem isPart_line {cell : String} {cells : List String} (h : cell ∈ cells) :
    IsPart cell (line cells) := by
  rw [IsPart, line]
  induction cells with
  | nil => cases h
  | cons first rest ih =>
    cases rest with
    | nil =>
      obtain rfl := List.mem_singleton.1 h
      rw [String.intercalate_singleton]
    | cons second rest =>
      rw [String.intercalate_cons_cons, String.toList_append, String.toList_append]
      cases h with
      | head => exact ((List.prefix_append _ _).trans (List.prefix_append _ _)).isInfix
      | tail _ h => exact (ih h).trans (List.suffix_append _ _).isInfix

/-- A row bears all texts of its record. -/
theorem isPart_row (v : View) {r : Record} {text : String} (h : text ∈ r.texts) :
    IsPart text (row v r) := by
  simp only [Record.texts, List.mem_cons, Option.mem_toList] at h
  rcases h with rfl | rfl | hnote
  · exact isPart_line (by simp)
  · exact (isPart_padRight widths.session _).trans (isPart_line (by simp))
  · exact isPart_line (by simp [hnote])

theorem isPart_idleLine (n : NodeSummary) : IsPart n.node (idleLine n) := isPart_line (by simp)

/-- The filled cells of a row and the blanks between cells give it a least length. -/
theorem le_length_row (v : View) (r : Record) :
    widths.timeLeft + widths.session + widths.status + 4 ≤ (row v r).length := by
  simp only [row, line, String.intercalate_cons_cons, String.intercalate_singleton,
    String.length_append, length_padRight]
  have hblank : " ".length = 1 := rfl
  omega

/-- What is short is no row. -/
theorem not_mem_rows {said : String}
    (h : said.length < widths.timeLeft + widths.session + widths.status + 4) (v : View)
    (records : List Record) : said ∉ records.map (row v) := by
  intro hmem
  obtain ⟨r, -, rfl⟩ := List.mem_map.1 hmem
  exact absurd (le_length_row v r) (Nat.not_le.2 h)

/-- The line of an idle node starts with a blank. -/
theorem not_mem_idleLines {said : String} (h : said.toList.head? ≠ some ' ')
    (nodes : List NodeSummary) : said ∉ nodes.map idleLine := by
  intro hmem
  obtain ⟨n, -, rfl⟩ := List.mem_map.1 hmem
  exact h (by simp [idleLine, line])

/-! ## The parts of a report -/

theorem table_cons (v : View) (r : Record) (rest : List Record) :
    table v (r :: rest) = heading :: (r :: rest).map (row v) := rfl

/-- What a table has on top tells whether there are rows. -/
theorem exists_table_eq (v : View) (records : List Record) :
    ∃ top, table v records = top :: records.map (row v) ∧ (top = heading ↔ records ≠ []) := by
  cases records with
  | nil =>
    rw [table]
    split
    · exact ⟨_, rfl, by decide +kernel⟩
    · exact ⟨_, rfl, by decide +kernel⟩
  | cons r rest => exact ⟨heading, table_cons v r rest, by simp⟩

theorem nothingKnown_mem_table_iff {v : View} {records : List Record} :
    nothingKnown ∈ table v records ↔ v.nodes = [] ∧ records = [] := by
  cases records with
  | nil =>
    cases hnodes : v.nodes with
    | nil => simp [table, hnodes, nothingKnown]
    | cons n rest => simp [table, hnodes, nothingKnown]
  | cons r rest =>
    have htop : nothingKnown ≠ heading := by decide +kernel
    have hrows : nothingKnown ∉ (r :: rest).map (row v) := not_mem_rows (by decide) v _
    rw [table_cons, List.mem_cons]
    exact iff_of_false (not_or.2 ⟨htop, hrows⟩) fun h => List.cons_ne_nil r rest h.2

theorem idleHeading_not_mem_table (v : View) (records : List Record) :
    idleHeading ∉ table v records := by
  cases records with
  | nil =>
    rw [table]
    split <;> decide +kernel
  | cons r rest =>
    have htop : idleHeading ≠ heading := by decide +kernel
    have hrows : idleHeading ∉ (r :: rest).map (row v) := not_mem_rows (by decide) v _
    rw [table_cons, List.mem_cons]
    exact not_or.2 ⟨htop, hrows⟩

theorem idle_of_nil {v : View} (h : v.idleNodes = []) : idle v = [] := by rw [idle, h]

theorem idle_of_ne_nil {v : View} (h : v.idleNodes ≠ []) :
    idle v = "" :: idleHeading :: v.idleNodes.map idleLine := by
  rw [idle]
  split
  · exact absurd ‹_› h
  · rfl

theorem idleHeading_mem_idle_iff {v : View} : idleHeading ∈ idle v ↔ v.idleNodes ≠ [] := by
  refine ⟨fun h hnil => ?_, fun h => ?_⟩
  · rw [idle_of_nil hnil] at h
    cases h
  · rw [idle_of_ne_nil h]
    simp

theorem nothingKnown_not_mem_idle (v : View) : nothingKnown ∉ idle v := by
  by_cases h : v.idleNodes = []
  · rw [idle_of_nil h]
    exact List.not_mem_nil
  · have hlines : nothingKnown ∉ v.idleNodes.map idleLine := not_mem_idleLines (by decide) _
    rw [idle_of_ne_nil h, List.mem_cons, List.mem_cons]
    exact not_or.2 ⟨by decide, not_or.2 ⟨by decide, hlines⟩⟩

theorem unlines_append (above below : List String) :
    unlines (above ++ below) = unlines above ++ unlines below := by
  rw [unlines, List.map_append, String.join_append, unlines, unlines]

theorem unlines_idle_eq_empty_iff {v : View} : unlines (idle v) = "" ↔ v.idleNodes = [] := by
  refine ⟨fun h => ?_, fun h => by rw [idle_of_nil h]; rfl⟩
  by_contra hsome
  rw [idle_of_ne_nil hsome] at h
  simp [unlines, String.join_cons, String.append_eq_empty_iff] at h

/-! ## The report -/

/-- The rows of a report are those of the records that its query asks for. -/
theorem exists_inventory_eq (v : View) (query : String) :
    ∃ top foot, inventory v query = top :: ((v.filter query).map (row v) ++ foot) ∧
      (top = heading ↔ v.filter query ≠ []) ∧
      (foot = [] ∨ foot = "" :: idleHeading :: v.idleNodes.map idleLine) := by
  obtain ⟨top, htable, htop⟩ := exists_table_eq v (v.filter query)
  refine ⟨top, if query = "" then idle v else [], by rw [inventory, htable]; rfl, htop, ?_⟩
  split
  · by_cases h : v.idleNodes = []
    · exact .inl (idle_of_nil h)
    · exact .inr (idle_of_ne_nil h)
  · exact .inl rfl

theorem nothingKnown_mem_inventory_iff {v : View} {query : String} :
    nothingKnown ∈ inventory v query ↔ v.nodes = [] ∧ v.filter query = [] := by
  have hfoot : nothingKnown ∉ if query = "" then idle v else [] := by
    split
    · exact nothingKnown_not_mem_idle v
    · exact List.not_mem_nil
  rw [inventory, List.mem_append, nothingKnown_mem_table_iff, or_iff_left hfoot]

theorem idleHeading_mem_inventory_iff {v : View} {query : String} :
    idleHeading ∈ inventory v query ↔ query = "" ∧ v.idleNodes ≠ [] := by
  rw [inventory, List.mem_append, or_iff_right (idleHeading_not_mem_table v _)]
  split
  · rename_i hquery
    rw [idleHeading_mem_idle_iff, and_iff_right hquery]
  · rename_i hquery
    exact iff_of_false List.not_mem_nil fun h => hquery h.1

/-- Only the nodes at the end can tell a query from its trimmed form. -/
theorem unlines_inventory_trim_iff {v : View} {query : String} :
    unlines (inventory v query) = unlines (inventory v (trim query)) ↔
      (trim query = "" → query = "" ∨ v.idleNodes = []) := by
  rw [inventory, inventory, View.filter_trim, unlines_append, unlines_append,
    String.append_right_inj]
  by_cases hquery : query = ""
  · subst hquery
    exact iff_of_true rfl fun _ => .inl rfl
  by_cases hblank : trim query = ""
  · have hnone : unlines [] = "" := rfl
    simp only [hquery, hblank, ↓reduceIte, hnone, false_or, forall_const]
    rw [eq_comm, unlines_idle_eq_empty_iff]
  · simp [hquery, hblank]

/-- The nodes at the end follow the blank queries, but for those that are typed as blanks. -/
theorem idleHeading_of_blank_iff {v : View} {query : String} :
    (idleHeading ∈ inventory v query ↔ trim query = "" ∧ v.idleNodes ≠ []) ↔
      (trim query = "" → query = "" ∨ v.idleNodes = []) := by
  rw [idleHeading_mem_inventory_iff]
  have hempty : query = "" → trim query = "" := by
    rintro rfl
    rfl
  constructor
  · intro h hblank
    by_contra hnot
    obtain ⟨hquery, hidle⟩ := not_or.1 hnot
    exact hquery (h.2 ⟨hblank, hidle⟩).1
  · intro h
    exact ⟨fun ⟨hquery, hidle⟩ => ⟨hempty hquery, hidle⟩,
      fun ⟨hblank, hidle⟩ => ⟨(h hblank).resolve_right hidle, hidle⟩⟩

/-- Nothing is said to be known where nothing is, or where the query asks for none of the records. -/
theorem nothingKnown_of_none_iff {v : View} {query : String} :
    (nothingKnown ∈ inventory v query ↔ v.nodes = [] ∧ v.records = []) ↔
      (v.nodes = [] → v.records ≠ [] → v.filter query ≠ []) := by
  rw [nothingKnown_mem_inventory_iff]
  have hnone (h : v.records = []) : v.filter query = [] := by
    rw [View.filter_eq, h, List.filter_nil]
  constructor
  · intro h hnodes hrecords hfilter
    exact hrecords (h.1 ⟨hnodes, hfilter⟩).2
  · intro h
    refine ⟨fun ⟨hnodes, hfilter⟩ => ⟨hnodes, ?_⟩,
      fun ⟨hnodes, hrecords⟩ => ⟨hnodes, hnone hrecords⟩⟩
    by_contra hrecords
    exact h hnodes hrecords hfilter

/-- A report shows the records that its query asks for, row by row, each with all its texts.  It is
that of the trimmed query, and it shows the nodes without sessions just for queries of blanks, unless
the query itself is made of blanks and there are such nodes.  It says that nothing is known just of
views without nodes and records, unless the view is one without nodes and the query asks for none of
its records.  Both exceptions are exact. -/
theorem inventory_agrees_iff (v : View) (query : String) :
    (∃ top foot, inventory v query = top :: ((v.filter query).map (row v) ++ foot) ∧
      (top = heading ↔ v.filter query ≠ []) ∧
      (foot = [] ∨ foot = "" :: idleHeading :: v.idleNodes.map idleLine)) ∧
    (∀ r ∈ v.filter query, ∀ text ∈ r.texts, IsPart text (row v r)) ∧
    (∀ n ∈ v.idleNodes, IsPart n.node (idleLine n)) ∧
    (unlines (inventory v query) = unlines (inventory v (trim query)) ↔
      (trim query = "" → query = "" ∨ v.idleNodes = [])) ∧
    ((idleHeading ∈ inventory v query ↔ trim query = "" ∧ v.idleNodes ≠ []) ↔
      (trim query = "" → query = "" ∨ v.idleNodes = [])) ∧
    ((nothingKnown ∈ inventory v query ↔ v.nodes = [] ∧ v.records = []) ↔
      (v.nodes = [] → v.records ≠ [] → v.filter query ≠ [])) :=
  ⟨exists_inventory_eq v query, fun _ _ _ htext => isPart_row v htext,
    fun n _ => isPart_idleLine n, unlines_inventory_trim_iff, idleHeading_of_blank_iff,
    nothingKnown_of_none_iff⟩

/-- A blank hides a node without sessions, and nothing is said to be remembered where a session is. -/
theorem inventory_contradicts_view :
    ¬ ((∀ (v : View) (query : String),
          unlines (inventory v query) = unlines (inventory v (trim query))) ∨
        (∀ (v : View) (query : String),
          idleHeading ∈ inventory v query ↔ trim query = "" ∧ v.idleNodes ≠ []) ∨
        ∀ (v : View) (query : String),
          nothingKnown ∈ inventory v query → v.nodes = [] ∧ v.records = []) := by
  have hidle : unlines (inventory { nodes := [⟨"n1", some "1:00", 0⟩] } " ") ≠
      unlines (inventory { nodes := [⟨"n1", some "1:00", 0⟩] } (trim " ")) := by decide +kernel
  have hhidden : idleHeading ∉ inventory { nodes := [⟨"n1", some "1:00", 0⟩] } " " := by
    decide +kernel
  have hsaid : nothingKnown ∈
      inventory { records := [{ identity := ⟨"n1", "train"⟩, note := some "keep" }] } "other" := by
    decide +kernel
  rintro (h | h | h)
  · exact hidle (h _ _)
  · exact hhidden ((h _ _).2 ⟨by decide +kernel, by decide⟩)
  · exact absurd (h _ _ hsaid).2 (by decide)

end Roster.Report
