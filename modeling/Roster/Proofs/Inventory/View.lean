import Mathlib.Data.List.Sort
import Roster.Proofs.Inventory.Lasting
import Roster.Proofs.Text.ByteOrder

/-!
# The order of the view

Records that run are shown by node and name, and the others behind them: the one seen last comes
first, those that no scan has seen come last, and where this leaves it open node and name decide.
Names are compared byte by byte.

* *Order.*  `Record.ShownBefore` says so without a word of sorting, and a view is in this order
  (`pairwise_view`).  No two records are before each other (`ShownBefore.asymm`), so that there is one
  such list of given records only (`eq_of_pairwise_shownBefore`).
* *Content.*  A view holds the records that are filed (`mem_view_iff`), and finds each by its
  identity (`get?_view`).
-/

namespace Roster

/-- By node, then by name, byte by byte. -/
def Identity.Before (a b : Identity) : Prop :=
  Text.bytes a.node < Text.bytes b.node ∨
    a.node = b.node ∧ Text.bytes a.name < Text.bytes b.name

/-- A scan has seen the one later than the other, where what no scan has seen comes last. -/
def SeenAfter : Option Instant → Option Instant → Prop
  | some t, some u => u.seconds < t.seconds ∨ u.seconds = t.seconds ∧ u.nanos < t.nanos
  | some _, none => True
  | none, _ => False

/-- The one record is shown before the other. -/
def Record.ShownBefore (r s : Record) : Prop :=
  match r.status, s.status with
  | .active, .active => r.identity.Before s.identity
  | .active, .stale => True
  | .stale, .active => False
  | .stale, .stale =>
      SeenAfter r.lastSeen s.lastSeen ∨
        r.lastSeen = s.lastSeen ∧ r.identity.Before s.identity

/-! ## What is before what -/

theorem Identity.compare_eq_lt_iff {a b : Identity} : compare a b = .lt ↔ a.Before b := by
  show (compare a.node b.node).then (compare a.name b.name) = .lt ↔ a.Before b
  rw [Ordering.then_eq_lt, Text.compare_eq_lt_iff, Text.compare_eq_lt_iff,
    Std.LawfulEqCmp.compare_eq_iff_eq, Identity.Before]

theorem compare_eq_lt_iff_seenAfter {t u : Option Instant} :
    compare u t = .lt ↔ SeenAfter t u := by
  cases t with
  | none => cases u <;> exact ⟨nofun, nofun⟩
  | some t =>
      cases u with
      | none => exact ⟨fun _ => trivial, fun _ => rfl⟩
      | some u =>
          show (compare u.seconds t.seconds).then (compare u.nanos t.nanos) = .lt ↔ _
          rw [Ordering.then_eq_lt, compare_lt_iff_lt, compare_lt_iff_lt, compare_eq_iff_eq]
          rfl

theorem Identity.Before.asymm {a b : Identity} (h : a.Before b) : ¬ b.Before a := by
  rw [← Identity.compare_eq_lt_iff] at h ⊢
  exact Std.OrientedCmp.not_lt_of_lt h

theorem SeenAfter.asymm {t u : Option Instant} (h : SeenAfter t u) : ¬ SeenAfter u t := by
  rw [← compare_eq_lt_iff_seenAfter] at h ⊢
  exact Std.OrientedCmp.not_lt_of_lt h

namespace Record

theorem ShownBefore.asymm {r s : Record} (h : r.ShownBefore s) : ¬ s.ShownBefore r := by
  simp only [ShownBefore] at h ⊢
  cases hr : r.status <;> cases hs : s.status <;> simp only [hr, hs] at h ⊢
  case active.active => exact h.asymm
  case active.stale => exact id
  case stale.stale =>
    rintro (hseen | ⟨heq, hbefore⟩)
    · rcases h with hseen' | ⟨heq', -⟩
      · exact hseen.asymm hseen'
      · rw [heq'] at hseen
        exact hseen.asymm hseen
    · rcases h with hseen' | ⟨-, hbefore'⟩
      · rw [heq] at hseen'
        exact hseen'.asymm hseen'
      · exact hbefore.asymm hbefore'

/-- There is one way only to show given records in order. -/
theorem eq_of_pairwise_shownBefore {l m : List Record} (hl : l.Pairwise ShownBefore)
    (hm : m.Pairwise ShownBefore) (h : ∀ r, r ∈ l ↔ r ∈ m) : l = m := by
  have hirrefl : Std.Irrefl ShownBefore := ⟨fun r hr => hr.asymm hr⟩
  have hantisymm : Std.Antisymm ShownBefore := ⟨fun r s hrs hsr => absurd hsr hrs.asymm⟩
  exact hl.eq_of_mem_iff hm h

end Record

namespace Inventory

/-! ## Content -/

theorem mem_records_iff {inv : Inventory} {r : Record} :
    r ∈ inv.records ↔ inv.entries.get? r.identity = some r.toEntry := by
  rw [records_eq, List.mem_map, ← Table.mem_entries_iff]
  constructor
  · rintro ⟨e, he, rfl⟩
    exact he
  · intro hr
    exact ⟨_, hr, rfl⟩

theorem mem_view_iff {inv : Inventory} {r : Record} :
    r ∈ inv.view.records ↔ inv.entries.get? r.identity = some r.toEntry :=
  (records_view_perm inv).mem_iff.trans mem_records_iff

theorem get?_view (inv : Inventory) (id : Identity) :
    inv.view.get? id = (inv.entries.get? id).map (recordOf id) := by
  have hfind : inv.view.get? id = (inv.view.records.filter fun r => r.identity = id).head? :=
    List.head?_filter.symm
  rw [hfind, filter_records_view]
  cases inv.entries.get? id <;> rfl

/-! ## Order -/

theorem pairwise_records (inv : Inventory) :
    inv.records.Pairwise fun r s => r.identity.Before s.identity := by
  rw [records_eq, List.pairwise_map]
  exact inv.entries.ascending.imp Identity.compare_eq_lt_iff.1

/-- No two records of a view have the same identity. -/
theorem pairwise_view_identity (inv : Inventory) :
    inv.view.records.Pairwise fun r s => r.identity ≠ s.identity := by
  refine ((records_view_perm inv).pairwise_iff Ne.symm).2 ((pairwise_records inv).imp ?_)
  intro r s hrs heq
  rw [heq] at hrs
  exact hrs.asymm hrs

theorem shownBefore_of_staleOrder {r s : Record} (hr : r.status = .stale) (hs : s.status = .stale)
    (hne : r.identity ≠ s.identity) (h : staleOrder r s = true) : r.ShownBefore s := by
  simp only [Record.ShownBefore, hr, hs]
  rcases Ordering.isLE_then_iff_or.1 h with hseen | ⟨hseen, hid⟩
  · exact Or.inl (compare_eq_lt_iff_seenAfter.1 hseen)
  · refine Or.inr ⟨(Std.LawfulEqOrd.eq_of_compare hseen).symm, ?_⟩
    rw [← Identity.compare_eq_lt_iff]
    rcases Ordering.isLE_iff_eq_lt_or_eq_eq.1 hid with hlt | heq
    · exact hlt
    · exact absurd (Std.LawfulEqOrd.eq_of_compare heq) hne

theorem pairwise_staleOrder (records : List Record) :
    (records.mergeSort staleOrder).Pairwise fun r s => staleOrder r s := by
  let cmp : Record → Record → Ordering :=
    compareLex (fun r s => compareOn (·.lastSeen) s r) (compareOn (·.identity))
  have hcmp : Std.TransCmp cmp := inferInstance
  refine List.pairwise_mergeSort ?_ ?_ records
  · intro r s t hrs hst
    exact hcmp.isLE_trans hrs hst
  · intro r s
    show ((cmp r s).isLE || (cmp s r).isLE) = true
    rw [hcmp.eq_swap]
    cases cmp s r <;> rfl

/-- A view shows its records in order. -/
theorem pairwise_view (inv : Inventory) : inv.view.records.Pairwise Record.ShownBefore := by
  have hactive : ∀ r ∈ inv.records.filter (·.isActive), r.status = .active := by
    intro r hr
    exact beq_iff_eq.1 (List.mem_filter.1 hr).2
  have hstale : ∀ r ∈ (inv.records.filter (!·.isActive)).mergeSort staleOrder,
      r.status = .stale := by
    intro r hr
    have hnot := (List.mem_filter.1 (List.mem_mergeSort.1 hr)).2
    cases hs : r.status with
    | stale => rfl
    | active => simp [Entry.isActive, hs] at hnot
  have hdistinct := pairwise_view_identity inv
  rw [view, List.pairwise_append] at hdistinct
  rw [view, List.pairwise_append]
  refine ⟨?_, ?_, ?_⟩
  · refine ((pairwise_records inv).filter _).imp_of_mem fun {r s} hr hs hrs => ?_
    simp only [Record.ShownBefore, hactive r hr, hactive s hs]
    exact hrs
  · refine ((pairwise_staleOrder _).and hdistinct.2.1).imp_of_mem fun {r s} hr hs hrs => ?_
    exact shownBefore_of_staleOrder (hstale r hr) (hstale s hs) hrs.2 hrs.1
  · intro r hr s hs
    simp only [Record.ShownBefore, hactive r hr, hstale s hs]

end Inventory

end Roster
