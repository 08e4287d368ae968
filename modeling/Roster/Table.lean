/-!
# Tables

A table maps keys to values and lists its entries with strictly ascending keys.  Ascending keys
are part of the type, so two tables with the same answers are the same table (`Table.ext_get?`),
and the order in which the entries were put in leaves no trace.

Each operation has one equation through the view `get?`: `get?_insert`, `get?_erase`,
`get?_filter` and `get?_mapValues`.  `mem_entries_iff` ties the view to the listing.
-/

namespace Roster

variable {κ ν : Type} [Ord κ]

/-- The first entry's key comes before the second's. -/
def Before (a b : κ × ν) : Prop := compare a.1 b.1 = .lt

/-- Entries with strictly ascending keys. -/
structure Table (κ ν : Type) [Ord κ] where
  /-- The entries in the order of their keys. -/
  entries : List (κ × ν)
  /-- No key comes twice, and none before a smaller one. -/
  ascending : entries.Pairwise Before

namespace Table

instance [DecidableEq κ] [DecidableEq ν] : DecidableEq (Table κ ν) := fun s t =>
  decidable_of_iff (s.entries = t.entries) <| by
    constructor
    · intro h; cases s; cases t; simp_all
    · rintro rfl; rfl

/-- The table without entries. -/
def empty : Table κ ν := ⟨[], List.Pairwise.nil⟩

instance : EmptyCollection (Table κ ν) := ⟨empty⟩

instance : Inhabited (Table κ ν) := ⟨empty⟩

/-- The value of a key in a list of entries. -/
def lookup (k : κ) : List (κ × ν) → Option ν
  | [] => none
  | (k', v) :: rest => if compare k k' = .eq then some v else lookup k rest

/-- The value of a key. -/
def get? (t : Table κ ν) (k : κ) : Option ν := lookup k t.entries

/-- Whether the key has a value. -/
def contains (t : Table κ ν) (k : κ) : Bool := (t.get? k).isSome

/-- The keys in ascending order. -/
def keys (t : Table κ ν) : List κ := t.entries.map (·.1)

/-- The values in the order of their keys. -/
def values (t : Table κ ν) : List ν := t.entries.map (·.2)

/-- Entries with the value of one key set. -/
def put (k : κ) (v : ν) : List (κ × ν) → List (κ × ν)
  | [] => [(k, v)]
  | (k', v') :: rest =>
      match compare k k' with
      | .lt => (k, v) :: (k', v') :: rest
      | .eq => (k, v) :: rest
      | .gt => (k', v') :: put k v rest

theorem mem_put {k : κ} {v : ν} {l : List (κ × ν)} {e : κ × ν} (h : e ∈ put k v l) :
    e = (k, v) ∨ e ∈ l := by
  induction l with
  | nil => simpa [put] using h
  | cons a rest ih =>
      obtain ⟨k', v'⟩ := a
      unfold put at h
      split at h
      · simpa using h
      · rcases List.mem_cons.1 h with h | h
        · exact .inl h
        · exact .inr (List.mem_cons_of_mem _ h)
      · rcases List.mem_cons.1 h with h | h
        · exact .inr (h ▸ List.mem_cons_self ..)
        · exact (ih h).imp_right (List.mem_cons_of_mem _)

section Order

variable [Std.TransOrd κ] [Std.LawfulEqOrd κ]

theorem pairwise_put {k : κ} {v : ν} {l : List (κ × ν)} (h : l.Pairwise Before) :
    (put k v l).Pairwise Before := by
  induction l with
  | nil => simp [put]
  | cons a rest ih =>
      obtain ⟨k', v'⟩ := a
      obtain ⟨h1, h2⟩ := List.pairwise_cons.1 h
      unfold put
      split
      · next hlt =>
          refine List.pairwise_cons.2 ⟨fun e he => ?_, h⟩
          rcases List.mem_cons.1 he with rfl | he
          · exact hlt
          · exact Std.TransCmp.lt_trans hlt (h1 e he)
      · next heq =>
          have hk : k = k' := Std.LawfulEqOrd.eq_of_compare heq
          exact List.pairwise_cons.2 ⟨fun e he => hk ▸ h1 e he, h2⟩
      · next hgt =>
          refine List.pairwise_cons.2 ⟨fun e he => ?_, ih h2⟩
          rcases mem_put he with rfl | he
          · exact Std.OrientedCmp.lt_of_gt hgt
          · exact h1 e he

/-- The table with the value of one key set. -/
def insert (t : Table κ ν) (k : κ) (v : ν) : Table κ ν :=
  ⟨put k v t.entries, pairwise_put t.ascending⟩

/-- The table without one key. -/
def erase (t : Table κ ν) (k : κ) : Table κ ν :=
  ⟨t.entries.filter fun e => compare k e.1 != .eq, t.ascending.filter _⟩

/-- The entries that pass a test. -/
def filter (t : Table κ ν) (keep : κ → ν → Bool) : Table κ ν :=
  ⟨t.entries.filter fun e => keep e.1 e.2, t.ascending.filter _⟩

/-- The values changed, each with a look at its key. -/
def mapValues {ω : Type} (t : Table κ ν) (f : κ → ν → ω) : Table κ ω :=
  ⟨t.entries.map fun e => (e.1, f e.1 e.2), by
    rw [List.pairwise_map]
    exact t.ascending⟩

/-- The entries put into a table one after the other, so that the last one of a key stays. -/
def insertAll (t : Table κ ν) (entries : List (κ × ν)) : Table κ ν :=
  entries.foldl (fun t e => t.insert e.1 e.2) t

/-- The table of a list of entries. -/
def ofList (entries : List (κ × ν)) : Table κ ν := insertAll empty entries

/-- The values that a function gives, where it gives one. -/
def filterMap {ω : Type} (t : Table κ ν) (f : κ → ν → Option ω) : Table κ ω :=
  ofList (t.entries.filterMap fun e => (f e.1 e.2).map (e.1, ·))

/-! ## Laws of the view -/

omit [Std.TransOrd κ] in
theorem lookup_eq_some_of_mem {k : κ} {v : ν} {l : List (κ × ν)} (h : l.Pairwise Before)
    (hm : (k, v) ∈ l) : lookup k l = some v := by
  induction l with
  | nil => simp at hm
  | cons a rest ih =>
      obtain ⟨k', v'⟩ := a
      obtain ⟨h1, h2⟩ := List.pairwise_cons.1 h
      rcases List.mem_cons.1 hm with heq | hm
      · obtain ⟨rfl, rfl⟩ := Prod.mk.inj heq
        simp [lookup]
      · have hlt : compare k' k = .lt := h1 _ hm
        have hne : compare k k' ≠ .eq := by
          intro he
          rw [Std.LawfulEqOrd.eq_of_compare he, Std.ReflOrd.compare_self] at hlt
          cases hlt
        rw [lookup, if_neg hne, ih h2 hm]

omit [Std.TransOrd κ] in
theorem mem_of_lookup_eq_some {k : κ} {v : ν} {l : List (κ × ν)} (h : lookup k l = some v) :
    (k, v) ∈ l := by
  induction l with
  | nil => simp [lookup] at h
  | cons a rest ih =>
      obtain ⟨k', v'⟩ := a
      unfold lookup at h
      split at h
      · next heq =>
          rw [Std.LawfulEqOrd.eq_of_compare heq, Option.some.inj h]
          exact List.mem_cons_self ..
      · exact List.mem_cons_of_mem _ (ih h)

omit [Std.TransOrd κ] in
/-- The listing holds exactly the answers of the view. -/
theorem mem_entries_iff {t : Table κ ν} {k : κ} {v : ν} :
    (k, v) ∈ t.entries ↔ t.get? k = some v :=
  ⟨lookup_eq_some_of_mem t.ascending, mem_of_lookup_eq_some⟩

omit [Std.TransOrd κ] [Std.LawfulEqOrd κ] in
@[simp] theorem get?_empty (k : κ) : (empty : Table κ ν).get? k = none := rfl

omit [Std.TransOrd κ] in
theorem lookup_put {k j : κ} {v : ν} {l : List (κ × ν)} :
    lookup j (put k v l) = if compare j k = .eq then some v else lookup j l := by
  induction l with
  | nil => simp [put, lookup]
  | cons a rest ih =>
      obtain ⟨k', v'⟩ := a
      unfold put
      split
      · rw [lookup]
      · next heq =>
          have hk : k = k' := Std.LawfulEqOrd.eq_of_compare heq
          subst hk
          simp only [lookup]
          split <;> simp
      · next hgt =>
          simp only [lookup, ih]
          by_cases hj : compare j k' = .eq
          · have : compare j k ≠ .eq := by
              intro he
              rw [← Std.LawfulEqOrd.eq_of_compare he, hj] at hgt
              cases hgt
            simp [hj, this]
          · simp [hj]

/-- The key put in has its new value, and the others have their old ones. -/
theorem get?_insert (t : Table κ ν) (k j : κ) (v : ν) :
    (t.insert k v).get? j = if compare j k = .eq then some v else t.get? j := lookup_put

@[simp] theorem get?_insert_self (t : Table κ ν) (k : κ) (v : ν) :
    (t.insert k v).get? k = some v := by
  simp [get?_insert]

theorem get?_insert_of_ne (t : Table κ ν) {k j : κ} (h : j ≠ k) (v : ν) :
    (t.insert k v).get? j = t.get? j := by
  simp [get?_insert, h]

omit [Std.TransOrd κ] in
theorem lookup_filter {l : List (κ × ν)} {keep : κ × ν → Bool} (h : l.Pairwise Before) (j : κ) :
    lookup j (l.filter keep) = (lookup j l).filter fun v => keep (j, v) := by
  induction l with
  | nil => rfl
  | cons a rest ih =>
      obtain ⟨k', v'⟩ := a
      obtain ⟨h1, h2⟩ := List.pairwise_cons.1 h
      by_cases hj : compare j k' = .eq
      · have hk : j = k' := Std.LawfulEqOrd.eq_of_compare hj
        subst hk
        have hnone : lookup j rest = none := by
          cases hl : lookup j rest with
          | none => rfl
          | some v =>
              have hlt : compare j j = .lt := h1 _ (mem_of_lookup_eq_some hl)
              rw [Std.ReflOrd.compare_self] at hlt
              cases hlt
        cases hp : keep (j, v')
        · simp [Option.filter, hp, lookup, ih h2, hnone]
        · simp [Option.filter, hp, lookup]
      · cases hp : keep (k', v') <;> simp [hp, lookup, hj, ih h2]

omit [Std.TransOrd κ] in
/-- The key taken out has no value, and the others have their old ones. -/
theorem get?_erase (t : Table κ ν) (k j : κ) :
    (t.erase k).get? j = if compare k j = .eq then none else t.get? j := by
  unfold erase get?
  rw [lookup_filter t.ascending]
  by_cases h : compare k j = .eq
  · cases lookup j t.entries <;> simp [Option.filter, h]
  · cases lookup j t.entries <;> simp [Option.filter, h]

omit [Std.TransOrd κ] in
theorem get?_filter (t : Table κ ν) (keep : κ → ν → Bool) (j : κ) :
    (t.filter keep).get? j = (t.get? j).filter fun v => keep j v :=
  lookup_filter t.ascending j

omit [Std.TransOrd κ] in
theorem lookup_map {ω : Type} (l : List (κ × ν)) (f : κ → ν → ω) (j : κ) :
    lookup j (l.map fun e => (e.1, f e.1 e.2)) = (lookup j l).map fun v => f j v := by
  induction l with
  | nil => rfl
  | cons a rest ih =>
      obtain ⟨k', v'⟩ := a
      by_cases hj : compare j k' = .eq
      · have hk : j = k' := Std.LawfulEqOrd.eq_of_compare hj
        subst hk
        simp [lookup]
      · simp [lookup, hj, ih]

omit [Std.TransOrd κ] in
theorem get?_mapValues {ω : Type} (t : Table κ ν) (f : κ → ν → ω) (j : κ) :
    (t.mapValues f).get? j = (t.get? j).map fun v => f j v :=
  lookup_map t.entries f j

theorem entries_ext {l m : List (κ × ν)} (hl : l.Pairwise Before) (hm : m.Pairwise Before)
    (h : ∀ e, e ∈ l ↔ e ∈ m) : l = m := by
  induction l generalizing m with
  | nil =>
      cases m with
      | nil => rfl
      | cons b m => exact absurd ((h b).2 (List.mem_cons_self ..)) (by simp)
  | cons a l ih =>
      cases m with
      | nil => exact absurd ((h a).1 (List.mem_cons_self ..)) (by simp)
      | cons b m =>
          obtain ⟨ha, hl'⟩ := List.pairwise_cons.1 hl
          obtain ⟨hb, hm'⟩ := List.pairwise_cons.1 hm
          have irrefl : ∀ e : κ × ν, ¬ Before e e := by
            intro e he
            rw [Before, Std.ReflOrd.compare_self] at he
            cases he
          have hab : a = b := by
            rcases List.mem_cons.1 ((h a).1 (List.mem_cons_self ..)) with h1 | h1
            · exact h1
            · rcases List.mem_cons.1 ((h b).2 (List.mem_cons_self ..)) with h2 | h2
              · exact h2.symm
              · exact absurd (Std.TransCmp.lt_trans (ha _ h2) (hb _ h1)) (irrefl a)
          subst hab
          refine congrArg (a :: ·) (ih hl' hm' fun e => ⟨fun he => ?_, fun he => ?_⟩)
          · rcases List.mem_cons.1 ((h e).1 (List.mem_cons_of_mem _ he)) with h1 | h1
            · exact absurd (h1 ▸ ha e he) (irrefl a)
            · exact h1
          · rcases List.mem_cons.1 ((h e).2 (List.mem_cons_of_mem _ he)) with h1 | h1
            · exact absurd (h1 ▸ hb e he) (irrefl a)
            · exact h1

/-- Tables that answer alike are equal. -/
theorem ext_get? {s t : Table κ ν} (h : ∀ k, s.get? k = t.get? k) : s = t := by
  have he : s.entries = t.entries := by
    refine entries_ext s.ascending t.ascending fun e => ?_
    rw [mem_entries_iff (k := e.1) (v := e.2), mem_entries_iff (k := e.1) (v := e.2), h]
  cases s
  cases t
  simp_all

end Order

end Table

end Roster
