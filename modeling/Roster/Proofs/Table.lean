import Roster.Table

/-!
# Tables entry by entry

Operations on tables walk over a listing and treat one key after the other.  Since keys ascend
strictly, a walk meets a key once at most, so what it leaves at a key can be told from the entry
of that key alone.

`get?_foldl` says so of a walk that changes a second table, `flatMap_entries` of one that gathers
a list, and `filter_entries` of the part of a listing that belongs to one key.

A table can be made from any list of entries.  `mem_of_get?_ofList` says that it holds nothing
else, and `get?_ofList` that it holds what the list says of a key with one voice.
-/

namespace Roster

namespace Table

variable {κ ν ω : Type} [Ord κ] [Std.LawfulEqOrd κ] [DecidableEq κ]

/-! ## The view by equality of keys -/

theorem get?_insert_ite [Std.TransOrd κ] (t : Table κ ν) (k j : κ) (v : ν) :
    (t.insert k v).get? j = if j = k then some v else t.get? j := by
  rw [get?_insert]
  simp only [Std.LawfulEqCmp.compare_eq_iff_eq]

theorem get?_erase_ite (t : Table κ ν) (k j : κ) :
    (t.erase k).get? j = if j = k then none else t.get? j := by
  rw [get?_erase]
  by_cases hj : j = k
  · subst hj
    simp
  · have hk : k ≠ j := Ne.symm hj
    simp [hj, hk]

theorem lookup_cons (k j : κ) (v : ν) (l : List (κ × ν)) :
    lookup j ((k, v) :: l) = if j = k then some v else lookup j l := by
  simp only [lookup, Std.LawfulEqCmp.compare_eq_iff_eq]

omit [DecidableEq κ] in
/-- Behind the entry of a key there is no other one of it. -/
theorem lookup_of_pairwise_cons {k : κ} {v : ν} {l : List (κ × ν)}
    (h : ((k, v) :: l).Pairwise Before) : lookup k l = none := by
  cases hl : lookup k l with
  | none => rfl
  | some w =>
      have hlt : compare k k = .lt := List.rel_of_pairwise_cons h (mem_of_lookup_eq_some hl)
      rw [Std.ReflOrd.compare_self] at hlt
      cases hlt

/-! ## Walks -/

/-- What a walk leaves at a key, if each of its steps treats the key that it meets. -/
theorem lookup_foldl {f : Table κ ν → κ × ω → Table κ ν} {g : κ → ω → Option ν → Option ν}
    (hf : ∀ t e j, (f t e).get? j = if j = e.1 then g j e.2 (t.get? j) else t.get? j)
    {l : List (κ × ω)} (hl : l.Pairwise Before) (base : Table κ ν) (j : κ) :
    (l.foldl f base).get? j = ((lookup j l).map fun w => g j w (base.get? j)).getD (base.get? j) := by
  induction l generalizing base with
  | nil => rfl
  | cons a rest ih =>
      obtain ⟨k, w⟩ := a
      rw [List.foldl_cons, ih hl.of_cons, lookup_cons, hf]
      by_cases hj : j = k
      · subst hj
        simp [lookup_of_pairwise_cons hl]
      · simp [hj]

/-- What a walk over a table leaves at a key. -/
theorem get?_foldl {f : Table κ ν → κ × ω → Table κ ν} {g : κ → ω → Option ν → Option ν}
    (hf : ∀ t e j, (f t e).get? j = if j = e.1 then g j e.2 (t.get? j) else t.get? j)
    (source : Table κ ω) (base : Table κ ν) (j : κ) :
    (source.entries.foldl f base).get? j =
      ((source.get? j).map fun w => g j w (base.get? j)).getD (base.get? j) :=
  lookup_foldl hf source.ascending base j

/-- The values that a function gives are those it gives of the values of before. -/
theorem get?_filterMap [Std.TransOrd κ] (t : Table κ ν) (f : κ → ν → Option ω) (j : κ) :
    (t.filterMap f).get? j = (t.get? j).bind (f j) := by
  unfold filterMap ofList insertAll
  rw [List.foldl_filterMap, get?_foldl (g := fun k v old => (f k v).or old)]
  · cases t.get? j <;> simp
  · intro s e k
    cases he : f e.1 e.2 with
    | none =>
        by_cases hk : k = e.1
        · simp [hk, he]
        · simp [hk]
    | some w =>
        by_cases hk : k = e.1
        · simp [hk, he]
        · simp [hk, get?_insert_ite]

/-- What a walk gathers, if it gathers from one key only. -/
theorem flatMap_entries {α : Type} (t : Table κ ν) (k : κ) (h : ν → List α) :
    (t.entries.flatMap fun e => if e.1 = k then h e.2 else []) = ((t.get? k).map h).getD [] := by
  suffices hl : ∀ l : List (κ × ν), l.Pairwise Before →
      (l.flatMap fun e => if e.1 = k then h e.2 else []) = ((lookup k l).map h).getD [] from
    hl t.entries t.ascending
  intro l hl
  induction l with
  | nil => rfl
  | cons a rest ih =>
      obtain ⟨k', v⟩ := a
      rw [List.flatMap_cons, ih hl.of_cons, lookup_cons]
      by_cases hk : k = k'
      · subst hk
        simp [lookup_of_pairwise_cons hl]
      · simp [hk, Ne.symm hk]

/-- The entries of one key. -/
theorem filter_entries (t : Table κ ν) (k : κ) :
    (t.entries.filter fun e => e.1 = k) = (t.get? k).toList.map (k, ·) := by
  have h := flatMap_entries t k fun v => [(k, v)]
  rw [show ((t.get? k).map fun v => [(k, v)]).getD [] = (t.get? k).toList.map (k, ·) by
    cases t.get? k <;> rfl] at h
  rw [← h]
  induction t.entries with
  | nil => rfl
  | cons a rest ih =>
      obtain ⟨k', v⟩ := a
      rw [List.filter_cons, List.flatMap_cons, ih]
      by_cases hk : k' = k
      · simp [hk]
      · simp [hk]

/-! ## Tables of lists -/

theorem get?_insertAll_eq_none [Std.TransOrd κ] {l : List (κ × ν)} {base : Table κ ν} {k : κ} :
    (base.insertAll l).get? k = none ↔ base.get? k = none ∧ ∀ v, (k, v) ∉ l := by
  unfold insertAll
  induction l generalizing base with
  | nil => simp
  | cons e rest ih =>
      obtain ⟨k', v'⟩ := e
      rw [List.foldl_cons, ih, get?_insert_ite]
      by_cases hk : k = k'
      · subst hk
        rw [if_pos rfl]
        exact ⟨fun h => absurd h.1 (Option.some_ne_none v'),
          fun h => absurd (List.mem_cons_self ..) (h.2 v')⟩
      · simp [hk]

theorem mem_of_get?_insertAll [Std.TransOrd κ] {l : List (κ × ν)} {base : Table κ ν} {k : κ}
    {v : ν} (h : (base.insertAll l).get? k = some v) : (k, v) ∈ l ∨ base.get? k = some v := by
  unfold insertAll at h
  induction l generalizing base with
  | nil => exact Or.inr h
  | cons e rest ih =>
      obtain ⟨k', v'⟩ := e
      rcases ih h with hmem | hbase
      · exact Or.inl (List.mem_cons_of_mem _ hmem)
      · rw [get?_insert_ite] at hbase
        split at hbase
        next hk =>
          cases hbase
          exact Or.inl (hk ▸ List.mem_cons_self ..)
        next => exact Or.inr hbase

/-- A table holds nothing that the list it is made from does not. -/
theorem mem_of_get?_ofList [Std.TransOrd κ] {l : List (κ × ν)} {k : κ} {v : ν}
    (h : (ofList l).get? k = some v) : (k, v) ∈ l :=
  (mem_of_get?_insertAll h).resolve_right nofun

/-- A key that a list gives one value only has that value in the table. -/
theorem get?_ofList [Std.TransOrd κ] {l : List (κ × ν)} {k : κ} {v : ν} (hmem : (k, v) ∈ l)
    (h : ∀ w, (k, w) ∈ l → w = v) : (ofList l).get? k = some v := by
  cases hget : (ofList l).get? k with
  | none => exact absurd hmem ((get?_insertAll_eq_none.1 hget).2 v)
  | some w => rw [h w (mem_of_get?_ofList hget)]

/-- A table can be made from its entries again. -/
theorem ofList_entries [Std.TransOrd κ] (t : Table κ ν) : ofList t.entries = t := by
  refine ext_get? fun k => ?_
  cases hget : t.get? k with
  | none =>
      refine get?_insertAll_eq_none.2 ⟨rfl, fun v hmem => ?_⟩
      rw [mem_entries_iff.1 hmem] at hget
      cases hget
  | some v =>
      refine get?_ofList (mem_entries_iff.2 hget) fun w hmem => ?_
      rw [mem_entries_iff.1 hmem] at hget
      exact Option.some.inj hget

end Table

end Roster
