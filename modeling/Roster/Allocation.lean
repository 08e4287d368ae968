/-!
# Allocations

A node that the scheduler has given to the user, with the time that is left of it.  A node may be
named more than once, by several jobs or job steps; `dedup` keeps the first.
-/

namespace Roster

/-- A node that is the user's for a time. -/
structure Allocation where
  /-- The node. -/
  node : String
  /-- The time left, in the scheduler's own words. -/
  timeLeft : Option String
deriving DecidableEq, Repr

namespace Allocation

/-- The first allocation of each node. -/
def dedup : List Allocation → List Allocation
  | [] => []
  | a :: rest => a :: (dedup rest).filter fun b => b.node != a.node

/-- No node comes twice. -/
theorem pairwise_dedup (as : List Allocation) : (dedup as).Pairwise fun a b => a.node ≠ b.node := by
  induction as with
  | nil => simp [dedup]
  | cons a rest ih =>
      refine List.pairwise_cons.2 ⟨fun b hb => ?_, ih.filter _⟩
      have hne := (List.mem_filter.1 hb).2
      simp only [bne_iff_ne, ne_eq] at hne
      exact Ne.symm hne

/-- Where no node comes twice, nothing is dropped. -/
theorem dedup_eq_self {as : List Allocation} (h : as.Pairwise fun a b => a.node ≠ b.node) :
    dedup as = as := by
  induction as with
  | nil => rfl
  | cons a rest ih =>
      obtain ⟨h1, h2⟩ := List.pairwise_cons.1 h
      rw [dedup, ih h2]
      congr 1
      exact List.filter_eq_self.2 fun b hb => by simpa using Ne.symm (h1 b hb)

example : dedup [⟨"a", some "1"⟩, ⟨"b", none⟩, ⟨"a", none⟩] = [⟨"a", some "1"⟩, ⟨"b", none⟩] := by
  decide

end Allocation

end Roster
