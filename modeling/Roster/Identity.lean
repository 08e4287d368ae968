import Roster.Text.Lines

/-!
# Identities

A session is known by its node and its name on that node.  Identities are ordered by node, then by
name.

In files and messages an identity is written as one text, its *key*: `node:name`.  Node names hold
no colon, so the first colon of a key is the separator, and the name may hold more of them.  A key
with an empty part denotes nothing.
-/

namespace Roster

/-- A session name on a node. -/
structure Identity where
  /-- The node. -/
  node : String
  /-- The name of the session. -/
  name : String
deriving DecidableEq, Repr, Inhabited

namespace Identity

/-- By node, then by name. -/
instance : Ord Identity where
  compare a b := (compare a.node b.node).then (compare a.name b.name)

instance : Std.TransOrd Identity :=
  inferInstanceAs (Std.TransCmp (compareLex (compareOn Identity.node) (compareOn Identity.name)))

instance : Std.LawfulEqOrd Identity where
  eq_of_compare {a b} h := by
    have h' : (compare a.node b.node).then (compare a.name b.name) = .eq := h
    obtain ⟨h1, h2⟩ := Ordering.then_eq_eq.1 h'
    cases a
    cases b
    simp_all

/-- The text that denotes the identity. -/
def key (id : Identity) : String := id.node ++ ":" ++ id.name

/-- The identity that a key denotes. -/
def ofKey? (key : String) : Option Identity :=
  match Text.cut ':' key.toList with
  | (node, some name) =>
      if node = [] ∨ name = [] then none
      else some ⟨String.ofList node, String.ofList name⟩
  | (_, none) => none

/-- Identities in their order. -/
def sort (ids : List Identity) : List Identity := ids.mergeSort fun a b => (compare a b).isLE

/-- A key denotes its identity again, provided that the node holds no colon and no part is
empty. -/
theorem ofKey?_key {id : Identity} (hc : ':' ∉ id.node.toList) (hn : id.node ≠ "")
    (hm : id.name ≠ "") : ofKey? id.key = some id := by
  have hk : id.key.toList = id.node.toList ++ ':' :: id.name.toList := by
    simp [key]
  have h1 : id.node.toList ≠ [] := by simpa using hn
  have h2 : id.name.toList ≠ [] := by simpa using hm
  simp [ofKey?, hk, Text.cut_append hc, h1, h2]

/-- Only the key of an identity denotes it. -/
theorem key_of_ofKey? {k : String} {id : Identity} (h : ofKey? k = some id) : id.key = k := by
  unfold ofKey? at h
  split at h
  · next node name hcut =>
      split at h
      · simp at h
      · obtain rfl := Option.some.inj h
        have := (Text.cut_eq_some hcut).1
        apply String.toList_inj.1
        simp [key, this]
  · simp at h

example : ofKey? "gpu-07:train:run" = some ⟨"gpu-07", "train:run"⟩ := by decide +kernel

example : ofKey? "nocolon" = none ∧ ofKey? ":x" = none ∧ ofKey? "n:" = none := by decide +kernel

end Identity

end Roster
