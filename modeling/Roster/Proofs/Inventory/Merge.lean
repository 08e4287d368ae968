import Roster.Inventory
import Roster.Proofs.Table

/-!
# Merging, one identity at a time

A merge rebuilds the whole table of entries, but what it files under an identity depends only on
what was filed there before and on what the scan tells of that identity.

* *Listings.*  `listedAt` is what a scan lists under an identity.  A session that is listed once
  keeps note and output of before, one that is listed again has none of them, and one that is not
  listed is kept as stale if it holds user data (`sessionAt`, `get?_mergeSessions`).
* *Outputs.*  `outputAt` is the output that a scan took of an identity, and it is filed if there
  is an entry to file it in (`mergeAt`).

`get?_mergeEntries` is the outcome: the merged table holds `mergeAt` of what the table held.
-/

namespace Roster

namespace Inventory

/-! ## What a scan tells of an identity -/

/-- The sessions that a scan lists under an identity, in their order. -/
def listedAt (f : Findings) (id : Identity) : List Session :=
  (((f.probed.get? id.node).map (·.sessions)).getD []).filter fun s => s.name = id.name

/-- The output that a scan took of an identity. -/
def outputAt (f : Findings) (id : Identity) : Option String :=
  (f.probed.get? id.node).bind (·.captures.get? id.name)

/-- The entry of a session that is listed, with the note and the output of before. -/
def seen (time : Instant) (s : Session) (prior : Option Entry) : Entry where
  createdAt := s.createdAt
  attached := s.attached
  status := .active
  lastSeen := some time
  note := prior.bind (·.note)
  captured := prior.bind (·.captured)

/-- What stays of an entry that no listing has claimed. -/
def unseen (prior : Option Entry) : Option Entry :=
  (prior.map Entry.retired).filter Entry.hasUserData

/-- What the listings of a scan leave under an identity. -/
def sessionAt (f : Findings) (id : Identity) (prior : Option Entry) : Option Entry :=
  match listedAt f id with
  | [] => unseen prior
  | [s] => some (seen f.completedAt s prior)
  | _ :: s :: rest => some (seen f.completedAt ((s :: rest).getLast (by simp)) none)

/-- An entry with the output that was taken, if one was. -/
def withOutput (time : Instant) (output : Option String) (e : Entry) : Entry :=
  { e with captured := (output.map fun text => ⟨text, time⟩).or e.captured }

/-- What a scan leaves under an identity. -/
def mergeAt (f : Findings) (id : Identity) (prior : Option Entry) : Option Entry :=
  (sessionAt f id prior).map (withOutput f.completedAt (outputAt f id))

/-! ## Listings -/

theorem mk_eq_iff {node name : String} {id : Identity} :
    (⟨node, name⟩ : Identity) = id ↔ node = id.node ∧ name = id.name := by
  cases id
  simp

theorem filter_listed (f : Findings) (id : Identity) :
    ((listed f).filter fun e => (⟨e.1, e.2.name⟩ : Identity) = id) =
      (listedAt f id).map (id.node, ·) := by
  have h := Table.flatMap_entries f.probed id.node fun n =>
    (n.sessions.filter fun s => s.name = id.name).map (id.node, ·)
  have he : ((f.probed.get? id.node).map fun n =>
      (n.sessions.filter fun s => s.name = id.name).map (id.node, ·)).getD [] =
      (listedAt f id).map (id.node, ·) := by
    unfold listedAt
    cases f.probed.get? id.node <;> rfl
  rw [← he, ← h, listed, List.filter_flatMap]
  congr 1
  funext e
  by_cases hn : e.1 = id.node
  · simp [hn, List.filter_map, Function.comp_def, mk_eq_iff]
  · simp [hn, mk_eq_iff]

/-- What is filed under an identity, in the entries of before and in the new ones. -/
def Merging.at (m : Merging) (id : Identity) : Option Entry × Option Entry :=
  (m.previous.get? id, m.next.get? id)

theorem claim_at (time : Instant) (id : Identity) (m : Merging) (e : String × Session) :
    (claim time e.1 m e.2).at id =
      if (⟨e.1, e.2.name⟩ : Identity) = id then (none, some (seen time e.2 (m.at id).1))
      else m.at id := by
  by_cases h : (⟨e.1, e.2.name⟩ : Identity) = id
  · subst h
    simp [Merging.at, claim, seen, Table.get?_erase_ite]
  · have h' : id ≠ (⟨e.1, e.2.name⟩ : Identity) := Ne.symm h
    simp [Merging.at, claim, Table.get?_erase_ite, Table.get?_insert_ite, h, h']

/-- The sessions listed under an identity are claimed there one after the other. -/
theorem claimAll_at (entries : Table Identity Entry) (f : Findings) (id : Identity) :
    (claimAll entries f).at id =
      (listedAt f id).foldl (fun m s => (none, some (seen f.completedAt s m.1)))
        (entries.get? id, none) := by
  have hclaims : (listed f).foldl
      (fun m e => if (⟨e.1, e.2.name⟩ : Identity) = id then
        (none, some (seen f.completedAt e.2 m.1)) else m)
      ((⟨entries, .empty⟩ : Merging).at id) = (claimAll entries f).at id :=
    List.foldl_hom (Merging.at · id) fun m e => (claim_at f.completedAt id m e).symm
  have hlisted : ((listedAt f id).map (id.node, ·)).foldl
      (fun m e => (none, some (seen f.completedAt e.2 m.1)))
      ((⟨entries, .empty⟩ : Merging).at id) =
      (listedAt f id).foldl (fun m s => (none, some (seen f.completedAt s m.1)))
        (entries.get? id, none) :=
    List.foldl_map
  rw [← hclaims, ← hlisted, ← filter_listed, List.foldl_filter]
  simp only [decide_eq_true_eq]

/-- Once a session was claimed, the last one listed counts, and nothing of before is left. -/
theorem foldl_seen (time : Instant) (l : List Session) (hl : l ≠ []) (old : Option Entry) :
    l.foldl (fun m s => (none, some (seen time s m.1))) ((none : Option Entry), old) =
      (none, some (seen time (l.getLast hl) none)) := by
  induction l generalizing old with
  | nil => exact absurd rfl hl
  | cons s rest ih =>
      cases rest with
      | nil => rfl
      | cons s' rest => exact ih (by simp) _

theorem get?_keepRest (m : Merging) (id : Identity) :
    (keepRest m).get? id = (unseen (m.previous.get? id)).or (m.next.get? id) := by
  unfold keepRest
  rw [Table.get?_foldl
    (g := fun _ e old => if e.retired.hasUserData then some e.retired else old)]
  · unfold unseen
    cases m.previous.get? id with
    | none => rfl
    | some e => cases he : e.retired.hasUserData <;> simp [Option.filter, he]
  · intro t e j
    by_cases hj : j = e.1
    · cases e.2.retired.hasUserData <;> simp [hj]
    · cases e.2.retired.hasUserData <;> simp [hj, Table.get?_insert_ite]

/-- What the listings of a scan leave under an identity depends on what was filed there. -/
theorem get?_mergeSessions (entries : Table Identity Entry) (f : Findings) (id : Identity) :
    (mergeSessions entries f).get? id = sessionAt f id (entries.get? id) := by
  have h := claimAll_at entries f id
  unfold mergeSessions sessionAt
  rw [get?_keepRest]
  split
  next hl =>
    rw [hl] at h
    obtain ⟨h1, h2⟩ := Prod.mk.inj h
    rw [h1, h2, Option.or_none]
  next s hl =>
    rw [hl] at h
    obtain ⟨h1, h2⟩ := Prod.mk.inj h
    rw [h1, h2]
    rfl
  next s s' rest hl =>
    rw [hl, List.foldl_cons, foldl_seen _ (s' :: rest) (by simp)] at h
    obtain ⟨h1, h2⟩ := Prod.mk.inj h
    rw [h1, h2]
    rfl

/-! ## Outputs -/

theorem filter_capturesOf (f : Findings) (id : Identity) :
    ((capturesOf f).filter fun c => c.1 = id) = (outputAt f id).toList.map (id, ·) := by
  have h := Table.flatMap_entries f.probed id.node fun n =>
    (n.captures.get? id.name).toList.map (id, ·)
  have he : ((f.probed.get? id.node).map fun n =>
      (n.captures.get? id.name).toList.map (id, ·)).getD [] =
      (outputAt f id).toList.map (id, ·) := by
    unfold outputAt
    cases f.probed.get? id.node <;> rfl
  rw [← he, ← h, capturesOf, List.filter_flatMap]
  congr 1
  funext e
  by_cases hn : e.1 = id.node
  · have hc := Table.filter_entries e.2.captures id.name
    simp [hn, List.filter_map, Function.comp_def, mk_eq_iff, hc]
  · simp [hn, List.filter_map, Function.comp_def, mk_eq_iff]

theorem mem_capturesOf {f : Findings} {id : Identity} {text : String} :
    (id, text) ∈ capturesOf f ↔ outputAt f id = some text := by
  have hfilter : (id, text) ∈ (capturesOf f).filter (fun c => c.1 = id) ↔
      (id, text) ∈ capturesOf f := by
    simp
  rw [← hfilter, filter_capturesOf]
  simp

/-- Filing an output changes the entry of its own identity only, and none if there is no entry. -/
theorem get?_fileCapture (time : Instant) (entries : Table Identity Entry)
    (c : Identity × String) (id : Identity) :
    (fileCapture time entries c).get? id =
      if c.1 = id then (entries.get? id).map (withOutput time (some c.2))
      else entries.get? id := by
  unfold fileCapture
  by_cases h : c.1 = id
  · subst h
    cases he : entries.get? c.1 <;> simp [he, withOutput]
  · have h' : id ≠ c.1 := Ne.symm h
    cases he : entries.get? c.1 <;> simp [h, h', Table.get?_insert_ite]

theorem withOutput_none (time : Instant) : withOutput time none = id := rfl

/-- The merged table holds under each identity what the merge makes of the entry filed there. -/
theorem get?_mergeEntries (entries : Table Identity Entry) (f : Findings) (id : Identity) :
    (mergeEntries entries f).get? id = mergeAt f id (entries.get? id) := by
  unfold mergeEntries mergeAt
  have houtputs : (capturesOf f).foldl
      (fun old c => if c.1 = id then old.map (withOutput f.completedAt (some c.2)) else old)
      ((mergeSessions entries f).get? id) =
      ((capturesOf f).foldl (fileCapture f.completedAt) (mergeSessions entries f)).get? id :=
    List.foldl_hom (fun t : Table Identity Entry => t.get? id)
      (fun t c => (get?_fileCapture f.completedAt t c id).symm)
  have hfilter : ((capturesOf f).filter fun c => c.1 = id).foldl
      (fun old c => Option.map (withOutput f.completedAt (some c.2)) old)
      ((mergeSessions entries f).get? id) =
      (capturesOf f).foldl
        (fun old c => if c.1 = id then old.map (withOutput f.completedAt (some c.2)) else old)
        ((mergeSessions entries f).get? id) := by
    rw [List.foldl_filter]
    simp only [decide_eq_true_eq]
  rw [← houtputs, ← hfilter, filter_capturesOf, get?_mergeSessions]
  cases outputAt f id with
  | none => simp [withOutput_none]
  | some text => rfl

/-- Whether a merge files an output depends on which identities its listings leave. -/
theorem filesCapture_eq (entries : Table Identity Entry) (f : Findings) :
    filesCapture entries f =
      (capturesOf f).any fun c => (sessionAt f c.1 (entries.get? c.1)).isSome := by
  unfold filesCapture Table.contains
  simp only [get?_mergeSessions]

/-! ## What a merge reads -/

section Reads

variable {f f' : Findings} {id : Identity}

/-- Findings of one time that tell the same of a node leave the same under its identities. -/
theorem mergeAt_congr (hprobed : f.probed.get? id.node = f'.probed.get? id.node)
    (htime : f.completedAt = f'.completedAt) (prior : Option Entry) :
    mergeAt f id prior = mergeAt f' id prior := by
  have hlisted : listedAt f id = listedAt f' id := by rw [listedAt, listedAt, hprobed]
  have houtput : outputAt f id = outputAt f' id := by rw [outputAt, outputAt, hprobed]
  rw [mergeAt, mergeAt, sessionAt, sessionAt, hlisted, houtput, htime]

/-- Nodes that told nothing count as much as nodes that were not named. -/
theorem mergeEntries_congr (hprobed : f.probed = f'.probed)
    (htime : f.completedAt = f'.completedAt) (entries : Table Identity Entry) :
    mergeEntries entries f = mergeEntries entries f' := by
  refine Table.ext_get? fun id => ?_
  rw [get?_mergeEntries, get?_mergeEntries, mergeAt_congr (by rw [hprobed]) htime]

theorem filesCapture_of_probed (hprobed : f.probed = f'.probed)
    (htime : f.completedAt = f'.completedAt) (entries : Table Identity Entry) :
    filesCapture entries f = filesCapture entries f' := by
  simp only [filesCapture, capturesOf, mergeSessions, claimAll, listed, hprobed, htime]

/-- What runs after a merge is what was listed, whatever outputs were taken. -/
theorem isActive_mergeAt (f : Findings) (id : Identity) (prior : Option Entry) :
    (mergeAt f id prior).any (·.isActive) = !(listedAt f id).isEmpty := by
  have houtput : (mergeAt f id prior).any (·.isActive) =
      (sessionAt f id prior).any (·.isActive) := Option.any_map
  have hunseen : (unseen prior).any (·.isActive) = false := by
    cases prior with
    | none => rfl
    | some e =>
        rw [unseen, Option.map_some, Option.filter_some]
        split <;> rfl
  rw [houtput, sessionAt]
  cases listedAt f id with
  | nil => exact hunseen
  | cons s rest => cases rest <;> rfl

end Reads

end Inventory

end Roster
