import Roster.Proofs.Cycle.Takings
import Roster.Proofs.Keeper.Merging
import Roster.Proofs.Keeper.Outages

/-!
# The same scan merged again

A merge that comes a second time finds what the first one has left.  Sessions that are listed run
and have what they keep already.  What is not listed is stale, and holds user data, since it would
not be there otherwise.  An output that was taken is filed with the time of the scan, which is the
same both times.  So the second merge changes no entry (`mergeAt_again`).

This needs that the scan takes outputs only of sessions that it lists (`Findings.TakesListed`), as
the findings of a cycle do (`Cycle.takesListed`).  An output of a session that is not listed is
filed by the first merge and may be all that the second one finds of user data, or may leave none.

The incidents of the scan are kept a second time, and a save that fails adds one of its own.  That
is all in which the two merges differ (`merge_again`).
-/

namespace Roster

/-- The scan took outputs only of sessions that it lists. -/
def Findings.TakesListed (f : Findings) : Prop :=
  ∀ id text, f.Took id text → ∃ s, f.Lists id s

instance (f : Findings) : Decidable f.TakesListed :=
  decidable_of_iff (∀ e ∈ f.probed.entries, ∀ c ∈ e.2.captures.entries,
      ∃ s ∈ e.2.sessions, s.name = c.1) <| by
    constructor
    · rintro h id text ⟨n, hn, hcapture⟩
      obtain ⟨s, hs, hname⟩ :=
        h _ (Table.mem_entries_iff.2 hn) _ (Table.mem_entries_iff.2 hcapture)
      exact ⟨s, n, hn, hs, hname⟩
    · rintro h ⟨node, n⟩ hn ⟨name, text⟩ hcapture
      have hprobed : f.probed.get? node = some n := Table.mem_entries_iff.1 hn
      obtain ⟨s, n', hn', hs, hname⟩ :=
        h ⟨node, name⟩ text ⟨n, hprobed, Table.mem_entries_iff.1 hcapture⟩
      obtain rfl := Option.some.inj (hprobed.symm.trans hn')
      exact ⟨s, hs, hname⟩

/-! ## One entry -/

namespace Inventory

variable {f : Findings} {id : Identity}

theorem unseen_unseen (prior : Option Entry) : unseen (unseen prior) = unseen prior := by
  cases prior with
  | none => rfl
  | some e =>
      unfold unseen
      cases hdata : e.retired.hasUserData with
      | false => simp [Option.filter, hdata]
      | true =>
          have hretired : e.retired.retired = e.retired := rfl
          simp [Option.filter, hdata, hretired]

theorem withOutput_seen (time : Instant) (output : Option String) (s : Session)
    (prior : Option Entry) :
    withOutput time output (seen time s (some (withOutput time output (seen time s prior)))) =
      withOutput time output (seen time s prior) := by
  cases output <;> rfl

/-- Of a session that is not listed no output was taken. -/
theorem outputAt_of_not_listed (hf : f.TakesListed) (h : listedAt f id = []) :
    outputAt f id = none := by
  rw [Option.eq_none_iff_forall_ne_some]
  intro text houtput
  obtain ⟨s, hlists⟩ := hf id text (outputAt_iff_took.1 houtput)
  rw [← mem_listedAt, h] at hlists
  cases hlists

/-- A merge of the same scan finds each entry as it would leave it. -/
theorem mergeAt_again (hf : f.TakesListed) (prior : Option Entry) :
    mergeAt f id (mergeAt f id prior) = mergeAt f id prior := by
  rcases hl : listedAt f id with _ | ⟨s, _ | ⟨t, rest⟩⟩
  · have hunseen : ∀ prior, mergeAt f id prior = unseen prior := by
      intro prior
      rw [mergeAt, sessionAt, hl, outputAt_of_not_listed hf hl, withOutput_none]
      exact Option.map_id_apply
    rw [hunseen, hunseen, unseen_unseen]
  · have hseen : ∀ prior, mergeAt f id prior =
        some (withOutput f.completedAt (outputAt f id) (seen f.completedAt s prior)) := by
      intro prior
      rw [mergeAt, sessionAt, hl]
      rfl
    rw [hseen, hseen, withOutput_seen]
  · -- a name that is repeated keeps nothing of before
    rw [mergeAt, mergeAt, sessionAt, sessionAt, hl]

theorem mergeEntries_again (hf : f.TakesListed) (entries : Table Identity Entry) :
    mergeEntries (mergeEntries entries f) f = mergeEntries entries f := by
  refine Table.ext_get? fun id => ?_
  rw [get?_mergeEntries, get?_mergeEntries, mergeAt_again hf]

end Inventory

/-! ## What a cycle finds -/

namespace Scan

/-- The outputs of a visit are of sessions that were listed. -/
theorem mem_sessions_of_taken {probe : Probe} {o : Options} {start : Nat} {node : String}
    {sessions : List Session} (hlisted : (visit probe o start node).listed = .ok sessions)
    {name text : String} (h : (name, text) ∈ (visit probe o start node).taken) :
    ∃ s ∈ sessions, s.name = name := by
  obtain ⟨call, hcall, hbrings⟩ := mem_taken_visit.1 h
  have hasked : name ∈ (visit probe o start node).calls.filterMap Call.session? :=
    List.mem_filterMap.2 ⟨call, hcall, hbrings.session?⟩
  exact List.mem_map.1 ((sublist_sessions hlisted).subset hasked)

end Scan

open Scan in
/-- A cycle takes outputs only of sessions that it lists. -/
theorem Cycle.takesListed (c : Cycle) (now : Instant) : (c.findings now).TakesListed := by
  rintro id text ⟨n, hprobed, hcapture⟩
  have hn := hprobed
  unfold findings at hn
  cases hresult : c.resolution.result with
  | error fault =>
      rw [hresult] at hn
      cases hn
  | ok nodes =>
      rw [hresult] at hn
      obtain ⟨v, hv, htold⟩ := List.mem_filterMap.1 (Table.mem_of_get?_ofList hn)
      have hvisit : v ∈ (scan c.probe c.options c.resolvedAt nodes).visits :=
        List.mem_mergeSort.1 (List.mem_mergeSort.1 hv)
      obtain ⟨start, node, rfl⟩ := exists_of_mem_visits hvisit
      unfold told? at htold
      split at htold
      next sessions hlisted =>
        obtain ⟨-, rfl⟩ := Prod.mk.inj (Option.some.inj htold)
        obtain ⟨s, hs, hname⟩ :=
          mem_sessions_of_taken hlisted (Table.mem_of_get?_ofList hcapture)
        exact ⟨s, _, hprobed, hs, hname⟩
      next => cases htold

/-! ## The merges -/

namespace Keeper

open Inventory

variable {σ : Type}

/-- What one merge of a scan leaves, a second one leaves as it is, whatever becomes of their saves:
the entries are the same, and the view shows the same records in the same order, the same nodes and
the same time of the scan.

Only the incidents differ.  Those of the scan are added to them again, and then the one of the save, if
the second merge has tried to save and failed. -/
theorem merge_again (g : Gateway σ) (k : Keeper σ) {f : Findings} (hf : f.TakesListed)
    (now now' : Instant) (fault fault' : Option StateFault) :
    let again : Step := ⟨.merge f, now', fault'⟩
    let once := (step g k ⟨.merge f, now, fault⟩).2
    let twice := (step g once again).2
    twice.inventory.entries = once.inventory.entries
    ∧ twice.view.records = once.view.records
    ∧ twice.view.nodes = once.view.nodes
    ∧ twice.view.scannedAt = once.view.scannedAt
    ∧ twice.view.incidents =
        (once.inventory.addIncidents (f.incidents ++ saveFaults g once again)).incidents := by
  intro again once twice
  have hmerged : ∀ (k : Keeper σ) (s : Step), s.op = .merge f →
      (step g k s).2.inventory = (k.inventory.merge f).addIncidents (saveFaults g k s) := by
    rintro k ⟨_, now, fault⟩ rfl
    exact inventory_step (merge_ne_load f)
  have hshown : ∀ (k : Keeper σ) (s : Step), s.op = .merge f →
      (step g k s).2.view = (step g k s).2.inventory.view := by
    rintro k ⟨_, now, fault⟩ rfl
    exact view_step (merge_ne_load f) (by simp [Operation.refusal?])
  have hsame : twice.inventory.Same once.inventory := by
    constructor
    · have hentries : once.inventory.entries = mergeEntries k.inventory.entries f := by
        rw [hmerged k _ rfl, addIncidents_entries, merge_entries]
      rw [hmerged once again rfl, addIncidents_entries, merge_entries, hentries,
        mergeEntries_again hf]
    · rw [hmerged once again rfl, hmerged k _ rfl, addIncidents_nodes, addIncidents_nodes,
        merge_nodes, merge_nodes]
    · rw [hmerged once again rfl, hmerged k _ rfl, addIncidents_scannedAt,
        addIncidents_scannedAt, merge_scannedAt, merge_scannedAt]
  have hview : twice.view = { once.view with incidents := twice.inventory.incidents } := by
    rw [hshown once again rfl, hshown k _ rfl]
    exact hsame.view
  obtain ⟨hincidents, -⟩ := incidents_step g once again
  rw [notices, List.map_append, Notice.map_incident_reported, Notice.map_incident_unsaved]
    at hincidents
  rw [hview]
  exact ⟨hsame.entries, rfl, rfl, rfl, hincidents⟩

/-- Of three sessions one is listed twice, one is gone and had a note, and one is gone and had
nothing.  The second merge leaves two entries as they are, though its save fails. -/
theorem merge_again_mixed :
    let listed (sessions : List Session) (outputs : List (String × String)) (t : Instant) :
        Findings :=
      ⟨[⟨"n1", none⟩], .ofList [("n1", ⟨sessions, .ofList outputs⟩)],
        [⟨.probe, some "n2", t, "late"⟩], t⟩
    let k := run Saved.gateway (fresh 5 {})
      [⟨.merge (listed [⟨"train", none, false⟩, ⟨"eval", none, true⟩, ⟨"tmp", none, false⟩]
          [("train", "epoch 1")] ⟨1, 0⟩), ⟨1, 0⟩, none⟩,
        ⟨.setNote ⟨"n1", "eval"⟩ "keep", ⟨1, 0⟩, none⟩]
    let f := listed [⟨"train", none, false⟩, ⟨"train", none, true⟩] [("train", "epoch 2")] ⟨2, 0⟩
    let again : Step := ⟨.merge f, ⟨3, 0⟩, some (.write "notes.json" "no space")⟩
    let once := (step Saved.gateway k ⟨.merge f, ⟨2, 0⟩, none⟩).2
    let twice := (step Saved.gateway once again).2
    f.TakesListed
    ∧ twice.inventory.entries = once.inventory.entries
    ∧ twice.view.records = once.view.records
    ∧ once.inventory.entries.keys = [⟨"n1", "eval"⟩, ⟨"n1", "train"⟩]
    ∧ twice.inventory.incidents.length = once.inventory.incidents.length + 2 := by
  intro listed k f again once twice
  have htakes : f.TakesListed := by decide +kernel
  have hkeys : once.inventory.entries.keys = [⟨"n1", "eval"⟩, ⟨"n1", "train"⟩] := by
    decide +kernel
  have hlength : twice.inventory.incidents.length = once.inventory.incidents.length + 2 := by
    decide +kernel
  -- the merges must not be computed once more to see which keepers the statements are about
  clear_value k
  obtain ⟨hentries, hrecords, -⟩ := merge_again Saved.gateway k htakes ⟨2, 0⟩ ⟨3, 0⟩ none
    (some (.write "notes.json" "no space"))
  exact ⟨htakes, hentries, hrecords, hkeys, hlength⟩

/-- A scan without incidents, merged again, adds one to the log if its save fails. -/
theorem failed_save_is_noted_again :
    let f : Findings :=
      ⟨[⟨"n1", none⟩],
        .ofList [("n1", ⟨[⟨"train", none, false⟩], .ofList [("train", "epoch 1")]⟩)], [], ⟨1, 0⟩⟩
    let fault : StateFault := .write "notes.json" "no space"
    let once := (step Saved.gateway (fresh 5 {}) ⟨.merge f, ⟨1, 0⟩, some fault⟩).2
    let twice := (step Saved.gateway once ⟨.merge f, ⟨2, 0⟩, some fault⟩).2
    f.TakesListed
    ∧ twice.view.incidents ≠ (once.inventory.addIncidents f.incidents).incidents
    ∧ twice.view.incidents =
        [persistenceIncident ⟨1, 0⟩ fault.message, persistenceIncident ⟨2, 0⟩ fault.message] := by
  intro f fault once twice
  have hkept : (once.inventory.addIncidents f.incidents).incidents =
      [persistenceIncident ⟨1, 0⟩ fault.message] := by decide +kernel
  have htwice : twice.view.incidents =
      [persistenceIncident ⟨1, 0⟩ fault.message, persistenceIncident ⟨2, 0⟩ fault.message] := by
    decide +kernel
  refine ⟨by decide +kernel, ?_, htwice⟩
  rw [hkept, htwice]
  exact fun h => absurd (congrArg List.length h) (by decide)

end Keeper

end Roster
