import Roster.Proofs.Keeper.Notes
import Roster.Proofs.Keeper.Published

/-!
# What the live status tells

Whether a session runs, when it was made and when it was last seen is known from scans only.  So
each entry can be checked against the scans that were merged so far (`Keeper.scans`), whatever the
user did in between.

* *The last scan* tells which sessions run: those that it lists.
* *The last scan that lists a session* (`LastListing`) tells when it was made and when it was last
  seen.  Of a session that was never listed neither is known.

`Sighted` says this of what is filed under one identity.  A merge adds one more scan and keeps it,
and no other operation touches what is known from scans (`live_entryAt`).  `status_of_run` reads it
off at the end of a run, together with the numbers of sessions that the nodes are shown with.
-/

namespace Roster

variable {σ : Type}

/-! ## Listings -/

/-- The scan lists the session under the identity. -/
def Findings.Lists (f : Findings) (id : Identity) (s : Session) : Prop :=
  ∃ n, f.probed.get? id.node = some n ∧ s ∈ n.sessions ∧ s.name = id.name

/-- The scan that an operation merges, if it merges one. -/
def Operation.findings? : Operation → Option Findings
  | .merge f => some f
  | _ => none

/-- The scans that a run merges, in their order. -/
def Keeper.scans (steps : List Keeper.Step) : List Findings :=
  steps.filterMap fun s => s.op.findings?

/-- Of the scans, `f` is the last one that lists the identity, and it lists the session `s` there. -/
def LastListing (scans : List Findings) (id : Identity) (f : Findings) (s : Session) : Prop :=
  ∃ before after, scans = before ++ f :: after ∧ f.Lists id s
    ∧ ∀ later ∈ after, ∀ t, ¬ later.Lists id t

/-- None of the scans lists the identity. -/
def NeverListed (scans : List Findings) (id : Identity) : Prop :=
  ∀ f ∈ scans, ∀ s, ¬ f.Lists id s

section Listings

variable {scans : List Findings} {id : Identity} {f : Findings} {s : Session}

theorem Inventory.mem_listedAt : s ∈ Inventory.listedAt f id ↔ f.Lists id s := by
  unfold Inventory.listedAt Findings.Lists
  cases f.probed.get? id.node with
  | none => simp
  | some n => simp

/-- What runs after a merge is what the scan lists. -/
theorem Inventory.isActive_mergeAt_iff (prior : Option Entry) :
    (Inventory.mergeAt f id prior).any (·.isActive) = true ↔ ∃ s, f.Lists id s := by
  rw [Inventory.isActive_mergeAt, Bool.not_eq_true', List.isEmpty_eq_false_iff_exists_mem]
  exact exists_congr fun _ => Inventory.mem_listedAt

/-- A scan lists nothing under an identity, or one session if it lists none twice. -/
theorem Findings.ListsOnce.listedAt_cases (hf : f.ListsOnce) (id : Identity) :
    (Inventory.listedAt f id = [] ∧ ∀ s, ¬ f.Lists id s)
      ∨ ∃ s, Inventory.listedAt f id = [s] ∧ f.Lists id s := by
  rcases Inventory.listedAt_of_listsOnce hf id with hl | ⟨s, hl⟩
  · refine Or.inl ⟨hl, fun s hs => ?_⟩
    rw [← Inventory.mem_listedAt, hl] at hs
    cases hs
  · refine Or.inr ⟨s, hl, ?_⟩
    rw [← Inventory.mem_listedAt, hl]
    exact List.mem_singleton.2 rfl

/-- Whether the last scan lists an identity can be asked of that scan. -/
theorem exists_lists_iff (hlast : scans.getLast? = some f) :
    (∃ f' s, scans.getLast? = some f' ∧ f'.Lists id s) ↔ ∃ s, f.Lists id s := by
  constructor
  · rintro ⟨f', s, hf', hs⟩
    rw [hlast] at hf'
    cases hf'
    exact ⟨s, hs⟩
  · rintro ⟨s, hs⟩
    exact ⟨f, s, hlast, hs⟩

theorem LastListing.of_lists (h : f.Lists id s) : LastListing (scans ++ [f]) id f s :=
  ⟨scans, [], rfl, h, nofun⟩

/-- One more scan that does not list the identity leaves the last one that does. -/
theorem LastListing.append {f' : Findings} (h : LastListing scans id f s)
    (hf' : ∀ t, ¬ f'.Lists id t) : LastListing (scans ++ [f']) id f s := by
  obtain ⟨before, after, rfl, hlists, hlater⟩ := h
  refine ⟨before, after ++ [f'], by simp, hlists, ?_⟩
  intro later hmem
  rcases List.mem_append.1 hmem with hmem | hmem
  · exact hlater later hmem
  · rw [List.mem_singleton.1 hmem]
    exact hf'

/-- If the last scan of all lists the identity, it is the last one that does. -/
theorem LastListing.eq_of_getLast? {f' : Findings} {s' : Session} (h : LastListing scans id f s)
    (hlast : scans.getLast? = some f') (hf' : f'.Lists id s') : f = f' := by
  obtain ⟨before, after, rfl, -, hlater⟩ := h
  cases hafter : after.getLast? with
  | none =>
      rw [List.getLast?_append, List.getLast?_cons, hafter] at hlast
      exact Option.some.inj hlast
  | some g =>
      rw [List.getLast?_append, List.getLast?_cons, hafter] at hlast
      obtain rfl : g = f' := Option.some.inj hlast
      exact absurd hf' (hlater g (List.mem_of_getLast? hafter) s')

theorem NeverListed.append (h : NeverListed scans id) (hf : ∀ t, ¬ f.Lists id t) :
    NeverListed (scans ++ [f]) id := by
  intro g hg
  rcases List.mem_append.1 hg with hg | hg
  · exact h g hg
  · rw [List.mem_singleton.1 hg]
    exact hf

end Listings

/-! ## What is known from scans -/

/-- What is known of a session from scans alone. -/
def Entry.live (e : Entry) : Entry := { e with note := none, captured := none }

theorem Entry.fields_of_live {e e' : Entry} (h : e.live = e'.live) :
    e.lastSeen = e'.lastSeen ∧ e.createdAt = e'.createdAt ∧ e.attached = e'.attached
      ∧ e.isActive = e'.isActive := by
  simp only [live, mk.injEq] at h
  obtain ⟨hcreated, hattached, hstatus, hseen, -⟩ := h
  exact ⟨hseen, hcreated, hattached, congrArg (· == Status.active) hstatus⟩

/-- What is filed under an identity agrees with the scans. -/
structure Sighted (scans : List Findings) (id : Identity) (entry : Option Entry) : Prop where
  /-- The session runs if and only if the last scan lists it. -/
  running : entry.any (·.isActive) = true ↔ ∃ f s, scans.getLast? = some f ∧ f.Lists id s
  /-- The times are those of the last scan that lists it. -/
  times : ∀ e ∈ entry,
    (∃ f s, LastListing scans id f s ∧ e.lastSeen = some f.completedAt ∧ e.createdAt = s.createdAt)
      ∨ (NeverListed scans id ∧ e.lastSeen = none ∧ e.createdAt = none)
  /-- No terminal is attached to a session that does not run. -/
  detached : ∀ e ∈ entry, e.isActive = false → e.attached = false

section Sighted

variable {scans : List Findings} {id : Identity} {entry entry' : Option Entry}

theorem any_isActive_of_live (h : entry'.map Entry.live = entry.map Entry.live) :
    entry'.any (·.isActive) = entry.any (·.isActive) := by
  have hmap := congrArg (Option.any Entry.isActive) h
  rw [Option.any_map, Option.any_map] at hmap
  exact hmap

/-- An identity that the last scan does not list may have no entry. -/
theorem Sighted.of_none (h : ¬ ∃ f s, scans.getLast? = some f ∧ f.Lists id s) :
    Sighted scans id none where
  running := ⟨fun hactive => absurd hactive Bool.false_ne_true, fun hlisted => absurd hlisted h⟩
  times e he := absurd he (Option.not_mem_none e)
  detached e he := absurd he (Option.not_mem_none e)

/-- Nothing but what is known from scans counts, and an entry that does not run may be missing. -/
theorem Sighted.congr (h : Sighted scans id entry)
    (hlive : entry'.map Entry.live = entry.map Entry.live
      ∨ (entry' = none ∧ entry.any (·.isActive) = false)) :
    Sighted scans id entry' := by
  rcases hlive with hlive | ⟨rfl, hstale⟩
  · have hany := any_isActive_of_live hlive
    have hold : ∀ e' ∈ entry', ∃ e ∈ entry, e'.live = e.live := by
      rintro e' rfl
      cases entry with
      | none => cases hlive
      | some e => exact ⟨e, rfl, Option.some.inj hlive⟩
    refine ⟨hany ▸ h.running, fun e' he' => ?_, fun e' he' hstale => ?_⟩
    · obtain ⟨e, he, hlive⟩ := hold e' he'
      obtain ⟨hseen, hcreated, -, -⟩ := Entry.fields_of_live hlive
      rw [hseen, hcreated]
      exact h.times e he
    · obtain ⟨e, he, hlive⟩ := hold e' he'
      obtain ⟨-, -, hattached, hactive⟩ := Entry.fields_of_live hlive
      rw [hattached]
      exact h.detached e he (hactive ▸ hstale)
  · apply Sighted.of_none
    rw [← h.running, hstale]
    exact Bool.false_ne_true

/-- A merge of a scan that lists no session twice agrees with that scan too. -/
theorem Sighted.mergeAt {f : Findings} (hf : f.ListsOnce) (h : Sighted scans id entry) :
    Sighted (scans ++ [f]) id (Inventory.mergeAt f id entry) := by
  have hrunning : (Inventory.mergeAt f id entry).any (·.isActive) = true ↔
      ∃ f' s, (scans ++ [f]).getLast? = some f' ∧ f'.Lists id s := by
    rw [Inventory.isActive_mergeAt_iff, exists_lists_iff List.getLast?_concat]
  rcases hf.listedAt_cases id with ⟨hl, hnone⟩ | ⟨s, hl, hs⟩
  · -- what is left is the entry of before, retired
    have hold : ∀ e' ∈ Inventory.mergeAt f id entry, ∃ e ∈ entry,
        e'.live = e.retired.live := by
      intro e' he'
      rw [Inventory.mergeAt, Inventory.sessionAt, hl] at he'
      obtain ⟨d, hd, rfl⟩ := Option.mem_map.1 he'
      obtain ⟨e, he, rfl⟩ := Option.mem_map.1 (Option.mem_filter_iff.1 hd).1
      exact ⟨e, he, rfl⟩
    refine ⟨hrunning, fun e' he' => ?_, fun e' he' _ => ?_⟩
    · obtain ⟨e, he, hlive⟩ := hold e' he'
      obtain ⟨hseen, hcreated, -, -⟩ := Entry.fields_of_live hlive
      have hseen' : e'.lastSeen = e.lastSeen := hseen
      have hcreated' : e'.createdAt = e.createdAt := hcreated
      rw [hseen', hcreated']
      rcases h.times e he with ⟨f', s, hlast, htimes⟩ | ⟨hnever, htimes⟩
      · exact Or.inl ⟨f', s, hlast.append hnone, htimes⟩
      · exact Or.inr ⟨hnever.append hnone, htimes⟩
    · obtain ⟨e, -, hlive⟩ := hold e' he'
      exact (Entry.fields_of_live hlive).2.2.1
  · have hnew : ∀ e' ∈ Inventory.mergeAt f id entry,
        e'.live = (Inventory.seen f.completedAt s entry).live := by
      intro e' he'
      rw [Inventory.mergeAt, Inventory.sessionAt, hl] at he'
      cases he'
      rfl
    refine ⟨hrunning, fun e' he' => ?_, fun e' he' hstale => ?_⟩
    · obtain ⟨hseen, hcreated, -, -⟩ := Entry.fields_of_live (hnew e' he')
      exact Or.inl ⟨f, s, LastListing.of_lists hs, hseen, hcreated⟩
    · obtain ⟨-, -, -, hactive⟩ := Entry.fields_of_live (hnew e' he')
      rw [hactive] at hstale
      cases hstale

/-- Taking a note off leaves what is known from scans, or drops an entry that does not run. -/
theorem live_withoutNote (prior : Option Entry) :
    (prior.bind Entry.withoutNote).map Entry.live = prior.map Entry.live
      ∨ (prior.bind Entry.withoutNote = none ∧ prior.any (·.isActive) = false) := by
  cases prior with
  | none => exact Or.inl rfl
  | some e =>
      unfold Entry.withoutNote
      simp only [Option.bind_some]
      split
      next => exact Or.inl rfl
      next hdropped =>
        rw [Bool.not_eq_true, Bool.or_eq_false_iff] at hdropped
        exact Or.inr ⟨rfl, hdropped.1⟩

/-- An operation that merges no scan leaves what is known from scans, or drops an entry that does
not run. -/
theorem Operation.live_entryAt {op : Operation} (hop : op.findings? = none) (id : Identity)
    (prior : Option Entry) :
    (op.entryAt id prior).map Entry.live = prior.map Entry.live
      ∨ (op.entryAt id prior = none ∧ prior.any (·.isActive) = false) := by
  cases op with
  | merge f => cases hop
  | setNote key text =>
      simp only [entryAt]
      by_cases hk : id = key
      · by_cases ht : Text.trim text = ""
        · simp only [if_pos hk, if_pos ht]
          exact live_withoutNote prior
        · simp only [if_pos hk, if_neg ht]
          cases prior <;> exact Or.inl rfl
      · rw [if_neg hk]
        exact Or.inl rfl
  | deleteNote key =>
      simp only [entryAt]
      split
      next => exact live_withoutNote prior
      next => exact Or.inl rfl
  | setCapture key c =>
      simp only [entryAt]
      split
      next => cases prior <;> exact Or.inl rfl
      next => exact Or.inl rfl
  | forget key =>
      simp only [entryAt]
      split
      next =>
        cases prior with
        | none => exact Or.inl rfl
        | some e =>
            cases ha : e.isActive with
            | true => simp [Option.filter, ha]
            | false => simp [Option.filter, ha]
      next => exact Or.inl rfl
  | load => exact Or.inl rfl
  | addIncident _ => exact Or.inl rfl
  | flush => exact Or.inl rfl

/-- Only a merge changes whether a session runs. -/
theorem Operation.isActive_entryAt {op : Operation} (hop : op.findings? = none) (id : Identity)
    (prior : Option Entry) :
    (op.entryAt id prior).any (·.isActive) = prior.any (·.isActive) := by
  rcases op.live_entryAt hop id prior with hlive | ⟨hnone, hstale⟩
  · exact any_isActive_of_live hlive
  · rw [hnone, hstale]
    rfl

/-- Each operation keeps the agreement with the scans, the one that it merges among them. -/
theorem Sighted.entryAt {op : Operation} (hlists : op.ListsOnce) (h : Sighted scans id entry) :
    Sighted (scans ++ op.findings?.toList) id (op.entryAt id entry) := by
  cases hop : op.findings? with
  | none =>
      rw [Option.toList_none, List.append_nil]
      exact h.congr (Operation.live_entryAt hop id entry)
  | some f =>
      cases op with
      | merge f' =>
          cases hop
          exact h.mergeAt hlists
      | load => cases hop
      | setNote _ _ => cases hop
      | deleteNote _ => cases hop
      | setCapture _ _ => cases hop
      | forget _ => cases hop
      | addIncident _ => cases hop
      | flush => cases hop

end Sighted

/-! ## Nodes -/

/-- An operation leaves the nodes and the time of the last scan, unless it merges a scan. -/
theorem Operation.applied_scan (op : Operation) (inv : Inventory) :
    (op.applied inv).nodes = (op.findings?.map Inventory.summaries).getD inv.nodes
      ∧ (op.applied inv).scannedAt = (op.findings?.map (·.completedAt)).or inv.scannedAt := by
  have hcommand : op.isCommand = true → op.findings? = none := by
    cases op <;> first | exact fun _ => rfl | nofun
  unfold applied
  split
  next fault hr =>
    rw [hcommand (isCommand_of_refusal hr)]
    exact ⟨rfl, rfl⟩
  next =>
    cases hc : op.isCommand with
    | true =>
        rw [hcommand hc, change_of_command hc]
        exact ⟨rfl, rfl⟩
    | false =>
        cases op with
        | merge f => exact ⟨Inventory.merge_nodes inv f, Inventory.merge_scannedAt inv f⟩
        | load => exact ⟨rfl, rfl⟩
        | addIncident e => exact ⟨rfl, rfl⟩
        | setNote _ _ => cases hc
        | deleteNote _ => cases hc
        | setCapture _ _ => cases hc
        | forget _ => cases hc
        | flush => cases hc

/-- The view shows a session that runs. -/
def View.Runs (v : View) (id : Identity) : Prop :=
  ∃ r ∈ v.records, r.identity = id ∧ r.status = .active

namespace Inventory

variable {inv : Inventory} {id : Identity} {f : Findings}

theorem runs_view_iff : inv.view.Runs id ↔ (inv.entries.get? id).any (·.isActive) = true := by
  constructor
  · rintro ⟨r, hr, rfl, hactive⟩
    rw [mem_view_iff.1 hr]
    exact beq_iff_eq.2 hactive
  · intro h
    cases he : inv.entries.get? id with
    | none =>
        rw [he] at h
        cases h
    | some e =>
        rw [he] at h
        exact ⟨recordOf id e, mem_view_iff.2 he, rfl, beq_iff_eq.1 h⟩

theorem mem_active_view {r : Record} {node : String} :
    (r ∈ inv.view.active.filter fun r => r.identity.node = node) ↔
      r ∈ inv.view.records ∧ r.status = .active ∧ r.identity.node = node := by
  rw [List.mem_filter, View.active, List.mem_filter, and_assoc, decide_eq_true_eq]
  exact and_congr_right fun _ => and_congr_left fun _ => beq_iff_eq

/-- The names of the sessions that run on a node are shown once each. -/
theorem nodup_active_names (inv : Inventory) (node : String) :
    ((inv.view.active.filter fun r => r.identity.node = node).map (·.identity.name)).Nodup := by
  rw [List.Nodup, List.pairwise_map]
  have hdistinct := ((pairwise_view_identity inv).filter (·.isActive)).filter
    fun r => decide (r.identity.node = node)
  refine hdistinct.imp_of_mem fun {r s} hr hs hne hname => hne ?_
  have hnode : r.identity.node = s.identity.node := by
    rw [(mem_active_view.1 hr).2.2, (mem_active_view.1 hs).2.2]
  exact mk_eq_iff.2 ⟨hnode, hname⟩

/-- Where the sessions that run are those that a scan lists, as many of them are shown of a node as
the scan counted there. -/
theorem length_active_of_lists (hf : f.ListsOnce)
    (hruns : ∀ id, inv.view.Runs id ↔ ∃ s, f.Lists id s) (node : String) :
    (inv.view.active.filter fun r => r.identity.node = node).length =
      ((f.probed.get? node).map (·.sessions.length)).getD 0 := by
  have hname : ∀ name,
      name ∈ (inv.view.active.filter fun r => r.identity.node = node).map (·.identity.name) ↔
        ∃ s, f.Lists ⟨node, name⟩ s := by
    intro name
    rw [← hruns, List.mem_map]
    constructor
    · rintro ⟨r, hr, rfl⟩
      obtain ⟨hmem, hactive, rfl⟩ := mem_active_view.1 hr
      exact ⟨r, hmem, rfl, hactive⟩
    · rintro ⟨r, hmem, hid, hactive⟩
      exact ⟨r, mem_active_view.2 ⟨hmem, hactive, congrArg Identity.node hid⟩,
        congrArg Identity.name hid⟩
  cases hn : f.probed.get? node with
  | none =>
      rw [Option.map_none, Option.getD_none, List.length_eq_zero_iff]
      refine List.eq_nil_iff_forall_not_mem.2 fun r hr => ?_
      obtain ⟨s, n, hn', -⟩ := (hname r.identity.name).1 (List.mem_map_of_mem hr)
      rw [hn] at hn'
      cases hn'
  | some n =>
      have hnodup : (n.sessions.map (·.name)).Nodup := hf _ (Table.mem_entries_iff.2 hn)
      have hperm := (List.perm_ext_iff_of_nodup (nodup_active_names inv node) hnodup).2 fun name => by
        rw [hname, List.mem_map]
        constructor
        · rintro ⟨s, n', hn', hs, hsname⟩
          cases hn.symm.trans hn'
          exact ⟨s, hs, hsname⟩
        · rintro ⟨s, hs, hsname⟩
          exact ⟨s, n, hn, hs, hsname⟩
      have hlength := hperm.length_eq
      rw [List.length_map, List.length_map] at hlength
      exact hlength

end Inventory

namespace Keeper

variable {g : Gateway σ} {k : Keeper σ} {s : Step} {scans : List Findings}

/-- The keeper agrees with the scans. -/
structure Agrees (scans : List Findings) (k : Keeper σ) : Prop where
  /-- What is filed agrees with them. -/
  filed : ∀ id, Sighted scans id (k.inventory.entries.get? id)
  /-- The nodes are those of the last one. -/
  nodes : k.inventory.nodes = (scans.getLast?.map Inventory.summaries).getD []
  /-- The time is that of the last one. -/
  scannedAt : k.inventory.scannedAt = scans.getLast?.map (·.completedAt)

theorem Agrees.step (h : Agrees scans k) (hload : s.op ≠ .load) (hlists : s.op.ListsOnce) :
    Agrees (scans ++ s.op.findings?.toList) (Keeper.step g k s).2 := by
  obtain ⟨hnodes, hscannedAt⟩ := s.op.applied_scan k.inventory
  have hlast : (scans ++ s.op.findings?.toList).getLast? = s.op.findings?.or scans.getLast? := by
    cases s.op.findings? with
    | none => simp
    | some f => simp
  constructor
  · intro id
    rw [get?_step hload]
    exact (h.filed id).entryAt hlists
  · rw [inventory_step hload, Inventory.addIncidents_nodes, hnodes, h.nodes, hlast]
    cases s.op.findings? <;> rfl
  · rw [inventory_step hload, Inventory.addIncidents_scannedAt, hscannedAt, h.scannedAt, hlast]
    cases s.op.findings? <;> rfl

/-- A load leaves the nodes and the time of the last scan alone. -/
theorem load_scan (now : Instant) (k : Keeper σ) :
    (k.load g now).inventory.nodes = k.inventory.nodes
      ∧ (k.load g now).inventory.scannedAt = k.inventory.scannedAt := by
  unfold load loadView
  split
  next => exact ⟨Inventory.addIncidents_nodes .., Inventory.addIncidents_scannedAt ..⟩
  next => exact ⟨rfl, rfl⟩

theorem agrees_fresh (capacity : Nat) (state : σ) : Agrees [] (fresh capacity state) where
  filed id := by
    apply Sighted.of_none
    rintro ⟨f, s, hlast, -⟩
    cases hlast
  nodes := rfl
  scannedAt := rfl

/-- What a load brings back was seen by no scan. -/
theorem agrees_load (capacity : Nat) (state : σ) (now : Instant) :
    Agrees [] ((fresh capacity state).load g now) := by
  obtain ⟨hnodes, hscannedAt⟩ := load_scan (g := g) now (fresh capacity state)
  refine ⟨fun id => ?_, hnodes, hscannedAt⟩
  have hnone : Sighted [] id none := (agrees_fresh capacity state).filed id
  cases hl : (g.load state).1 with
  | error fault =>
      rw [load_entries_of_error hl]
      exact hnone
  | ok loaded =>
      rw [get?_load_of_ok hl]
      have hremembered : Sighted [] id (some .remembered) :=
        ⟨⟨nofun, nofun⟩, fun e he => by cases he; exact Or.inr ⟨nofun, rfl, rfl⟩,
          fun e he _ => by cases he; rfl⟩
      cases loaded.notes.get? id <;> cases loaded.captures.get? id
      case none.none => exact hnone
      all_goals exact hremembered.congr (Or.inl rfl)

theorem Agrees.run {steps : List Step} (h : Agrees scans k) (hload : ∀ s ∈ steps, s.op ≠ .load)
    (hlists : ∀ s ∈ steps, s.op.ListsOnce) :
    Agrees (scans ++ Keeper.scans steps) (Keeper.run g k steps) := by
  induction steps generalizing scans k with
  | nil =>
      rw [Keeper.scans, List.filterMap_nil, List.append_nil]
      exact h
  | cons s rest ih =>
      have hs := h.step (g := g) (hload s List.mem_cons_self) (hlists s List.mem_cons_self)
      have hscans : scans ++ Keeper.scans (s :: rest) =
          scans ++ s.op.findings?.toList ++ Keeper.scans rest := by
        unfold Keeper.scans
        rw [List.filterMap_cons, List.append_assoc]
        cases s.op.findings? <;> rfl
      rw [run_cons, hscans]
      exact ih hs (fun s' hs' => hload s' (List.mem_cons_of_mem _ hs'))
        fun s' hs' => hlists s' (List.mem_cons_of_mem _ hs')

/-- A keeper that loads at most once, and first, agrees with the scans that it has merged. -/
theorem agrees_run (g : Gateway σ) (capacity : Nat) (state : σ) {steps : List Step}
    (hload : ∀ s ∈ steps.tail, s.op ≠ .load) (hlists : ∀ s ∈ steps, s.op.ListsOnce) :
    Agrees (Keeper.scans steps) (Keeper.run g (fresh capacity state) steps) := by
  cases steps with
  | nil => exact agrees_fresh capacity state
  | cons s rest =>
      by_cases hs : s.op = .load
      · have hscans : Keeper.scans (s :: rest) = [] ++ Keeper.scans rest := by
          unfold Keeper.scans
          rw [List.filterMap_cons, hs]
          rfl
        rw [run_cons, step_of_load hs, hscans]
        exact (agrees_load capacity state s.now).run hload
          fun s' hs' => hlists s' (List.mem_cons_of_mem _ hs')
      · have hall : ∀ s' ∈ s :: rest, s'.op ≠ .load := by
          intro s' hs'
          rcases List.mem_cons.1 hs' with rfl | hs'
          · exact hs
          · exact hload s' hs'
        exact (agrees_fresh capacity state).run hall hlists

/-- At each point of a run that loads at most once, and first, and whose scans list no session twice
on one node, the view tells the truth about the scans that were merged.

* A record is shown if and only if it is filed under its identity.
* A session is shown to run if and only if the last scan lists it.
* A record has the times of the last scan that lists it, and none if no scan does.  One that runs
  was last seen by the last scan, and one that does not is not attached to.
* A node is shown with as many sessions as it has records that run.
* No command changes which sessions run. -/
theorem status_of_run (g : Gateway σ) (capacity : Nat) (state : σ) (steps : List Step)
    (hload : ∀ s ∈ steps.tail, s.op ≠ .load) (hlists : ∀ s ∈ steps, s.op.ListsOnce) :
    let k := run g (fresh capacity state) steps
    let merged := Keeper.scans steps
    (∀ r : Record, r ∈ k.view.records ↔ k.inventory.entries.get? r.identity = some r.toEntry)
    ∧ (∀ id, k.view.Runs id ↔ ∃ f s, merged.getLast? = some f ∧ f.Lists id s)
    ∧ (∀ r ∈ k.view.records,
        (r.status = .active ↔ ∃ f s, merged.getLast? = some f ∧ f.Lists r.identity s)
        ∧ ((∃ f s, LastListing merged r.identity f s
              ∧ r.lastSeen = some f.completedAt ∧ r.createdAt = s.createdAt)
            ∨ (NeverListed merged r.identity ∧ r.lastSeen = none ∧ r.createdAt = none))
        ∧ (r.status = .active → r.lastSeen = k.view.scannedAt)
        ∧ (r.status = .stale → r.attached = false))
    ∧ (∀ n ∈ k.view.nodes,
        n.activeSessions = (k.view.active.filter fun r => r.identity.node = n.node).length)
    ∧ ∀ s : Step, s.op ≠ .load → s.op.findings? = none →
        ∀ id, (step g k s).2.view.Runs id ↔ k.view.Runs id := by
  intro k merged
  have hagrees : Agrees merged k := agrees_run g capacity state hload hlists
  have hshown : k.view = k.inventory.view := shown_run g capacity state steps
  have hruns : ∀ id, k.view.Runs id ↔ ∃ f s, merged.getLast? = some f ∧ f.Lists id s := by
    intro id
    rw [hshown, Inventory.runs_view_iff]
    exact (hagrees.filed id).running
  have hfiled : ∀ r : Record, r ∈ k.view.records ↔
      k.inventory.entries.get? r.identity = some r.toEntry := by
    intro r
    rw [hshown]
    exact Inventory.mem_view_iff
  refine ⟨hfiled, hruns, fun r hr => ?_, fun n hn => ?_, fun s hs hscan id => ?_⟩
  · have hsighted := hagrees.filed r.identity
    rw [(hfiled r).1 hr] at hsighted
    have hactive : r.status = .active ↔
        ∃ f s, merged.getLast? = some f ∧ f.Lists r.identity s :=
      beq_iff_eq.symm.trans hsighted.running
    have htimes := hsighted.times _ rfl
    refine ⟨hactive, htimes, fun h => ?_, fun h => ?_⟩
    · obtain ⟨f, s, hlast, hs⟩ := hactive.1 h
      have hscannedAt : k.view.scannedAt = some f.completedAt := by
        rw [hshown]
        exact hagrees.scannedAt.trans (by rw [hlast]; rfl)
      rw [hscannedAt]
      rcases htimes with ⟨f', s', hlisting, hseen, -⟩ | ⟨hnever, -⟩
      · rw [hseen, hlisting.eq_of_getLast? hlast hs]
      · exact absurd hs (hnever f (List.mem_of_getLast? hlast) s)
    · apply hsighted.detached _ rfl
      rw [Entry.isActive, h]
      rfl
  · have hnodes : k.view.nodes = (merged.getLast?.map Inventory.summaries).getD [] := by
      rw [hshown]
      exact hagrees.nodes
    cases hlast : merged.getLast? with
    | none =>
        rw [hnodes, hlast] at hn
        cases hn
    | some f =>
        have hf : f.ListsOnce := by
          obtain ⟨s, hs, hfindings⟩ := List.mem_filterMap.1 (List.mem_of_getLast? hlast)
          have honce := hlists s hs
          cases hop : s.op with
          | merge f' =>
              rw [hop] at hfindings honce
              cases hfindings
              exact honce
          | _ =>
              rw [hop] at hfindings
              cases hfindings
        have hruns' : ∀ id, k.inventory.view.Runs id ↔ ∃ s, f.Lists id s := by
          intro id
          rw [← hshown, hruns, exists_lists_iff hlast]
        rw [hnodes, hlast] at hn
        obtain ⟨a, -, rfl⟩ := List.mem_map.1 hn
        rw [hshown]
        exact (Inventory.length_active_of_lists hf hruns' a.node).symm
  · rw [shown_step hshown s, hshown, Inventory.runs_view_iff, Inventory.runs_view_iff,
      get?_step hs, Operation.isActive_entryAt hscan]

/-- A session that is listed once, annotated, and gone afterwards keeps the times of the scan that
listed it.  The one that is listed again runs, and its node is shown with one session. -/
theorem status_of_run_gone :
    let train : Identity := ⟨"n1", "train"⟩
    let eval : Identity := ⟨"n1", "eval"⟩
    let first : Findings :=
      ⟨[⟨"n1", none⟩], .ofList [("n1",
        ⟨[⟨"train", some ⟨5, 0⟩, true⟩, ⟨"eval", none, false⟩], .empty⟩)], [], ⟨10, 0⟩⟩
    let second : Findings :=
      ⟨[⟨"n1", none⟩], .ofList [("n1", ⟨[⟨"eval", none, true⟩], .empty⟩)], [], ⟨20, 0⟩⟩
    let steps : List Step :=
      [⟨.load, ⟨0, 0⟩, none⟩, ⟨.merge first, ⟨10, 0⟩, none⟩,
        ⟨.setNote train "run A", ⟨11, 0⟩, none⟩, ⟨.merge second, ⟨20, 0⟩, none⟩]
    let k := run Saved.gateway (fresh 5 {}) steps
    (∀ s ∈ steps.tail, s.op ≠ .load) ∧ (∀ s ∈ steps, s.op.ListsOnce)
    ∧ k.view.Runs eval ∧ ¬ k.view.Runs train
    ∧ (∃ r ∈ k.view.records, r.identity = train ∧ r.lastSeen = some ⟨10, 0⟩
      ∧ r.createdAt = some ⟨5, 0⟩ ∧ r.attached = false)
    ∧ k.view.nodes = [⟨"n1", none, 1⟩] := by
  intro train eval first second steps k
  have hload : ∀ s ∈ steps.tail, s.op ≠ .load := by decide
  have hlists : ∀ s ∈ steps, s.op.ListsOnce := by decide +kernel
  obtain ⟨hfiled, hruns, -⟩ := status_of_run Saved.gateway 5 {} steps hload hlists
  have htrain : k.inventory.entries.get? train =
      some ⟨some ⟨5, 0⟩, false, .stale, some ⟨10, 0⟩, some "run A", none⟩ := by decide +kernel
  have hlast : (Keeper.scans steps).getLast? = some second := rfl
  have hnone : ∀ s, ¬ second.Lists train s := by
    intro s hs
    rw [← Inventory.mem_listedAt] at hs
    have hl : Inventory.listedAt second train = [] := by decide +kernel
    rw [hl] at hs
    cases hs
  refine ⟨hload, hlists, ?_, ?_, ?_, by decide +kernel⟩
  · refine (hruns eval).2 ⟨second, ⟨"eval", none, true⟩, hlast, ?_⟩
    rw [← Inventory.mem_listedAt]
    decide +kernel
  · rintro htrainRuns
    obtain ⟨f, s, hf, hs⟩ := (hruns train).1 htrainRuns
    rw [hlast] at hf
    cases hf
    exact hnone s hs
  · exact ⟨Inventory.recordOf train _, (hfiled _).2 htrain, rfl, rfl, rfl, rfl⟩

end Keeper

end Roster
