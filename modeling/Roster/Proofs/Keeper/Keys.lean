import Roster.Cycle
import Roster.Proofs.Keeper.Remnants
import Roster.Proofs.Scan.Gathering
import Roster.Proofs.State.Return

/-!
# Every identity has its own key

A key flattens an identity, and not every identity can be told from its key again: one with a colon
in its node cannot, and neither can one with an empty part.  No such identity is ever filed
(`AllPlain`), since each way in has a check of its own.

*Scans.*  A node whose name has a fault is not called, so its name holds no colon, and a line
without a name spoils its listing (`plain_of_lists`).

*Loads.*  What is read from a file comes from its key, and a key with an empty part is passed over
(`load_storable`).

*Commands.*  They change what is filed, and file nothing new (`entryAt_none`).

So no two identities that are filed have one key, and a save writes each of them (`keys_tell`).
-/

namespace Roster

/-! ## Nodes that are called -/

theorem colon_not_mem_of_nodeName {node : String} (h : nodeNameFault? node = none) :
    node ≠ "" ∧ ':' ∉ node.toList := by
  obtain ⟨hne, -, -, hall⟩ := nodeNameFault?_eq_none_iff.1 h
  refine ⟨fun hnode => hne (by rw [hnode]; rfl), fun hmem => ?_⟩
  have hcolon : isNodeNameChar ':' = true := List.all_eq_true.1 hall ':' hmem
  exact absurd hcolon (by decide)

namespace Listing

theorem name_of_session? {line : List Char} {s : Session} (h : session? line = .ok s) :
    s.name ≠ "" := by
  unfold session? at h
  split at h
  next => cases h
  next before attached _ =>
    split at h
    next => cases h
    next => cases h
    next name created hnot hcut =>
      split at h
      next => cases h
      next =>
        split at h
        next => cases h
        next =>
          cases h
          intro hempty
          exact hnot (String.ofList_eq_empty_iff.1 hempty)

/-- A listing that fits names each of its sessions. -/
theorem name_of_mem_read {text : String} {sessions : List Session}
    (h : read text = .ok sessions) : ∀ s ∈ sessions, s.name ≠ "" := by
  have hlines : ∀ lines sessions, Listing.sessions lines = .ok sessions →
      ∀ s ∈ sessions, s.name ≠ "" := by
    intro lines
    induction lines with
    | nil =>
        intro sessions h
        cases h
        exact nofun
    | cons line rest ih =>
        intro sessions h
        rw [Listing.sessions] at h
        split at h
        next => cases h
        next s hs =>
          cases hrest : Listing.sessions rest with
          | error fault =>
              rw [hrest] at h
              cases h
          | ok more =>
              rw [hrest] at h
              cases h
              exact List.forall_mem_cons.2 ⟨name_of_session? hs, ih more hrest⟩
  exact hlines _ sessions h

end Listing

namespace Probe

/-- The sessions that the probe gives are what nodes that were called have told: each call may meet
programs and options of its own, and take its time. -/
def CallsNodes (p : Probe) : Prop :=
  ∀ start node, ∃ programs o limit,
    (p.list start node).result = ((remote programs o limit).list start node).result

theorem remote_callsNodes (programs : Programs) (o : Remote.Options) (limit : Duration) :
    (remote programs o limit).CallsNodes :=
  fun _ _ => ⟨programs, o, limit, rfl⟩

/-- A node that tells of its sessions was called, and has named each of them. -/
theorem CallsNodes.list_ok {p : Probe} (hp : p.CallsNodes) {start : Nat} {node : String}
    {sessions : List Session} (h : (p.list start node).result = .ok sessions) :
    nodeNameFault? node = none ∧ ∀ s ∈ sessions, s.name ≠ "" := by
  obtain ⟨programs, o, limit, hlist⟩ := hp start node
  rw [hlist] at h
  cases hrun : Remote.run programs o limit node Line.list with
  | error fault =>
      cases fault <;> simp [remote, answer, hrun] at h
  | ok output =>
      have hread : readListing output = .ok sessions := by
        simpa [remote, answer, hrun] using h
      constructor
      · unfold Remote.run at hrun
        split at hrun
        next => cases hrun
        next command hcommand => exact (Remote.command?_eq_ok_iff.1 hcommand).1
      · unfold readListing at hread
        split at hread
        next =>
          split at hread
          next hok =>
            cases hread
            exact Listing.name_of_mem_read hok
          next => cases hread
        next =>
          split at hread
          next =>
            cases hread
            exact nofun
          next => cases hread

end Probe

namespace Scan

theorem result_of_within {α : Type} {limit : Duration} {room : Nat} {a : Answer α} {x : α}
    (h : (within limit room a).1 = .ok x) : a.result = .ok x := by
  unfold within at h
  split at h
  next =>
    split at h
    next => exact h
    next => cases h
  next => cases h

/-- What a scan lists, a call of its probe has given. -/
theorem exists_list_of_lists {probe : Probe} {o : Options} {start : Nat}
    {nodes : List Allocation} {now : Instant} {id : Identity} {s : Session}
    (h : ((scan probe o start nodes).findings now).Lists id s) :
    ∃ moment sessions, (probe.list moment id.node).result = .ok sessions ∧ s ∈ sessions := by
  obtain ⟨n, hget, hs, -⟩ := h
  obtain ⟨v, hv, htold⟩ := List.mem_filterMap.1 (Table.mem_of_get?_ofList hget)
  have hvisits : v ∈ (scan probe o start nodes).visits := by
    unfold inOrder Pass.completed at hv
    exact List.mem_mergeSort.1 (List.mem_mergeSort.1 hv)
  obtain ⟨moment, node, rfl⟩ := exists_of_mem_visits hvisits
  have hnode : id.node = node := (told?_node htold).trans (visit_node probe o moment node)
  have hlisted : (visit probe o moment node).listed.toOption = some n.sessions := by
    rw [← told?_sessions, htold]
    rfl
  rw [visit_listed] at hlisted
  cases hresult : (within o.deadline o.room (probe.list moment node)).1 with
  | error fault =>
      rw [hresult] at hlisted
      cases hlisted
  | ok sessions =>
      rw [hresult] at hlisted
      cases hlisted
      exact ⟨moment, n.sessions, hnode ▸ result_of_within hresult, hs⟩

end Scan

/-! ## Identities that are found -/

/-- The findings are those of a cycle that calls its nodes through the remote shell, whatever nodes
the scheduler names and whatever the calls come to. -/
def Findings.Called (f : Findings) : Prop :=
  ∃ (c : Cycle) (now : Instant), c.probe.CallsNodes ∧ f = c.findings now

theorem Findings.Called.plain_of_lists {f : Findings} (hf : f.Called) {id : Identity} {s : Session}
    (h : f.Lists id s) : id.Plain := by
  obtain ⟨c, now, hprobe, rfl⟩ := hf
  have hname : s.name = id.name := by
    obtain ⟨-, -, -, hname⟩ := h
    exact hname
  unfold Cycle.findings at h
  split at h
  next =>
    obtain ⟨n, hget, -⟩ := h
    cases hget
  next nodes _ =>
    obtain ⟨moment, sessions, hlist, hs⟩ := Scan.exists_list_of_lists h
    obtain ⟨hnode, hnames⟩ := hprobe.list_ok hlist
    obtain ⟨hne, hcolon⟩ := colon_not_mem_of_nodeName hnode
    exact ⟨hne, hcolon, hname ▸ hnames s hs⟩

/-- The loads of the gateway are those of files, whatever the files hold. -/
def Gateway.ReadsFiles {σ : Type} (g : Gateway σ) : Prop :=
  ∀ state loaded, (g.load state).1 = .ok loaded → ∃ files : StateFiles, loaded = files.load.1

theorem StateFiles.gateway_readsFiles : StateFiles.gateway.ReadsFiles := by
  intro files loaded h
  cases h
  exact ⟨files, rfl⟩

/-! ## Identities that are filed -/

/-- Every identity that is filed can be told from its key. -/
def AllPlain (entries : Table Identity Entry) : Prop :=
  ∀ id e, entries.get? id = some e → id.Plain

/-- Only a scan that lists an identity files it anew. -/
theorem Operation.entryAt_none {op : Operation} {id : Identity}
    (h : ∀ f, op = .merge f → ∀ s, ¬ f.Lists id s) : op.entryAt id none = none := by
  cases op with
  | merge f => exact (Inventory.mergeAt_of_not_lists (h f rfl)).trans rfl
  | setNote key text => simp [entryAt]
  | deleteNote key => simp [entryAt]
  | setCapture key c => simp [entryAt]
  | forget key => simp [entryAt]
  | load => rfl
  | addIncident e => rfl
  | flush => rfl

namespace Keeper

variable {σ : Type} {g : Gateway σ} {k : Keeper σ}

theorem AllPlain.load (hg : g.ReadsFiles) (now : Instant) (h : AllPlain k.inventory.entries) :
    AllPlain (k.load g now).inventory.entries := by
  intro id e he
  cases hload : (g.load k.state).1 with
  | error fault =>
      rw [load_entries_of_error hload] at he
      exact h id e he
  | ok loaded =>
      obtain ⟨files, rfl⟩ := hg _ _ hload
      have hstorable := files.load_storable
      rw [get?_load_of_ok hload] at he
      cases hnote : files.load.1.notes.get? id with
      | some note => exact (hstorable.notes id note hnote).1
      | none =>
          cases hcapture : files.load.1.captures.get? id with
          | some c => exact (hstorable.captures id c hcapture).1
          | none =>
              rw [hnote, hcapture] at he
              exact h id e he

/-- No step files an identity that cannot be told from its key. -/
theorem AllPlain.step (hg : g.ReadsFiles) {s : Step} (hs : ∀ f, s.op = .merge f → f.Called)
    (h : AllPlain k.inventory.entries) : AllPlain (Keeper.step g k s).2.inventory.entries := by
  by_cases hload : s.op = .load
  · have hg' : (g.failing s.fault).ReadsFiles := by
      intro state loaded hok
      rw [g.load_failing s.fault] at hok
      exact hg state loaded hok
    rw [step_of_load hload]
    exact AllPlain.load hg' s.now h
  · intro id e he
    rw [get?_step hload] at he
    cases hprior : k.inventory.entries.get? id with
    | some prior => exact h id prior hprior
    | none =>
        rw [hprior] at he
        by_contra hnot
        have hnone : s.op.entryAt id none = none :=
          Operation.entryAt_none fun f hf t ht => hnot ((hs f hf).plain_of_lists ht)
        rw [hnone] at he
        cases he

end Keeper

/-! ## Keys -/

theorem Identity.Plain.eq_of_key {id id' : Identity} (h : id.Plain) (h' : id'.Plain)
    (hkey : id.key = id'.key) : id = id' := by
  have hid := Identity.plain_iff.1 h
  rw [hkey, Identity.plain_iff.1 h'] at hid
  exact (Option.some.inj hid).symm

theorem Table.nodup_entries {κ ν : Type} [Ord κ] [Std.ReflOrd κ] (t : Table κ ν) :
    t.entries.Nodup := by
  refine t.ascending.imp fun {a b} hbefore heq => ?_
  subst heq
  unfold Before at hbefore
  rw [Std.ReflOrd.compare_self] at hbefore
  cases hbefore

/-- Filed under keys, all entries are there, each under its own key. -/
theorem StateText.entries_byKey {α : Type} {t : Table Identity α}
    (h : ∀ id v, t.get? id = some v → id.Plain) :
    (byKey t).entries.Perm (t.entries.map fun e => (e.1.key, e.2)) := by
  have hapart : (t.entries.map fun e => (e.1.key, e.2)).Nodup := by
    refine List.pairwise_map.2 (t.nodup_entries.imp_of_mem fun {a b} ha hb hne heq => hne ?_)
    obtain ⟨hkey, hvalue⟩ := Prod.mk.inj heq
    have hid := (h a.1 a.2 (Table.mem_entries_iff.1 ha)).eq_of_key
      (h b.1 b.2 (Table.mem_entries_iff.1 hb)) hkey
    exact Prod.ext hid hvalue
  refine (List.perm_ext_iff_of_nodup (byKey t).nodup_entries hapart).2 fun ⟨k, v⟩ => ?_
  rw [Table.mem_entries_iff, get?_byKey h, List.mem_map]
  constructor
  · rintro ⟨id, rfl, hget⟩
    exact ⟨(id, v), Table.mem_entries_iff.2 hget, rfl⟩
  · rintro ⟨⟨id, w⟩, hmem, heq⟩
    cases heq
    exact ⟨id, rfl, Table.mem_entries_iff.1 hmem⟩

namespace Keeper

variable {σ : Type} {g : Gateway σ}

/-- Every identity that is filed can be told from its key, after any run in which scans call their
nodes through the remote shell and loads are those of files.  So no two of them have one key, and a
save files every note and every output under a key of its own.  A text that denotes an identity is
its key. -/
theorem keys_tell (hg : g.ReadsFiles) (capacity : Nat) (state : σ) (steps : List Step)
    (hsteps : ∀ s ∈ steps, ∀ f, s.op = .merge f → f.Called) :
    let inv := (run g (fresh capacity state) steps).inventory
    (∀ id e, inv.entries.get? id = some e → Identity.ofKey? id.key = some id)
    ∧ (∀ id id' e e', inv.entries.get? id = some e → inv.entries.get? id' = some e' →
        id.key = id'.key → id = id')
    ∧ (StateText.byKey inv.saved.notes).entries.Perm
        (inv.saved.notes.entries.map fun e => (e.1.key, e.2))
    ∧ (StateText.byKey inv.saved.captures).entries.Perm
        (inv.saved.captures.entries.map fun e => (e.1.key, e.2))
    ∧ ∀ k id, Identity.ofKey? k = some id → id.key = k := by
  intro inv
  have hfresh : AllPlain (fresh capacity state).inventory.entries := fun _ _ => nofun
  have hplain : AllPlain inv.entries :=
    run_induction (P := fun k => AllPlain k.inventory.entries)
      (fun _ s hs h => AllPlain.step hg (hsteps s hs) h) hfresh
  refine ⟨fun id e he => Identity.plain_iff.1 (hplain id e he),
    fun id id' e e' he he' => (hplain id e he).eq_of_key (hplain id' e' he'), ?_, ?_,
    fun _ _ => Identity.key_of_ofKey?⟩
  · refine StateText.entries_byKey fun id note hget => ?_
    rw [Inventory.get?_saved_notes] at hget
    obtain ⟨e, he, -⟩ := Option.bind_eq_some_iff.1 hget
    exact hplain id e he
  · refine StateText.entries_byKey fun id c hget => ?_
    rw [Inventory.get?_saved_captures] at hget
    obtain ⟨e, he, -⟩ := Option.bind_eq_some_iff.1 hget
    exact hplain id e he

/-- A file with a key that denotes nothing is loaded, and a scan is given nodes that were not told
apart and a node with a colon.  What is filed is a session whose name holds a colon, from the file
and from the node that is called. -/
theorem keys_tell_with_colons :
    let files : StateFiles :=
      { disk :=
          { items := .ofList [(["notes.json"],
              .file (.text "\x7b\"n1:a:b\": \"x\", \":c\": \"y\", \"n2:d\": \"z\"\x7d"))] }
        notesPath := "notes.json", capturesPath := "snaps.json" }
    let programs : Programs := fun _ =>
      .ended (.exited 0) [97, 58, 98, 124, 49, 48, 124, 49, 10] []
    let cycle : Cycle :=
      { options := {}, start := 0
        resolution := ⟨0, .ok [⟨"n1", none⟩, ⟨"n[2-3]", none⟩, ⟨"x:y", none⟩]⟩
        probe := .remote programs {} (.ofSeconds 6) }
    let steps : List Step :=
      [⟨.load, ⟨0, 0⟩, none⟩, ⟨.merge (cycle.findings ⟨1, 0⟩), ⟨1, 0⟩, none⟩,
        ⟨.setNote ⟨"n1", "a:b"⟩ "w", ⟨2, 0⟩, none⟩]
    let inv := (run StateFiles.gateway (fresh 200 files) steps).inventory
    inv.entries.keys = [⟨"n1", "a:b"⟩, ⟨"n2", "d"⟩]
    ∧ (∀ id e, inv.entries.get? id = some e → Identity.ofKey? id.key = some id)
    ∧ (StateText.byKey inv.saved.notes).entries.Perm
        (inv.saved.notes.entries.map fun e => (e.1.key, e.2)) := by
  intro files programs cycle steps inv
  have hsteps : ∀ s ∈ steps, ∀ f, s.op = .merge f → f.Called := by
    intro s hs f hf
    rcases List.mem_cons.1 hs with rfl | hs
    · cases hf
    rcases List.mem_cons.1 hs with rfl | hs
    · cases hf
      exact ⟨cycle, ⟨1, 0⟩, Probe.remote_callsNodes programs {} (.ofSeconds 6), rfl⟩
    cases List.mem_singleton.1 hs
    cases hf
  have hfound : cycle.findings ⟨1, 0⟩ = Scan.eachAlone cycle.probe cycle.options
      [⟨"n1", none⟩, ⟨"n[2-3]", none⟩, ⟨"x:y", none⟩] ⟨1, 0⟩ :=
    Scan.findings_scan_eq_eachAlone (Probe.remote_timeless programs {} (.ofSeconds 6)) rfl rfl 0
      (by decide) _
  have hkeys : inv.entries.keys = [⟨"n1", "a:b"⟩, ⟨"n2", "d"⟩] := by
    unfold inv steps
    rw [hfound]
    decide +kernel
  obtain ⟨hids, -, hnotes, -⟩ :=
    keys_tell StateFiles.gateway_readsFiles 200 files steps hsteps
  exact ⟨hkeys, hids, hnotes⟩

end Keeper

end Roster
