import Mathlib.Data.List.Basic
import Roster.Proofs.Scan.Schedule
import Roster.Proofs.Table

/-!
# What a scan finds

Visits come as they are over, in an order that nobody chooses.  What is found depends neither on that
order nor on how many nodes are visited at once.

* *Places.*  If no node is named twice, its rank is its place among the nodes (`rank_getElem`).  So
  visits are brought into the order of the nodes whatever order they come in (`inOrder_of_perm`),
  and what is found can be told node by node (`gather_of_perm`, `get?_probed_byNode`).
* *Moments.*  All that a call can know of the others is the moment at which it is made.  If the
  answers of the probe do not hang on that, then each visit comes to what it would come to alone
  (`byNode_congr`, `visit_alike`).

`findings_of_completion` is the outcome: a scan finds what is found when each node is visited alone.
-/

namespace Roster.Scan

variable {nodes : List Allocation} {f f' : Allocation → Visit}

/-! ## Places -/

/-- The rank of a node is its place, counted from one. -/
theorem rank_getElem (h : nodes.Pairwise fun a b => a.node ≠ b.node) {i : Nat}
    (hi : i < nodes.length) : rank nodes nodes[i].node = i + 1 := by
  have hnames : (nodes.map (·.node)).reverse.Nodup :=
    List.pairwise_reverse.2 ((List.pairwise_map.2 h).imp Ne.symm)
  have hlast : nodes.length - 1 - i < (nodes.map (·.node)).reverse.length := by
    rw [List.length_reverse, List.length_map]
    omega
  have hplace : (nodes.map (·.node)).reverse[nodes.length - 1 - i] = nodes[i].node := by
    have hback : nodes.length - 1 - (nodes.length - 1 - i) = i := by omega
    simp only [List.getElem_reverse, List.length_map, List.getElem_map, hback]
  rw [rank, ← hplace, hnames.idxOf_getElem]
  omega

theorem eq_of_rank_eq (h : nodes.Pairwise fun a b => a.node ≠ b.node) {a b : Allocation}
    (ha : a ∈ nodes) (hb : b ∈ nodes) (hrank : rank nodes a.node = rank nodes b.node) : a = b := by
  obtain ⟨i, hi, rfl⟩ := List.getElem_of_mem ha
  obtain ⟨j, hj, rfl⟩ := List.getElem_of_mem hb
  rw [rank_getElem h hi, rank_getElem h hj] at hrank
  obtain rfl : i = j := Nat.succ.inj hrank
  rfl

theorem pairwise_rank (h : nodes.Pairwise fun a b => a.node ≠ b.node) :
    nodes.Pairwise fun a b => rank nodes a.node ≤ rank nodes b.node := by
  refine List.pairwise_iff_getElem.2 fun i j hi hj hij => ?_
  rw [rank_getElem h hi, rank_getElem h hj]
  omega

/-- Visits to distinct nodes are put in the order of the nodes, whatever order they come in. -/
theorem inOrder_of_perm (h : nodes.Pairwise fun a b => a.node ≠ b.node)
    (hf : ∀ a, (f a).node = a.node) {completed : List Visit}
    (hrun : completed.Perm (nodes.map f)) : inOrder nodes completed = nodes.map f := by
  have hperm : (inOrder nodes completed).Perm (nodes.map f) :=
    (List.mergeSort_perm ..).trans hrun
  have hsorted : (inOrder nodes completed).Pairwise
      fun v w => rank nodes v.node ≤ rank nodes w.node := by
    have htrans : ∀ u v w : Visit, decide (rank nodes u.node ≤ rank nodes v.node) = true →
        decide (rank nodes v.node ≤ rank nodes w.node) = true →
        decide (rank nodes u.node ≤ rank nodes w.node) = true := by
      simp only [decide_eq_true_eq]
      exact fun u v w => Nat.le_trans
    have htotal : ∀ v w : Visit, (decide (rank nodes v.node ≤ rank nodes w.node)
        || decide (rank nodes w.node ≤ rank nodes v.node)) = true := by
      simp only [Bool.or_eq_true, decide_eq_true_eq]
      exact fun v w => Nat.le_total ..
    have hle := List.pairwise_mergeSort htrans htotal completed
    simp only [decide_eq_true_eq] at hle
    exact hle
  have hnodes : (nodes.map f).Pairwise fun v w => rank nodes v.node ≤ rank nodes w.node := by
    refine List.pairwise_map.2 ?_
    simp only [hf]
    exact pairwise_rank h
  refine List.Perm.eq_of_pairwise (fun v w hv hw hvw hwv => ?_) hsorted hnodes hperm
  obtain ⟨a, ha, rfl⟩ := List.mem_map.1 (hperm.mem_iff.1 hv)
  obtain ⟨b, hb, rfl⟩ := List.mem_map.1 hw
  rw [hf, hf] at hvw hwv
  rw [eq_of_rank_eq h ha hb (Nat.le_antisymm hvw hwv)]

/-! ## Findings node by node -/

/-- What is found by one visit to each node, in the order of the nodes. -/
def byNode (f : Allocation → Visit) (nodes : List Allocation) (now : Instant) : Findings where
  nodes := nodes
  probed := .ofList (nodes.filterMap fun a => told? (f a))
  incidents := nodes.flatMap fun a => incidents now (f a)
  completedAt := now

/-- It does not matter for what is found in which order the visits are over. -/
theorem gather_of_perm (h : nodes.Pairwise fun a b => a.node ≠ b.node)
    (hf : ∀ a, (f a).node = a.node) {completed : List Visit}
    (hrun : completed.Perm (nodes.map f)) (now : Instant) :
    gather nodes completed now = byNode f nodes now := by
  rw [gather, byNode, inOrder_of_perm h hf hrun, List.filterMap_map, List.flatMap_map]
  rfl

theorem told?_node {v : Visit} {e : String × NodeFindings} (h : told? v = some e) :
    e.1 = v.node := by
  simp only [told?] at h
  split at h
  next => exact (congrArg Prod.fst (Option.some.inj h)).symm
  next => cases h

theorem told?_sessions (v : Visit) : (told? v).map (·.2.sessions) = v.listed.toOption := by
  rw [told?]
  cases v.listed <;> rfl

theorem node_of_mem_incidents {now : Instant} {v : Visit} {e : Incident}
    (h : e ∈ incidents now v) : e.node = some v.node := by
  rw [incidents, List.mem_append] at h
  rcases h with hprobe | hcapture
  · split at hprobe
    next => cases hprobe
    next => rw [List.mem_singleton.1 hprobe]
  · obtain ⟨_, -, rfl⟩ := List.mem_map.1 hcapture
    rfl

/-- What a node has told is what its own visit brought. -/
theorem get?_probed_byNode (h : nodes.Pairwise fun a b => a.node ≠ b.node)
    (hf : ∀ a, (f a).node = a.node) {a : Allocation} (ha : a ∈ nodes)
    (now : Instant) : (byNode f nodes now).probed.get? a.node = (told? (f a)).map (·.2) := by
  -- only the visit to `a` tells of its node
  have honly : ∀ n, (a.node, n) ∈ nodes.filterMap (fun b => told? (f b)) →
      told? (f a) = some (a.node, n) := by
    intro n hn
    obtain ⟨b, hb, htold⟩ := List.mem_filterMap.1 hn
    have hnode : a.node = b.node := (told?_node htold).trans (hf b)
    obtain rfl : a = b := eq_of_rank_eq h ha hb (congrArg (rank nodes) hnode)
    exact htold
  cases htold : told? (f a) with
  | none =>
      refine Table.get?_insertAll_eq_none.2 ⟨rfl, fun n hn => ?_⟩
      have hsome := honly n hn
      rw [htold] at hsome
      cases hsome
  | some e =>
      have hkey : e = (a.node, e.2) := Prod.ext ((told?_node htold).trans (hf a)) rfl
      rw [hkey] at htold
      refine Table.get?_ofList (List.mem_filterMap.2 ⟨a, ha, htold⟩) fun n hn => ?_
      have hsome := honly n hn
      rw [htold] at hsome
      exact (congrArg Prod.snd (Option.some.inj hsome)).symm

/-- A node that is not among those of the scan has told nothing. -/
theorem get?_probed_of_not_mem (hf : ∀ a, (f a).node = a.node)
    {node : String} (h : ∀ a ∈ nodes, a.node ≠ node) (now : Instant) :
    (byNode f nodes now).probed.get? node = none := by
  refine Table.get?_insertAll_eq_none.2 ⟨rfl, fun n hn => ?_⟩
  obtain ⟨a, ha, htold⟩ := List.mem_filterMap.1 hn
  exact h a ha ((told?_node htold).trans (hf a)).symm

/-- What visits tell of a node hangs on the visits to this node alone. -/
theorem get?_probed_congr (h : nodes.Pairwise fun a b => a.node ≠ b.node)
    (hf : ∀ a, (f a).node = a.node) (hf' : ∀ a, (f' a).node = a.node) {α : Type}
    (part : NodeFindings → α) {node : String}
    (hpart : ∀ a ∈ nodes, a.node = node →
      (told? (f a)).map (part ·.2) = (told? (f' a)).map (part ·.2)) (now : Instant) :
    ((byNode f nodes now).probed.get? node).map part =
      ((byNode f' nodes now).probed.get? node).map part := by
  by_cases hnode : ∃ a ∈ nodes, a.node = node
  · obtain ⟨a, ha, rfl⟩ := hnode
    rw [get?_probed_byNode h hf ha, get?_probed_byNode h hf' ha, Option.map_map, Option.map_map]
    exact hpart a ha rfl
  · have hnone : ∀ a ∈ nodes, a.node ≠ node := fun a ha heq => hnode ⟨a, ha, heq⟩
    rw [get?_probed_of_not_mem hf hnone, get?_probed_of_not_mem hf' hnone]

/-- Nodes that told nothing can be left out. -/
theorem probed_byNode_filter {keep : Allocation → Bool}
    (h : ∀ a ∈ nodes, keep a = false → told? (f a) = none) (now : Instant) :
    (byNode f (nodes.filter keep) now).probed = (byNode f nodes now).probed := by
  refine congrArg Table.ofList ?_
  rw [List.filterMap_filter]
  refine List.filterMap_congr fun a ha => ?_
  cases hkeep : keep a with
  | true => rfl
  | false => exact (h a ha hkeep).symm

/-! ## Moments -/

theorem Visit.Alike.told? {v w : Visit} (h : v.Alike w) : told? v = told? w := by
  rw [Scan.told?, Scan.told?, h.listed, h.node, h.taken]

theorem Visit.Alike.incidents {v w : Visit} (h : v.Alike w) (now : Instant) :
    incidents now v = incidents now w := by
  rw [Scan.incidents, Scan.incidents, h.listed, h.node, h.failures]

theorem byNode_congr (h : ∀ a ∈ nodes, (f a).Alike (f' a))
    (now : Instant) : byNode f nodes now = byNode f' nodes now := by
  have hprobed : nodes.filterMap (fun a => told? (f a)) =
      nodes.filterMap fun a => told? (f' a) :=
    List.filterMap_congr fun a ha => (h a ha).told?
  have hincidents : nodes.flatMap (fun a => incidents now (f a)) =
      nodes.flatMap fun a => incidents now (f' a) :=
    List.flatMap_congr fun a ha => (h a ha).incidents now
  rw [byNode, byNode, hprobed, hincidents]

/-- The visits of a scan are one visit to each node, each at a moment of its own. -/
theorem exists_starts (probe : Probe) (o : Options) (slots : List Nat) {names : List String}
    (h : names.Nodup) :
    ∃ starts : String → Nat,
      visits probe o slots names = names.map fun node => visit probe o (starts node) node := by
  induction names generalizing slots with
  | nil => exact ⟨fun _ => 0, rfl⟩
  | cons node rest ih =>
      obtain ⟨hnode, hrest⟩ := List.nodup_cons.1 h
      obtain ⟨starts, hstarts⟩ :=
        ih (retake slots (visit probe o (earliest slots) node).stop) hrest
      refine ⟨fun other => if other = node then earliest slots else starts other, ?_⟩
      rw [visits_cons]
      dsimp only
      rw [hstarts, List.map_cons, if_pos rfl]
      refine congrArg _ (List.map_congr_left fun other hother => ?_)
      rw [if_neg]
      rintro rfl
      exact hnode hother

/-- A scan makes one visit to each node, and finds what these visits bring. -/
theorem findings_scan (probe : Probe) (o : Options) (start : Nat)
    (h : nodes.Pairwise fun a b => a.node ≠ b.node) (now : Instant) :
    ∃ starts : String → Nat,
      (scan probe o start nodes).visits =
          nodes.map (fun a => visit probe o (starts a.node) a.node)
        ∧ (scan probe o start nodes).findings now =
          byNode (fun a => visit probe o (starts a.node) a.node) nodes now := by
  have hnames : (nodes.map (·.node)).Nodup := List.pairwise_map.2 h
  obtain ⟨starts, hstarts⟩ := exists_starts probe o (openSlots o start nodes) hnames
  have hvisits : (scan probe o start nodes).visits =
      nodes.map fun a => visit probe o (starts a.node) a.node := by
    rw [scan_visits, hstarts, List.map_map]
    rfl
  refine ⟨starts, hvisits, gather_of_perm h (fun a => visit_node ..) ?_ now⟩
  rw [Pass.completed, hvisits]
  exact List.mergeSort_perm ..

/-! ## One node at a time -/

/-- The visit to a node that is the only one. -/
def alone (probe : Probe) (o : Options) (node : String) : Visit := visit probe o 0 node

/-- What is found when each node is visited alone. -/
def eachAlone (probe : Probe) (o : Options) (nodes : List Allocation) (now : Instant) : Findings :=
  byNode (fun a => alone probe o a.node) nodes now

/-- The incidents of a node: one if its listing did not come, and otherwise one for each output that
was missed, in the order of the listing. -/
def ownIncidents (now : Instant) (v : Visit) : List Incident :=
  match v.listed with
  | .error fault => [⟨.probe, some v.node, now, fault.message⟩]
  | .ok _ => v.failures.map fun f => ⟨.capture, some v.node, now, f.1 ++ ": " ++ f.2.message⟩

theorem incidents_visit (probe : Probe) (o : Options) (start : Nat) (node : String)
    (now : Instant) :
    incidents now (visit probe o start node) = ownIncidents now (visit probe o start node) := by
  rw [incidents, ownIncidents]
  cases hlisted : (visit probe o start node).listed with
  | ok sessions => rfl
  | error fault => rw [(visit_of_error hlisted).2, List.map_nil, List.append_nil]

theorem incidents_eachAlone (probe : Probe) (o : Options) (nodes : List Allocation)
    (now : Instant) :
    (eachAlone probe o nodes now).incidents =
      nodes.flatMap fun a => ownIncidents now (alone probe o a.node) :=
  List.flatMap_congr fun _ _ => incidents_visit ..

/-- Outputs are missed in the order of the listing. -/
theorem sublist_failures {probe : Probe} {o : Options} {start : Nat} {node : String}
    {sessions : List Session} (h : (visit probe o start node).listed = .ok sessions) :
    ((visit probe o start node).failures.map (·.1)).Sublist (sessions.map (·.name)) := by
  obtain ⟨fates, hnames, -, hfailures⟩ := visit_fates h
  have hfates : ((fates.filterMap faultOf?).map (·.1)).Sublist (fates.map (·.1)) := by
    clear hnames hfailures
    induction fates with
    | nil => exact .slnil
    | cons fate rest ih =>
        obtain ⟨name, result⟩ := fate
        rw [List.filterMap_cons, List.map_cons]
        cases result with
        | ok text => exact .cons _ ih
        | error fault => exact .cons_cons _ ih
  rw [hfailures]
  refine hfates.trans ?_
  rw [hnames]
  split
  next => exact .refl _
  next => exact List.nil_sublist _

/-- One visit to each node finds what is found when each node is visited alone. -/
theorem byNode_eq_eachAlone {probe : Probe} (hprobe : probe.Timeless) {o o' : Options}
    (hdeadline : o'.deadline = o.deadline) (hlines : o'.captureLines = o.captureLines)
    (starts : String → Nat) (now : Instant) :
    byNode (fun a => visit probe o' (starts a.node) a.node) nodes now =
      eachAlone probe o nodes now :=
  byNode_congr (fun a _ => visit_alike (hprobe a.node) hdeadline hlines _ _) now

theorem findings_scan_eq_eachAlone {probe : Probe} (hprobe : probe.Timeless) {o o' : Options}
    (hdeadline : o'.deadline = o.deadline) (hlines : o'.captureLines = o.captureLines)
    (start : Nat) (h : nodes.Pairwise fun a b => a.node ≠ b.node) (now : Instant) :
    (scan probe o' start nodes).findings now = eachAlone probe o nodes now := by
  obtain ⟨starts, -, hscan⟩ := findings_scan probe o' start h now
  exact hscan.trans (byNode_eq_eachAlone hprobe hdeadline hlines starts now)

/-- If no node is named twice and the answers of the probe do not hang on the moment, then what is
found does not depend on how many nodes are visited at once, on when the visits start or on the order
in which they are over: it is what is found when each node is visited alone.  That is the nodes that
were named, what each node told whose listing came, and the incidents of each node, in the order of
the nodes. -/
theorem findings_of_completion {probe : Probe} (hprobe : probe.Timeless) (o : Options)
    (hnodes : nodes.Pairwise fun a b => a.node ≠ b.node) (now : Instant) :
    let found := eachAlone probe o nodes now
    (∀ (width : Nat) (starts : String → Nat) (completed : List Visit),
      completed.Perm
        (nodes.map fun a =>
          visit probe { o with maxConcurrent := width } (starts a.node) a.node) →
      gather nodes completed now = found)
    ∧ (∀ width start,
      (scan probe { o with maxConcurrent := width } start nodes).findings now = found)
    ∧ found.nodes = nodes
    ∧ (∀ a ∈ nodes, found.probed.get? a.node =
        match (alone probe o a.node).listed with
        | .ok sessions => some ⟨sessions, .ofList (alone probe o a.node).taken⟩
        | .error _ => none)
    ∧ (∀ node, (∀ a ∈ nodes, a.node ≠ node) → found.probed.get? node = none)
    ∧ found.incidents = nodes.flatMap (fun a => ownIncidents now (alone probe o a.node))
    ∧ ∀ a ∈ nodes, ∀ sessions, (alone probe o a.node).listed = .ok sessions →
        ((alone probe o a.node).failures.map (·.1)).Sublist (sessions.map (·.name)) := by
  intro found
  refine ⟨?_, ?_, rfl, ?_, ?_, incidents_eachAlone .., ?_⟩
  · intro width starts completed hrun
    rw [gather_of_perm hnodes (fun a => visit_node ..) hrun now]
    apply byNode_eq_eachAlone hprobe
    · rfl
    · rfl
  · intro width start
    apply findings_scan_eq_eachAlone hprobe _ _ start hnodes now
    · rfl
    · rfl
  · intro a ha
    have htold : found.probed.get? a.node = (told? (alone probe o a.node)).map (·.2) :=
      get?_probed_byNode hnodes (fun a => visit_node ..) ha now
    rw [htold, told?]
    cases (alone probe o a.node).listed <;> rfl
  · intro node hnode
    exact get?_probed_of_not_mem (fun a => visit_node ..) hnode now
  · intro a _ sessions hlisted
    exact sublist_failures hlisted

/-- Three nodes of which one hangs, one refuses and one has an output that hangs.  The visits are
over in another order than that of the nodes, and later than they would be two at a time. -/
theorem findings_of_completion_shuffled :
    let probe : Probe :=
      { list := fun _ node =>
          if node = "n1" then ⟨some 1, .ok [⟨"eval", none, false⟩, ⟨"train", none, true⟩]⟩
          else if node = "n2" then ⟨none, .ok []⟩
          else ⟨some 3, .error (.connect "refused")⟩
        capture := fun _ id _ =>
          if id.name = "train" then ⟨none, .ok ""⟩ else ⟨some 2, .ok "done"⟩ }
    let o : Options := { maxConcurrent := 0, deadline := .ofMillis 5, captureLines := some 3 }
    let nodes : List Allocation := [⟨"n1", none⟩, ⟨"n2", none⟩, ⟨"n3", none⟩]
    let completed := [visit probe o 7 "n3", visit probe o 20 "n1", visit probe o 2 "n2"]
    probe.Timeless
    ∧ (nodes.Pairwise fun a b => a.node ≠ b.node)
    ∧ gather nodes completed ⟨0, 0⟩ =
      (scan probe { o with maxConcurrent := 2 } 4 nodes).findings ⟨0, 0⟩
    ∧ (gather nodes completed ⟨0, 0⟩).incidents =
      [⟨.capture, some "n1", ⟨0, 0⟩, "train: timed out after 5ms"⟩,
        ⟨.probe, some "n2", ⟨0, 0⟩, "timed out after 5ms"⟩,
        ⟨.probe, some "n3", ⟨0, 0⟩, "connection failed: refused"⟩] := by
  intro probe o nodes completed
  have hprobe : probe.Timeless := fun _ => ⟨fun _ _ => rfl, fun _ _ _ _ => rfl⟩
  have hnodes : nodes.Pairwise fun a b => a.node ≠ b.node := by decide
  obtain ⟨hgather, hscan, -, -, -, hincidents, -⟩ :=
    findings_of_completion hprobe o hnodes ⟨0, 0⟩
  let starts : String → Nat := fun node =>
    if node = "n1" then 20 else if node = "n2" then 2 else 7
  have hrun : completed.Perm (nodes.map fun a => visit probe o (starts a.node) a.node) :=
    (List.Perm.swap ..).trans (.cons _ (.swap ..))
  have hfound := hgather 0 starts completed hrun
  refine ⟨hprobe, hnodes, hfound.trans (hscan 2 4).symm, ?_⟩
  rw [hfound, hincidents]
  decide

end Roster.Scan
