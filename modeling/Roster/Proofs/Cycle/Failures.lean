import Roster.Cycle
import Roster.Proofs.Inventory.Merge
import Roster.Proofs.Inventory.View
import Roster.Proofs.Keeper.Run
import Roster.Proofs.Scan.Gathering

/-!
# What failures cost

A cycle lives with three kinds of failures, and each costs as little as it can.

* *Nodes.*  A node whose listing does not come tells nothing, and what tells nothing counts as much
  as what was not named (`findings_without`, `after_congr`).  The other nodes are not concerned
  (`get?_probed_of_alike`).
* *Outputs.*  What runs is told by the listings alone (`isActive_after`).
* *The scheduler.*  If it fails, the cycle goes on without nodes (`after_unresolved`).

None of them breaks a cycle off whose deadlines fit the clock (`breaksOff_eq_false`).
`cost_of_failures` puts these together, for cycles that a keeper in any state goes through.
-/

namespace Roster

open Scan

variable {σ : Type}

/-! ## The keeper after a cycle -/

/-- The keeper after a cycle that is over at the time `now`. -/
def Keeper.after (g : Gateway σ) (now : Instant) (k : Keeper σ) (c : Cycle) : Keeper σ :=
  k.merge g now (c.findings now)

namespace Keeper

variable {g : Gateway σ} {now : Instant} {k : Keeper σ}

theorem after_entries (c : Cycle) :
    (k.after g now c).inventory.entries =
      Inventory.mergeEntries k.inventory.entries (c.findings now) := by
  rw [after, merge, mergeView, release_inventory]
  split
  next => rw [save_entries, Inventory.merge_entries]
  next => rw [Inventory.merge_entries]

theorem get?_after (c : Cycle) (id : Identity) :
    (k.after g now c).inventory.entries.get? id =
      Inventory.mergeAt (c.findings now) id (k.inventory.entries.get? id) := by
  rw [after_entries, Inventory.get?_mergeEntries]

theorem shown_after (c : Cycle) (id : Identity) :
    (k.after g now c).view.get? id =
      ((k.after g now c).inventory.entries.get? id).map (Inventory.recordOf id) :=
  Inventory.get?_view ..

theorem records_after_congr {l : Keeper σ} {c c' : Cycle}
    (h : (k.after g now c).inventory.entries = (l.after g now c').inventory.entries) :
    (k.after g now c).view.records = (l.after g now c').view.records := by
  show (k.after g now c).inventory.view.records = (l.after g now c').inventory.view.records
  rw [Inventory.view, Inventory.view, Inventory.records, Inventory.records, h]

end Keeper

/-! ## Cycles -/

namespace Cycle

variable {c c' : Cycle} {nodes : List Allocation} {failed : List String} {now : Instant}

/-- The visits that a cycle makes. -/
def visits (c : Cycle) : List Visit :=
  match c.pass? with
  | some pass => pass.visits
  | none => []

/-- The cycles want the same, and their probes answer alike about all nodes but those given, whenever
they are asked: the calls of two cycles are made at moments of their own. -/
structure AlikeOutside (failed : List String) (c c' : Cycle) : Prop where
  /-- The deadlines are the same. -/
  deadline : c.options.deadline = c'.options.deadline
  /-- The same outputs are wanted. -/
  captureLines : c.options.captureLines = c'.options.captureLines
  /-- The probes answer alike about the other nodes. -/
  probe : ∀ node, node ∉ failed → c.probe.AlikeOn c'.probe node

theorem findings_completedAt (c : Cycle) (now : Instant) : (c.findings now).completedAt = now := by
  rw [findings]
  split <;> rfl

theorem findings_of_ok (hok : c.resolution.result = .ok nodes)
    (h : nodes.Pairwise fun a b => a.node ≠ b.node) (now : Instant) :
    ∃ starts : String → Nat,
      c.visits = nodes.map (fun a => visit c.probe c.options (starts a.node) a.node)
        ∧ c.findings now =
          byNode (fun a => visit c.probe c.options (starts a.node) a.node) nodes now := by
  obtain ⟨starts, hvisits, hfindings⟩ := findings_scan c.probe c.options c.resolvedAt h now
  refine ⟨starts, ?_, ?_⟩
  · simp only [visits, pass?, hok]
    exact hvisits
  · simp only [findings, hok]
    exact hfindings

/-- No failure breaks a cycle off whose deadlines fit the clock. -/
theorem breaksOff_eq_false (hok : c.resolution.result = .ok nodes)
    (hfits : c.resolvedAt + (nodes.length + c.options.width - 1) / c.options.width *
      (2 * c.options.room) < Clock.secondsBound * 1000) : c.breaksOff = false := by
  rw [Bool.eq_false_iff]
  intro hbreaks
  simp only [breaksOff, overruns, pass?, hok, Except.toOption, Option.map_some, Bool.and_eq_true,
    List.any_eq_true] at hbreaks
  obtain ⟨v, hmem, ⟨hlines, -⟩, hcall⟩ := hbreaks
  obtain ⟨i, hv⟩ := List.getElem?_of_mem hmem
  have hi : i < nodes.length := lt_of_getElem?_scan hv
  have hstart := scan_start_le hv
  obtain ⟨start, node, rfl⟩ := exists_of_mem_visits hmem
  rw [visit_start, Options.span, if_pos hlines] at hstart
  have hround := Nat.mul_le_mul_right (2 * c.options.room) (c.options.succ_round_le hi)
  rw [Nat.succ_mul] at hround
  cases hhead : (visit c.probe c.options start node).calls.head? with
  | none => simp [hhead] at hcall
  | some call =>
      have hlisting := head?_calls_visit hhead
      have hlast : call.stop + c.options.room ≤ c.resolvedAt +
          (nodes.length + c.options.width - 1) / c.options.width * (2 * c.options.room) := by
        omega
      have hreading : Clock.after? call.stop c.options.room = some (call.stop + c.options.room) :=
        Clock.after?_eq_some_iff.2 ⟨rfl, Nat.lt_of_le_of_lt hlast hfits⟩
      rw [hhead, Option.any_some, hreading] at hcall
      cases hcall

/-- Nodes that failed might as well not have been named: what is told is the same, and so are the
incidents of the other nodes.  Each node that failed has one incident of its own. -/
theorem findings_without (halike : c.AlikeOutside failed c')
    (hok : c.resolution.result = .ok nodes)
    (hreduced : c'.resolution.result = .ok (nodes.filter fun a => a.node ∉ failed))
    (h : nodes.Pairwise fun a b => a.node ≠ b.node)
    (hfailed : ∀ v ∈ c.visits, v.node ∈ failed → ∃ fault, v.listed = .error fault)
    (now : Instant) :
    (c.findings now).probed = (c'.findings now).probed
    ∧ ∃ own : Allocation → List Incident,
        (c.findings now).incidents = nodes.flatMap own
        ∧ (c'.findings now).incidents = (nodes.filter fun a => a.node ∉ failed).flatMap own
        ∧ (∀ a, ∀ e ∈ own a, e.node = some a.node)
        ∧ ∀ a ∈ nodes, a.node ∈ failed →
            ∃ fault : ProbeFault, own a = [⟨.probe, some a.node, now, fault.message⟩] := by
  obtain ⟨starts, hvisits, hfull⟩ := findings_of_ok hok h now
  obtain ⟨starts', -, hrest⟩ := findings_of_ok hreduced (h.filter _) now
  -- the visits to the other nodes come to the same in both cycles
  have hsame : c'.findings now =
      byNode (fun a => visit c.probe c.options (starts a.node) a.node)
        (nodes.filter fun a => a.node ∉ failed) now := by
    rw [hrest]
    refine (byNode_congr (fun a ha => ?_) now).symm
    have hother : a.node ∉ failed := of_decide_eq_true (List.mem_filter.1 ha).2
    exact visit_alike (halike.probe a.node hother) halike.deadline halike.captureLines ..
  have hfault : ∀ a ∈ nodes, a.node ∈ failed → ∃ fault,
      (visit c.probe c.options (starts a.node) a.node).listed = .error fault := by
    intro a ha hin
    refine hfailed _ ?_ (by rw [visit_node]; exact hin)
    rw [hvisits]
    exact List.mem_map_of_mem ha
  rw [hfull, hsame]
  refine ⟨(probed_byNode_filter (fun a ha hout => ?_) now).symm,
    fun a => incidents now (visit c.probe c.options (starts a.node) a.node), rfl, rfl, ?_, ?_⟩
  · obtain ⟨fault, hlisted⟩ := hfault a ha (by simpa using hout)
    rw [told?, hlisted]
  · intro a e he
    rw [node_of_mem_incidents he, visit_node]
  · intro a ha hin
    obtain ⟨fault, hlisted⟩ := hfault a ha hin
    refine ⟨fault, ?_⟩
    dsimp only
    rw [incidents_visit, ownIncidents, hlisted, visit_node]

/-- What a node tells does not hang on the answers of other nodes. -/
theorem get?_probed_of_alike (halike : c.AlikeOutside failed c')
    (hok : c.resolution.result = .ok nodes) (hok' : c'.resolution.result = .ok nodes)
    (h : nodes.Pairwise fun a b => a.node ≠ b.node) {node : String} (hnode : node ∉ failed)
    (now : Instant) :
    (c.findings now).probed.get? node = (c'.findings now).probed.get? node := by
  obtain ⟨starts, -, hfull⟩ := findings_of_ok hok h now
  obtain ⟨starts', -, hother⟩ := findings_of_ok hok' h now
  have hsame : ((c.findings now).probed.get? node).map id =
      ((c'.findings now).probed.get? node).map id := by
    rw [hfull, hother]
    refine get?_probed_congr h (fun _ => visit_node ..) (fun _ => visit_node ..) id
      (fun a _ heq => ?_) now
    subst heq
    rw [(visit_alike (halike.probe a.node hnode) halike.deadline halike.captureLines
      (starts a.node) (starts' a.node)).told?]
  rw [Option.map_id] at hsame
  exact hsame

/-- The sessions that a node tells of hang on the listings alone. -/
theorem sessions_of_listings (hdeadline : c.options.deadline = c'.options.deadline)
    (hlist : ∀ t t' node, c.probe.list t node = c'.probe.list t' node)
    (hok : c.resolution.result = .ok nodes) (hok' : c'.resolution.result = .ok nodes)
    (h : nodes.Pairwise fun a b => a.node ≠ b.node) (node : String) (now : Instant) :
    ((c.findings now).probed.get? node).map (·.sessions) =
      ((c'.findings now).probed.get? node).map (·.sessions) := by
  obtain ⟨starts, -, hfull⟩ := findings_of_ok hok h now
  obtain ⟨starts', -, hother⟩ := findings_of_ok hok' h now
  rw [hfull, hother]
  refine get?_probed_congr h (fun _ => visit_node ..) (fun _ => visit_node ..) _
    (fun a _ _ => ?_) now
  rw [told?_sessions, told?_sessions, visit_listed, visit_listed, Options.room, Options.room,
    hdeadline, hlist _ (starts' a.node)]

end Cycle

namespace Keeper

variable {g : Gateway σ} {now : Instant} {k : Keeper σ} {c c' : Cycle}

/-- Cycles that were told the same leave the same entries, and the gateway in the same state. -/
theorem after_congr (h : (c.findings now).probed = (c'.findings now).probed) :
    (k.after g now c).inventory.entries = (k.after g now c').inventory.entries
      ∧ (k.after g now c).state = (k.after g now c').state := by
  have htime : (c.findings now).completedAt = (c'.findings now).completedAt := by
    rw [Cycle.findings_completedAt, Cycle.findings_completedAt]
  have hentries : (k.after g now c).inventory.entries =
      (k.after g now c').inventory.entries := by
    rw [after_entries, after_entries, Inventory.mergeEntries_congr h htime]
  have hstate : ∀ c : Cycle, (k.after g now c).state =
      if Inventory.filesCapture k.inventory.entries (c.findings now) then
        (g.save (k.after g now c).inventory.saved k.state).2
      else k.state := by
    intro c
    exact @state_perform σ g now k (.merge (c.findings now)) nofun
  refine ⟨hentries, ?_⟩
  rw [hstate, hstate, Inventory.filesCapture_of_probed h htime, Inventory.saved_congr hentries]

/-- What runs after a cycle is what was listed. -/
theorem isActive_after (id : Identity)
    (h : ((c.findings now).probed.get? id.node).map (·.sessions) =
      ((c'.findings now).probed.get? id.node).map (·.sessions)) :
    ((k.after g now c).view.get? id).any (·.isActive) =
      ((k.after g now c').view.get? id).any (·.isActive) := by
  have hactive : ∀ c : Cycle, ((k.after g now c).view.get? id).any (·.isActive) =
      !(Inventory.listedAt (c.findings now) id).isEmpty := by
    intro c
    rw [shown_after, get?_after, Option.any_map]
    exact Inventory.isActive_mergeAt ..
  rw [hactive, hactive, Inventory.listedAt, Inventory.listedAt, h]

/-- A cycle whose scheduler fails does what a cycle without nodes does, and says why. -/
theorem after_unresolved {fault : Queue.Fault} (hfault : c.resolution.result = .error fault)
    (hempty : c'.resolution.result = .ok []) :
    (k.after g now c).inventory =
      (k.after g now c').inventory.addIncident ⟨.scheduler, none, now, fault.message⟩ := by
  have hunresolved : c.findings now =
      .unresolved ⟨.scheduler, none, now, fault.message⟩ now := by
    simp only [Cycle.findings, hfault]
  obtain ⟨starts, -, hnothing⟩ := Cycle.findings_of_ok hempty .nil now
  rw [after, after, hunresolved, hnothing]
  rfl

/-! ## The cost of failures -/

/-- What failures cost a keeper that goes through a cycle, whatever state it is in.

* Suppose that the listings of some nodes fail or take too long.  Then what is filed, shown and saved
  is what a cycle leaves whose scheduler has not named these nodes.  The scan has the incidents of
  that cycle and, at the place of each of these nodes, one that names the node.  Of other nodes the
  same is shown as if these nodes had answered, whatever they had answered.
* It does not matter for what runs which outputs come, or whether any are wanted.
* If the scheduler fails, what is shown is what a cycle without nodes leaves, and the one incident
  that is added is that of the scheduler. -/
theorem cost_of_failures (g : Gateway σ) (now : Instant) (k : Keeper σ) {nodes : List Allocation}
    (hnodes : nodes.Pairwise fun a b => a.node ≠ b.node) {c : Cycle}
    (hok : c.resolution.result = .ok nodes) {failed : List String}
    (hfailed : ∀ v ∈ c.visits, v.node ∈ failed → ∃ fault, v.listed = .error fault) :
    (∀ c' : Cycle, c'.resolution.result = .ok (nodes.filter fun a => a.node ∉ failed) →
      c.AlikeOutside failed c' →
      (k.after g now c).inventory.entries = (k.after g now c').inventory.entries
      ∧ (k.after g now c).view.records = (k.after g now c').view.records
      ∧ (k.after g now c).state = (k.after g now c').state
      ∧ ∃ own : Allocation → List Incident,
          (c.findings now).incidents = nodes.flatMap own
          ∧ (c'.findings now).incidents = (nodes.filter fun a => a.node ∉ failed).flatMap own
          ∧ (∀ a, ∀ e ∈ own a, e.node = some a.node)
          ∧ ∀ a ∈ nodes, a.node ∈ failed →
              ∃ fault : ProbeFault, own a = [⟨.probe, some a.node, now, fault.message⟩])
    ∧ (∀ c' : Cycle, c'.resolution.result = .ok nodes → c.AlikeOutside failed c' →
        ∀ id : Identity, id.node ∉ failed →
          (k.after g now c).view.get? id = (k.after g now c').view.get? id)
    ∧ (∀ c' : Cycle, c'.resolution.result = .ok nodes →
        c.options.deadline = c'.options.deadline →
        (∀ t t' node, c.probe.list t node = c'.probe.list t' node) →
        ∀ id : Identity, ((k.after g now c).view.get? id).any (·.isActive) =
          ((k.after g now c').view.get? id).any (·.isActive))
    ∧ ∀ (broken empty : Cycle) (fault : Queue.Fault), broken.resolution.result = .error fault →
        empty.resolution.result = .ok [] →
        (k.after g now broken).view.records = (k.after g now empty).view.records
        ∧ (broken.findings now).incidents = [⟨.scheduler, none, now, fault.message⟩]
        ∧ (k.after g now broken).inventory =
          (k.after g now empty).inventory.addIncident ⟨.scheduler, none, now, fault.message⟩
        ∧ (k.after g now empty).inventory.incidents = k.inventory.incidents := by
  refine ⟨?_, ?_, ?_, ?_⟩
  · intro c' hreduced halike
    obtain ⟨hprobed, hincidents⟩ :=
      Cycle.findings_without halike hok hreduced hnodes hfailed now
    obtain ⟨hentries, hstate⟩ := after_congr (k := k) (g := g) hprobed
    exact ⟨hentries, records_after_congr hentries, hstate, hincidents⟩
  · intro c' hok' halike id hid
    have hprobed := Cycle.get?_probed_of_alike halike hok hok' hnodes hid now
    rw [shown_after, shown_after, get?_after, get?_after, Inventory.mergeAt_congr hprobed]
    rw [Cycle.findings_completedAt, Cycle.findings_completedAt]
  · intro c' hok' hdeadline hlist id
    exact isActive_after id
      (Cycle.sessions_of_listings hdeadline hlist hok hok' hnodes id.node now)
  · intro broken empty fault hfault hempty
    have hinventory : (k.after g now broken).inventory =
        (k.after g now empty).inventory.addIncident ⟨.scheduler, none, now, fault.message⟩ :=
      after_unresolved hfault hempty
    have hentries : (k.after g now broken).inventory.entries =
        (k.after g now empty).inventory.entries := by
      rw [hinventory]
      rfl
    refine ⟨records_after_congr hentries, ?_, hinventory, ?_⟩
    · simp only [Cycle.findings, hfault]
      rfl
    · obtain ⟨starts, -, hnothing⟩ := Cycle.findings_of_ok hempty .nil now
      rw [after, hnothing]
      rfl

/-- Of three nodes one hangs and one refuses.  What is known of the one with a note stays, and what is
known of the other goes. -/
theorem cost_of_failures_hanging :
    let probe : Probe :=
      { list := fun _ node =>
          if node = "n1" then ⟨some 1, .ok [⟨"eval", none, false⟩]⟩
          else if node = "n2" then ⟨none, .ok []⟩
          else ⟨some 3, .error (.connect "refused")⟩
        capture := fun _ _ _ => ⟨some 2, .ok "done"⟩ }
    let nodes : List Allocation := [⟨"n1", none⟩, ⟨"n2", none⟩, ⟨"n3", none⟩]
    let failed := ["n2", "n3"]
    let entries : List (Identity × Entry) :=
      [(⟨"n2", "train"⟩, { status := .active, attached := true, note := some "watch" }),
        (⟨"n3", "shell"⟩, { status := .active })]
    let k : Keeper Saved := { inventory := { entries := .ofList entries }, state := {} }
    let c : Cycle :=
      ⟨{ maxConcurrent := 1, deadline := .ofMillis 5 }, 0, ⟨0, .ok nodes⟩, probe⟩
    let c' : Cycle :=
      ⟨{ maxConcurrent := 4, deadline := .ofMillis 5 }, 3, ⟨2, .ok [⟨"n1", none⟩]⟩, probe⟩
    (∀ v ∈ c.visits, v.node ∈ failed → ∃ fault, v.listed = .error fault)
    ∧ (k.after Saved.gateway ⟨9, 0⟩ c).view.records =
      (k.after Saved.gateway ⟨9, 0⟩ c').view.records
    ∧ (c.findings ⟨9, 0⟩).incidents =
      [⟨.probe, some "n2", ⟨9, 0⟩, "timed out after 5ms"⟩,
        ⟨.probe, some "n3", ⟨9, 0⟩, "connection failed: refused"⟩]
    ∧ (k.after Saved.gateway ⟨9, 0⟩ c).inventory.entries.get? ⟨"n2", "train"⟩ =
      some { note := some "watch" }
    ∧ (k.after Saved.gateway ⟨9, 0⟩ c).inventory.entries.get? ⟨"n3", "shell"⟩ = none := by
  intro probe nodes failed entries k c c'
  have hfailed : ∀ v ∈ c.visits, v.node ∈ failed → ∃ fault, v.listed = .error fault := by
    have hnone : ∀ v ∈ c.visits, v.node ∈ failed → v.listed.toOption = none := by decide
    intro v hv hin
    have hv' := hnone v hv hin
    cases hlisted : v.listed with
    | error fault => exact ⟨fault, rfl⟩
    | ok sessions =>
        rw [hlisted] at hv'
        cases hv'
  have hnodes : nodes.Pairwise fun a b => a.node ≠ b.node := by decide
  have hprobe : probe.Timeless := fun _ => ⟨fun _ _ => rfl, fun _ _ _ _ => rfl⟩
  have halike : c.AlikeOutside failed c' := ⟨rfl, rfl, fun node _ => hprobe node⟩
  have hcost := cost_of_failures Saved.gateway ⟨9, 0⟩ k hnodes rfl hfailed
  have hfound : c.findings ⟨9, 0⟩ = eachAlone probe c.options nodes ⟨9, 0⟩ :=
    findings_scan_eq_eachAlone hprobe rfl rfl 0 hnodes _
  refine ⟨hfailed, (hcost.1 c' rfl halike).2.1, ?_, ?_, ?_⟩
  · rw [hfound]
    decide
  · rw [get?_after, hfound]
    decide
  · rw [get?_after, hfound]
    decide

end Keeper

end Roster
