import Mathlib.Data.List.Pairwise
import Roster.Proofs.Cycle.Failures
import Roster.Proofs.Keeper.Sightings

/-!
# Which call brought an output

An output that a scan took is filed when the cycle is over.  It is older than that: it was brought
by one call, and it came when that call was over.

* *Calls.*  A call brings an output if that is what the probe answers to it, at the end of the call
  (`Call.Brings`).  The outputs of a visit are those that its calls brought (`mem_taken_visit`).
* *Names.*  The calls of a visit ask for sessions in the order of the listing
  (`sublist_sessions`).  So where the listing names no session twice, one call at most has asked for
  a session.
* *Cycles.*  A cycle *meets* a session if it names no node twice, lists the session, and lists
  nothing twice on its node (`Cycle.Meets`).  What it finds of the session then is what its one call
  for it brought (`outputAt_iff`), at a moment between the start of the cycle and its end
  (`Takes.bounds`).
-/

namespace Roster

namespace Scan

/-! ## Calls -/

/-- The call brought an output of a session: that is what the probe has answered at its end. -/
def Call.Brings (probe : Probe) (name text : String) (call : Call) : Prop :=
  ∃ lines, call.question = .capture name lines
    ∧ probe.capture call.start ⟨call.node, name⟩ lines = ⟨some (call.stop - call.start), .ok text⟩

/-- The session whose output a call asks for, if it asks for one. -/
def Call.session? (call : Call) : Option String :=
  match call.question with
  | .list => none
  | .capture name _ => some name

theorem Call.Brings.session? {probe : Probe} {name text : String} {call : Call}
    (h : call.Brings probe name text) : call.session? = some name := by
  obtain ⟨lines, hquestion, -⟩ := h
  rw [Call.session?, hquestion]

/-- One call brings one output. -/
theorem Call.Brings.text_eq {probe : Probe} {name text text' : String} {call : Call}
    (h : call.Brings probe name text) (h' : call.Brings probe name text') : text = text' := by
  obtain ⟨lines, hquestion, hanswer⟩ := h
  obtain ⟨lines', hquestion', hanswer'⟩ := h'
  rw [hquestion] at hquestion'
  cases hquestion'
  rw [hanswer] at hanswer'
  cases hanswer'
  rfl

/-- Calls that are made in turn are made within the time that they are given. -/
theorem InTurn.bounds {begin stop : Nat} {calls : List Call} (h : InTurn begin calls stop)
    {call : Call} (hcall : call ∈ calls) :
    begin ≤ call.start ∧ call.start ≤ call.stop ∧ call.stop ≤ stop := by
  induction calls generalizing begin with
  | nil => cases hcall
  | cons c rest ih =>
      obtain ⟨hstart, hspan, hrest⟩ := h
      rcases List.mem_cons.1 hcall with rfl | hcall
      · exact ⟨hstart, hspan, hrest.le⟩
      · obtain ⟨hafter, hlater⟩ := ih hrest hcall
        exact ⟨Nat.le_trans hstart (Nat.le_trans hspan hafter), hlater⟩

/-- An answer that comes in time is what the probe gave, after the time that passed. -/
theorem within_ok_iff {α : Type} {limit : Duration} {room : Nat} {a : Answer α} {x : α} :
    (within limit room a).1 = .ok x ↔ a = ⟨some (within limit room a).2, .ok x⟩ := by
  obtain ⟨delay, result⟩ := a
  cases delay with
  | none => simp [within]
  | some d =>
      simp only [within]
      split
      next => simp
      next hlate =>
        have hne : d ≠ room := fun heq => hlate (Nat.le_of_eq heq)
        simp [hne]

/-! ## Visits -/

section Visits

variable {probe : Probe} {o : Options} {node : String}

/-- The call for the output of a session that is met in time. -/
def callFor (probe : Probe) (o : Options) (lines begin : Nat) (node : String) (elapsed : Nat)
    (s : Session) : Call :=
  ⟨node, .capture s.name lines, begin + elapsed,
    begin + elapsed + (tryOutput probe o lines begin node elapsed s).2⟩

/-- What is taken of a session is what the call for it brought. -/
theorem textOf?_tryOutput {lines begin elapsed : Nat} {s : Session} {name text : String} :
    textOf? (s.name, (tryOutput probe o lines begin node elapsed s).1) = some (name, text) ↔
      (callFor probe o lines begin node elapsed s).Brings probe name text := by
  have htried : (tryOutput probe o lines begin node elapsed s).1 = .ok text ↔
      probe.capture (begin + elapsed) ⟨node, s.name⟩ lines =
        ⟨some (tryOutput probe o lines begin node elapsed s).2, .ok text⟩ := within_ok_iff
  have htaken : ∀ result : Except ProbeFault String,
      textOf? (s.name, result) = some (name, text) ↔ s.name = name ∧ result = .ok text := by
    intro result
    cases result <;> simp [textOf?]
  rw [htaken, htried]
  constructor
  · rintro ⟨rfl, hanswer⟩
    refine ⟨lines, rfl, ?_⟩
    rw [callFor, Nat.add_sub_cancel_left]
    exact hanswer
  · rintro ⟨lines', hquestion, hanswer⟩
    cases hquestion
    rw [callFor, Nat.add_sub_cancel_left] at hanswer
    exact ⟨rfl, hanswer⟩

/-- The outputs of a node are those that the calls for them brought. -/
theorem mem_taken_takeAll {lines begin elapsed : Nat} {sessions : List Session}
    {name text : String} :
    (name, text) ∈ (takeAll probe o lines begin node elapsed sessions).taken ↔
      ∃ call ∈ (takeAll probe o lines begin node elapsed sessions).calls,
        call.Brings probe name text := by
  induction sessions generalizing elapsed with
  | nil => simp [takeAll]
  | cons s rest ih =>
      rcases Nat.lt_or_ge elapsed o.room with hlt | hle
      · rw [takeAll_cons_of_lt hlt]
        dsimp only
        rw [List.mem_append, Option.mem_toList, textOf?_tryOutput, ih]
        exact (List.exists_mem_cons_iff ..).symm
      · rw [takeAll_cons_of_le hle]
        exact ih

/-- The outputs of a node are asked for in the order of the listing, each once. -/
theorem sublist_sessions_takeAll (lines begin elapsed : Nat) (sessions : List Session) :
    ((takeAll probe o lines begin node elapsed sessions).calls.filterMap Call.session?).Sublist
      (sessions.map (·.name)) := by
  induction sessions generalizing elapsed with
  | nil => exact .slnil
  | cons s rest ih =>
      rcases Nat.lt_or_ge elapsed o.room with hlt | hle
      · rw [takeAll_cons_of_lt hlt]
        exact .cons_cons s.name (ih _)
      · rw [takeAll_cons_of_le hle]
        exact .cons s.name (ih elapsed)

theorem node_takeAll {lines begin elapsed : Nat} {sessions : List Session} {call : Call}
    (h : call ∈ (takeAll probe o lines begin node elapsed sessions).calls) : call.node = node := by
  induction sessions generalizing elapsed with
  | nil => cases h
  | cons s rest ih =>
      rcases Nat.lt_or_ge elapsed o.room with hlt | hle
      · rw [takeAll_cons_of_lt hlt] at h
        rcases List.mem_cons.1 h with rfl | h
        · rfl
        · exact ih h
      · rw [takeAll_cons_of_le hle] at h
        exact ih h

variable {start : Nat}

/-- All calls of a visit are for its node. -/
theorem node_of_mem_calls {call : Call} (h : call ∈ (visit probe o start node).calls) :
    call.node = node := by
  rcases visit_cases probe o start node with ⟨sessions, lines, hok, hlines⟩ | hcase
  · rw [visit_of_ok hok hlines] at h
    rcases List.mem_cons.1 h with rfl | h
    · rfl
    · exact node_takeAll h
  · rw [visit_of_listing hcase] at h
    rw [List.mem_singleton.1 h]

/-- The outputs of a visit are those that its calls brought. -/
theorem mem_taken_visit {name text : String} :
    (name, text) ∈ (visit probe o start node).taken ↔
      ∃ call ∈ (visit probe o start node).calls, call.Brings probe name text := by
  have hlisting : ∀ stop, ¬ Call.Brings probe name text ⟨node, .list, start, stop⟩ := by
    rintro stop ⟨lines, hquestion, -⟩
    cases hquestion
  rcases visit_cases probe o start node with ⟨sessions, lines, hok, hlines⟩ | hcase
  · rw [visit_of_ok hok hlines]
    dsimp only
    rw [mem_taken_takeAll, List.exists_mem_cons_iff]
    exact (or_iff_right (hlisting _)).symm
  · rw [visit_of_listing hcase]
    dsimp only
    constructor
    · intro hmem
      cases hmem
    · rintro ⟨call, hcall, hbrings⟩
      rw [List.mem_singleton.1 hcall] at hbrings
      exact absurd hbrings (hlisting _)

/-- The calls of a visit ask for sessions in the order of the listing, for each once. -/
theorem sublist_sessions {sessions : List Session}
    (h : (visit probe o start node).listed = .ok sessions) :
    ((visit probe o start node).calls.filterMap Call.session?).Sublist (sessions.map (·.name)) := by
  rw [visit_listed] at h
  rcases visit_cases probe o start node with ⟨sessions', lines, hok, hlines⟩ | hcase
  · rw [hok] at h
    cases h
    rw [visit_of_ok hok hlines]
    exact sublist_sessions_takeAll ..
  · rw [visit_of_listing hcase]
    exact List.nil_sublist _

/-- Where the listing names no session twice, one call of the visit at most asks for a session. -/
theorem eq_of_session? {sessions : List Session}
    (h : (visit probe o start node).listed = .ok sessions)
    (hnames : (sessions.map (·.name)).Nodup) {call call' : Call}
    (hcall : call ∈ (visit probe o start node).calls)
    (hcall' : call' ∈ (visit probe o start node).calls) {name : String}
    (hname : call.session? = some name) (hname' : call'.session? = some name) : call = call' := by
  have hdistinct := List.pairwise_filterMap.1 (hnames.sublist (sublist_sessions h))
  have hsymm : Std.Symm fun a b : Call =>
      ∀ n, a.session? = some n → ∀ m, b.session? = some m → n ≠ m :=
    ⟨fun a b hab m hb n ha => (hab n ha m hb).symm⟩
  by_contra hne
  exact hdistinct.forall hcall hcall' hne name hname name hname' rfl

end Visits

end Scan

/-! ## Cycles -/

open Scan

namespace Cycle

variable {c : Cycle} {id : Identity}

theorem calls_eq (c : Cycle) : c.calls = c.visits.flatMap (·.calls) := by
  rw [calls, visits]
  cases c.pass? <;> rfl

/-- A cycle whose visits come to something was given nodes to scan. -/
theorem exists_nodes {v : Visit} (h : v ∈ c.visits) :
    ∃ nodes, c.resolution.result = .ok nodes
      ∧ c.visits = (scan c.probe c.options c.resolvedAt nodes).visits := by
  rw [visits] at h ⊢
  rw [pass?] at h ⊢
  cases hresult : c.resolution.result with
  | error fault =>
      rw [hresult] at h
      cases h
  | ok nodes => exact ⟨nodes, rfl, rfl⟩

/-- The cycle takes an output of a session: a call for it is over at the moment `finish` and has
brought the text. -/
def Takes (c : Cycle) (id : Identity) (finish : Nat) (text : String) : Prop :=
  ∃ call ∈ c.calls, call.node = id.node ∧ call.stop = finish ∧ call.Brings c.probe id.name text

/-- The cycle finds the session: it names no node twice, and the one visit to the node of the
session lists it, and lists nothing twice. -/
structure Meets (c : Cycle) (id : Identity) : Prop where
  /-- No node is named twice. -/
  nodes : (c.visits.map (·.node)).Nodup
  /-- The session is listed once. -/
  listed : ∃ v ∈ c.visits, v.node = id.node ∧ ∃ sessions, v.listed = .ok sessions
    ∧ (sessions.map (·.name)).Nodup ∧ id.name ∈ sessions.map (·.name)

/-- The one visit to the node of a session that the cycle meets, and what is found by it. -/
theorem Meets.visit (h : c.Meets id) (now : Instant) :
    ∃ start sessions,
      (visit c.probe c.options start id.node).listed = .ok sessions
      ∧ (sessions.map (·.name)).Nodup ∧ id.name ∈ sessions.map (·.name)
      ∧ (∀ call, call ∈ c.calls ∧ call.node = id.node ↔
          call ∈ (Scan.visit c.probe c.options start id.node).calls)
      ∧ (c.findings now).probed.get? id.node =
          some ⟨sessions, .ofList (Scan.visit c.probe c.options start id.node).taken⟩ := by
  obtain ⟨v, hv, hnode, sessions, hlisted, hnames, hname⟩ := h.listed
  obtain ⟨nodes, hok, hvisits⟩ := exists_nodes hv
  have hdistinct : nodes.Pairwise fun a b => a.node ≠ b.node := by
    have hnodup := h.nodes
    rw [hvisits, scan_visits, map_node_visits] at hnodup
    exact List.pairwise_map.1 hnodup
  obtain ⟨starts, hmap, hfound⟩ := findings_of_ok hok hdistinct now
  obtain ⟨a, ha, rfl⟩ := List.mem_map.1 (hmap ▸ hv)
  rw [visit_node] at hnode
  refine ⟨starts a.node, sessions, hnode ▸ hlisted, hnames, hname, fun call => ?_, ?_⟩
  · rw [calls_eq, hmap, ← hnode, List.mem_flatMap]
    constructor
    · rintro ⟨⟨w, hw, hcall⟩, hat⟩
      obtain ⟨b, -, rfl⟩ := List.mem_map.1 hw
      have hsame : b.node = a.node := (node_of_mem_calls hcall).symm.trans hat
      rwa [hsame] at hcall
    · intro hcall
      exact ⟨⟨_, List.mem_map_of_mem ha, hcall⟩, node_of_mem_calls hcall⟩
  · rw [hfound, ← hnode, get?_probed_byNode hdistinct (fun _ => visit_node ..) ha, told?, hlisted]
    rfl

/-- What is found of a session is what the cycle has taken of it. -/
theorem Meets.outputAt_iff (h : c.Meets id) (now : Instant) {text : String} :
    Inventory.outputAt (c.findings now) id = some text ↔ ∃ finish, c.Takes id finish text := by
  obtain ⟨start, sessions, hlisted, hnames, -, hcalls, hprobed⟩ := h.visit now
  have htakes : (∃ finish, c.Takes id finish text) ↔
      (id.name, text) ∈ (Scan.visit c.probe c.options start id.node).taken := by
    rw [mem_taken_visit]
    constructor
    · rintro ⟨_, call, hcall, hnode, -, hbrings⟩
      exact ⟨call, (hcalls call).1 ⟨hcall, hnode⟩, hbrings⟩
    · rintro ⟨call, hcall, hbrings⟩
      obtain ⟨hcall, hnode⟩ := (hcalls call).2 hcall
      exact ⟨call.stop, call, hcall, hnode, rfl, hbrings⟩
  rw [htakes, Inventory.outputAt, hprobed, Option.bind_some]
  constructor
  · exact Table.mem_of_get?_ofList
  · intro hmem
    refine Table.get?_ofList hmem fun text' hmem' => ?_
    obtain ⟨call, hcall, hbrings⟩ := mem_taken_visit.1 hmem
    obtain ⟨call', hcall', hbrings'⟩ := mem_taken_visit.1 hmem'
    obtain rfl : call = call' :=
      eq_of_session? hlisted hnames hcall hcall' hbrings.session? hbrings'.session?
    exact hbrings'.text_eq hbrings

/-- A cycle takes one output of a session that it meets, at one moment. -/
theorem Meets.takes_unique (h : c.Meets id) {finish finish' : Nat} {text text' : String}
    (htakes : c.Takes id finish text) (htakes' : c.Takes id finish' text') :
    finish = finish' ∧ text = text' := by
  obtain ⟨start, sessions, hlisted, hnames, -, hcalls, -⟩ := h.visit ⟨0, 0⟩
  obtain ⟨call, hcall, hnode, rfl, hbrings⟩ := htakes
  obtain ⟨call', hcall', hnode', rfl, hbrings'⟩ := htakes'
  obtain rfl : call = call' :=
    eq_of_session? hlisted hnames ((hcalls call).1 ⟨hcall, hnode⟩)
      ((hcalls call').1 ⟨hcall', hnode'⟩) hbrings.session? hbrings'.session?
  exact ⟨rfl, hbrings.text_eq hbrings'⟩

/-- A session that a cycle meets is listed once. -/
theorem Meets.listedAt (h : c.Meets id) (now : Instant) :
    ∃ s, Inventory.listedAt (c.findings now) id = [s] := by
  obtain ⟨start, sessions, -, hnames, hname, -, hprobed⟩ := h.visit now
  have hfilter : Inventory.listedAt (c.findings now) id =
      sessions.filter fun s => s.name = id.name := by
    rw [Inventory.listedAt, hprobed]
    rfl
  have hcount : (sessions.map (·.name)).count id.name = 1 := List.count_eq_one_of_mem hnames hname
  rw [List.count, List.countP_map] at hcount
  rw [hfilter, ← List.length_eq_one_iff, ← List.countP_eq_length_filter]
  exact hcount

/-! ## Times of a cycle -/

theorem le_foldl_max {l : List Nat} {b x : Nat} (h : x ≤ b ∨ x ∈ l) : x ≤ l.foldl max b := by
  induction l generalizing b with
  | nil => simpa using h
  | cons y rest ih =>
      refine ih ?_
      rcases h with hb | hmem
      · exact Or.inl (Nat.le_trans hb (Nat.le_max_left ..))
      · rcases List.mem_cons.1 hmem with rfl | hmem
        · exact Or.inl (Nat.le_max_right ..)
        · exact Or.inr hmem

theorem start_le_stop (c : Cycle) : c.start ≤ c.stop := by
  have hresolved : c.start ≤ c.resolvedAt := Nat.le_add_right ..
  rw [stop, pass?]
  cases c.resolution.result with
  | error fault => exact hresolved
  | ok nodes => exact Nat.le_trans hresolved (le_foldl_max (Or.inl (Nat.le_refl _)))

/-- The calls of a cycle are made between its start and its end. -/
theorem bounds_of_mem_calls {call : Call} (h : call ∈ c.calls) :
    c.start ≤ call.start ∧ call.start ≤ call.stop ∧ call.stop ≤ c.stop := by
  rw [calls_eq] at h
  obtain ⟨v, hv, hcall⟩ := List.mem_flatMap.1 h
  obtain ⟨nodes, hok, hvisits⟩ := exists_nodes hv
  rw [hvisits] at hv
  obtain ⟨i, hi⟩ := List.getElem?_of_mem hv
  have hstop : c.stop = (scan c.probe c.options c.resolvedAt nodes).stop := by
    simp only [stop, pass?, hok, Except.toOption, Option.map_some]
  have hlast : v.stop ≤ c.stop := by
    rw [hstop]
    exact le_foldl_max (Or.inr (List.mem_map_of_mem hv))
  have hfirst : c.start ≤ v.start :=
    Nat.le_trans (Nat.le_add_right ..) (start_is_first_room hi).lower
  obtain ⟨hbegin, hspan, hend⟩ := (inTurn_of_mem_scan hv).bounds hcall
  exact ⟨Nat.le_trans hfirst hbegin, hspan, Nat.le_trans hend hlast⟩

/-- An output that a cycle takes comes between its start and its end. -/
theorem Takes.bounds {finish : Nat} {text : String} (h : c.Takes id finish text) :
    c.start ≤ finish ∧ finish ≤ c.stop := by
  obtain ⟨call, hcall, -, rfl, -⟩ := h
  obtain ⟨hstart, hspan, hstop⟩ := bounds_of_mem_calls hcall
  exact ⟨Nat.le_trans hstart hspan, hstop⟩

end Cycle

end Roster
