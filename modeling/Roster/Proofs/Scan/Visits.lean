import Roster.Scan

/-!
# Visits

A visit is a listing and, if it comes and outputs are wanted, one call for each session.

* *Times.*  The listing ends within the deadline, and so do all outputs together
  (`visit_stop_le`).  The calls of a visit are made in turn (`visit_inTurn`), so that one of them is
  under way at most, and none outside of the visit (`InTurn.underWay_le`).
* *Calls.*  The first call is the listing, and there is no other one (`listings_visit`).
* *Outcome.*  Each session that was listed has one fate: its output was taken, or there is a
  reason why not (`visit_fates`).  A node whose listing did not come has neither outputs nor
  failures of outputs (`visit_of_error`).
* *Moments.*  A visit comes to the same whenever it is made, and with any other probe that answers
  alike about its node (`visit_alike`).  The probe that calls nodes through the remote shell answers
  alike at all times (`Probe.remote_timeless`).
-/

namespace Roster

/-- Two probes answer alike about a node, whenever they are asked. -/
structure Probe.AlikeOn (p q : Probe) (node : String) : Prop where
  /-- They list the same. -/
  list : ∀ t t', p.list t node = q.list t' node
  /-- They give the same outputs. -/
  capture : ∀ t t' name lines, p.capture t ⟨node, name⟩ lines = q.capture t' ⟨node, name⟩ lines

/-- The answers do not hang on the moment at which they are asked for. -/
def Probe.Timeless (p : Probe) : Prop := ∀ node, p.AlikeOn p node

theorem Probe.remote_timeless (programs : Programs) (o : Remote.Options) (limit : Duration) :
    (Probe.remote programs o limit).Timeless := by
  intro node
  constructor
  · intro t t'
    rfl
  · intro t t' name lines
    rfl

namespace Scan

/-! ## Calls in turn -/

/-- The calls are made one after the other, from the one time on and until the other. -/
def InTurn : Nat → List Call → Nat → Prop
  | begin, [], stop => begin ≤ stop
  | begin, c :: rest, stop => begin ≤ c.start ∧ c.start ≤ c.stop ∧ InTurn c.stop rest stop

theorem InTurn.le {begin stop : Nat} {calls : List Call} (h : InTurn begin calls stop) :
    begin ≤ stop := by
  induction calls generalizing begin with
  | nil => exact h
  | cons c rest ih =>
      obtain ⟨hstart, hcall, hrest⟩ := h
      exact Nat.le_trans hstart (Nat.le_trans hcall (ih hrest))

/-- Of calls made in turn one is under way at most, and none before or after. -/
theorem InTurn.underWay_le {begin stop : Nat} {calls : List Call} (h : InTurn begin calls stop)
    (t : Nat) : underWay calls t ≤ if begin ≤ t ∧ t < stop then 1 else 0 := by
  induction calls generalizing begin with
  | nil => exact Nat.zero_le _
  | cons c rest ih =>
      obtain ⟨hstart, hcall, hrest⟩ := h
      have hlater : c.stop ≤ stop := hrest.le
      have hothers : underWay rest t ≤ if c.stop ≤ t ∧ t < stop then 1 else 0 := ih hrest
      have hsum : underWay (c :: rest) t =
          underWay rest t + if c.start ≤ t ∧ t < c.stop then 1 else 0 := by
        simp [underWay, List.countP_cons]
      rw [hsum]
      -- the first call and the others exclude each other at every moment
      split at hothers <;> split <;> split <;> omega

/-! ## Outputs -/

section Outputs

variable {probe : Probe} {o : Options} {node : String}

theorem within_time_le {α : Type} (limit : Duration) (room : Nat) (a : Answer α) :
    (within limit room a).2 ≤ room := by
  simp only [within]
  split
  next d hd =>
    split
    next hle => exact hle
    next => exact Nat.le_refl room
  next => exact Nat.le_refl room

/-- The call for the output of a session, with what it comes to and the time that it takes. -/
def tryOutput (probe : Probe) (o : Options) (lines begin : Nat) (node : String) (elapsed : Nat)
    (s : Session) : Except ProbeFault String × Nat :=
  within o.deadline (o.room - elapsed) (probe.capture (begin + elapsed) ⟨node, s.name⟩ lines)

/-- An output that was taken. -/
def textOf? : String × Except ProbeFault String → Option (String × String)
  | (name, .ok text) => some (name, text)
  | (_, .error _) => none

/-- The reason why an output was not taken. -/
def faultOf? : String × Except ProbeFault String → Option (String × ProbeFault)
  | (_, .ok _) => none
  | (name, .error fault) => some (name, fault)

theorem takeAll_cons_of_le {lines begin elapsed : Nat} {s : Session} {rest : List Session}
    (h : o.room ≤ elapsed) :
    takeAll probe o lines begin node elapsed (s :: rest) =
      let more := takeAll probe o lines begin node elapsed rest
      { more with failures := (s.name, .timeout o.deadline) :: more.failures } := by
  rw [takeAll, if_pos h]

/-- A session that is met in time gets its call, and the others what is left of the time. -/
theorem takeAll_cons_of_lt {lines begin elapsed : Nat} {s : Session} {rest : List Session}
    (h : elapsed < o.room) :
    takeAll probe o lines begin node elapsed (s :: rest) =
      let call := tryOutput probe o lines begin node elapsed s
      let more := takeAll probe o lines begin node (elapsed + call.2) rest
      { taken := (textOf? (s.name, call.1)).toList ++ more.taken
        failures := (faultOf? (s.name, call.1)).toList ++ more.failures
        calls := ⟨node, .capture s.name lines, begin + elapsed, begin + elapsed + call.2⟩
          :: more.calls
        elapsed := more.elapsed } := by
  rw [takeAll, if_neg (Nat.not_le.2 h)]
  simp only [tryOutput]
  cases within o.deadline (o.room - elapsed)
    (probe.capture (begin + elapsed) ⟨node, s.name⟩ lines) with
  | mk result time =>
      cases result with
      | ok text => rfl
      | error fault => rfl

/-- The calls for outputs are made in turn, and end within the deadline. -/
theorem takeAll_inTurn (probe : Probe) (o : Options) (lines begin : Nat) (node : String)
    {elapsed : Nat} (sessions : List Session) (h : elapsed ≤ o.room) :
    let t := takeAll probe o lines begin node elapsed sessions
    InTurn (begin + elapsed) t.calls (begin + t.elapsed) ∧ t.elapsed ≤ o.room := by
  induction sessions generalizing elapsed with
  | nil => exact ⟨Nat.le_refl _, h⟩
  | cons s rest ih =>
      rcases Nat.lt_or_ge elapsed o.room with hlt | hle
      · rw [takeAll_cons_of_lt hlt]
        have htime : (tryOutput probe o lines begin node elapsed s).2 ≤ o.room - elapsed :=
          within_time_le ..
        obtain ⟨hturn, hroom⟩ :=
          @ih (elapsed + (tryOutput probe o lines begin node elapsed s).2) (by omega)
        refine ⟨⟨Nat.le_refl _, Nat.le_add_right .., ?_⟩, hroom⟩
        rw [Nat.add_assoc]
        exact hturn
      · rw [takeAll_cons_of_le hle]
        exact ih h

/-- Each session has one fate, in the order of the listing. -/
theorem takeAll_fates (lines begin elapsed : Nat) (sessions : List Session) :
    let t := takeAll probe o lines begin node elapsed sessions
    ∃ fates : List (String × Except ProbeFault String),
      fates.map (·.1) = sessions.map (·.name) ∧ t.taken = fates.filterMap textOf?
        ∧ t.failures = fates.filterMap faultOf? := by
  induction sessions generalizing elapsed with
  | nil => exact ⟨[], rfl, rfl, rfl⟩
  | cons s rest ih =>
      rcases Nat.lt_or_ge elapsed o.room with hlt | hle
      · rw [takeAll_cons_of_lt hlt]
        generalize tryOutput probe o lines begin node elapsed s = call
        obtain ⟨result, time⟩ := call
        obtain ⟨fates, hnames, htaken, hfailures⟩ := ih (elapsed + time)
        refine ⟨(s.name, result) :: fates, ?_, ?_⟩
        · rw [List.map_cons, List.map_cons, hnames]
        · rw [List.filterMap_cons, List.filterMap_cons]
          cases result with
          | ok text => exact ⟨congrArg ((s.name, text) :: ·) htaken, hfailures⟩
          | error fault => exact ⟨htaken, congrArg ((s.name, fault) :: ·) hfailures⟩
      · rw [takeAll_cons_of_le hle]
        obtain ⟨fates, hnames, htaken, hfailures⟩ := ih elapsed
        refine ⟨(s.name, .error (.timeout o.deadline)) :: fates, ?_, htaken, ?_⟩
        · rw [List.map_cons, List.map_cons, hnames]
        · exact congrArg ((s.name, ProbeFault.timeout o.deadline) :: ·) hfailures

theorem listings_takeAll (lines begin elapsed : Nat) (sessions : List Session) :
    ((takeAll probe o lines begin node elapsed sessions).calls.filter
      fun c => c.question = .list) = [] := by
  induction sessions generalizing elapsed with
  | nil => rfl
  | cons s rest ih =>
      rcases Nat.lt_or_ge elapsed o.room with hlt | hle
      · rw [takeAll_cons_of_lt hlt]
        exact ih _
      · rw [takeAll_cons_of_le hle]
        exact ih elapsed

/-- Probes that answer alike about a node bring the same outputs of it, whenever its listing has
come. -/
theorem takeAll_congr {probe' : Probe} {o' : Options} (hprobe : probe.AlikeOn probe' node)
    (hdeadline : o.deadline = o'.deadline) (lines begin begin' elapsed : Nat)
    (sessions : List Session) :
    (takeAll probe o lines begin node elapsed sessions).taken =
        (takeAll probe' o' lines begin' node elapsed sessions).taken
      ∧ (takeAll probe o lines begin node elapsed sessions).failures =
        (takeAll probe' o' lines begin' node elapsed sessions).failures := by
  have hroom : o.room = o'.room := by rw [Options.room, Options.room, hdeadline]
  induction sessions generalizing elapsed with
  | nil => exact ⟨rfl, rfl⟩
  | cons s rest ih =>
      rcases Nat.lt_or_ge elapsed o.room with hlt | hle
      · have hcall : tryOutput probe o lines begin node elapsed s =
            tryOutput probe' o' lines begin' node elapsed s := by
          rw [tryOutput, tryOutput, hdeadline, hroom,
            hprobe.capture (begin + elapsed) (begin' + elapsed)]
        obtain ⟨htaken, hfailures⟩ :=
          ih (elapsed + (tryOutput probe' o' lines begin' node elapsed s).2)
        rw [takeAll_cons_of_lt hlt, takeAll_cons_of_lt (hroom ▸ hlt), hcall]
        dsimp only
        rw [htaken, hfailures]
        exact ⟨rfl, rfl⟩
      · obtain ⟨htaken, hfailures⟩ := ih elapsed
        rw [takeAll_cons_of_le hle, takeAll_cons_of_le (hroom ▸ hle), hdeadline]
        dsimp only
        rw [htaken, hfailures]
        exact ⟨rfl, rfl⟩

end Outputs

/-! ## Whole visits -/

section Visits

variable {probe : Probe} {o : Options} {start : Nat} {node : String}

/-- A visit whose listing came, with the outputs that are wanted. -/
theorem visit_of_ok {sessions : List Session} {lines : Nat}
    (h : (within o.deadline o.room (probe.list start node)).1 = .ok sessions)
    (hlines : o.captureLines = some lines) :
    visit probe o start node =
      let begin := start + (within o.deadline o.room (probe.list start node)).2
      let t := takeAll probe o lines begin node 0 sessions
      { node, start, listed := .ok sessions, taken := t.taken, failures := t.failures
        calls := ⟨node, .list, start, begin⟩ :: t.calls, stop := begin + t.elapsed } := by
  simp only [visit, h, hlines]

theorem visit_of_listing
    (h : (∃ fault, (within o.deadline o.room (probe.list start node)).1 = .error fault)
      ∨ o.captureLines = none) :
    visit probe o start node =
      let begin := start + (within o.deadline o.room (probe.list start node)).2
      { node, start, listed := (within o.deadline o.room (probe.list start node)).1
        calls := [⟨node, .list, start, begin⟩], stop := begin } := by
  rcases h with ⟨fault, hfault⟩ | hlines
  · simp only [visit, hfault]
  · simp only [visit, hlines]
    cases (within o.deadline o.room (probe.list start node)).1 <;> rfl

theorem visit_cases (probe : Probe) (o : Options) (start : Nat) (node : String) :
    (∃ sessions lines, (within o.deadline o.room (probe.list start node)).1 = .ok sessions
        ∧ o.captureLines = some lines)
      ∨ ((∃ fault, (within o.deadline o.room (probe.list start node)).1 = .error fault)
        ∨ o.captureLines = none) := by
  cases (within o.deadline o.room (probe.list start node)).1 with
  | error fault => exact Or.inr (Or.inl ⟨fault, rfl⟩)
  | ok sessions =>
      cases o.captureLines with
      | none => exact Or.inr (Or.inr rfl)
      | some lines => exact Or.inl ⟨sessions, lines, rfl, rfl⟩

theorem visit_node (probe : Probe) (o : Options) (start : Nat) (node : String) :
    (visit probe o start node).node = node := by
  rcases visit_cases probe o start node with ⟨sessions, lines, hok, hlines⟩ | h
  · rw [visit_of_ok hok hlines]
  · rw [visit_of_listing h]

theorem visit_start (probe : Probe) (o : Options) (start : Nat) (node : String) :
    (visit probe o start node).start = start := by
  rcases visit_cases probe o start node with ⟨sessions, lines, hok, hlines⟩ | h
  · rw [visit_of_ok hok hlines]
  · rw [visit_of_listing h]

theorem visit_listed (probe : Probe) (o : Options) (start : Nat) (node : String) :
    (visit probe o start node).listed =
      (within o.deadline o.room (probe.list start node)).1 := by
  rcases visit_cases probe o start node with ⟨sessions, lines, hok, hlines⟩ | h
  · rw [visit_of_ok hok hlines, hok]
  · rw [visit_of_listing h]

theorem visit_inTurn (probe : Probe) (o : Options) (start : Nat) (node : String) :
    InTurn start (visit probe o start node).calls (visit probe o start node).stop := by
  rcases visit_cases probe o start node with ⟨sessions, lines, hok, hlines⟩ | h
  · rw [visit_of_ok hok hlines]
    exact ⟨Nat.le_refl _, Nat.le_add_right .., (takeAll_inTurn probe o _ _ node _ (Nat.zero_le _)).1⟩
  · rw [visit_of_listing h]
    exact ⟨Nat.le_refl _, Nat.le_add_right .., Nat.le_refl _⟩

/-- The time within which a visit is over. -/
def Options.span (o : Options) : Nat := if o.captureLines.isSome then 2 * o.room else o.room

theorem Options.span_le (o : Options) : o.span ≤ 2 * o.room := by
  simp only [Options.span]
  split <;> omega

/-- A visit is over within two deadlines, and within one if no outputs are wanted. -/
theorem visit_stop_le (probe : Probe) (o : Options) (start : Nat) (node : String) :
    (visit probe o start node).stop ≤ start + o.span := by
  have hlist : (within o.deadline o.room (probe.list start node)).2 ≤ o.room :=
    within_time_le ..
  rcases visit_cases probe o start node with ⟨sessions, lines, hok, hlines⟩ | h
  · rw [visit_of_ok hok hlines, Options.span, hlines]
    have houtputs := (takeAll_inTurn probe o lines
      (start + (within o.deadline o.room (probe.list start node)).2) node sessions
      (Nat.zero_le _)).2
    simp only [Option.isSome_some, if_true]
    omega
  · rw [visit_of_listing h, Options.span]
    dsimp only
    split <;> omega

/-- A visit lists its node, once and at its start. -/
theorem listings_visit (probe : Probe) (o : Options) (start : Nat) (node : String) :
    ((visit probe o start node).calls.filter fun c => c.question = .list).map
      (fun c => (c.node, c.start)) = [(node, start)] := by
  rcases visit_cases probe o start node with ⟨sessions, lines, hok, hlines⟩ | h
  · rw [visit_of_ok hok hlines, List.filter_cons_of_pos (by rfl), listings_takeAll]
    rfl
  · rw [visit_of_listing h]
    rfl

/-- The first call of a visit is the listing, which is over within the deadline. -/
theorem head?_calls_visit {call : Call} (h : (visit probe o start node).calls.head? = some call) :
    call.stop ≤ start + o.room := by
  have hlist : (within o.deadline o.room (probe.list start node)).2 ≤ o.room :=
    within_time_le ..
  rcases visit_cases probe o start node with ⟨sessions, lines, hok, hlines⟩ | hcase
  · rw [visit_of_ok hok hlines] at h
    cases h
    exact Nat.add_le_add_left hlist start
  · rw [visit_of_listing hcase] at h
    cases h
    exact Nat.add_le_add_left hlist start

/-- A node whose listing did not come has no outputs and no failures of outputs. -/
theorem visit_of_error {fault : ProbeFault}
    (h : (visit probe o start node).listed = .error fault) :
    (visit probe o start node).taken = [] ∧ (visit probe o start node).failures = [] := by
  rw [visit_listed] at h
  rw [visit_of_listing (Or.inl ⟨fault, h⟩)]
  exact ⟨rfl, rfl⟩

/-- If outputs are wanted, each session that was listed has one fate, in the order of the listing.
Otherwise no output is taken, and none is missed. -/
theorem visit_fates {sessions : List Session}
    (h : (visit probe o start node).listed = .ok sessions) :
    ∃ fates : List (String × Except ProbeFault String),
      fates.map (·.1) = (if o.captureLines.isSome then sessions.map (·.name) else [])
        ∧ (visit probe o start node).taken = fates.filterMap textOf?
        ∧ (visit probe o start node).failures = fates.filterMap faultOf? := by
  rw [visit_listed] at h
  cases hlines : o.captureLines with
  | some lines =>
      rw [visit_of_ok h hlines]
      exact takeAll_fates ..
  | none =>
      rw [visit_of_listing (Or.inr hlines)]
      exact ⟨[], rfl, rfl, rfl⟩

/-- The visits came to the same, whenever they were made. -/
structure Visit.Alike (v w : Visit) : Prop where
  /-- They were made to the same node. -/
  node : v.node = w.node
  /-- The listings came to the same. -/
  listed : v.listed = w.listed
  /-- The same outputs were taken. -/
  taken : v.taken = w.taken
  /-- The same outputs were missed, for the same reasons. -/
  failures : v.failures = w.failures

/-- Probes that answer alike about a node tell the same in each visit to it, however many nodes are
visited at once. -/
theorem visit_alike {probe' : Probe} {o' : Options} (hprobe : probe.AlikeOn probe' node)
    (hdeadline : o.deadline = o'.deadline) (hlines : o.captureLines = o'.captureLines)
    (start start' : Nat) :
    (visit probe o start node).Alike (visit probe' o' start' node) := by
  have hroom : o.room = o'.room := by rw [Options.room, Options.room, hdeadline]
  have hlist : within o.deadline o.room (probe.list start node) =
      within o'.deadline o'.room (probe'.list start' node) := by
    rw [hdeadline, hroom, hprobe.list start start']
  rcases visit_cases probe o start node with ⟨sessions, lines, hok, hsome⟩ | h
  · rw [visit_of_ok hok hsome, visit_of_ok (hlist ▸ hok) (hlines ▸ hsome)]
    obtain ⟨htaken, hfailures⟩ := takeAll_congr hprobe hdeadline lines
      (start + (within o.deadline o.room (probe.list start node)).2)
      (start' + (within o'.deadline o'.room (probe'.list start' node)).2) 0 sessions
    exact ⟨rfl, rfl, htaken, hfailures⟩
  · rw [visit_of_listing h, visit_of_listing (hlist ▸ hlines ▸ h)]
    exact ⟨rfl, congrArg Prod.fst hlist, rfl, rfl⟩

end Visits

end Scan

end Roster
