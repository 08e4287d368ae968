import Roster.Proofs.Cycle.Takings
import Roster.Proofs.Scan.Gathering

/-!
# One deadline for all outputs of a node

All outputs of a node have one deadline together.  It runs from the end of the listing on, and each
session gets what the sessions before it have left.  A *round* goes through the sessions in the
order of the listing, with the time that has passed (`Round`).

* A session that is met in time is called.  If its answer comes by the deadline, it counts,
  whatever it is.  An answer that comes later is cut off at the deadline.
* A session that is met at the deadline or later is not called.

Once a session was not called, none behind it is, since the time that has passed does not go back
(`Round.turn_of_late`).  So the sessions that were called are the first ones of the listing
(`Round.called_prefix`).

There is one round through given sessions (`Round.unique`), and a visit makes it
(`exists_round`).  `outputs_share_deadline` puts together what this says of a visit.
-/

namespace Roster.Scan

/-- What became of a session in a round. -/
structure Turn where
  /-- The name of the session. -/
  name : String
  /-- From when until when since the listing it was called, if it was. -/
  span : Option (Nat × Nat)
  /-- The output, or why there is none. -/
  result : Except ProbeFault String

/-- The call for a session, after a listing that was over at the time `begin`. -/
def Turn.call? (lines begin : Nat) (node : String) (t : Turn) : Option Call :=
  t.span.map fun span => ⟨node, .capture t.name lines, begin + span.1, begin + span.2⟩

/-- What became of a session, without its call. -/
def Turn.fate (t : Turn) : String × Except ProbeFault String := (t.name, t.result)

/-- A round goes through sessions from one time since the listing on and until another. -/
inductive Round (probe : Probe) (o : Options) (lines begin : Nat) (node : String) :
    Nat → List Session → List Turn → Nat → Prop
  /-- No session is left. -/
  | ended {elapsed : Nat} : Round probe o lines begin node elapsed [] [] elapsed
  /-- The session is met in time, and its answer comes by the deadline. -/
  | answered {s : Session} {rest : List Session} {turns : List Turn} {elapsed delay stop : Nat}
      {result : Except ProbeFault String} (hmet : elapsed < o.room)
      (hanswer : probe.capture (begin + elapsed) ⟨node, s.name⟩ lines = ⟨some delay, result⟩)
      (hintime : elapsed + delay ≤ o.room)
      (hrest : Round probe o lines begin node (elapsed + delay) rest turns stop) :
      Round probe o lines begin node elapsed (s :: rest)
        (⟨s.name, some (elapsed, elapsed + delay), result⟩ :: turns) stop
  /-- The session is met in time, but its answer does not come by the deadline. -/
  | cutOff {s : Session} {rest : List Session} {turns : List Turn} {elapsed stop : Nat}
      (hmet : elapsed < o.room)
      (hlate : ∀ delay, (probe.capture (begin + elapsed) ⟨node, s.name⟩ lines).delay = some delay →
        o.room < elapsed + delay)
      (hrest : Round probe o lines begin node o.room rest turns stop) :
      Round probe o lines begin node elapsed (s :: rest)
        (⟨s.name, some (elapsed, o.room), .error (.timeout o.deadline)⟩ :: turns) stop
  /-- The session is met at the deadline or later. -/
  | late {s : Session} {rest : List Session} {turns : List Turn} {elapsed stop : Nat}
      (hmet : o.room ≤ elapsed)
      (hrest : Round probe o lines begin node elapsed rest turns stop) :
      Round probe o lines begin node elapsed (s :: rest)
        (⟨s.name, none, .error (.timeout o.deadline)⟩ :: turns) stop

/-! ## Rounds -/

section Rounds

variable {probe : Probe} {o : Options} {lines begin : Nat} {node : String} {elapsed stop : Nat}
  {sessions : List Session} {turns : List Turn}

/-- There is one round through given sessions. -/
theorem Round.unique (h : Round probe o lines begin node elapsed sessions turns stop)
    {turns' : List Turn} {stop' : Nat}
    (h' : Round probe o lines begin node elapsed sessions turns' stop') :
    turns' = turns ∧ stop' = stop := by
  induction h generalizing turns' stop' with
  | ended =>
      cases h'
      exact ⟨rfl, rfl⟩
  | answered hmet hanswer hintime _ ih =>
      cases h' with
      | answered _ hanswer' _ hrest' =>
          rw [hanswer] at hanswer'
          cases hanswer'
          obtain ⟨rfl, rfl⟩ := ih hrest'
          exact ⟨rfl, rfl⟩
      | cutOff _ hlate' _ =>
          have hdelay := hlate' _ (congrArg Answer.delay hanswer)
          omega
      | late hmet' _ => omega
  | cutOff hmet hlate _ ih =>
      cases h' with
      | answered _ hanswer' hintime' _ =>
          have hdelay := hlate _ (congrArg Answer.delay hanswer')
          omega
      | cutOff _ _ hrest' =>
          obtain ⟨rfl, rfl⟩ := ih hrest'
          exact ⟨rfl, rfl⟩
      | late hmet' _ => omega
  | late hmet _ ih =>
      cases h' with
      | answered hmet' _ _ _ => omega
      | cutOff hmet' _ _ => omega
      | late _ hrest' =>
          obtain ⟨rfl, rfl⟩ := ih hrest'
          exact ⟨rfl, rfl⟩

/-- Every session has its turn, in the order of the listing. -/
theorem Round.names (h : Round probe o lines begin node elapsed sessions turns stop) :
    turns.map (·.name) = sessions.map (·.name) := by
  induction h with
  | ended => rfl
  | answered _ _ _ _ ih => exact congrArg (_ :: ·) ih
  | cutOff _ _ _ ih => exact congrArg (_ :: ·) ih
  | late _ _ ih => exact congrArg (_ :: ·) ih

/-- A round that starts by the deadline is over by then. -/
theorem Round.stop_le (h : Round probe o lines begin node elapsed sessions turns stop)
    (hstart : elapsed ≤ o.room) : stop ≤ o.room := by
  induction h with
  | ended => exact hstart
  | answered _ _ hintime _ ih => exact ih hintime
  | cutOff _ _ _ ih => exact ih (Nat.le_refl _)
  | late _ _ ih => exact ih hstart

/-- From the deadline on no session is called. -/
theorem Round.turn_of_late (h : Round probe o lines begin node elapsed sessions turns stop)
    (hlate : o.room ≤ elapsed) :
    ∀ t ∈ turns, t.span = none ∧ t.result = .error (.timeout o.deadline) := by
  induction h with
  | ended => exact nofun
  | answered hmet _ _ _ _ => omega
  | cutOff hmet _ _ _ => omega
  | late _ _ ih => exact List.forall_mem_cons.2 ⟨⟨rfl, rfl⟩, ih hlate⟩

/-- The sessions that are called are the first ones. -/
theorem Round.called_prefix (h : Round probe o lines begin node elapsed sessions turns stop) :
    (turns.filter (·.span.isSome)).map (·.name) <+: sessions.map (·.name) := by
  induction h with
  | ended => exact List.prefix_rfl
  | answered _ _ _ _ ih => exact List.prefix_cons_inj _ |>.2 ih
  | cutOff _ _ _ ih => exact List.prefix_cons_inj _ |>.2 ih
  | @late s rest turns elapsed stop hmet hrest ih =>
      have hnone : turns.filter (·.span.isSome) = [] := by
        refine List.filter_eq_nil_iff.2 fun t ht => ?_
        rw [(hrest.turn_of_late hmet t ht).1]
        exact Bool.false_ne_true
      rw [List.filter_cons_of_neg (by simp), hnone]
      exact List.nil_prefix

/-- The calls of a round ask for the sessions that are called. -/
theorem sessions_of_calls (turns : List Turn) :
    (turns.filterMap (Turn.call? lines begin node)).filterMap Call.session? =
      (turns.filter (·.span.isSome)).map (·.name) := by
  induction turns with
  | nil => rfl
  | cons t rest ih =>
      obtain ⟨name, span, result⟩ := t
      cases span with
      | none => exact ih
      | some span => exact congrArg (name :: ·) ih

/-- Sessions of different names have one turn each. -/
theorem Round.eq_of_name (h : Round probe o lines begin node elapsed sessions turns stop)
    (hnames : (sessions.map (·.name)).Nodup) {t t' : Turn} (ht : t ∈ turns) (ht' : t' ∈ turns)
    (hname : t.name = t'.name) : t = t' :=
  List.inj_on_of_nodup_map (h.names ▸ hnames) ht ht' hname

end Rounds

/-! ## Visits -/

section Visits

variable {probe : Probe} {o : Options} {node : String}

theorem within_of_intime {α : Type} {limit : Duration} {room delay : Nat}
    {result : Except ProbeFault α} (h : delay ≤ room) :
    within limit room ⟨some delay, result⟩ = (result, delay) := by
  simp only [within, if_pos h]

/-- An answer that has not come by its limit is cut off. -/
theorem within_of_late {α : Type} {limit : Duration} {room : Nat} {a : Answer α}
    (h : ∀ delay, a.delay = some delay → room < delay) :
    within limit room a = (.error (.timeout limit), room) := by
  rw [within]
  split
  next delay hdelay => rw [if_neg (Nat.not_le.2 (h delay hdelay))]
  next => rfl

/-- The call for a session that is met in time is the next turn of a round. -/
theorem Round.cons_tryOutput {lines begin elapsed stop : Nat} {s : Session} {rest : List Session}
    {turns : List Turn} (hmet : elapsed < o.room)
    (hrest : Round probe o lines begin node
      (elapsed + (tryOutput probe o lines begin node elapsed s).2) rest turns stop) :
    Round probe o lines begin node elapsed (s :: rest)
      (⟨s.name, some (elapsed, elapsed + (tryOutput probe o lines begin node elapsed s).2),
        (tryOutput probe o lines begin node elapsed s).1⟩ :: turns) stop := by
  unfold tryOutput at hrest ⊢
  cases hanswer : probe.capture (begin + elapsed) ⟨node, s.name⟩ lines with
  | mk delay? result =>
      rw [hanswer] at hrest
      by_cases hintime : ∃ delay, delay? = some delay ∧ elapsed + delay ≤ o.room
      · obtain ⟨delay, rfl, hle⟩ := hintime
        rw [within_of_intime (by omega)] at hrest ⊢
        exact .answered hmet hanswer hle hrest
      · have hlate : ∀ delay, delay? = some delay → o.room < elapsed + delay :=
          fun delay hdelay => Nat.lt_of_not_le fun hle => hintime ⟨delay, hdelay, hle⟩
        have hcut : within o.deadline (o.room - elapsed) ⟨delay?, result⟩ =
            (.error (.timeout o.deadline), o.room - elapsed) := by
          refine within_of_late fun delay hdelay => ?_
          have hafter := hlate delay hdelay
          omega
        rw [hcut, Nat.add_sub_cancel' (Nat.le_of_lt hmet)] at hrest
        rw [hcut, Nat.add_sub_cancel' (Nat.le_of_lt hmet)]
        refine .cutOff hmet ?_ hrest
        rw [hanswer]
        exact hlate

/-- The outputs of a node are taken in a round through its sessions. -/
theorem exists_round (probe : Probe) (o : Options) (lines begin : Nat) (node : String)
    (elapsed : Nat) (sessions : List Session) :
    let taking := takeAll probe o lines begin node elapsed sessions
    ∃ turns, Round probe o lines begin node elapsed sessions turns taking.elapsed
      ∧ taking.taken = (turns.map Turn.fate).filterMap textOf?
      ∧ taking.failures = (turns.map Turn.fate).filterMap faultOf?
      ∧ taking.calls = turns.filterMap (Turn.call? lines begin node) := by
  induction sessions generalizing elapsed with
  | nil => exact ⟨[], .ended, rfl, rfl, rfl⟩
  | cons s rest ih =>
      rcases Nat.lt_or_ge elapsed o.room with hmet | hmet
      · rw [takeAll_cons_of_lt hmet]
        obtain ⟨turns, hrest, htaken, hfailures, hcalls⟩ :=
          ih (elapsed + (tryOutput probe o lines begin node elapsed s).2)
        refine ⟨_, hrest.cons_tryOutput hmet, ?_, ?_, ?_⟩
        · dsimp only
          rw [htaken, List.map_cons, List.filterMap_cons, Turn.fate]
          cases textOf? (s.name, (tryOutput probe o lines begin node elapsed s).1) <;> rfl
        · dsimp only
          rw [hfailures, List.map_cons, List.filterMap_cons, Turn.fate]
          cases faultOf? (s.name, (tryOutput probe o lines begin node elapsed s).1) <;> rfl
        · dsimp only
          rw [hcalls, Nat.add_assoc]
          rfl
      · rw [takeAll_cons_of_le hmet]
        obtain ⟨turns, hrest, htaken, hfailures, hcalls⟩ := ih elapsed
        refine ⟨_, .late hmet hrest, htaken, ?_, hcalls⟩
        dsimp only
        rw [hfailures]
        rfl

theorem mem_filterMap_textOf? {turns : List Turn} {name text : String} :
    (name, text) ∈ (turns.map Turn.fate).filterMap textOf? ↔
      ∃ t ∈ turns, t.name = name ∧ t.result = .ok text := by
  have htext : ∀ t : Turn, textOf? t.fate = some (name, text) ↔
      t.name = name ∧ t.result = .ok text := by
    rintro ⟨name', span, result⟩
    cases result <;> simp [Turn.fate, textOf?]
  simp only [List.mem_filterMap, List.mem_map, exists_exists_and_eq_and, htext]

theorem mem_filterMap_faultOf? {turns : List Turn} {name : String} {fault : ProbeFault} :
    (name, fault) ∈ (turns.map Turn.fate).filterMap faultOf? ↔
      ∃ t ∈ turns, t.name = name ∧ t.result = .error fault := by
  have hfault : ∀ t : Turn, faultOf? t.fate = some (name, fault) ↔
      t.name = name ∧ t.result = .error fault := by
    rintro ⟨name', span, result⟩
    cases result <;> simp [Turn.fate, faultOf?]
  simp only [List.mem_filterMap, List.mem_map, exists_exists_and_eq_and, hfault]

/-- The outputs of a round through sessions of different names, as they are told. -/
theorem Round.get?_ofList {lines begin elapsed stop : Nat} {sessions : List Session}
    {turns : List Turn} (h : Round probe o lines begin node elapsed sessions turns stop)
    (hnames : (sessions.map (·.name)).Nodup) {name text : String} :
    (Table.ofList ((turns.map Turn.fate).filterMap textOf?)).get? name = some text ↔
      ∃ t ∈ turns, t.name = name ∧ t.result = .ok text := by
  refine ⟨fun h => mem_filterMap_textOf?.1 (Table.mem_of_get?_ofList h), fun htext => ?_⟩
  refine Table.get?_ofList (mem_filterMap_textOf?.2 htext) fun text' hmem => ?_
  -- a name has one turn, and a turn has one output
  obtain ⟨t, ht, rfl, hresult⟩ := htext
  obtain ⟨t', ht', hname, hresult'⟩ := mem_filterMap_textOf?.1 hmem
  obtain rfl := h.eq_of_name hnames ht' ht hname
  rw [hresult] at hresult'
  exact (Except.ok.inj hresult').symm

/-- Of each session the output is either told or missed. -/
theorem Round.told_iff_not_missed {lines begin elapsed stop : Nat} {sessions : List Session}
    {turns : List Turn} (h : Round probe o lines begin node elapsed sessions turns stop)
    (hnames : (sessions.map (·.name)).Nodup) {s : Session} (hs : s ∈ sessions) :
    (∃ text, ∃ t ∈ turns, t.name = s.name ∧ t.result = .ok text) ↔
      ¬ ∃ fault, ∃ t ∈ turns, t.name = s.name ∧ t.result = .error fault := by
  obtain ⟨t, ht, hname⟩ : ∃ t ∈ turns, t.name = s.name :=
    List.mem_map.1 (h.names ▸ List.mem_map_of_mem hs)
  have honly : ∀ {t'}, t' ∈ turns → t'.name = s.name → t' = t := fun ht' hname' =>
    h.eq_of_name hnames ht' ht (hname'.trans hname.symm)
  constructor
  · rintro ⟨text, t₁, ht₁, hname₁, htext⟩ ⟨fault, t₂, ht₂, hname₂, hfault⟩
    rw [honly ht₁ hname₁, ← honly ht₂ hname₂, hfault] at htext
    cases htext
  · intro hnone
    cases hresult : t.result with
    | ok text => exact ⟨text, t, ht, hname, hresult⟩
    | error fault => exact absurd ⟨fault, t, ht, hname, hresult⟩ hnone

/-- Let the listing of a node come in time, and name no session twice, and let outputs be wanted.

Then there is one round through the sessions, and the visit makes it.  Its calls are the listing
and those of the round.  It tells the sessions that were listed, whatever becomes of their outputs.
An output is told of a session if and only if that came of its turn, and it is missed, for the
reason that came of its turn, otherwise.

So the sessions that are called are the first ones of the listing, one call is under way at most,
of each session the output is either told or missed, and those that are missed are in the order of
the listing.  The listing and the outputs take one deadline each at most, and the visit two. -/
theorem outputs_share_deadline {start delay lines : Nat} {sessions : List Session}
    (hlines : o.captureLines = some lines)
    (hlist : probe.list start node = ⟨some delay, .ok sessions⟩) (hdelay : delay ≤ o.room)
    (hnames : (sessions.map (·.name)).Nodup) :
    let v := visit probe o start node
    ∃ turns stop found,
      Round probe o lines (start + delay) node 0 sessions turns stop
      ∧ (∀ turns' stop', Round probe o lines (start + delay) node 0 sessions turns' stop' →
          turns' = turns ∧ stop' = stop)
      ∧ v.calls = ⟨node, .list, start, start + delay⟩
          :: turns.filterMap (Turn.call? lines (start + delay) node)
      ∧ told? v = some (node, found) ∧ found.sessions = sessions
      ∧ (∀ name text, found.captures.get? name = some text ↔
          ∃ t ∈ turns, t.name = name ∧ t.result = .ok text)
      ∧ (∀ name fault, (name, fault) ∈ v.failures ↔
          ∃ t ∈ turns, t.name = name ∧ t.result = .error fault)
      ∧ v.calls.filterMap Call.session? <+: sessions.map (·.name)
      ∧ (∀ t, underWay v.calls t ≤ 1)
      ∧ (∀ s ∈ sessions, (∃ text, found.captures.get? s.name = some text) ↔
          ¬ ∃ fault, (s.name, fault) ∈ v.failures)
      ∧ (v.failures.map (·.1)).Sublist (sessions.map (·.name))
      ∧ v.stop = start + delay + stop ∧ stop ≤ o.room ∧ v.stop ≤ start + 2 * o.room := by
  intro v
  have hwithin : within o.deadline o.room (probe.list start node) = (.ok sessions, delay) := by
    rw [hlist, within_of_intime hdelay]
  have hok : (within o.deadline o.room (probe.list start node)).1 = .ok sessions :=
    congrArg Prod.fst hwithin
  have hvisit := visit_of_ok hok hlines
  rw [hwithin] at hvisit
  have hlisted : v.listed = .ok sessions := congrArg Visit.listed hvisit
  obtain ⟨turns, hround, htaken, hfailures, hcalls⟩ :=
    exists_round probe o lines (start + delay) node 0 sessions
  have hcalls' : v.calls = ⟨node, .list, start, start + delay⟩
      :: turns.filterMap (Turn.call? lines (start + delay) node) :=
    (congrArg Visit.calls hvisit).trans (congrArg _ hcalls)
  have hfailures' : v.failures = (turns.map Turn.fate).filterMap faultOf? :=
    (congrArg Visit.failures hvisit).trans hfailures
  have htold : told? v =
      some (node, ⟨sessions, .ofList ((turns.map Turn.fate).filterMap textOf?)⟩) := by
    rw [← htaken]
    exact congrArg told? hvisit
  have hmissed : ∀ name fault, (name, fault) ∈ v.failures ↔
      ∃ t ∈ turns, t.name = name ∧ t.result = .error fault := by
    intro name fault
    rw [hfailures']
    exact mem_filterMap_faultOf?
  have hcaptures : ∀ name text,
      (Table.ofList ((turns.map Turn.fate).filterMap textOf?)).get? name = some text ↔
        ∃ t ∈ turns, t.name = name ∧ t.result = .ok text :=
    fun _ _ => hround.get?_ofList hnames
  refine ⟨turns, _, _, hround, fun _ _ h => hround.unique h, hcalls', htold, rfl, hcaptures,
    hmissed, ?_, fun t => ?_, fun s hs => ?_, sublist_failures hlisted, congrArg Visit.stop hvisit,
    hround.stop_le (Nat.zero_le _), ?_⟩
  · rw [hcalls']
    show (turns.filterMap _).filterMap Call.session? <+: _
    rw [sessions_of_calls]
    exact hround.called_prefix
  · refine Nat.le_trans ((visit_inTurn probe o start node).underWay_le t) ?_
    split <;> omega
  · simp only [hcaptures, hmissed]
    exact hround.told_iff_not_missed hnames hs
  · exact Nat.le_trans (visit_stop_le probe o start node) (Nat.add_le_add_left o.span_le start)

end Visits

/-- Of four sessions the first one fails after a while and the second one takes all the time that is
left.  Its answer counts, since it comes just at the deadline.  The others are not called any more,
although the last one would answer at once. -/
theorem outputs_share_deadline_used_up :
    let probe : Probe :=
      { list := fun _ _ => ⟨some 3, .ok [⟨"bad", none, false⟩, ⟨"long", none, false⟩,
          ⟨"hung", none, false⟩, ⟨"quick", none, false⟩]⟩
        capture := fun _ id _ =>
          if id.name = "bad" then ⟨some 4, .error (.connect "refused")⟩
          else if id.name = "long" then ⟨some 6, .ok "epoch 1"⟩
          else if id.name = "hung" then ⟨none, .ok ""⟩
          else ⟨some 0, .ok "$"⟩ }
    let o : Options := { deadline := .ofMillis 10, captureLines := some 5 }
    let v := visit probe o 7 "n1"
    ∃ found, told? v = some ("n1", found)
      ∧ found.captures.get? "long" = some "epoch 1"
      ∧ found.captures.get? "quick" = none
      ∧ ("bad", .connect "refused") ∈ v.failures
      ∧ ("quick", .timeout o.deadline) ∈ v.failures
      ∧ v.calls.filterMap Call.session? = ["bad", "long"]
      ∧ v.stop = 20 := by
  intro probe o v
  have hlist : probe.list 7 "n1" = ⟨some 3, .ok [⟨"bad", none, false⟩, ⟨"long", none, false⟩,
      ⟨"hung", none, false⟩, ⟨"quick", none, false⟩]⟩ := rfl
  have hlines : o.captureLines = some 5 := rfl
  obtain ⟨turns, stop, found, -, hunique, hcalls, htold, -, hcaptures, hmissed, -, -, -, -, hstop,
    -⟩ := outputs_share_deadline hlines hlist (by decide) (by decide)
  have hround : Round probe o 5 (7 + 3) "n1" 0
      [⟨"bad", none, false⟩, ⟨"long", none, false⟩, ⟨"hung", none, false⟩, ⟨"quick", none, false⟩]
      [⟨"bad", some (0, 0 + 4), .error (.connect "refused")⟩,
        ⟨"long", some (0 + 4, 0 + 4 + 6), .ok "epoch 1"⟩,
        ⟨"hung", none, .error (.timeout o.deadline)⟩, ⟨"quick", none, .error (.timeout o.deadline)⟩]
      (0 + 4 + 6) := by
    apply Round.answered (by decide) rfl (by decide)
    apply Round.answered (by decide) rfl (by decide)
    exact .late (by decide) (.late (by decide) .ended)
  obtain ⟨rfl, rfl⟩ := hunique _ _ hround
  refine ⟨found, htold, ?_, ?_, ?_, ?_, ?_, hstop⟩
  · rw [hcaptures]
    simp
  · rw [Option.eq_none_iff_forall_ne_some]
    intro text
    rw [ne_eq, hcaptures]
    simp
  · rw [hmissed]
    simp
  · rw [hmissed]
    simp
  · rw [hcalls]
    rfl

end Roster.Scan
