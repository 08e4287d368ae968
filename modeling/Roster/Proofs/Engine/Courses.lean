import Roster.Engine
import Roster.Proofs.Cycle.Takings

/-!
# The courses of an engine

In the background cycles start and end, and meanwhile the user leaves notes and asks for outputs, at
moments that nobody chooses.  A *course* is one order in which all this happens (`Engine.Reaches`).
It is labelled with what may bring outputs into the inventory, in the order in which it is filed:
the outputs that the user asked for, as they come, and the cycles, as they are over (`Filing`).

A course says nothing of the loop or of how long anything takes.  What it says of the times is that
no time passes beyond the end of a cycle that is under way, and that one cycle at most is under way.
It follows that what is filed is in the order of the moments at which it is filed, and that a cycle
starts after those before it are over (`Timely`).
-/

namespace Roster

variable {σ : Type}

/-! ## What is filed -/

/-- Something that may bring outputs into the inventory. -/
inductive Filing where
  /-- The output of a session that the user asked for has come at a moment. -/
  | asked (id : Identity) (moment : Nat) (text : String)
  /-- A cycle is over. -/
  | scanned (c : Cycle)

namespace Filing

/-- When it is filed. -/
def moment : Filing → Nat
  | asked _ moment _ => moment
  | scanned c => c.stop

/-- It brings an output of a session that came at the moment `finish`. -/
def Takes (id : Identity) (finish : Nat) (text : String) : Filing → Prop
  | asked key moment came => key = id ∧ moment = finish ∧ came = text
  | scanned c => c.Takes id finish text

/-- The operation by which it is filed. -/
def op (now : Instant) : Filing → Operation
  | asked id _ text => .setCapture id ⟨text, now⟩
  | scanned c => .merge (c.findings now)

/-- The one is filed before the other, and if both are cycles, is over before the other starts. -/
def Before : Filing → Filing → Prop
  | scanned c, scanned c' => c.stop ≤ c'.start
  | asked _ moment _, f => moment ≤ f.moment
  | scanned c, asked _ moment _ => c.stop ≤ moment

theorem Before.moment_le {f f' : Filing} (h : f.Before f') : f.moment ≤ f'.moment := by
  cases f with
  | asked id moment text => exact h
  | scanned c =>
      cases f' with
      | asked id moment text => exact h
      | scanned c' => exact Nat.le_trans h c'.start_le_stop

end Filing

/-- The operation brings no output into the inventory. -/
def Operation.LeavesOutputs : Operation → Prop
  | .load | .merge _ | .setCapture .. => False
  | .setNote .. | .deleteNote _ | .forget _ | .addIncident _ | .flush => True

namespace Engine

/-! ## Courses -/

/-- Something that happens to an engine, with what is filed by it. -/
inductive Move : Engine σ → Option Filing → Engine σ → Prop where
  /-- Time passes, until the end of the cycle under way at the latest.  Meanwhile the loop goes on,
  and what is called may change. -/
  | pass {e e' : Engine σ} (hkeeper : e'.keeper = e.keeper) (hcycle : e'.cycle = e.cycle)
      (htime : e.time ≤ e'.time) (hdue : ∀ c ∈ e.cycle, e'.time ≤ c.stop) : Move e none e'
  /-- A cycle starts. -/
  | start {e : Engine σ} (h : e.cycle = none) : Move e none e.startCycle
  /-- The cycle under way ends. -/
  | finish {e : Engine σ} {c : Cycle} (h : e.cycle = some c) (hfits : c.breaksOff = false) :
      Move e (some (.scanned c)) (e.finishCycle c)
  /-- The cycle under way is given up, or breaks off. -/
  | giveUp {e e' : Engine σ} (hkeeper : e'.keeper = e.keeper) (hcycle : e'.cycle = none)
      (htime : e.time ≤ e'.time) : Move e none e'
  /-- The inventory changes in another way. -/
  | perform {e : Engine σ} (op : Instant → Operation) (hop : ∀ now, (op now).LeavesOutputs) :
      Move e none (e.perform op).2
  /-- An output comes that the user asked for. -/
  | answer {e : Engine σ} (id : Identity) (text : String) :
      Move e (some (.asked id e.time text)) (e.fileOutput id (.ok text)).2

/-- An engine comes to another state, and the list is filed on the way. -/
inductive Reaches (e : Engine σ) : List Filing → Engine σ → Prop where
  /-- Nothing has happened. -/
  | refl : Reaches e [] e
  /-- One more thing happens. -/
  | tail {hist : List Filing} {e' e'' : Engine σ} {filed : Option Filing}
      (hcourse : Reaches e hist e') (hmove : Move e' filed e'') :
      Reaches e (hist ++ filed.toList) e''

variable {e e' e'' : Engine σ} {hist more : List Filing} {filed : Option Filing}

theorem Reaches.quiet (h : e.Reaches hist e') (hmove : Move e' none e'') : e.Reaches hist e'' := by
  have htail := h.tail hmove
  rwa [Option.toList_none, List.append_nil] at htail

theorem Reaches.trans (h : e.Reaches hist e') (h' : e'.Reaches more e'') :
    e.Reaches (hist ++ more) e'' := by
  induction h' with
  | refl =>
      rw [List.append_nil]
      exact h
  | tail _ hmove ih =>
      rw [← List.append_assoc]
      exact ih.tail hmove

/-- All that a move does to the keeper is one operation at most, which files the label. -/
theorem Move.keeper_cases (h : Move e filed e') :
    (filed = none ∧ e'.keeper = e.keeper)
      ∨ ∃ now op, op ≠ .load ∧ e'.keeper = (e.keeper.perform e.gateway now op).2
        ∧ ((filed = none ∧ op.LeavesOutputs) ∨ ∃ f, filed = some f ∧ op = f.op now) := by
  cases h with
  | pass hkeeper _ _ _ => exact Or.inl ⟨rfl, hkeeper⟩
  | start _ => exact Or.inl ⟨rfl, rfl⟩
  | @finish c _ hfits =>
      refine Or.inr ⟨e.clock, .merge (c.findings e.clock), ?_, ?_, Or.inr ⟨_, rfl, rfl⟩⟩
      · intro hload
        cases hload
      · simp only [finishCycle, hfits, Bool.false_eq_true, if_false]
        rfl
  | giveUp hkeeper _ _ => exact Or.inl ⟨rfl, hkeeper⟩
  | perform op hop =>
      refine Or.inr ⟨e.clock, op e.clock, ?_, rfl, Or.inl ⟨rfl, hop e.clock⟩⟩
      intro hload
      have hleaves := hop e.clock
      rw [hload] at hleaves
      exact hleaves
  | answer id text =>
      refine Or.inr ⟨e.clock, .setCapture id ⟨text, e.clock⟩, ?_, rfl, Or.inr ⟨_, rfl, rfl⟩⟩
      intro hload
      cases hload

/-! ## Times -/

/-- The times of an engine and of what was filed on its way. -/
structure Timely (hist : List Filing) (e : Engine σ) : Prop where
  /-- All was filed by now. -/
  past : ∀ f ∈ hist, f.moment ≤ e.time
  /-- It was filed in order. -/
  ordered : hist.Pairwise Filing.Before
  /-- The cycle under way is not over, and comes after all that was filed. -/
  underWay : ∀ c ∈ e.cycle, e.time ≤ c.stop ∧ ∀ f ∈ hist, f.Before (.scanned c)

theorem timely_of_idle (h : e.cycle = none) : e.Timely [] where
  past _ hf := by cases hf
  ordered := .nil
  underWay c hc := by
    rw [h] at hc
    cases hc

/-- More time passes, and no other cycle comes. -/
theorem Timely.later (h : e.Timely hist) (htime : e.time ≤ e'.time)
    (hcycle : ∀ c ∈ e'.cycle, c ∈ e.cycle ∧ e'.time ≤ c.stop) : e'.Timely hist where
  past f hf := Nat.le_trans (h.past f hf) htime
  ordered := h.ordered
  underWay c hc := ⟨(hcycle c hc).2, (h.underWay c (hcycle c hc).1).2⟩

/-- What is filed next comes after all that was filed. -/
theorem Timely.append (h : e.Timely hist) {f : Filing} (hbefore : ∀ f' ∈ hist, f'.Before f)
    (htime : e'.time = f.moment)
    (hcycle : ∀ c ∈ e'.cycle, e'.time ≤ c.stop ∧ ∀ f' ∈ hist ++ [f], f'.Before (.scanned c)) :
    e'.Timely (hist ++ [f]) where
  past f' hf' := by
    rw [htime]
    rcases List.mem_append.1 hf' with hf' | hf'
    · exact (hbefore f' hf').moment_le
    · rw [List.mem_singleton.1 hf']
  ordered := by
    refine List.pairwise_append.2 ⟨h.ordered, List.pairwise_singleton .., fun f' hf' g hg => ?_⟩
    rw [List.mem_singleton.1 hg]
    exact hbefore f' hf'
  underWay := hcycle

theorem Timely.move (h : e.Timely hist) (hmove : Move e filed e') :
    e'.Timely (hist ++ filed.toList) := by
  cases hmove with
  | pass _ hcycle htime hdue =>
      rw [Option.toList_none, List.append_nil]
      refine h.later htime fun c hc => ?_
      rw [hcycle] at hc
      exact ⟨hc, hdue c hc⟩
  | giveUp _ hcycle htime =>
      rw [Option.toList_none, List.append_nil]
      refine h.later htime fun c hc => ?_
      rw [hcycle] at hc
      cases hc
  | perform op _ =>
      rw [Option.toList_none, List.append_nil]
      exact h.later (Nat.le_refl _) fun c hc => ⟨hc, (h.underWay c hc).1⟩
  | start hidle =>
      rw [Option.toList_none, List.append_nil]
      refine ⟨h.past, h.ordered, fun c hc => ?_⟩
      cases hc
      refine ⟨e.newCycle.start_le_stop, fun f hf => ?_⟩
      -- all that was filed was filed by now, and the cycle starts now
      have hpast : f.moment ≤ e.time := h.past f hf
      cases f with
      | asked id moment text => exact Nat.le_trans hpast e.newCycle.start_le_stop
      | scanned c => exact hpast
  | @finish c hc hfits =>
      have hended : (e.finishCycle c).cycle = none ∧ (e.finishCycle c).time = c.stop := by
        simp only [finishCycle, hfits, Bool.false_eq_true, if_false]
        exact ⟨rfl, rfl⟩
      refine h.append (h.underWay c hc).2 hended.2 fun c' hc' => ?_
      rw [hended.1] at hc'
      cases hc'
  | answer id text =>
      have hbefore : ∀ f ∈ hist, f.Before (.asked id e.time text) := by
        intro f hf
        have hpast : f.moment ≤ e.time := h.past f hf
        cases f with
        | asked id' moment text' => exact hpast
        | scanned c => exact hpast
      refine h.append hbefore rfl fun c hc => ?_
      obtain ⟨hdue, hafter⟩ := h.underWay c hc
      refine ⟨hdue, fun f hf => ?_⟩
      rcases List.mem_append.1 hf with hf | hf
      · exact hafter f hf
      · rw [List.mem_singleton.1 hf]
        exact hdue

/-- What is filed in a course that starts between two cycles is filed in order. -/
theorem Reaches.timely (h : e.Reaches hist e') (hidle : e.cycle = none) : e'.Timely hist := by
  induction h with
  | refl => exact timely_of_idle hidle
  | tail _ hmove ih => exact ih.move hmove

end Engine

end Roster
