import Roster.Proofs.Engine.Due

/-!
# The output that is shown

The output that is shown of a session is the one that was filed last (`Reaches.showing`).  An output
that the user asked for is filed when it comes.  A cycle files what it took when it is over, and by
then its outputs are of some age.

So the last filing need not bring the last output: an output that the user asked for while a cycle
was under way, after the cycle had taken its own, is *overtaken*.  This is the only case in which
what is shown is older than something that was filed (`shown_output_is_last_filed`).
-/

namespace Roster

variable {σ : Type}

/-- Where a list grows by one item, an item of it is the new one, or was in it before. -/
theorem cases_of_concat {α : Type} {items before after : List α} {item new : α}
    (h : items ++ [new] = before ++ item :: after) :
    (after = [] ∧ item = new)
      ∨ ∃ after', after = after' ++ [new] ∧ items = before ++ item :: after' := by
  rcases List.eq_nil_or_concat after with rfl | ⟨after', last, rfl⟩
  · obtain ⟨-, hsame⟩ := List.append_inj' h rfl
    exact Or.inl ⟨rfl, (List.singleton_inj.1 hsame).symm⟩
  · rw [List.concat_eq_append, ← List.cons_append, ← List.append_assoc] at h
    obtain ⟨hitems, hsame⟩ := List.append_inj' h rfl
    exact Or.inr ⟨after', by rw [List.concat_eq_append, List.singleton_inj.1 hsame], hitems⟩

/-! ## What an operation leaves of an output -/

/-- An operation that brings no output leaves a running session with the output that it has. -/
theorem Operation.LeavesOutputs.entryAt {op : Operation} (hop : op.LeavesOutputs) (id : Identity)
    {entry : Entry} (hactive : entry.isActive = true) :
    ∃ entry', op.entryAt id (some entry) = some entry' ∧ entry'.isActive = true
      ∧ entry'.captured = entry.captured := by
  have hbare : (some entry).bind Entry.withoutNote = some { entry with note := none } := by
    have hkept : ({ entry with note := none } : Entry).isActive = true := hactive
    simp only [Option.bind_some, Entry.withoutNote, hkept, Bool.true_or, if_true]
  cases op with
  | load => cases hop
  | merge f => cases hop
  | setCapture key c => cases hop
  | setNote key text =>
      simp only [Operation.entryAt]
      split
      next =>
        by_cases htext : Text.trim text = ""
        · simp only [if_pos htext]
          exact ⟨_, hbare, hactive, rfl⟩
        · simp only [if_neg htext]
          exact ⟨_, rfl, hactive, rfl⟩
      next => exact ⟨entry, rfl, hactive, rfl⟩
  | deleteNote key =>
      simp only [Operation.entryAt]
      split
      next => exact ⟨_, hbare, hactive, rfl⟩
      next => exact ⟨entry, rfl, hactive, rfl⟩
  | forget key =>
      simp only [Operation.entryAt]
      split
      next => exact ⟨entry, by rw [Option.filter_some, if_pos hactive], hactive, rfl⟩
      next => exact ⟨entry, rfl, hactive, rfl⟩
  | addIncident incident => exact ⟨entry, rfl, hactive, rfl⟩
  | flush => exact ⟨entry, rfl, hactive, rfl⟩

namespace Filing

variable {id : Identity} {f : Filing}

/-- It brings no output of a session. -/
def Spares (id : Identity) (f : Filing) : Prop := ∀ finish text, ¬ f.Takes id finish text

/-- What is filed of a running session is the output that is taken, if one is. -/
theorem entryAt_op (hmeets : ∀ c, f = .scanned c → c.Meets id) {entry : Entry}
    (hactive : entry.isActive = true) (now : Instant) :
    ∃ entry', (f.op now).entryAt id (some entry) = some entry' ∧ entry'.isActive = true
      ∧ (∀ finish text, f.Takes id finish text → entry'.captured.map (·.text) = some text)
      ∧ (f.Spares id → entry'.captured = entry.captured) := by
  cases f with
  | asked key moment came =>
      simp only [op, Operation.entryAt]
      split
      next hkey =>
        subst hkey
        refine ⟨_, rfl, hactive, ?_, fun hspares => absurd ⟨rfl, rfl, rfl⟩ (hspares moment came)⟩
        rintro finish text ⟨-, -, rfl⟩
        rfl
      next hkey =>
        refine ⟨entry, rfl, hactive, ?_, fun _ => rfl⟩
        rintro finish text ⟨hsame, -, -⟩
        exact absurd hsame.symm hkey
  | scanned c =>
      have hmeets : c.Meets id := hmeets c rfl
      obtain ⟨s, hlisted⟩ := hmeets.listedAt now
      refine ⟨Inventory.withOutput (c.findings now).completedAt
        (Inventory.outputAt (c.findings now) id)
        (Inventory.seen (c.findings now).completedAt s (some entry)), ?_, rfl, ?_, ?_⟩
      · simp only [op, Operation.entryAt, Inventory.mergeAt, Inventory.sessionAt, hlisted,
          Option.map_some]
      · intro finish text htakes
        have houtput := (hmeets.outputAt_iff now).2 ⟨finish, htakes⟩
        rw [Inventory.withOutput, houtput]
        rfl
      · intro hspares
        have houtput : Inventory.outputAt (c.findings now) id = none := by
          rw [Option.eq_none_iff_forall_ne_some]
          intro text hsome
          obtain ⟨finish, htakes⟩ := (hmeets.outputAt_iff now).1 hsome
          exact hspares finish text htakes
        rw [Inventory.withOutput, houtput]
        rfl

/-- What is filed brings one output of a session, which came at one moment. -/
theorem takes_unique (hmeets : ∀ c, f = .scanned c → c.Meets id) {finish finish' : Nat}
    {text text' : String} (h : f.Takes id finish text) (h' : f.Takes id finish' text') :
    finish = finish' ∧ text = text' := by
  cases f with
  | asked key moment came =>
      obtain ⟨-, rfl, rfl⟩ := h
      obtain ⟨-, rfl, rfl⟩ := h'
      exact ⟨rfl, rfl⟩
  | scanned c => exact (hmeets c rfl).takes_unique h h'

/-- The output that is brought last is the one that came last, unless it is that of a cycle and one
that the user asked for has come since the cycle took its own. -/
theorem came_last_iff {before after : List Filing} {last : Filing} {finish : Nat} {text : String}
    (hordered : (before ++ last :: after).Pairwise Filing.Before)
    (hmeets : ∀ c, last = .scanned c → c.Meets id) (htakes : last.Takes id finish text)
    (hafter : ∀ f ∈ after, f.Spares id) :
    (∀ f ∈ before ++ last :: after, ∀ finish' text', f.Takes id finish' text' → finish' ≤ finish) ↔
      ∀ c, last = .scanned c → ∀ moment came, .asked id moment came ∈ before → moment ≤ finish := by
  constructor
  · intro hall c _ moment came hasked
    exact hall _ (List.mem_append_left _ hasked) moment came ⟨rfl, rfl, rfl⟩
  · intro hasked f hf finish' text' hf'
    rcases List.mem_append.1 hf with hbefore | hrest
    · have hearlier : f.Before last :=
        (List.pairwise_append.1 hordered).2.2 f hbefore last List.mem_cons_self
      cases f with
      | asked key moment came =>
          obtain ⟨rfl, rfl, rfl⟩ := hf'
          cases last with
          | asked key' moment' came' =>
              obtain ⟨-, rfl, -⟩ := htakes
              exact hearlier
          | scanned c => exact hasked c rfl moment came hbefore
      | scanned c' =>
          have hover : finish' ≤ c'.stop := (Cycle.Takes.bounds hf').2
          cases last with
          | asked key' moment' came' =>
              obtain ⟨-, rfl, -⟩ := htakes
              exact Nat.le_trans hover hearlier
          | scanned c =>
              have hlater : c.start ≤ finish := (Cycle.Takes.bounds htakes).1
              exact Nat.le_trans hover (Nat.le_trans hearlier hlater)
    · rcases List.mem_cons.1 hrest with rfl | hrest
      · exact Nat.le_of_eq (takes_unique hmeets hf' htakes).1
      · exact absurd hf' (hafter f hrest finish' text')

end Filing

namespace Engine

/-! ## What is shown along a course -/

/-- The output that is shown of a session. -/
def outputOf (e : Engine σ) (id : Identity) : Option String :=
  (e.view.get? id).bind fun r => r.captured.map (·.text)

/-- The view is up to date, and the session is filed as running, with the output. -/
structure Showing (e : Engine σ) (id : Identity) (output : Option String) : Prop where
  /-- What is shown is what is filed. -/
  view : e.keeper.view = e.keeper.inventory.view
  /-- The session runs, and has the output. -/
  entry : ∃ entry, e.keeper.inventory.entries.get? id = some entry ∧ entry.isActive = true
    ∧ entry.captured.map (·.text) = output

variable {e e' : Engine σ} {hist : List Filing} {filed : Option Filing} {id : Identity}
  {output : Option String}

theorem get?_view_of_eq (h : e.keeper.view = e.keeper.inventory.view) (id : Identity) :
    e.view.get? id = (e.keeper.inventory.entries.get? id).map (Inventory.recordOf id) := by
  rw [view, h, Inventory.get?_view]

theorem Showing.of_shows (hview : e.keeper.view = e.keeper.inventory.view)
    (hshows : e.shows id = true) : e.Showing id (e.outputOf id) := by
  refine ⟨hview, ?_⟩
  rw [shows, get?_view_of_eq hview] at hshows
  rw [outputOf, get?_view_of_eq hview]
  cases hentry : e.keeper.inventory.entries.get? id with
  | none =>
      rw [hentry] at hshows
      cases hshows
  | some entry =>
      rw [hentry] at hshows
      exact ⟨entry, rfl, hshows, rfl⟩

theorem Showing.spec (h : e.Showing id output) : e.shows id = true ∧ e.outputOf id = output := by
  obtain ⟨entry, hentry, hactive, houtput⟩ := h.entry
  rw [shows, outputOf, get?_view_of_eq h.view, hentry]
  exact ⟨hactive, houtput⟩

/-- A move leaves a running session with the output that it files, or with the one of before. -/
theorem Showing.move (h : e.Showing id output) (hmove : Move e filed e')
    (hmeets : ∀ c, filed = some (.scanned c) → c.Meets id) :
    ∃ output', e'.Showing id output'
      ∧ (∀ f ∈ filed, ∀ finish text, f.Takes id finish text → output' = some text)
      ∧ ((∀ f ∈ filed, f.Spares id) → output' = output) := by
  obtain ⟨entry, hentry, hactive, houtput⟩ := h.entry
  rcases hmove.keeper_cases with ⟨rfl, hkeeper⟩ | ⟨now, op, hload, hkeeper, hfiled⟩
  · refine ⟨output, ⟨hkeeper ▸ h.view, entry, hkeeper ▸ hentry, hactive, houtput⟩, ?_, fun _ => rfl⟩
    intro f hf
    cases hf
  · have hview : e'.keeper.view = e'.keeper.inventory.view := by
      rw [hkeeper]
      exact Keeper.view_perform hload fun _ => h.view
    have hget : e'.keeper.inventory.entries.get? id = op.entryAt id (some entry) := by
      rw [hkeeper, Keeper.get?_perform hload, hentry]
    rcases hfiled with ⟨rfl, hleaves⟩ | ⟨f, rfl, rfl⟩
    · obtain ⟨entry', hentry', hactive', hcaptured⟩ := hleaves.entryAt id hactive
      refine ⟨output, ⟨hview, entry', hget.trans hentry', hactive', hcaptured ▸ houtput⟩, ?_,
        fun _ => rfl⟩
      intro f hf
      cases hf
    · have hmeets' : ∀ c, f = .scanned c → c.Meets id := fun c hc => hmeets c (congrArg some hc)
      obtain ⟨entry', hentry', hactive', htakes, hspares⟩ := f.entryAt_op hmeets' hactive now
      refine ⟨_, ⟨hview, entry', hget.trans hentry', hactive', rfl⟩, ?_, ?_⟩
      · rintro g ⟨⟩ finish text hg
        exact htakes finish text hg
      · intro hall
        rw [hspares (hall f rfl), houtput]

/-- A course leaves a running session with the output that was filed last, or with the one of before
if none was filed. -/
theorem Reaches.showing (h : e.Reaches hist e') (hshowing : e.Showing id output)
    (hmeets : ∀ c, Filing.scanned c ∈ hist → c.Meets id) :
    ∃ output', e'.Showing id output'
      ∧ (∀ before last after finish text, hist = before ++ last :: after →
          last.Takes id finish text → (∀ f ∈ after, f.Spares id) → output' = some text)
      ∧ ((∀ f ∈ hist, f.Spares id) → output' = output) := by
  induction h with
  | refl =>
      refine ⟨output, hshowing, fun before last after finish text hsplit => ?_, fun _ => rfl⟩
      cases before <;> cases hsplit
  | @tail hist e' e'' filed _ hmove ih =>
      obtain ⟨output', hshowing', hlast, hnone⟩ :=
        ih fun c hc => hmeets c (List.mem_append_left _ hc)
      obtain ⟨output'', hshowing'', hfiled, hspared⟩ := hshowing'.move hmove fun c hc =>
        hmeets c (List.mem_append_right _ (Option.mem_toList.2 hc))
      refine ⟨output'', hshowing'', ?_, fun hall => ?_⟩
      · intro before last after finish text hsplit htakes hafter
        cases filed with
        | none =>
            rw [Option.toList_none, List.append_nil] at hsplit
            rw [hspared fun f hf => absurd hf (Option.not_mem_none f)]
            exact hlast before last after finish text hsplit htakes hafter
        | some f =>
            rcases cases_of_concat hsplit with ⟨-, rfl⟩ | ⟨after', rfl, hbefore⟩
            · exact hfiled last rfl finish text htakes
            · -- what was filed just now takes no output, and so the output is that of before
              have hspares : f.Spares id := hafter f (List.mem_append_right _ List.mem_cons_self)
              rw [hspared fun f' hf' => Option.some.inj hf' ▸ hspares]
              exact hlast before last after' finish text hbefore htakes fun f' hf' =>
                hafter f' (List.mem_append_left _ hf')
      · rw [hspared fun f hf => hall f (List.mem_append_right _ (Option.mem_toList.2 hf))]
        exact hnone fun f hf => hall f (List.mem_append_left _ hf)

/-- What is shown of a session that runs all along, whatever happens meanwhile.

* The session is shown to run, and if nothing was filed of it, with the output of before.
* Otherwise it is shown with the output that was filed last.  This is also the one that came last,
  unless it is that of a cycle and the user asked for one that has come since the cycle took its
  own.
* An output that is overtaken so has come while the cycle was under way.
* Time that passes is such a course, and so is an output that the user asks for, which is filed
  last. -/
theorem shown_output_is_last_filed {e e' : Engine σ} {hist : List Filing} {id : Identity}
    (hcourse : e.Reaches hist e') (hidle : e.cycle = none)
    (hview : e.keeper.view = e.keeper.inventory.view) (hshows : e.shows id = true)
    (hmeets : ∀ c, Filing.scanned c ∈ hist → c.Meets id) :
    e'.shows id = true
    ∧ ((∀ f ∈ hist, f.Spares id) → e'.outputOf id = e.outputOf id)
    ∧ (∀ before last after finish text, hist = before ++ last :: after →
        last.Takes id finish text → (∀ f ∈ after, f.Spares id) →
        e'.outputOf id = some text
        ∧ ((∀ f ∈ hist, ∀ finish' text', f.Takes id finish' text' → finish' ≤ finish) ↔
          ∀ c, last = .scanned c →
            ∀ moment came, .asked id moment came ∈ before → moment ≤ finish)
        ∧ ∀ c, last = .scanned c →
          c.start ≤ finish ∧ ∀ moment came, .asked id moment came ∈ before → moment ≤ c.stop)
    ∧ (e'.Ready → ∀ limit, ∃ more, e.Reaches (hist ++ more) (e'.runTo limit))
    ∧ (e'.Ready → ∀ text, (e'.answerNow id).1 = .ok text →
        ∃ more, e.Reaches (hist ++ (more ++ [.asked id (e'.time + (e'.answerNow id).2) text]))
          (e'.capture id).2) := by
  obtain ⟨output, hshowing, hlast, hnone⟩ :=
    hcourse.showing (Showing.of_shows hview hshows) hmeets
  obtain ⟨hruns, houtput⟩ := hshowing.spec
  refine ⟨hruns, fun hspares => ?_, ?_, ?_, ?_⟩
  · rw [houtput, hnone hspares]
  · intro before last after finish text hsplit htakes hafter
    have hordered := (hcourse.timely hidle).ordered
    rw [hsplit] at hordered
    have hmeets' : ∀ c, last = .scanned c → c.Meets id := by
      rintro c rfl
      exact hmeets c (by simp [hsplit])
    refine ⟨houtput.trans (hlast before last after finish text hsplit htakes hafter), ?_, ?_⟩
    · rw [hsplit]
      exact Filing.came_last_iff hordered hmeets' htakes hafter
    · rintro c rfl
      refine ⟨(Cycle.Takes.bounds htakes).1, fun moment came hasked => ?_⟩
      exact (List.pairwise_append.1 hordered).2.2 _ hasked _ List.mem_cons_self
  · intro hready limit
    obtain ⟨⟨more, hmore⟩, -⟩ := hready.runTo limit
    exact ⟨more, hcourse.trans hmore⟩
  · intro hready text hanswer
    obtain ⟨more, hmore, -⟩ := hready.capture hruns hanswer
    exact ⟨more, hcourse.trans hmore⟩

/-- The user asks for an output, which comes at 5, and a cycle starts then.  The cycle takes its own
at 8, and that one is shown: it came last. -/
theorem shown_output_is_last_filed_in_turn :
    let train : Identity := ⟨"n1", "train"⟩
    let probe : Probe :=
      { list := fun _ _ => ⟨some 1, .ok [⟨"train", none, false⟩]⟩
        capture := fun start _ _ => ⟨some 2, .ok (if start < 6 then "step 1" else "step 2")⟩ }
    let services : Services :=
      { resolution := ⟨0, .ok [⟨"n1", none⟩]⟩, probe, act := fun _ => ⟨0, .ok ()⟩ }
    let inventory : Inventory := { entries := .ofList [(train, { status := .active })] }
    let e : Engine Saved :=
      { options := { scan := { captureLines := some 5 } }, services, gateway := Saved.gateway
        keeper := { inventory, view := inventory.view, state := {} }
        refresh := .spawn 0 1000, time := 5, clock := ⟨0, 0⟩ }
    let answered := (e.fileOutput train (.ok "step 1")).2
    let c := answered.newCycle
    let e' := answered.startCycle.finishCycle c
    let hist : List Filing := [.asked train 5 "step 1", .scanned c]
    e.Reaches hist e' ∧ e.cycle = none ∧ e.shows train = true
    ∧ (∀ c, Filing.scanned c ∈ hist → c.Meets train)
    ∧ e'.outputOf train = some "step 2"
    ∧ (∀ f ∈ hist, ∀ finish text, f.Takes train finish text → finish ≤ 8)
    ∧ ∃ more, e.Reaches (hist ++ (more ++ [.asked train 10 "step 2"])) (e'.capture train).2 := by
  intro train probe services inventory e answered c e' hist
  have hcourse : e.Reaches hist e' := by
    have hanswered : e.Reaches [.asked train 5 "step 1"] answered :=
      Reaches.refl.tail (.answer train "step 1")
    have hfits : c.breaksOff = false := by decide +kernel
    exact (hanswered.quiet (.start rfl)).tail (.finish rfl hfits)
  have hshows : e.shows train = true := by decide +kernel
  have hmeets : ∀ c, Filing.scanned c ∈ hist → c.Meets train := by
    intro c' hc'
    have hsame : c' = c := by simpa [hist] using hc'
    subst hsame
    refine ⟨by decide +kernel, Scan.visit probe { captureLines := some 5 } 5 "n1", ?_, ?_, ?_⟩
    · exact List.mem_singleton_self _
    · rfl
    · exact ⟨[⟨"train", none, false⟩], rfl, by decide, by decide⟩
  have htakes : (Filing.scanned c).Takes train 8 "step 2" := by
    refine ⟨⟨"n1", .capture "train" 5, 6, 8⟩, by decide +kernel, rfl, rfl, 5, rfl, rfl⟩
  obtain ⟨-, -, hlast, -, hcapture⟩ := shown_output_is_last_filed hcourse rfl rfl hshows hmeets
  obtain ⟨houtput, hcame, -⟩ :=
    hlast [.asked train 5 "step 1"] (.scanned c) [] 8 "step 2" rfl htakes (by simp)
  have hidle : e'.cycle.isNone := by decide +kernel
  have hready : e'.Ready := by
    refine ⟨Or.inl (by decide +kernel), fun c hc => ?_⟩
    rw [Option.mem_def.1 hc] at hidle
    cases hidle
  have hanswer : (e'.answerNow train).1.toOption = some "step 2"
      ∧ e'.time + (e'.answerNow train).2 = 10 := by decide +kernel
  have hok : (e'.answerNow train).1 = .ok "step 2" := by
    generalize (e'.answerNow train).1 = result at hanswer
    cases result with
    | error fault => cases hanswer.1
    | ok text => rw [Option.some.inj hanswer.1]
  have hnext := hcapture hready "step 2" hok
  rw [hanswer.2] at hnext
  refine ⟨hcourse, rfl, hshows, hmeets, houtput, hcame.2 fun c' _ moment came hasked => ?_, hnext⟩
  cases List.mem_singleton.1 hasked
  decide

/-- The first cycle is over at 50, and the loop waits when the user asks for another one at 60.  It
takes an output at 60 and is under way until 110.  The output that the user asks for at 70 is shown,
until the cycle is over: then the older one is shown again. -/
theorem older_output_shown_again :
    let train : Identity := ⟨"n1", "train"⟩
    let slow : Identity := ⟨"n1", "slow"⟩
    let services : Services :=
      { resolution := ⟨0, .ok [⟨"n1", none⟩]⟩
        probe :=
          { list := fun _ _ => ⟨some 0, .ok [⟨"train", none, false⟩, ⟨"slow", none, false⟩]⟩
            capture := fun start id _ =>
              if id = slow then ⟨some 50, .ok ""⟩
              else ⟨some 0, .ok (if start < 70 then "step 1" else "step 2")⟩ }
        act := fun _ => ⟨0, .ok ()⟩ }
    let options : Options :=
      { refreshInterval := .ofSeconds 86400
        scan := { deadline := .ofSeconds 1, captureLines := some 5 } }
    ∃ e, Engine.start options services Memory.gateway {} 0 ⟨0, 0⟩ = .ok e
      ∧ let waiting := e.runTo 60
        let before := waiting.force.2.runTo 70
        let answered := (before.capture train).2
        let last := answered.runTo 170
        waiting.refresh.phase = .waiting false ∧ waiting.force.1 = .scheduled
        ∧ before.outputOf train = some "step 1"
        ∧ (before.capture train).1.toOption = some "step 2"
        ∧ answered.outputOf train = some "step 2" ∧ answered.time = 70
        ∧ last.outputOf train = some "step 1" ∧ last.cycle.isNone
        ∧ before.shows train ∧ last.shows train
        ∧ (last.calls.filter (·.session? = some "train")).map (·.stop) = [0, 70, 60] := by
  intro train slow services options
  refine ⟨_, if_neg (by decide +kernel), ?_⟩
  decide +kernel

end Engine

end Roster
