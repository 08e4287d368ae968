import Roster.Proofs.Keeper.Incidents
import Roster.Proofs.Keeper.Sightings

/-!
# What a merge leaves

A merge walks over the listings, over what is left of before, and over the outputs.  Each walk
changes what the one before it has built.  What comes out can be told without any walk.

* *Listings.*  A session that the scan lists runs, with what the scan tells of it and with the note
  and the output of before.  One that it does not list stays as it was, but stale, if it holds user
  data.  There is nothing else (`Stands`).
* *Outputs.*  Where something stands, running or stale, an output that the scan took replaces the
  one of before.  Anywhere else it is passed over (`Remains`).

`merge_leaves` says that a merge files just what remains, and that it saves once if an output was
filed and not at all otherwise.  The scan must list no session twice on one node.
-/

namespace Roster

/-- The scan took an output of the session. -/
def Findings.Took (f : Findings) (id : Identity) (text : String) : Prop :=
  ∃ n, f.probed.get? id.node = some n ∧ n.captures.get? id.name = some text

namespace Inventory

variable {entries : Table Identity Entry} {f : Findings} {id : Identity} {e : Entry}

/-- What the listings of a scan leave under an identity. -/
inductive Stands (entries : Table Identity Entry) (f : Findings) (id : Identity) : Entry → Prop
  /-- A session that is listed runs, and keeps its note and its output. -/
  | listed (s : Session) (hlists : f.Lists id s) :
      Stands entries f id
        { createdAt := s.createdAt
          attached := s.attached
          status := .active
          lastSeen := some f.completedAt
          note := (entries.get? id).bind (·.note)
          captured := (entries.get? id).bind (·.captured) }
  /-- A session that is not listed is stale, and stays for its user data. -/
  | gone (e : Entry) (hfiled : entries.get? id = some e) (hunlisted : ∀ s, ¬ f.Lists id s)
      (hdata : e.hasUserData = true) :
      Stands entries f id { e with status := .stale, attached := false }

/-- What a scan leaves under an identity. -/
inductive Remains (entries : Table Identity Entry) (f : Findings) (id : Identity) : Entry → Prop
  /-- An output that was taken is filed. -/
  | filed (e : Entry) (text : String) (hstands : Stands entries f id e) (htook : f.Took id text) :
      Remains entries f id { e with captured := some ⟨text, f.completedAt⟩ }
  /-- Without one the output of before stays. -/
  | kept (e : Entry) (hstands : Stands entries f id e) (hnone : ∀ text, ¬ f.Took id text) :
      Remains entries f id e

/-! ## Listings -/

theorem unseen_eq_some_iff {prior : Option Entry} :
    unseen prior = some e ↔ ∃ d, prior = some d ∧ d.hasUserData = true ∧ d.retired = e := by
  rw [unseen, Option.filter_eq_some_iff, Option.map_eq_some_iff]
  constructor
  · rintro ⟨⟨d, hd, rfl⟩, hdata⟩
    exact ⟨d, hd, hdata, rfl⟩
  · rintro ⟨d, hd, hdata, rfl⟩
    exact ⟨⟨d, hd, rfl⟩, hdata⟩

/-- The listings of a scan that lists no session twice leave what stands, and nothing else. -/
theorem sessionAt_iff_stands (hf : f.ListsOnce) :
    sessionAt f id (entries.get? id) = some e ↔ Stands entries f id e := by
  rcases hf.listedAt_cases id with ⟨hl, hnone⟩ | ⟨s, hl, hs⟩
  · rw [sessionAt, hl]
    refine unseen_eq_some_iff.trans ⟨?_, fun h => ?_⟩
    · rintro ⟨d, hd, hdata, rfl⟩
      exact .gone d hd hnone hdata
    · cases h with
      | listed s hlists => exact absurd hlists (hnone s)
      | gone d hd hunlisted hdata => exact ⟨d, hd, hdata, rfl⟩
  · rw [sessionAt, hl]
    constructor
    · rintro ⟨⟩
      exact .listed s hs
    · intro h
      cases h with
      | listed t hlists =>
          -- the scan lists one session only under the identity
          rw [← mem_listedAt, hl, List.mem_singleton] at hlists
          rw [hlists]
          rfl
      | gone d hd hunlisted hdata => exact absurd hs (hunlisted s)

/-! ## Outputs -/

theorem outputAt_iff_took {text : String} : outputAt f id = some text ↔ f.Took id text :=
  Option.bind_eq_some_iff

/-- A merge of a scan that lists no session twice leaves what remains, and nothing else. -/
theorem mergeAt_iff_remains (hf : f.ListsOnce) :
    mergeAt f id (entries.get? id) = some e ↔ Remains entries f id e := by
  rw [mergeAt, Option.map_eq_some_iff]
  constructor
  · rintro ⟨d, hd, rfl⟩
    have hstands : Stands entries f id d := (sessionAt_iff_stands hf).1 hd
    cases houtput : outputAt f id with
    | none =>
        refine .kept d hstands fun text htook => ?_
        rw [outputAt_iff_took.2 htook] at houtput
        cases houtput
    | some text => exact .filed d text hstands (outputAt_iff_took.1 houtput)
  · intro h
    cases h with
    | filed d text hstands htook =>
        refine ⟨d, (sessionAt_iff_stands hf).2 hstands, ?_⟩
        rw [outputAt_iff_took.2 htook]
        rfl
    | kept e hstands hnone =>
        refine ⟨e, (sessionAt_iff_stands hf).2 hstands, ?_⟩
        rw [Option.eq_none_iff_forall_ne_some.2 fun text h => hnone text (outputAt_iff_took.1 h)]
        rfl

/-- An output is filed if one was taken where something stands. -/
theorem filesCapture_iff_stands (hf : f.ListsOnce) :
    filesCapture entries f = true ↔ ∃ id e text, Stands entries f id e ∧ f.Took id text := by
  rw [filesCapture_eq, List.any_eq_true]
  constructor
  · rintro ⟨⟨id, text⟩, hmem, hstands⟩
    obtain ⟨e, he⟩ := Option.isSome_iff_exists.1 hstands
    exact ⟨id, e, text, (sessionAt_iff_stands hf).1 he,
      outputAt_iff_took.1 (mem_capturesOf.1 hmem)⟩
  · rintro ⟨id, e, text, hstands, htook⟩
    refine ⟨(id, text), mem_capturesOf.2 (outputAt_iff_took.2 htook), ?_⟩
    exact Option.isSome_iff_exists.2 ⟨e, (sessionAt_iff_stands hf).2 hstands⟩

end Inventory

/-! ## The merge -/

namespace Keeper

open Inventory

variable {σ : Type}

theorem merge_ne_load (f : Findings) : Operation.merge f ≠ .load := nofun

/-- A merge files under each identity what it makes of the entry of before. -/
theorem get?_merge (g : Gateway σ) (now : Instant) (k : Keeper σ) (f : Findings) (id : Identity) :
    (k.merge g now f).inventory.entries.get? id = mergeAt f id (k.inventory.entries.get? id) :=
  get?_perform (merge_ne_load f) id

/-- If a scan lists no session twice on one node, then the merge files under each identity what
remains there, and nothing where nothing remains.  The view shows one record for each identity where
something remains, and the record holds just that.

The merge tries one save, of what lasts of the merged inventory, if the scan took an output where
something stands, and otherwise it leaves the gateway alone. -/
theorem merge_leaves (g : Gateway σ) (now : Instant) (k : Keeper σ) {f : Findings}
    (hf : f.ListsOnce) :
    let merged := k.merge g now f
    (∀ id e, merged.inventory.entries.get? id = some e ↔ Remains k.inventory.entries f id e)
    ∧ (∀ r : Record, r ∈ merged.view.records ↔
        Remains k.inventory.entries f r.identity r.toEntry)
    ∧ merged.view.records.Pairwise (fun r s => r.identity ≠ s.identity)
    ∧ ((∃ id e text, Stands k.inventory.entries f id e ∧ f.Took id text) →
        merged.saves = k.saves + 1
        ∧ merged.state = (g.save merged.inventory.saved k.state).2)
    ∧ ((¬ ∃ id e text, Stands k.inventory.entries f id e ∧ f.Took id text) →
        merged.saves = k.saves ∧ merged.state = k.state) := by
  intro merged
  have hentries : ∀ id e, merged.inventory.entries.get? id = some e ↔
      Remains k.inventory.entries f id e := by
    intro id e
    rw [get?_merge, mergeAt_iff_remains hf]
  have hview : merged.view = merged.inventory.view :=
    view_perform (merge_ne_load f) (by simp [Operation.refusal?])
  have hsaves : merged.saves = k.saves + if k.reachesSave (.merge f) then 1 else 0 :=
    saves_step (s := ⟨.merge f, now, none⟩) (merge_ne_load f)
  have hstate : merged.state = if k.reachesSave (.merge f) then
      (g.save merged.inventory.saved k.state).2 else k.state :=
    state_perform (merge_ne_load f)
  have hreaches : k.reachesSave (.merge f) = true ↔
      ∃ id e text, Stands k.inventory.entries f id e ∧ f.Took id text :=
    filesCapture_iff_stands hf
  refine ⟨hentries, fun r => ?_, ?_, fun h => ?_, fun h => ?_⟩
  · rw [hview, mem_view_iff, hentries]
  · rw [hview]
    exact pairwise_view_identity _
  · rw [hsaves, hstate, if_pos (hreaches.2 h), if_pos (hreaches.2 h)]
    exact ⟨rfl, rfl⟩
  · rw [hsaves, hstate, if_neg (mt hreaches.1 h), if_neg (mt hreaches.1 h)]
    exact ⟨rfl, rfl⟩

/-- Of four sessions one is still listed, one is gone and had a note, one is gone and had nothing,
and one was never known.  The scan took an output of each.  The first two have it afterwards, and
the other two are not there. -/
theorem merge_leaves_mixed :
    let train : Identity := ⟨"n1", "train"⟩
    let eval : Identity := ⟨"n1", "eval"⟩
    let before : Findings :=
      ⟨[⟨"n1", none⟩],
        .ofList [("n1",
          ⟨[⟨"train", none, false⟩, ⟨"eval", none, true⟩, ⟨"tmp", none, false⟩], .empty⟩)],
        [], ⟨1, 0⟩⟩
    let f : Findings :=
      ⟨[⟨"n1", none⟩],
        .ofList [("n1", ⟨[⟨"train", some ⟨0, 0⟩, true⟩], .ofList [("train", "epoch 2"),
          ("eval", "done"), ("tmp", "$"), ("ghost", "$")]⟩)],
        [], ⟨2, 0⟩⟩
    let k := run Saved.gateway (fresh 5 {})
      [⟨.merge before, ⟨1, 0⟩, none⟩, ⟨.setNote train "A", ⟨1, 0⟩, none⟩,
        ⟨.setNote eval "B", ⟨1, 0⟩, none⟩]
    let merged := k.merge Saved.gateway ⟨2, 0⟩ f
    f.ListsOnce
    ∧ merged.inventory.entries.get? train = some
        { createdAt := some ⟨0, 0⟩, attached := true, status := .active, lastSeen := some ⟨2, 0⟩
          note := some "A", captured := some ⟨"epoch 2", ⟨2, 0⟩⟩ }
    ∧ merged.inventory.entries.get? eval = some
        { lastSeen := some ⟨1, 0⟩, note := some "B", captured := some ⟨"done", ⟨2, 0⟩⟩ }
    ∧ merged.inventory.entries.keys = [eval, train]
    ∧ merged.saves = k.saves + 1 := by
  intro train eval before f k merged
  have hlists : f.ListsOnce := by decide +kernel
  obtain ⟨hentries, -, -, hsaved, -⟩ := merge_leaves Saved.gateway ⟨2, 0⟩ k hlists
  have hprobed : f.probed.get? "n1" = some
      ⟨[⟨"train", some ⟨0, 0⟩, true⟩], .ofList [("train", "epoch 2"), ("eval", "done"),
        ("tmp", "$"), ("ghost", "$")]⟩ := by decide +kernel
  have htrain : k.inventory.entries.get? train = some
      { status := .active, lastSeen := some ⟨1, 0⟩, note := some "A" } := by decide +kernel
  have heval : k.inventory.entries.get? eval = some
      { status := .active, attached := true, lastSeen := some ⟨1, 0⟩, note := some "B" } := by
    decide +kernel
  have hrunning : Stands k.inventory.entries f train
      { createdAt := some ⟨0, 0⟩, attached := true, status := .active, lastSeen := some ⟨2, 0⟩
        note := some "A" } := by
    have hlisted : f.Lists train ⟨"train", some ⟨0, 0⟩, true⟩ :=
      ⟨_, hprobed, List.mem_singleton_self _, rfl⟩
    have hstands : Stands k.inventory.entries f train _ := .listed _ hlisted
    rwa [htrain] at hstands
  have htook : f.Took train "epoch 2" := ⟨_, hprobed, by decide +kernel⟩
  have hgone : Stands k.inventory.entries f eval { lastSeen := some ⟨1, 0⟩, note := some "B" } := by
    refine .gone _ heval ?_ rfl
    rintro s ⟨n, hn, hs, hname⟩
    obtain rfl := Option.some.inj (hprobed.symm.trans hn)
    rw [List.mem_singleton.1 hs] at hname
    exact absurd hname (by decide)
  refine ⟨hlists, ?_, ?_, by decide +kernel, (hsaved ⟨train, _, _, hrunning, htook⟩).1⟩
  · exact (hentries train _).2 (.filed _ "epoch 2" hrunning htook)
  · exact (hentries eval _).2 (.filed _ "done" hgone ⟨_, hprobed, by decide +kernel⟩)

end Keeper

end Roster
