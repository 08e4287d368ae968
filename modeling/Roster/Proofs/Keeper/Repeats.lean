import Roster.Proofs.Keeper.Merging
import Roster.Session.Listing

/-!
# Listings that repeat a name

Nothing keeps a node from listing a name twice, and a listing is read line by line.  A merge takes
the last session of the name.  But it hands out the note and the output of before at the first one,
so they are lost with it (`repeated_listing_loses_note`).

*What should come out* is what comes out of the listing with the last session of each name alone
(`Findings.lastOfEach`).

*What does come out* is the same but for names that are repeated (`mergeAt_lastOfEach`), and there
the same but for the note and the output of before (`mergeAt_of_repeats`).  So a merge comes out
right just if there is nothing to lose (`merge_of_repeats`).
-/

namespace Roster

/-- The last session of each name, in the order of the listing. -/
def lastOfEach : List Session → List Session
  | [] => []
  | s :: rest =>
      if rest.any fun t => t.name = s.name then lastOfEach rest else s :: lastOfEach rest

/-- The findings with the last session of each name alone. -/
def Findings.lastOfEach (f : Findings) : Findings :=
  { f with
    probed := f.probed.mapValues fun _ n => { n with sessions := Roster.lastOfEach n.sessions } }

/-- The scan lists the name of the session more than once. -/
def Findings.Repeats (f : Findings) (id : Identity) : Prop :=
  ∃ n s t, f.probed.get? id.node = some n ∧ [s, t].Sublist n.sessions
    ∧ s.name = id.name ∧ t.name = id.name

/-- Of the sessions of one name the last one is left. -/
theorem filter_lastOfEach (l : List Session) (name : String) :
    ((lastOfEach l).filter fun s => s.name = name) =
      (l.filter fun s => s.name = name).getLast?.toList := by
  induction l with
  | nil => rfl
  | cons s rest ih =>
      rw [lastOfEach]
      split
      next hlater =>
        obtain ⟨t, ht, hname⟩ := List.any_eq_true.1 hlater
        rw [ih, List.filter_cons]
        split
        next hs =>
          -- one of the rest has the name too, so `s` is not the last one
          have hmem : t ∈ rest.filter fun s => s.name = name := by
            simp_all
          obtain ⟨u, more, hmore⟩ := List.exists_cons_of_ne_nil (List.ne_nil_of_mem hmem)
          rw [hmore, List.getLast?_cons_cons]
        next => rfl
      next hlast =>
        simp only [List.any_eq_true, decide_eq_true_eq, not_exists, not_and] at hlast
        rw [List.filter_cons, List.filter_cons, ih]
        split
        next hs =>
          have hnone : (rest.filter fun s => s.name = name) = [] := by
            rw [List.filter_eq_nil_iff]
            intro t ht hname
            exact hlast t ht (by simp_all)
          rw [hnone]
          rfl
        next => rfl

namespace Inventory

variable {f : Findings} {id : Identity} {prior : Option Entry}

theorem listedAt_lastOfEach (f : Findings) (id : Identity) :
    listedAt f.lastOfEach id = (listedAt f id).getLast?.toList := by
  rw [listedAt, listedAt, Findings.lastOfEach, Table.get?_mapValues]
  cases f.probed.get? id.node with
  | none => rfl
  | some n => exact filter_lastOfEach n.sessions id.name

theorem outputAt_lastOfEach (f : Findings) (id : Identity) :
    outputAt f.lastOfEach id = outputAt f id := by
  rw [outputAt, outputAt, Findings.lastOfEach, Table.get?_mapValues]
  cases f.probed.get? id.node <;> rfl

theorem listedAt_of_probed {n : NodeFindings} (hn : f.probed.get? id.node = some n) :
    listedAt f id = n.sessions.filter fun s => s.name = id.name := by
  rw [listedAt, hn]
  rfl

/-- What a scan lists under an identity has two sessions or more if it repeats the name. -/
theorem repeats_iff : f.Repeats id ↔ ∃ s t rest, listedAt f id = s :: t :: rest := by
  constructor
  · rintro ⟨n, s, t, hn, hsub, hs, ht⟩
    have hpair : [s, t].Sublist (listedAt f id) := by
      have hfiltered := hsub.filter fun s => s.name = id.name
      simpa [listedAt_of_probed hn, hs, ht] using hfiltered
    rcases hl : listedAt f id with _ | ⟨u, _ | ⟨v, rest⟩⟩
    · simp [hl] at hpair
    · simp [hl] at hpair
    · exact ⟨u, v, rest, rfl⟩
  · rintro ⟨s, t, rest, hl⟩
    have hmem : ∀ u ∈ [s, t], f.Lists id u := by
      intro u hu
      rw [← mem_listedAt, hl]
      exact List.mem_append_left rest hu
    obtain ⟨n, hn, -, hs⟩ := hmem s (by simp)
    obtain ⟨-, -, -, ht⟩ := hmem t (by simp)
    refine ⟨n, s, t, hn, ?_, hs, ht⟩
    have hsub : (s :: t :: rest).Sublist n.sessions := by
      rw [← hl, listedAt_of_probed hn]
      exact List.filter_sublist
    exact (List.sublist_append_left [s, t] rest).trans hsub

/-- Where no name is repeated, there is nothing to leave out. -/
theorem mergeAt_lastOfEach (h : ¬ f.Repeats id) (prior : Option Entry) :
    mergeAt f.lastOfEach id prior = mergeAt f id prior := by
  have hlisted : listedAt f.lastOfEach id = listedAt f id := by
    rw [listedAt_lastOfEach]
    rcases hl : listedAt f id with _ | ⟨s, _ | ⟨t, rest⟩⟩
    · rfl
    · rfl
    · exact absurd (repeats_iff.2 ⟨s, t, rest, hl⟩) h
  rw [mergeAt, mergeAt, sessionAt, sessionAt, hlisted, outputAt_lastOfEach]
  rfl

/-- Where a name is repeated, the last session of that name is taken, with nothing of before. -/
theorem mergeAt_of_repeats (h : f.Repeats id) (prior : Option Entry) :
    ∃ s, mergeAt f.lastOfEach id prior =
        some (withOutput f.completedAt (outputAt f id) (seen f.completedAt s prior))
      ∧ mergeAt f id prior =
        some (withOutput f.completedAt (outputAt f id) (seen f.completedAt s none)) := by
  obtain ⟨s, t, rest, hl⟩ := repeats_iff.1 h
  refine ⟨(t :: rest).getLast (List.cons_ne_nil t rest), ?_, ?_⟩
  · rw [mergeAt, sessionAt, listedAt_lastOfEach, hl, List.getLast?_cons_cons,
      List.getLast?_eq_some_getLast (List.cons_ne_nil t rest), outputAt_lastOfEach]
    rfl
  · rw [mergeAt, sessionAt, hl]
    rfl

/-- Nothing is lost of before if there was no note and no output that is not replaced. -/
theorem seen_none_eq_iff {time : Instant} {output : Option String} {s : Session} :
    withOutput time output (seen time s none) = withOutput time output (seen time s prior) ↔
      ∀ e, prior = some e → e.note = none ∧ (e.captured = none ∨ ∃ text, output = some text) := by
  cases prior with
  | none => simp
  | some e => cases output <;> simp [withOutput, seen, eq_comm]

end Inventory

namespace Keeper

open Inventory

variable {σ : Type}

/-- A merge compared with the merge of the last session of each name alone.

Under a name that is not repeated both file the same.  Under one that is, the merge files what it
should but for the note and the output of before, while they should have stayed with every session
that is listed, unless the scan took a new output.

So both file the same everywhere if and only if no session whose name is repeated had a note, or an
output for which the scan took no new one. -/
theorem merge_of_repeats (g : Gateway σ) (now : Instant) (k : Keeper σ) (f : Findings) :
    let before := k.inventory.entries
    let merged := (k.merge g now f).inventory.entries
    let single := (k.merge g now f.lastOfEach).inventory.entries
    (∀ id, ¬ f.Repeats id → merged.get? id = single.get? id)
    ∧ (∀ id, f.Repeats id → ∃ e, single.get? id = some e ∧ e.status = .active
        ∧ merged.get? id = some
          { e with
            note := none
            captured := (outputAt f id).map fun text => ⟨text, f.completedAt⟩ })
    ∧ (∀ id s e, f.Lists id s → before.get? id = some e →
        ∃ e', single.get? id = some e' ∧ e'.note = e.note
          ∧ ((∀ text, ¬ f.Took id text) → e'.captured = e.captured))
    ∧ (merged = single ↔ ∀ id e, f.Repeats id → before.get? id = some e →
        e.note = none ∧ (e.captured = none ∨ ∃ text, f.Took id text)) := by
  intro before merged single
  have hmerged : ∀ id, merged.get? id = mergeAt f id (before.get? id) :=
    get?_merge g now k f
  have hsingle : ∀ id, single.get? id = mergeAt f.lastOfEach id (before.get? id) :=
    get?_merge g now k f.lastOfEach
  have hsame : ∀ id, ¬ f.Repeats id → merged.get? id = single.get? id := by
    intro id h
    rw [hmerged, hsingle, mergeAt_lastOfEach h]
  refine ⟨hsame, fun id h => ?_, fun id s e hlists he => ?_, fun heq id e h he => ?_, fun h => ?_⟩
  · obtain ⟨s, hs, hs'⟩ := mergeAt_of_repeats h (before.get? id)
    refine ⟨_, (hsingle id).trans hs, rfl, (hmerged id).trans (hs'.trans ?_)⟩
    cases outputAt f id <;> rfl
  · obtain ⟨s, hl⟩ : ∃ s, listedAt f.lastOfEach id = [s] := by
      rw [listedAt_lastOfEach,
        List.getLast?_eq_some_getLast (List.ne_nil_of_mem (mem_listedAt.2 hlists))]
      exact ⟨_, rfl⟩
    refine ⟨withOutput f.completedAt (outputAt f id) (seen f.completedAt s (some e)), ?_, rfl, ?_⟩
    · rw [hsingle, he, mergeAt, sessionAt, hl, outputAt_lastOfEach]
      rfl
    · intro hnone
      rw [Option.eq_none_iff_forall_ne_some.2 fun text h => hnone text (outputAt_iff_took.1 h)]
      rfl
  · obtain ⟨s, hs, hs'⟩ := mergeAt_of_repeats h (before.get? id)
    have hentry := congrArg (·.get? id) heq
    simp only [hmerged, hsingle, hs, hs', Option.some.injEq, seen_none_eq_iff,
      outputAt_iff_took] at hentry
    exact hentry e he
  · refine Table.ext_get? fun id => ?_
    by_cases hrepeats : f.Repeats id
    · obtain ⟨s, hs, hs'⟩ := mergeAt_of_repeats hrepeats (before.get? id)
      rw [hmerged, hsingle, hs, hs', Option.some.injEq, seen_none_eq_iff]
      simp only [outputAt_iff_took]
      exact fun e => h id e hrepeats
    · exact hsame id hrepeats

/-- A node that lists a name in two lines is read without a fault, and the merge of that listing
loses the note and the output of the session. -/
theorem repeated_listing_loses_note :
    let train : Identity := ⟨"n1", "train"⟩
    let listed (sessions : List Session) (outputs : List (String × String)) (t : Instant) :
        Findings :=
      ⟨[⟨"n1", none⟩], .ofList [("n1", ⟨sessions, .ofList outputs⟩)], [], t⟩
    let k := run Saved.gateway (fresh 5 {})
      [⟨.merge (listed [⟨"train", none, false⟩] [("train", "epoch 1")] ⟨1, 0⟩), ⟨1, 0⟩, none⟩,
        ⟨.setNote train "keep", ⟨1, 0⟩, none⟩]
    let twice := [⟨"train", none, false⟩, ⟨"train", none, true⟩]
    let f := listed twice [] ⟨2, 0⟩
    (k.merge Saved.gateway ⟨2, 0⟩ f).inventory.entries.get? train =
        some { attached := true, status := .active, lastSeen := some ⟨2, 0⟩ }
    ∧ (k.merge Saved.gateway ⟨2, 0⟩ f.lastOfEach).inventory.entries.get? train =
        some
          { attached := true, status := .active, lastSeen := some ⟨2, 0⟩
            note := some "keep", captured := some ⟨"epoch 1", ⟨1, 0⟩⟩ }
    ∧ (Listing.read "train||0\ntrain||1\n").toOption = some twice := by
  decide +kernel

end Keeper

end Roster
