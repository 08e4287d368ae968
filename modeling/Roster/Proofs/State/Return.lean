import Roster.Proofs.State.Files
import Roster.Proofs.State.Text

/-!
# What is saved comes back

A save that succeeds leaves in each file what was written to it, since neither file is in the way
of the other (`reads_of_save`).  What is read there is what was saved, if it is storable
(`load_of_reads`), and what a load brings back is always storable (`load_storable`).  Both together
are `save_returns`: what is saved comes back, and so does what a load has brought back.
-/

namespace Roster.StateFiles

open Disk (Fate)
open StateText

variable {s s' : StateFiles} {noteFates captureFates : List Fate} {saved : Saved}

/-- Both files are written by a save that succeeds. -/
theorem reads_of_save (h : s.Unrelated)
    (hsave : saveWith noteFates captureFates saved s = (.ok (), s')) :
    s'.disk.read s'.notesPath = .ok (writeNotes saved.notes)
      ∧ s'.disk.read s'.capturesPath = .ok (writeCaptures saved.captures) := by
  unfold saveWith at hsave
  simp only at hsave
  rcases saveFile_cases noteFates s s.notesPath (writeNotes saved.notes) with
    ⟨⟨fault, hfirst⟩, -⟩ | ⟨hfirst, hkeeps, -, hnotes⟩
  · rw [hfirst] at hsave
    cases hsave
  generalize (saveFile noteFates s s.notesPath (writeNotes saved.notes)).2 = s₁
    at hkeeps hnotes hsave
  rcases saveFile_cases captureFates s₁ s₁.capturesPath (writeCaptures saved.captures) with
    ⟨⟨fault, hsecond⟩, -⟩ | ⟨hsecond, hkeeps', -, hcaptures⟩
  · rw [hfirst, hsecond] at hsave
    cases hsave
  rw [hfirst] at hsave
  have hs' := (Prod.mk.inj hsave).2
  rw [hs'] at hkeeps' hcaptures
  rw [hkeeps'.notesPath, hkeeps'.capturesPath, hkeeps.notesPath]
  refine ⟨hkeeps'.disk.read ?_ hnotes, hcaptures⟩
  -- The outputs are written at places of their own.
  have hplace := h (s.disk.place s.notesPath) (List.mem_cons_self ..)
  rw [hkeeps.disk.place, hkeeps.disk.place, hkeeps.disk.place, hkeeps.capturesPath]
  simp only [placesOf, List.mem_cons, List.not_mem_nil, or_false, not_or] at hplace ⊢
  exact ⟨hplace.2.1, hplace.1⟩

/-- What was written is loaded as it was saved, without warnings. -/
theorem load_of_reads (h : saved.Storable)
    (hnotes : s.disk.read s.notesPath = .ok (writeNotes saved.notes))
    (hcaptures : s.disk.read s.capturesPath = .ok (writeCaptures saved.captures)) :
    s.load.1 = { saved with warnings := [] } := by
  have hfirst : loadFile (readTable Json.readString) s s.notesPath
      = (byKey saved.notes, [], s.unlock s.notesPath) :=
    loadFile_of_read hnotes (isBlankText_writeObject _ _) (readTable_writeNotes saved.notes)
  have hsecond : loadFile (readTable captured) (s.unlock s.notesPath) s.capturesPath
      = (byKey saved.captures, [], (s.unlock s.notesPath).unlock s.capturesPath) :=
    loadFile_of_read hcaptures (isBlankText_writeObject _ _)
      (readTable_writeCaptures fun id c hget => (h.captures id c hget).2)
  unfold load
  rw [hfirst]
  simp only [notesOf_byKey h.notes]
  rw [show (s.unlock s.notesPath).capturesPath = s.capturesPath from rfl, hsecond]
  simp only [capturesOf_byKey h.captures, List.append_nil]

/-- What a load brings back can be kept in files, whatever the files hold. -/
theorem load_storable (s : StateFiles) : s.load.1.toSaved.Storable := by
  refine ⟨?_, ?_⟩
  · rw [s.load_parts.1]
    exact notesOf_storable _
  · rw [s.load_parts.2.1]
    refine capturesOf_storable fun k c hget => ?_
    rcases (loadFile_spec (readTable captured) s.notesLoaded s.notesLoaded.capturesPath).1 with
      hempty | ⟨text, hread⟩
    · rw [hempty] at hget
      cases hget
    · exact valid_of_readTable hread k c hget

/-- What is saved comes back, and so does what a load has brought back: a save of storable notes
and outputs that succeeds on unrelated files lets every later load, whatever paths it finds locked,
bring back just these, and what a load brings back is storable. -/
theorem save_returns (s : StateFiles) :
    (∀ noteFates captureFates saved s', s.Unrelated → saved.Storable →
        saveWith noteFates captureFates saved s = (.ok (), s') →
        ∀ locked, { s' with locked }.load.1 = { saved with warnings := [] })
      ∧ s.load.1.toSaved.Storable
      ∧ ∀ noteFates captureFates s', s.Unrelated →
          saveWith noteFates captureFates s.load.1.toSaved s.load.2 = (.ok (), s') →
          ∀ locked, { s' with locked }.load.1 = { s.load.1 with warnings := [] } := by
  have hreturns : ∀ (s : StateFiles) noteFates captureFates saved s', s.Unrelated →
      saved.Storable → saveWith noteFates captureFates saved s = (.ok (), s') →
      ∀ locked, { s' with locked }.load.1 = { saved with warnings := [] } := by
    intro s noteFates captureFates saved s' hun hstorable hsave locked
    obtain ⟨hnotes, hcaptures⟩ := reads_of_save hun hsave
    exact load_of_reads hstorable hnotes hcaptures
  exact ⟨hreturns s, load_storable s, fun noteFates captureFates s' hun hsave =>
    hreturns s.load.2 noteFates captureFates _ s' ((load_keeps s).unrelated hun) (load_storable s)
      hsave⟩

theorem save_eq_of_isOk (h : (saveWith noteFates captureFates saved s).1.isOk) :
    ∃ s', saveWith noteFates captureFates saved s = (.ok (), s') := by
  cases hresult : saveWith noteFates captureFates saved s with
  | mk result s' =>
      rw [hresult] at h
      cases result with
      | error fault => cases h
      | ok => exact ⟨s', rfl⟩

/-- A name with a colon, a note with a quote, an output that is empty and a leap second: all of it
comes back from files in a directory that the save makes. -/
theorem save_returns_in_new_directory :
    let s : StateFiles :=
      { disk := {}, notesPath := "state/notes.json", capturesPath := "state/snaps.json" }
    let saved : Saved :=
      { notes := .ofList [(⟨"n1", "a:b"⟩, "say \"hi\"\n\\")]
        captures := .ofList [(⟨"n1", "é"⟩, ⟨"", ⟨1483228799, 1500000000⟩⟩)] }
    s.Unrelated ∧ saved.Storable
      ∧ (∃ s', saveWith [] [] saved s = (.ok (), s')
        ∧ { s' with locked := [] }.load.1 = { saved with warnings := [] })
      ∧ ∃ s', saveWith [] [] s.load.1.toSaved s.load.2 = (.ok (), s')
        ∧ { s' with locked := [] }.load.1 = { s.load.1 with warnings := [] } := by
  intro s saved
  have hun : s.Unrelated := by decide +kernel
  have hstorable : saved.Storable := by
    refine ⟨fun id note hget => ?_, fun id c hget => ?_⟩
    · cases List.mem_singleton.1 (Table.mem_of_get?_ofList hget)
      exact ⟨Identity.plain_iff.2 (by decide +kernel), by decide⟩
    · cases List.mem_singleton.1 (Table.mem_of_get?_ofList hget)
      exact ⟨Identity.plain_iff.2 (by decide +kernel), by decide, by decide, by decide⟩
  obtain ⟨s₁, hsave⟩ := save_eq_of_isOk (show (saveWith [] [] saved s).1.isOk by decide +kernel)
  obtain ⟨s₂, hagain⟩ := save_eq_of_isOk
    (show (saveWith [] [] s.load.1.toSaved s.load.2).1.isOk by decide +kernel)
  exact ⟨hun, hstorable, ⟨s₁, hsave, (save_returns s).1 [] [] saved s₁ hun hstorable hsave []⟩,
    s₂, hagain, (save_returns s).2.2 [] [] s₂ hun hagain []⟩

end Roster.StateFiles
