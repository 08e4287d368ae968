import Mathlib.Data.List.Infix
import Roster.Proofs.Text.Sigma
import Roster.View

/-!
# What a filter finds

A query is trimmed and made small, and so is each text it is looked for in, as a whole.  The records
kept are those with a text that then holds the query, in the order of the view (`filter_eq`).

Whether this finds the texts that hold the query as it was typed is a matter of its sigmas.  If each
of them is settled by the query alone (`Text.Steady`), then every text that holds the query holds it
in small letters too.  If not, a text is missed; and as the query is typed on, that text comes back
(`filter_finds_iff_steady`).
-/

namespace Roster

/-- The texts of a record that are searched. -/
def Record.texts (r : Record) : List String :=
  r.identity.node :: r.identity.name :: r.note.toList

/-- The one text is a contiguous part of the other. -/
def Text.IsPart (part whole : String) : Prop := part.toList <:+: whole.toList

instance (part whole : String) : Decidable (Text.IsPart part whole) :=
  inferInstanceAs (Decidable (part.toList <:+: whole.toList))

namespace View

open Text

theorem matchesNeedle_iff {needle : String} {r : Record} :
    matchesNeedle needle r = true ↔ ∃ text ∈ r.texts, IsPart needle (lower text) := by
  have hholds (text : String) : holds needle text = true ↔ IsPart needle (lower text) :=
    occursIn_iff
  rw [matchesNeedle, Record.texts]
  cases r.note <;> simp [hholds, or_assoc]

/-- An empty query needs no case of its own: every text holds it. -/
theorem filter_eq (v : View) (query : String) :
    v.filter query = v.records.filter (matchesNeedle (needle query)) := by
  rw [filter]
  split
  · rename_i hempty
    refine (List.filter_eq_self.2 fun r _ => matchesNeedle_iff.2 ?_).symm
    exact ⟨r.identity.node, List.mem_cons_self, by rw [hempty]; exact List.nil_infix⟩
  · rfl

theorem filter_trim (v : View) (query : String) : v.filter (trim query) = v.filter query := by
  rw [filter, filter, needle, needle, trim_trim]

theorem mem_filter_iff {v : View} {query : String} {r : Record} :
    r ∈ v.filter query ↔ r ∈ v.records ∧ ∃ text ∈ r.texts, IsPart (needle query) (lower text) := by
  rw [filter_eq, List.mem_filter, matchesNeedle_iff]

/-- The small form of a query is in that of a text that holds it, if its sigmas are settled. -/
theorem isPart_needle {query text : String} (h : Steady query.toList) (hpart : IsPart query text) :
    IsPart (needle query) (lower text) := by
  simpa [IsPart, needle, lower, trim] using h.lower_infix hpart

/-- If they are not, then a text that holds the query and has no blanks around it misses it. -/
theorem exists_not_isPart_needle {query : String} (h : ¬ Steady query.toList) :
    ∃ text, IsPart query text ∧ trim text = text ∧ ¬ IsPart (needle query) (lower text) := by
  obtain ⟨whole, hpart, htrim, hnot⟩ := exists_not_lower_infix h
  refine ⟨String.ofList whole, by simpa [IsPart] using hpart, by simp [trim, htrim], ?_⟩
  simpa [IsPart, needle, lower, trim] using hnot

/-- A view of one session that bears the text as its name and its node's. -/
def bearing (text : String) : View := { records := [{ identity := ⟨text, text⟩ }] }

theorem mem_filter_bearing_iff {text query : String} :
    ({ identity := ⟨text, text⟩ } : Record) ∈ (bearing text).filter query ↔
      IsPart (needle query) (lower text) := by
  simp [mem_filter_iff, bearing, Record.texts]

/-- A filter keeps the records one of whose texts holds the query, trimmed and in small letters; and
it keeps whatever holds the query as typed, and loses records only as the query is typed on, exactly
if the sigmas of the query are settled by the query alone. -/
theorem filter_finds_iff_steady (query : String) :
    (∀ v : View, v.filter query =
      v.records.filter fun r => ∃ text ∈ r.texts, IsPart (lower (trim query)) (lower text)) ∧
    ((∀ v : View, ∀ r ∈ v.records, (∃ text ∈ r.texts, IsPart query text) → r ∈ v.filter query) ↔
      Steady query.toList) ∧
    ((∀ (v : View) (longer : String), IsPart query longer → trim longer = longer →
        (v.filter longer).Sublist (v.filter query)) ↔
      Steady query.toList) := by
  refine ⟨fun v => ?_, ⟨fun h => ?_, fun h v r hr hpart => ?_⟩, ⟨fun h => ?_, fun h => ?_⟩⟩
  · rw [filter_eq]
    exact List.filter_congr fun r _ =>
      Bool.eq_iff_iff.2 (matchesNeedle_iff.trans decide_eq_true_iff.symm)
  · by_contra hopen
    obtain ⟨text, hpart, -, hnot⟩ := exists_not_isPart_needle hopen
    exact hnot (mem_filter_bearing_iff.1
      (h (bearing text) _ List.mem_cons_self ⟨text, List.mem_cons_self, hpart⟩))
  · obtain ⟨text, htext, hpart⟩ := hpart
    exact mem_filter_iff.2 ⟨hr, text, htext, isPart_needle h hpart⟩
  · by_contra hopen
    obtain ⟨text, hpart, htrim, hnot⟩ := exists_not_isPart_needle hopen
    have hfound : ({ identity := ⟨text, text⟩ } : Record) ∈ (bearing text).filter text :=
      mem_filter_bearing_iff.2 (by rw [needle, htrim]; exact List.infix_rfl)
    exact hnot (mem_filter_bearing_iff.1 ((h (bearing text) text hpart htrim).subset hfound))
  · intro v longer hpart htrim
    rw [filter_eq, filter_eq]
    refine List.monotone_filter_right _ fun r hr => ?_
    obtain ⟨text, htext, hlonger⟩ := matchesNeedle_iff.1 hr
    rw [needle, htrim] at hlonger
    exact matchesNeedle_iff.2 ⟨text, htext, (isPart_needle h hpart).trans hlonger⟩

/-- The query typed halfway through a name misses the name, and finds it once it is typed in full. -/
theorem filter_misses_part :
    ¬ ((∀ (v : View) (query : String), ∀ r ∈ v.records,
          (∃ text ∈ r.texts, IsPart query text) → r ∈ v.filter query) ∨
        ∀ (v : View) (query longer : String), IsPart query longer → trim longer = longer →
          (v.filter longer).Sublist (v.filter query)) := by
  have hfound : (bearing "ΑΣΑ").filter "ΑΣΑ" = (bearing "ΑΣΑ").records := by decide +kernel
  have hmissed : (bearing "ΑΣΑ").filter "ΑΣ" = [] := by decide +kernel
  have hpart : IsPart "ΑΣ" "ΑΣΑ" := by decide +kernel
  rintro (h | h)
  · have hmem := h (bearing "ΑΣΑ") "ΑΣ" _ List.mem_cons_self ⟨"ΑΣΑ", List.mem_cons_self, hpart⟩
    rw [hmissed] at hmem
    exact List.not_mem_nil hmem
  · have hsub := h (bearing "ΑΣΑ") "ΑΣ" "ΑΣΑ" hpart (by decide +kernel)
    rw [hfound, hmissed] at hsub
    exact absurd hsub.length_le (by decide)

end View

end Roster
