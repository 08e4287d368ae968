import Roster.Allocation.Queue
import Roster.Proofs.Text.Fields

/-!
# The nodes that a queue gives

What an output says is read off the text between its newlines, the *pieces*.  A piece counts if it
has exactly one bar, and it tells of a running job if what stands before the bar, without the blanks
around it, names nodes (`Tells`).  The pieces together offer the nodes of their jobs, in order and
each with the time of its job (`Offers`).

`resolve_nodes` compares the answer with that.  An output of which nothing counts is refused, and its
first line named.  Any other gives each node offered once, where it came first and with the time it
came with.  Pieces that tell of no job can be put in or left out anywhere.
-/

namespace Roster.Allocation

theorem dedup_filter (p : String → Bool) (as : List Allocation) :
    dedup (as.filter (p ·.node)) = (dedup as).filter (p ·.node) := by
  induction as with
  | nil => rfl
  | cons a as ih =>
      simp only [dedup, List.filter_cons]
      by_cases ha : p a.node
      · rw [if_pos ha, if_pos ha, dedup, ih, List.filter_comm]
      · rw [if_neg ha, if_neg ha, ih, List.filter_filter]
        refine List.filter_congr fun b _ => ?_
        -- a node that passes is not the one left out
        cases hb : p b.node
        · rfl
        · have hne : b.node ≠ a.node := fun he => ha (he ▸ hb)
          simp [hne]

/-- The nodes are those that were named, in the order in which they first were. -/
theorem map_node_dedup (as : List Allocation) :
    (dedup as).map (·.node) = (as.map (·.node)).eraseDups := by
  match as with
  | [] => rfl
  | a :: as =>
      have hlt : (as.filter fun b => b.node != a.node).length < as.length + 1 :=
        Nat.lt_succ_of_le (List.length_filter_le _ _)
      rw [dedup, ← dedup_filter (· != a.node), List.map_cons, map_node_dedup, List.map_cons,
        List.eraseDups_cons, List.filter_map]
      rfl
termination_by as.length

/-- Each allocation is the first of its node. -/
theorem find?_of_mem_dedup {a : Allocation} {as : List Allocation} (h : a ∈ dedup as) :
    as.find? (·.node == a.node) = some a := by
  induction as with
  | nil => simp [dedup] at h
  | cons b as ih =>
      rw [dedup, List.mem_cons] at h
      rcases h with rfl | h
      · simp
      · obtain ⟨hmem, hne⟩ := List.mem_filter.1 h
        rw [List.find?_cons_of_neg, ih hmem]
        · simp only [bne_iff_ne, ne_eq] at hne
          simpa using Ne.symm hne

end Roster.Allocation

namespace Roster.Queue

open Text

/-! ## What a piece tells -/

/-- The pieces of a text, from newline to newline. -/
def pieces (text : String) : List (List Char) := text.toList.splitOn '\n'

/-- The piece counts: it has exactly one bar. -/
def Counts (piece : List Char) : Prop := piece.count '|' = 1

instance (piece : List Char) : Decidable (Counts piece) :=
  inferInstanceAs (Decidable (piece.count '|' = 1))

/-- The piece tells of a running job.  Both fields are taken without the blanks around them. -/
inductive Tells : List Char → Job → Prop
  | job {nodes time : List Char} (hnodes : '|' ∉ nodes) (htime : '|' ∉ time)
      (hsome : trimChars nodes ≠ []) (hnull : trimChars nodes ≠ "(null)".toList) :
      Tells (nodes ++ '|' :: time)
        ⟨String.ofList (trimChars nodes), String.ofList (trimChars time)⟩

/-- What the pieces offer, where `expand` gives the hosts behind nodes written short. -/
inductive Offers (expand : String → List String) : List (List Char) → List Allocation → Prop
  | nil : Offers expand [] []
  /-- Nodes without a bracket or a comma are one node. -/
  | plain {piece : List Char} {nodes time : String} {ps : List (List Char)}
      {offered : List Allocation} (hjob : Tells piece ⟨nodes, time⟩)
      (hplain : '[' ∉ nodes.toList ∧ ',' ∉ nodes.toList) (hrest : Offers expand ps offered) :
      Offers expand (piece :: ps) (⟨nodes, some time⟩ :: offered)
  /-- Other nodes are as many as they expand to. -/
  | short {piece : List Char} {nodes time : String} {ps : List (List Char)}
      {offered : List Allocation} (hjob : Tells piece ⟨nodes, time⟩)
      (hshort : '[' ∈ nodes.toList ∨ ',' ∈ nodes.toList) (hrest : Offers expand ps offered) :
      Offers expand (piece :: ps)
        ((expand nodes).map (fun host => ⟨host, some time⟩) ++ offered)
  /-- A piece that tells of no job offers nothing. -/
  | idle {piece : List Char} {ps : List (List Char)} {offered : List Allocation}
      (hidle : ∀ j, ¬ Tells piece j) (hrest : Offers expand ps offered) :
      Offers expand (piece :: ps) offered

/-- The two differ only in pieces that tell of no job. -/
inductive Alike : List (List Char) → List (List Char) → Prop
  | nil : Alike [] []
  | both {piece : List Char} {ps ps' : List (List Char)} (hrest : Alike ps ps') :
      Alike (piece :: ps) (piece :: ps')
  | left {piece : List Char} {ps ps' : List (List Char)} (hidle : ∀ j, ¬ Tells piece j)
      (hrest : Alike ps ps') : Alike (piece :: ps) ps'
  | right {piece : List Char} {ps ps' : List (List Char)} (hidle : ∀ j, ¬ Tells piece j)
      (hrest : Alike ps ps') : Alike ps (piece :: ps')

/-! ## Pieces are read as they tell -/

theorem not_isBlank_bar : isBlank '|' = false := by decide

theorem count_bar_of_blank {cs : List Char} (h : ∀ c ∈ cs, isBlank c = true) :
    cs.count '|' = 0 :=
  List.count_eq_zero.2 fun hbar => by
    have := h _ hbar
    rw [not_isBlank_bar] at this
    cases this

theorem counts_trimChars {piece : List Char} : Counts (trimChars piece) ↔ Counts piece := by
  obtain ⟨before, after, hbefore, hafter, heq⟩ := padded_trimChars piece
  have hcount := congrArg (List.count '|') heq
  rw [List.count_append, List.count_append, count_bar_of_blank hbefore,
    count_bar_of_blank hafter] at hcount
  rw [Counts, Counts, hcount]
  simp

theorem counts_append_bar {before after : List Char} :
    Counts (before ++ '|' :: after) ↔ '|' ∉ before ∧ '|' ∉ after := by
  rw [Counts, List.count_append, List.count_cons_self, ← List.count_eq_zero,
    ← List.count_eq_zero]
  omega

theorem Tells.counts {piece : List Char} {j : Job} (h : Tells piece j) : Counts piece := by
  cases h with
  | job hnodes htime _ _ => exact counts_append_bar.2 ⟨hnodes, htime⟩

theorem not_counts_of_blank {piece : List Char} (h : piece.all isBlank) : ¬ Counts piece := by
  rw [Counts, count_bar_of_blank (List.all_eq_true.1 h)]
  exact nofun

theorem row_bar {nodes time : List Char} (hnodes : '|' ∉ nodes) (htime : '|' ∉ time) :
    row (trimChars (nodes ++ '|' :: time)) =
      if trimChars nodes = [] ∨ trimChars nodes = "(null)".toList then .waiting
      else .job ⟨String.ofList (trimChars nodes), String.ofList (trimChars time)⟩ := by
  have htrim := trimChars_append_cons not_isBlank_bar nodes time
  have hcounts : Counts (dropBlanks nodes ++ '|' :: dropBlanksEnd time) := by
    rw [← htrim]
    exact counts_trimChars.2 (counts_append_bar.2 ⟨hnodes, htime⟩)
  obtain ⟨hbefore, hafter⟩ := counts_append_bar.1 hcounts
  rw [row, htrim, cut_append hbefore]
  simp only [if_neg hafter, trimChars_dropBlanks, trimChars_dropBlanksEnd]

theorem row_of_not_counts {piece : List Char} (h : ¬ Counts piece) :
    row (trimChars piece) = .malformed (String.ofList (trimChars piece)) := by
  unfold row
  split
  next nodes time hcut =>
    obtain ⟨heq, hnodes⟩ := cut_eq_some hcut
    have htime : '|' ∈ time := by
      by_contra htime
      refine h (counts_trimChars.1 ?_)
      rw [heq]
      exact counts_append_bar.2 ⟨hnodes, htime⟩
    rw [if_pos htime]
  next => rfl

/-- A piece that counts is a bar between two fields. -/
theorem Counts.eq_append {piece : List Char} (h : Counts piece) :
    ∃ nodes time, '|' ∉ nodes ∧ '|' ∉ time ∧ piece = nodes ++ '|' :: time := by
  have hmem : '|' ∈ piece := List.count_pos_iff.1 (h ▸ Nat.one_pos)
  obtain ⟨nodes, time, rfl⟩ := List.append_of_mem hmem
  obtain ⟨hnodes, htime⟩ := counts_append_bar.1 h
  exact ⟨nodes, time, hnodes, htime, rfl⟩

theorem malformed?_isSome_row {piece : List Char} :
    (row (trimChars piece)).malformed?.isSome = true ↔ ¬ Counts piece := by
  constructor
  · intro hrow hcounts
    obtain ⟨nodes, time, hnodes, htime, rfl⟩ := hcounts.eq_append
    rw [row_bar hnodes htime] at hrow
    split at hrow
    all_goals cases hrow
  · intro h
    rw [row_of_not_counts h]
    rfl

/-- The job that the piece is read as. -/
def job? (piece : List Char) : Option Job := (row (trimChars piece)).job?

theorem job?_eq_some_iff {piece : List Char} {j : Job} : job? piece = some j ↔ Tells piece j := by
  constructor
  · intro h
    by_cases hcounts : Counts piece
    · obtain ⟨nodes, time, hnodes, htime, rfl⟩ := hcounts.eq_append
      rw [job?, row_bar hnodes htime] at h
      split at h
      next => cases h
      next hruns =>
        obtain ⟨hsome, hnull⟩ := not_or.1 hruns
        cases h
        exact .job hnodes htime hsome hnull
    · rw [job?, row_of_not_counts hcounts] at h
      cases h
  · intro h
    cases h with
    | job hnodes htime hsome hnull =>
        rw [job?, row_bar hnodes htime, if_neg (not_or.2 ⟨hsome, hnull⟩)]
        rfl

theorem job?_eq_none_iff {piece : List Char} : job? piece = none ↔ ∀ j, ¬ Tells piece j := by
  simp only [Option.eq_none_iff_forall_ne_some, ne_eq, job?_eq_some_iff]

/-! ## The jobs of an output -/

theorem isEmpty_trimChars (cs : List Char) : (trimChars cs).isEmpty = cs.all isBlank := by
  rw [Bool.eq_iff_iff, List.isEmpty_iff, trimChars_eq_nil_iff]

/-- The lines of a text, blank ones apart and without the blanks around them. -/
theorem trimmed_pieces (text : String) :
    ((lines text.toList).map trimChars).filter (fun line => !line.isEmpty) =
      ((pieces text).filter fun p => !p.all isBlank).map trimChars := by
  rw [trimmed_lines, pieces, List.filter_map]
  simp only [Function.comp_def, isEmpty_trimChars]

theorem rows_eq (out : String) :
    rows out = ((pieces out).filter fun p => !p.all isBlank).map fun p => row (trimChars p) := by
  rw [rows, trimmed_pieces, List.map_map]
  rfl

theorem filterMap_job?_rows (out : String) :
    (rows out).filterMap Row.job? = (pieces out).filterMap job? := by
  rw [rows_eq, List.filterMap_map, List.filterMap_filter]
  refine List.filterMap_congr fun p _ => ?_
  -- nothing but blanks tells of no job
  split
  next => rfl
  next hblank =>
    refine (job?_eq_none_iff.2 fun j hj => not_counts_of_blank ?_ hj.counts).symm
    simpa using hblank

theorem mem_rows {r : Row} {out : String} :
    r ∈ rows out ↔ ∃ p ∈ pieces out, p.all isBlank = false ∧ row (trimChars p) = r := by
  simp [rows_eq, and_assoc]

theorem all_malformed_iff {out : String} :
    ((rows out).all fun r => r.malformed?.isSome) = true ↔ ∀ p ∈ pieces out, ¬ Counts p := by
  rw [List.all_eq_true]
  constructor
  · intro h p hp hcounts
    have hblank := Bool.eq_false_iff.2 fun hblank => not_counts_of_blank hblank hcounts
    exact malformed?_isSome_row.1 (h _ (mem_rows.2 ⟨p, hp, hblank, rfl⟩)) hcounts
  · intro h r hr
    obtain ⟨p, hp, -, rfl⟩ := mem_rows.1 hr
    exact malformed?_isSome_row.2 (h p hp)

theorem jobs_of_counts {out : String} (h : ∃ p ∈ pieces out, Counts p) :
    jobs out = .ok ((pieces out).filterMap job?) := by
  rw [jobs, if_neg, filterMap_job?_rows]
  rw [all_malformed_iff]
  push Not
  exact h

/-- An output of which nothing counts is refused, for the first line that is not blank. -/
theorem jobs_of_not_counts {out : String} {piece : List Char}
    (h : ∀ p ∈ pieces out, ¬ Counts p)
    (hfirst : (pieces out).find? (fun p => !p.all isBlank) = some piece) :
    jobs out = .error (.malformed (String.ofList (trimChars piece))) := by
  rw [← List.head?_filter] at hfirst
  obtain ⟨rest, hrest⟩ := List.head?_eq_some_iff.1 hfirst
  have hpiece : piece ∈ pieces out :=
    (List.mem_filter.1 (hrest ▸ List.mem_cons_self : piece ∈ (pieces out).filter _)).1
  have hline : (rows out).findSome? Row.malformed? =
      some (String.ofList (trimChars piece)) := by
    rw [rows_eq, hrest, List.map_cons, row_of_not_counts (h piece hpiece)]
    rfl
  rw [jobs, if_pos (all_malformed_iff.2 h), hline]

theorem jobs_of_blank {out : String} (h : ∀ p ∈ pieces out, p.all isBlank) : jobs out = .ok [] := by
  have hrows : rows out = [] := by
    refine List.eq_nil_iff_forall_not_mem.2 fun r hr => ?_
    obtain ⟨p, hp, hsome, -⟩ := mem_rows.1 hr
    exact absurd (h p hp) (Bool.eq_false_iff.1 hsome)
  rw [jobs, hrows]
  rfl

theorem filterMap_job?_of_blank {ps : List (List Char)} (h : ∀ p ∈ ps, p.all isBlank) :
    ps.filterMap job? = [] :=
  List.filterMap_eq_nil_iff.2 fun p hp =>
    job?_eq_none_iff.2 fun _ hj => not_counts_of_blank (h p hp) hj.counts

/-- Unless there are lines of which none counts, the jobs are those told of. -/
theorem jobs_eq_ok {out : String}
    (h : (∀ p ∈ pieces out, p.all isBlank) ∨ ∃ p ∈ pieces out, Counts p) :
    jobs out = .ok ((pieces out).filterMap job?) := by
  rcases h with h | h
  · rw [jobs_of_blank h, filterMap_job?_of_blank h]
  · exact jobs_of_counts h

theorem Alike.filterMap_job?_eq {ps ps' : List (List Char)} (h : Alike ps ps') :
    ps.filterMap job? = ps'.filterMap job? := by
  induction h with
  | nil => rfl
  | both _ ih => rw [List.filterMap_cons, List.filterMap_cons, ih]
  | left hidle _ ih => rwa [List.filterMap_cons_none (job?_eq_none_iff.2 hidle)]
  | right hidle _ ih => rwa [List.filterMap_cons_none (job?_eq_none_iff.2 hidle)]

/-! ## The nodes of an output -/

theorem isCompressed_iff {nodes : String} :
    isCompressed nodes = true ↔ '[' ∈ nodes.toList ∨ ',' ∈ nodes.toList := by
  simp only [isCompressed, List.any_eq_true, Bool.or_eq_true, beq_iff_eq]
  constructor
  · rintro ⟨c, hc, rfl | rfl⟩
    · exact .inl hc
    · exact .inr hc
  · rintro (h | h)
    · exact ⟨_, h, .inl rfl⟩
    · exact ⟨_, h, .inr rfl⟩

/-- What some jobs offer, one after the other. -/
def offered (expand : String → List String) (js : List Job) : List Allocation :=
  js.flatMap fun j => (hosts expand j).map fun host => ⟨host, some j.timeLeft⟩

theorem offers_offered (expand : String → List String) (ps : List (List Char)) :
    Offers expand ps (offered expand (ps.filterMap job?)) := by
  induction ps with
  | nil => exact .nil
  | cons p ps ih =>
      cases hj : job? p with
      | none =>
          rw [List.filterMap_cons_none hj]
          exact .idle (job?_eq_none_iff.1 hj) ih
      | some j =>
          have htells := job?_eq_some_iff.1 hj
          rw [List.filterMap_cons_some hj, offered, List.flatMap_cons, hosts]
          split
          next hshort => exact .short htells (isCompressed_iff.1 hshort) ih
          next hplain =>
            rw [isCompressed_iff, not_or] at hplain
            exact .plain htells hplain ih

/-- The list has each node that is offered once: in the order in which they were first named, and as
it was first offered. -/
structure Firsts (offered found : List Allocation) : Prop where
  nodup : (found.map (·.node)).Nodup
  order : found.map (·.node) = (offered.map (·.node)).eraseDups
  first : ∀ a ∈ found, offered.find? (·.node == a.node) = some a

theorem firsts_dedup (as : List Allocation) : Firsts as (Allocation.dedup as) where
  nodup := List.pairwise_map.2 (Allocation.pairwise_dedup as)
  order := Allocation.map_node_dedup as
  first := fun _ => Allocation.find?_of_mem_dedup

theorem dedup_dedup (as : List Allocation) :
    Allocation.dedup (Allocation.dedup as) = Allocation.dedup as :=
  Allocation.dedup_eq_self (Allocation.pairwise_dedup as)

/-! ## Asking the scheduler -/

/-- What stands behind nodes written short: the lines that the other program prints, blank ones
apart and without the blanks around them, or those nodes again if it fails or prints no such line. -/
inductive Expands (programs : Programs) (o : Options) (nodes : String) : List String → Prop
  | failed {fault : Fault} (hfault : output programs o.limit (expandCommand o nodes) = .error fault) :
      Expands programs o nodes [nodes]
  | nothing {text : String} (htext : output programs o.limit (expandCommand o nodes) = .ok text)
      (hblank : ∀ p ∈ pieces text, p.all isBlank) : Expands programs o nodes [nodes]
  | hosts {text : String} (htext : output programs o.limit (expandCommand o nodes) = .ok text)
      (hline : ∃ p ∈ pieces text, p.all isBlank = false) :
      Expands programs o nodes
        (((pieces text).filter fun p => !p.all isBlank).map fun p => String.ofList (trimChars p))

theorem expands_expand (programs : Programs) (o : Options) (nodes : String) :
    Expands programs o nodes (expand programs o nodes) := by
  unfold expand
  split
  next hfault => exact .failed hfault
  next text htext =>
    rw [hostLines, trimmed_pieces, List.map_map]
    split
    next hempty =>
      refine .nothing htext fun p hp => ?_
      simp only [List.isEmpty_iff, List.map_eq_nil_iff, List.filter_eq_nil_iff] at hempty
      simpa using hempty p hp
    next hline =>
      refine .hosts htext ?_
      simpa using hline

theorem resolve_eq {programs : Programs} {o : Options} {self : Option String} {user out : String}
    (huser : user? o self = some user)
    (hout : output programs o.limit (listCommand o user) = .ok out) :
    resolve programs o self = (jobs out).map (allocationsOf (expand programs o)) := by
  rw [resolve, huser]
  simp only [hout]
  rfl

/-- The answer of the scheduler, if its program for jobs prints `out`.

Nodes written short are what the other program prints for them, or themselves.  If there are lines
and none of them counts, the answer is a fault that quotes the first.  Otherwise it is a list of the
nodes offered, each once, where it was first named and with the time of that job; keeping only the
first of each node again would change nothing.

Pieces that tell of no job matter only in that they may count: as long as one piece counts, they can
be put in or left out anywhere, and the answer stays. -/
theorem resolve_nodes {programs : Programs} {o : Options} {self : Option String}
    {user out : String} (huser : user? o self = some user)
    (hout : output programs o.limit (listCommand o user) = .ok out) :
    (∀ nodes, Expands programs o nodes (expand programs o nodes)) ∧
    (∀ piece, (∀ p ∈ pieces out, ¬ Counts p) →
      (pieces out).find? (fun p => !p.all isBlank) = some piece →
      ∃ fault, resolve programs o self = .error fault ∧
        fault.message = "scheduler unavailable: malformed squeue output: " ++
          quoted (String.ofList (trimChars piece))) ∧
    ((∀ p ∈ pieces out, p.all isBlank) ∨ (∃ p ∈ pieces out, Counts p) →
      ∃ offered found, Offers (expand programs o) (pieces out) offered ∧
        resolve programs o self = .ok found ∧ Firsts offered found ∧
        Allocation.dedup found = found) ∧
    (∀ programs' out', output programs' o.limit (listCommand o user) = .ok out' →
      expand programs' o = expand programs o → Alike (pieces out) (pieces out') →
      (∃ p ∈ pieces out, Counts p) → (∃ p ∈ pieces out', Counts p) →
      resolve programs' o self = resolve programs o self) := by
  refine ⟨expands_expand programs o, fun piece hmalformed hfirst => ?refused, fun hjobs => ?listed,
    fun programs' out' hout' hexpand halike hcounts hcounts' => ?same⟩
  case refused =>
    refine ⟨.malformed (String.ofList (trimChars piece)), ?_, rfl⟩
    rw [resolve_eq huser hout, jobs_of_not_counts hmalformed hfirst]
    rfl
  case listed =>
    refine ⟨_, _, offers_offered _ _, ?_, firsts_dedup _, dedup_dedup _⟩
    rw [resolve_eq huser hout, jobs_eq_ok hjobs]
    rfl
  case same =>
    rw [resolve_eq huser hout, resolve_eq huser hout', jobs_of_counts hcounts,
      jobs_of_counts hcounts', halike.filterMap_job?_eq, hexpand]

/-- A waiting job and a line without a bar are passed over, and of a node that two jobs share the
first time is kept. -/
theorem resolve_nodes_shared :
    let bytes (text : String) : List UInt8 := text.toList.map fun c => UInt8.ofNat c.toNat
    let queue := "ok|1:00\n(null)|9:00\nnoise\ngpu[1-2],ok | 2:00 \n"
    let programs : Programs := fun c =>
      .ended (.exited 0) (bytes (if c.program = "squeue" then queue else "gpu1\n gpu2\n\nok\n")) []
    user? {} (some "ana") = some "ana" ∧
    output programs (Duration.ofSeconds 10) (listCommand {} "ana") = .ok queue ∧
    (∃ p ∈ pieces queue, Counts p) ∧
    (∃ offered found, Offers (expand programs {}) (pieces queue) offered ∧
      resolve programs {} (some "ana") = .ok found ∧ Firsts offered found ∧
      Allocation.dedup found = found) ∧
    resolve programs {} (some "ana") =
      .ok [⟨"ok", some "1:00"⟩, ⟨"gpu1", some "2:00"⟩, ⟨"gpu2", some "2:00"⟩] := by
  intro bytes queue programs
  have huser : user? {} (some "ana") = some "ana" := by decide
  have hout : output programs (Duration.ofSeconds 10) (listCommand {} "ana") = .ok queue := by
    decide +kernel
  have hcounts : ∃ p ∈ pieces queue, Counts p :=
    ⟨"ok|1:00".toList, by decide +kernel, by decide +kernel⟩
  have hanswer : resolve programs {} (some "ana") =
      .ok [⟨"ok", some "1:00"⟩, ⟨"gpu1", some "2:00"⟩, ⟨"gpu2", some "2:00"⟩] := by
    decide +kernel
  clear_value programs queue
  exact ⟨huser, hout, hcounts, (resolve_nodes huser hout).2.2.1 (.inr hcounts), hanswer⟩

end Roster.Queue
