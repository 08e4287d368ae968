import Roster.Proofs.Scan.Visits

/-!
# The schedule of a scan

A scan keeps one slot for each visit that may be under way, and writes down when each slot is free.
A visit takes the slot that is free first and leaves it when it is over, so all that a visit does
to the slots is said by `countP_retake`.  Three things are told from the slots.

* *Room.*  The visits under way at a moment have taken slots that were free by then
  (`busy_visits_le`), so that there are no more of them than slots.
* *Order.*  A visit starts at the first moment, not before those ahead of it, at which fewer visits
  are unfinished than there are slots (`start_is_first_room`).
* *Length.*  Of `k` slots, fewer than `k` are free later than the start of a round, and none is free
  later than its end (`Level`).  A round takes no longer than one visit, and `k` visits make a round
  (`visits_start_le`).

`scan_within_bounds` puts together what this says of a whole scan.
-/

namespace Roster.Scan

section Slots

variable {probe : Probe} {o : Options} {slots : List Nat}

/-- How many visits are under way at a moment. -/
def busy (visits : List Visit) (t : Nat) : Nat :=
  visits.countP fun v => v.start ≤ t && t < v.stop

/-- How many visits are over later than a moment. -/
def unfinished (visits : List Visit) (t : Nat) : Nat := visits.countP fun v => t < v.stop

/-! ## Slots -/

theorem earliest_spec (h : slots ≠ []) :
    earliest slots ∈ slots ∧ ∀ s ∈ slots, earliest slots ≤ s := by
  cases hmin : slots.min? with
  | none => exact absurd (List.min?_eq_none_iff.1 hmin) h
  | some m =>
      have hm : earliest slots = m := by rw [earliest, hmin, Option.getD_some]
      rw [hm]
      exact List.min?_eq_some_iff.1 hmin

/-- The slots after the one that is free first was taken by a visit over at `stop`. -/
def retake (slots : List Nat) (stop : Nat) : List Nat := stop :: slots.erase (earliest slots)

theorem visits_cons (node : String) (rest : List String) :
    visits probe o slots (node :: rest) =
      let v := visit probe o (earliest slots) node
      v :: visits probe o (retake slots v.stop) rest := rfl

theorem retake_ne_nil (slots : List Nat) (stop : Nat) : retake slots stop ≠ [] := List.cons_ne_nil _ _

theorem length_retake (h : slots ≠ []) (stop : Nat) : (retake slots stop).length = slots.length := by
  rw [retake, List.length_cons, List.length_erase_of_mem (earliest_spec h).1]
  exact Nat.sub_add_cancel (List.length_pos_iff.2 h)

theorem mem_retake {stop s : Nat} (h : s ∈ retake slots stop) : s = stop ∨ s ∈ slots :=
  (List.mem_cons.1 h).imp_right List.mem_of_mem_erase

/-- A slot that was taken counts for the visit, and the others count as before. -/
theorem countP_retake (h : slots ≠ []) (p : Nat → Bool) (stop : Nat) :
    (retake slots stop).countP p + (if p (earliest slots) then 1 else 0) =
      slots.countP p + if p stop then 1 else 0 := by
  have hslots : slots.countP p =
      (slots.erase (earliest slots)).countP p + if p (earliest slots) then 1 else 0 := by
    rw [(List.perm_cons_erase (earliest_spec h).1).countP_eq p, List.countP_cons]
  rw [hslots, retake, List.countP_cons]
  omega

theorem start_le_stop (start : Nat) (node : String) :
    start ≤ (visit probe o start node).stop := (visit_inTurn probe o start node).le

/-! ## Room -/

theorem map_node_visits (slots : List Nat) (nodes : List String) :
    (visits probe o slots nodes).map (·.node) = nodes := by
  induction nodes generalizing slots with
  | nil => rfl
  | cons node rest ih => rw [visits_cons, List.map_cons, visit_node, ih]

theorem exists_of_mem_visits {v : Visit} {nodes : List String}
    (h : v ∈ visits probe o slots nodes) : ∃ start node, v = visit probe o start node := by
  induction nodes generalizing slots with
  | nil => cases h
  | cons node rest ih =>
      rw [visits_cons] at h
      rcases List.mem_cons.1 h with rfl | hrest
      · exact ⟨earliest slots, node, rfl⟩
      · exact ih hrest

/-- The visits under way have taken slots that were free by then. -/
theorem busy_visits_le (h : slots ≠ []) (nodes : List String) (t : Nat) :
    busy (visits probe o slots nodes) t ≤ slots.countP (· ≤ t) := by
  induction nodes generalizing slots with
  | nil => exact Nat.zero_le _
  | cons node rest ih =>
      rw [visits_cons]
      have hvisit : earliest slots ≤ (visit probe o (earliest slots) node).stop :=
        start_le_stop (earliest slots) node
      have hstart := visit_start probe o (earliest slots) node
      generalize visit probe o (earliest slots) node = v at hvisit hstart ⊢
      have hothers := ih (retake_ne_nil slots v.stop)
      have hslots := countP_retake h (· ≤ t) v.stop
      have hsum : ∀ vs, busy (v :: vs) t =
          busy vs t + if v.start ≤ t ∧ t < v.stop then 1 else 0 := by
        intro vs
        simp [busy, List.countP_cons]
      rw [hsum]
      simp only [decide_eq_true_eq] at hslots
      split at hslots <;> split at hslots <;> split <;> omega

/-! ## Order -/

/-- A visit starts at the first moment, from `low` on and not before the visits ahead of it, at which
fewer than `room` visits are unfinished.  Those in `done` were made before. -/
structure StartsFirst (room low : Nat) (done ahead : List Visit) (v : Visit) : Prop where
  /-- It does not start too early. -/
  lower : low ≤ v.start
  /-- Visits start in their order. -/
  order : ∀ u ∈ ahead, u.start ≤ v.start
  /-- There is room when it starts. -/
  vacant : unfinished (done ++ ahead) v.start < room
  /-- There was none before. -/
  full : ∀ t, low ≤ t → (∀ u ∈ ahead, u.start ≤ t) → t < v.start →
    room ≤ unfinished (done ++ ahead) t

/-- The visit that takes a slot first starts as soon as there is room, since from `low` on the slots
tell which visits are unfinished. -/
theorem startsFirst_of_earliest {low : Nat} {done : List Visit} {v : Visit} (h : slots ≠ [])
    (hlow : ∀ s ∈ slots, low ≤ s)
    (hdone : ∀ t, low ≤ t → slots.countP (t < ·) = unfinished done t)
    (hv : v.start = earliest slots) : StartsFirst slots.length low done [] v := by
  obtain ⟨hmem, hleast⟩ := earliest_spec h
  have hfrom : low ≤ v.start := hv ▸ hlow _ hmem
  constructor
  · exact hfrom
  · exact nofun
  · -- the slot that is free first is not counted
    rw [List.append_nil, ← hdone _ hfrom, hv]
    refine Nat.lt_of_le_of_ne List.countP_le_length fun hall => ?_
    have hself := List.countP_eq_length.1 hall _ hmem
    exact Nat.lt_irrefl _ (of_decide_eq_true hself)
  · intro t ht _ hbefore
    rw [List.append_nil, ← hdone t ht]
    refine Nat.le_of_eq (List.countP_eq_length.2 fun s hs => decide_eq_true ?_).symm
    exact Nat.lt_of_lt_of_le (hv ▸ hbefore) (hleast s hs)

/-- From its start on, a visit that has taken a slot is unfinished as long as the slot is not
free. -/
theorem countP_retake_eq_unfinished {low : Nat} {done : List Visit} (v : Visit) (h : slots ≠ [])
    (hlow : ∀ s ∈ slots, low ≤ s)
    (hdone : ∀ t, low ≤ t → slots.countP (t < ·) = unfinished done t) (t : Nat)
    (ht : earliest slots ≤ t) :
    (retake slots v.stop).countP (t < ·) = unfinished (done ++ [v]) t := by
  have hfrom : low ≤ t := Nat.le_trans (hlow _ (earliest_spec h).1) ht
  have hslots := countP_retake h (t < ·) v.stop
  rw [decide_eq_false (Nat.not_lt.2 ht)] at hslots
  rw [unfinished, List.countP_append, ← unfinished, ← hdone t hfrom, List.countP_singleton]
  simpa using hslots

theorem startsFirst_visits {low : Nat} {done : List Visit} (h : slots ≠ [])
    (hlow : ∀ s ∈ slots, low ≤ s)
    (hdone : ∀ t, low ≤ t → slots.countP (t < ·) = unfinished done t) {nodes : List String}
    {i : Nat} {v : Visit} (hv : (visits probe o slots nodes)[i]? = some v) :
    StartsFirst slots.length low done ((visits probe o slots nodes).take i) v := by
  induction nodes generalizing slots low done i with
  | nil => cases hv
  | cons node rest ih =>
      rw [visits_cons] at hv ⊢
      have hstop : earliest slots ≤ (visit probe o (earliest slots) node).stop :=
        start_le_stop (earliest slots) node
      have hstart := visit_start probe o (earliest slots) node
      generalize visit probe o (earliest slots) node = w at hv hstop hstart ⊢
      cases i with
      | zero =>
          cases hv
          exact startsFirst_of_earliest h hlow hdone hstart
      | succ i =>
          have hlow' : ∀ s ∈ retake slots w.stop, earliest slots ≤ s := by
            intro s hs
            rcases mem_retake hs with rfl | hs
            · exact hstop
            · exact (earliest_spec h).2 s hs
          have hfirst := ih (retake_ne_nil slots w.stop) hlow'
            (countP_retake_eq_unfinished w h hlow hdone) hv
          rw [length_retake h] at hfirst
          rw [List.take_succ_cons]
          constructor
          · exact Nat.le_trans (hlow _ (earliest_spec h).1) hfirst.lower
          · intro u hu
            rcases List.mem_cons.1 hu with rfl | hu
            · exact hstart ▸ hfirst.lower
            · exact hfirst.order u hu
          · rw [List.append_cons]
            exact hfirst.vacant
          · intro t ht hafter hbefore
            have hw : w.start ≤ t := hafter w List.mem_cons_self
            rw [List.append_cons]
            exact hfirst.full t (hstart ▸ hw) (fun u hu => hafter u (List.mem_cons_of_mem _ hu))
              hbefore

/-! ## Length -/

/-- The slots in a round that starts at `base`: at most `late` of them are free later than that, and
none later than the end of the round. -/
structure Level (slots : List Nat) (base span late : Nat) : Prop where
  /-- Few are free later than the start. -/
  few : slots.countP (base < ·) ≤ late
  /-- None is free later than the end. -/
  none : ∀ s ∈ slots, s ≤ base + span

/-- In a round with slots left, the slot that is free first is free at the start. -/
theorem Level.earliest_le {base span late : Nat} (hlevel : Level slots base span late)
    (hlate : late < slots.length) : earliest slots ≤ base := by
  have h : slots ≠ [] := List.ne_nil_of_length_pos (Nat.zero_lt_of_lt hlate)
  rcases Nat.lt_or_ge base (earliest slots) with hlt | hle
  · have hall : slots.countP (base < ·) = slots.length := by
      refine List.countP_eq_length.2 fun s hs => decide_eq_true ?_
      exact Nat.lt_of_lt_of_le hlt ((earliest_spec h).2 s hs)
    have hfew := hlevel.few
    omega
  · exact hle

theorem Level.retake {base span late stop : Nat} (hlevel : Level slots base span late)
    (hlate : late < slots.length) (hstop : stop ≤ earliest slots + span) :
    Level (retake slots stop) base span (late + 1) := by
  have h : slots ≠ [] := List.ne_nil_of_length_pos (Nat.zero_lt_of_lt hlate)
  have hfirst : earliest slots ≤ base := hlevel.earliest_le hlate
  constructor
  · have hslots := countP_retake h (base < ·) stop
    have hfew := hlevel.few
    rw [decide_eq_false (Nat.not_lt.2 hfirst)] at hslots
    simp only [Bool.false_eq_true, if_false] at hslots
    split at hslots <;> omega
  · intro s hs
    rcases mem_retake hs with rfl | hs
    · omega
    · exact hlevel.none s hs

theorem Level.next {base span late : Nat} (hlevel : Level slots base span late) :
    Level slots (base + span) span 0 := by
  constructor
  · rw [Nat.le_zero, List.countP_eq_zero]
    intro s hs hlt
    have hle := hlevel.none s hs
    have hlt := of_decide_eq_true hlt
    omega
  · intro s hs
    exact Nat.le_trans (hlevel.none s hs) (Nat.le_add_right ..)

/-- In each round as many visits start as there are slots. -/
theorem visits_start_le {base late : Nat} (hlevel : Level slots base o.span late)
    (hlate : late < slots.length) {nodes : List String} {i : Nat} {v : Visit}
    (hv : (visits probe o slots nodes)[i]? = some v) :
    v.start ≤ base + (late + i) / slots.length * o.span := by
  induction nodes generalizing slots base late i with
  | nil => cases hv
  | cons node rest ih =>
      have h : slots ≠ [] := List.ne_nil_of_length_pos (Nat.zero_lt_of_lt hlate)
      have hfirst : earliest slots ≤ base := hlevel.earliest_le hlate
      rw [visits_cons] at hv
      cases i with
      | zero =>
          cases hv
          rw [visit_start]
          exact Nat.le_trans hfirst (Nat.le_add_right ..)
      | succ i =>
          have hlength := length_retake h (visit probe o (earliest slots) node).stop
          have htaken := hlevel.retake hlate (visit_stop_le probe o _ node)
          rcases Nat.lt_or_ge (late + 1) slots.length with hmore | hlast
          · have hle := ih htaken (hlength ▸ hmore) hv
            rw [hlength] at hle
            rwa [Nat.add_assoc, Nat.add_comm 1 i] at hle
          · have hle := ih htaken.next (hlength ▸ Nat.zero_lt_of_lt hlate) hv
            rw [hlength, Nat.zero_add] at hle
            have hround : late + (i + 1) = i + slots.length := by omega
            rw [hround, Nat.add_div_right _ (Nat.zero_lt_of_lt hlate), Nat.succ_mul]
            omega

end Slots

/-! ## Scans -/

variable {probe : Probe} {o : Options}

theorem Options.width_pos (o : Options) : 0 < o.width :=
  Nat.lt_of_lt_of_le Nat.zero_lt_one (Nat.le_max_right ..)

theorem foldl_max_le {l : List Nat} {b c : Nat} (hb : b ≤ c) (hl : ∀ x ∈ l, x ≤ c) :
    l.foldl max b ≤ c := by
  induction l generalizing b with
  | nil => exact hb
  | cons x rest ih =>
      have hx : x ≤ c := hl x List.mem_cons_self
      exact ih (Nat.max_le.2 ⟨hb, hx⟩) fun y hy => hl y (List.mem_cons_of_mem _ hy)

/-- The slots with which a scan starts, all of them free. -/
def openSlots (o : Options) (start : Nat) (nodes : List Allocation) : List Nat :=
  List.replicate (min o.width nodes.length) start

theorem scan_visits (start : Nat) (nodes : List Allocation) :
    (scan probe o start nodes).visits =
      visits probe o (openSlots o start nodes) (nodes.map (·.node)) := rfl

theorem length_scan_visits (probe : Probe) (o : Options) (start : Nat) (nodes : List Allocation) :
    (scan probe o start nodes).visits.length = nodes.length := by
  rw [scan_visits, ← List.length_map (·.node), map_node_visits, List.length_map]

theorem lt_of_getElem?_scan {start i : Nat} {nodes : List Allocation} {v : Visit}
    (hv : (scan probe o start nodes).visits[i]? = some v) : i < nodes.length :=
  length_scan_visits probe o start nodes ▸ (List.getElem?_eq_some_iff.1 hv).1

theorem openSlots_ne_nil {start : Nat} {nodes : List Allocation} (h : nodes ≠ []) :
    openSlots o start nodes ≠ [] := by
  have hwidth := o.width_pos
  have hlength := List.length_pos_iff.2 h
  rw [openSlots, ne_eq, List.replicate_eq_nil_iff]
  omega

/-- The visits of a scan start in the order of the nodes, each at the first moment at which fewer
visits than the scan may make at once are unfinished. -/
theorem start_is_first_room {start i : Nat} {nodes : List Allocation} {v : Visit}
    (hv : (scan probe o start nodes).visits[i]? = some v) :
    StartsFirst o.width start [] ((scan probe o start nodes).visits.take i) v := by
  have hi : i < nodes.length := lt_of_getElem?_scan hv
  have h : openSlots o start nodes ≠ [] :=
    openSlots_ne_nil (List.ne_nil_of_length_pos (Nat.zero_lt_of_lt hi))
  have hlow : ∀ s ∈ openSlots o start nodes, start ≤ s := by
    intro s hs
    exact Nat.le_of_eq (List.eq_of_mem_replicate hs).symm
  have hdone : ∀ t, start ≤ t → (openSlots o start nodes).countP (t < ·) = unfinished [] t := by
    intro t ht
    refine List.countP_eq_zero.2 fun s hs => ?_
    rw [List.eq_of_mem_replicate hs, decide_eq_true_eq]
    exact Nat.not_lt.2 ht
  have hfirst := startsFirst_visits h hlow hdone (scan_visits start nodes ▸ hv)
  have hslots : (openSlots o start nodes).length = min o.width nodes.length :=
    List.length_replicate
  rw [hslots] at hfirst
  constructor
  · exact hfirst.lower
  · exact hfirst.order
  · exact Nat.lt_of_lt_of_le hfirst.vacant (Nat.min_le_left ..)
  · -- with a slot for every node there is always room, so that a visit that waits has full slots
    intro t ht hafter hbefore
    have hfull := hfirst.full t ht hafter hbefore
    have hfew : unfinished ([] ++ (scan probe o start nodes).visits.take i) t ≤ i :=
      Nat.le_trans List.countP_le_length (List.length_take_le ..)
    rw [scan_visits] at hfew ⊢
    omega

/-- The visits of a scan start one round after the other. -/
theorem scan_start_le {start i : Nat} {nodes : List Allocation} {v : Visit}
    (hv : (scan probe o start nodes).visits[i]? = some v) :
    v.start ≤ start + i / o.width * o.span := by
  have hi : i < nodes.length := lt_of_getElem?_scan hv
  have hwidth := o.width_pos
  have hslots : (openSlots o start nodes).length = min o.width nodes.length :=
    List.length_replicate
  have hlevel : Level (openSlots o start nodes) start o.span 0 := by
    constructor
    · rw [Nat.le_zero, List.countP_eq_zero]
      intro s hs
      rw [List.eq_of_mem_replicate hs, decide_eq_true_eq]
      exact Nat.lt_irrefl start
    · intro s hs
      rw [List.eq_of_mem_replicate hs]
      exact Nat.le_add_right ..
  have hle := visits_start_le hlevel (by omega) (scan_visits start nodes ▸ hv)
  have hround : (0 + i) / (openSlots o start nodes).length = i / o.width := by
    rw [hslots, Nat.zero_add]
    rcases Nat.le_total o.width nodes.length with h | h
    · rw [Nat.min_eq_left h]
    · rw [Nat.min_eq_right h, Nat.div_eq_of_lt hi, Nat.div_eq_of_lt (Nat.lt_of_lt_of_le hi h)]
  rwa [hround] at hle

/-- The round of an entry is one of those that the entries make up. -/
theorem Options.succ_round_le (o : Options) {i n : Nat} (hi : i < n) :
    i / o.width + 1 ≤ (n + o.width - 1) / o.width := by
  rw [← Nat.add_div_right i o.width_pos]
  exact Nat.div_le_div_right (by omega)

/-- A scan is over when as many rounds have passed as the nodes make up. -/
theorem scan_stop_le (start : Nat) (nodes : List Allocation) :
    (scan probe o start nodes).stop ≤
      start + (nodes.length + o.width - 1) / o.width * o.span := by
  refine foldl_max_le (Nat.le_add_right ..) fun stop hstop => ?_
  obtain ⟨v, hmem, rfl⟩ := List.mem_map.1 hstop
  obtain ⟨i, hv⟩ := List.getElem?_of_mem hmem
  have hi : i < nodes.length := lt_of_getElem?_scan hv
  have hstart : v.start ≤ start + i / o.width * o.span := scan_start_le hv
  have hspan : v.stop ≤ v.start + o.span := by
    obtain ⟨s, node, rfl⟩ := exists_of_mem_visits hmem
    rw [visit_start]
    exact visit_stop_le probe o s node
  have hrounds := o.succ_round_le hi
  calc v.stop
      ≤ start + (i / o.width + 1) * o.span := by
        rw [Nat.succ_mul]
        omega
    _ ≤ start + (nodes.length + o.width - 1) / o.width * o.span :=
        Nat.add_le_add_left (Nat.mul_le_mul_right _ hrounds) _

/-- No more calls are under way than visits. -/
theorem underWay_flatMap_le {vs : List Visit} (h : ∀ v ∈ vs, InTurn v.start v.calls v.stop)
    (t : Nat) : underWay (vs.flatMap (·.calls)) t ≤ busy vs t := by
  induction vs with
  | nil => exact Nat.le_refl _
  | cons v rest ih =>
      have hv := (h v List.mem_cons_self).underWay_le t
      have hrest := ih fun w hw => h w (List.mem_cons_of_mem _ hw)
      have hcalls : underWay ((v :: rest).flatMap (·.calls)) t =
          underWay v.calls t + underWay (rest.flatMap (·.calls)) t := by
        rw [List.flatMap_cons, underWay, List.countP_append]
        rfl
      have hbusy : busy (v :: rest) t =
          busy rest t + if v.start ≤ t ∧ t < v.stop then 1 else 0 := by
        simp [busy, List.countP_cons]
      rw [hcalls, hbusy]
      omega

theorem inTurn_of_mem_scan {start : Nat} {nodes : List Allocation} {v : Visit}
    (h : v ∈ (scan probe o start nodes).visits) : InTurn v.start v.calls v.stop := by
  obtain ⟨s, node, rfl⟩ := exists_of_mem_visits h
  rw [visit_start]
  exact visit_inTurn probe o s node

theorem busy_scan_le (probe : Probe) (o : Options) (start : Nat) (nodes : List Allocation)
    (t : Nat) :
    busy (scan probe o start nodes).visits t ≤ o.width := by
  rcases Decidable.em (nodes = []) with rfl | h
  · exact Nat.zero_le _
  · have hslots : (openSlots o start nodes).length = min o.width nodes.length :=
      List.length_replicate
    calc busy (scan probe o start nodes).visits t
        ≤ (openSlots o start nodes).countP (· ≤ t) := busy_visits_le (openSlots_ne_nil h) _ t
      _ ≤ (openSlots o start nodes).length := List.countP_le_length
      _ ≤ o.width := hslots ▸ Nat.min_le_left ..

/-- The listings of a scan are those of its visits, each at the start of its visit. -/
theorem listings_scan (probe : Probe) (o : Options) (start : Nat) (nodes : List Allocation) :
    ((scan probe o start nodes).calls.filter fun c => c.question = .list).map
        (fun c => (c.node, c.start)) =
      (scan probe o start nodes).visits.map fun v => (v.node, v.start) := by
  have hvisits : ∀ vs : List Visit, (∀ v ∈ vs, ∃ s node, v = visit probe o s node) →
      ((vs.flatMap (·.calls)).filter fun c => c.question = .list).map
        (fun c => (c.node, c.start)) = vs.map fun v => (v.node, v.start) := by
    intro vs h
    induction vs with
    | nil => rfl
    | cons v rest ih =>
        obtain ⟨s, node, rfl⟩ := h v List.mem_cons_self
        have hrest := ih fun w hw => h w (List.mem_cons_of_mem _ hw)
        rw [List.flatMap_cons, List.filter_append, List.map_append, listings_visit, hrest,
          List.map_cons, visit_node, visit_start]
        rfl
  exact hvisits _ fun v hv => exists_of_mem_visits hv

/-- At every moment a scan has no more visits under way than it may have, each of them with one call
at most.  It lists a node once for each time that the node is named.  A visit starts at the latest
when a round of two deadlines has passed for each full set of visits ahead of it, and the scan is over
at the latest when as many rounds have passed as the nodes make up.  These are rounds of one deadline
if no outputs are wanted. -/
theorem scan_within_bounds (probe : Probe) (o : Options) (start : Nat) (nodes : List Allocation) :
    let p := scan probe o start nodes
    let k := max 1 o.maxConcurrent
    (∀ t, busy p.visits t ≤ k ∧ (∀ v ∈ p.visits, underWay v.calls t ≤ 1)
      ∧ underWay p.calls t ≤ k)
    ∧ (p.calls.filter fun c => c.question = .list).map (·.node) = nodes.map (·.node)
    ∧ (∀ i a, nodes[i]? = some a → ∃ v, p.visits[i]? = some v ∧ v.node = a.node
        ∧ v.start ≤ start + i / k * (2 * o.room))
    ∧ p.stop ≤ start + (nodes.length + k - 1) / k *
        (if o.captureLines.isSome then 2 * o.room else o.room) := by
  intro p k
  have hk : k = o.width := Nat.max_comm ..
  have hnodes : p.visits.map (·.node) = nodes.map (·.node) := map_node_visits ..
  rw [hk]
  refine ⟨fun t => ⟨busy_scan_le probe o start nodes t, fun v hv => ?_, ?_⟩, ?_, ?_, scan_stop_le ..⟩
  · refine Nat.le_trans ((inTurn_of_mem_scan hv).underWay_le t) ?_
    split <;> omega
  · refine Nat.le_trans ?_ (busy_scan_le probe o start nodes t)
    exact underWay_flatMap_le (fun v hv => inTurn_of_mem_scan hv) t
  · have hlistings := congrArg (List.map Prod.fst)
      (listings_scan probe o start nodes)
    rw [List.map_map, List.map_map] at hlistings
    exact hlistings.trans hnodes
  · intro i a ha
    have hi : i < nodes.length := (List.getElem?_eq_some_iff.1 ha).1
    have hlength : p.visits.length = nodes.length := length_scan_visits ..
    have hv : p.visits[i]? = some p.visits[i] := List.getElem?_eq_getElem (hlength ▸ hi)
    have hnode : p.visits[i].node = a.node := by
      have h := congrArg (·[i]?) hnodes
      simp only [List.getElem?_map, hv, ha, Option.map_some, Option.some.injEq] at h
      exact h
    refine ⟨p.visits[i], hv, hnode, Nat.le_trans (scan_start_le hv) ?_⟩
    exact Nat.add_le_add_left (Nat.mul_le_mul_left _ o.span_le) _

end Roster.Scan
