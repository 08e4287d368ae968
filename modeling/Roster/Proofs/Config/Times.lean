import Roster.Program
import Roster.Proofs.Disk.Places
import Roster.Proofs.Refresh.Due
import Roster.Proofs.Refresh.Moves
import Roster.Proofs.Text.Fields
import Roster.Proofs.Toml.Integers

/-!
# The times of a configuration

Two numbers of a configuration are times: the seconds of the timeout and those of the interval.
Three sums are made of them.  The deadline of a scan is the timeout and one second more, and must fit
a duration.  The deadline of a node's outputs is that much after the listing, and the first tick is
the interval after the start; both must be readings of the clock.

* *Numbers.*  Those of the file are 64-bit words with a sign, and so below the bound of the clock
  (`Config.TimesInRange`).  Those of the command line may be twice as great
  (`CommandLine.number_lt`).  Both are positive.
* *Sums.*  Nothing bounds them from above, so some do not fit.  `Program.times_of_accepts` says
  which, and what the program does then: it breaks off at once, at the first listing, or never
  starts a cycle in the background although it takes requests for one.
-/

namespace Roster

namespace CommandLine

/-! ## Numbers of the command line -/

variable {env : String → Option String} {words : List String} {chosen : Settings} {task : Task}

theorem settings_of_read (h : read env words = .ok (chosen, task)) :
    ∃ outer inner, chosen = settings env outer inner := by
  obtain ⟨⟨outer, _ | ⟨verb, rest⟩⟩, -, h⟩ := bind_eq_ok.1 h
  · obtain ⟨last, -, h⟩ := bind_eq_ok.1 h
    cases h
    exact ⟨last, {}, rfl⟩
  · obtain ⟨inner, -, h⟩ := bind_eq_ok.1 h
    obtain ⟨closed, -, h⟩ := bind_eq_ok.1 h
    obtain ⟨last, -, h⟩ := bind_eq_ok.1 h
    cases h
    exact ⟨last, closed, rfl⟩

theorem number_lt {o : Opt} {outer inner : Given} {n : Nat}
    (h : ((setting? env outer inner o).bind Opt.number?) = some n) : n < Opt.numberBound := by
  obtain ⟨value, -, hvalue⟩ := Option.bind_eq_some_iff.1 h
  exact (Text.readUnsigned_eq_some_iff.1 hvalue).2

end CommandLine

namespace Config

/-! ## Numbers of the file -/

theorem natural?_eq_some_iff {v : Toml} {m : Nat} : natural? v = some m ↔ v = .integer m := by
  constructor
  · intro h
    unfold natural? at h
    split at h
    · rw [Option.ite_none_right_eq_some] at h
      obtain ⟨hn, heq⟩ := h
      rw [← Option.some.inj heq, Int.toNat_of_nonneg hn]
    · cases h
  · rintro rfl
    simp [natural?]

theorem fieldOr_natural {fields : List (String × Toml)} {key : String} {other m : Nat}
    (h : fieldOr fields key natural? other = some m) :
    m = other ∨ Toml.field? key fields = some (.integer m) := by
  unfold fieldOr at h
  split at h
  · exact .inl (Option.some.inj h).symm
  · next v hv => exact .inr (hv.trans (congrArg some (natural?_eq_some_iff.1 h)))

theorem numbers_of_ofFields {fields : List (String × Toml)} {c : Config}
    (h : ofFields fields = some c) :
    fieldOr fields "refresh_interval_secs" natural? ({} : Config).refreshIntervalSecs =
        some c.refreshIntervalSecs ∧
      fieldOr fields "probe_timeout_secs" natural? ({} : Config).probeTimeoutSecs =
        some c.probeTimeoutSecs := by
  obtain ⟨interval, hinterval, h⟩ := Option.bind_eq_some_iff.1 h
  obtain ⟨timeout, htimeout, h⟩ := Option.bind_eq_some_iff.1 h
  -- the other keys are read after these two, and change nothing of them
  iterate 14 obtain ⟨_, -, h⟩ := Option.bind_eq_some_iff.1 h
  obtain rfl := Option.some.inj h
  exact ⟨hinterval, htimeout⟩

/-- The numbers that give times are positive, and the clock counts so many seconds. -/
structure TimesInRange (c : Config) : Prop where
  /-- The interval is something. -/
  interval_pos : 0 < c.refreshIntervalSecs
  /-- The clock counts the seconds of the interval. -/
  interval_lt : c.refreshIntervalSecs < Clock.secondsBound
  /-- The timeout is something. -/
  timeout_pos : 0 < c.probeTimeoutSecs
  /-- The clock counts the seconds of the timeout. -/
  timeout_lt : c.probeTimeoutSecs < Clock.secondsBound

theorem lt_of_fieldOr {text key : String} {fields : List (String × Toml)} {other m : Nat}
    (hfields : Toml.read? text = some fields) (hother : other < Clock.secondsBound)
    (h : fieldOr fields key natural? other = some m) : m < Clock.secondsBound := by
  rcases fieldOr_natural h with rfl | hkey
  · exact hother
  · have hle := (Toml.read?_inRange hfields hkey).2
    unfold Toml.maxInteger at hle
    unfold Clock.secondsBound
    omega

theorem pos_of_flaw? {c : Config} (h : c.flaw? = none) :
    0 < c.refreshIntervalSecs ∧ 0 < c.probeTimeoutSecs := by
  unfold flaw? at h
  split at h
  · cases h
  · next hinterval =>
      split at h
      · cases h
      · next htimeout => exact ⟨Nat.pos_of_ne_zero hinterval, Nat.pos_of_ne_zero htimeout⟩

theorem timesInRange_of_ofText {path text : String} {c : Config} (h : ofText path text = .ok c) :
    c.TimesInRange := by
  unfold ofText at h
  split at h
  · cases h
  · next d hread =>
      split at h
      · cases h
      · next hflaw =>
          cases h
          obtain ⟨fields, hfields, hof⟩ := Option.bind_eq_some_iff.1 hread
          obtain ⟨hinterval, htimeout⟩ := numbers_of_ofFields hof
          obtain ⟨hpos, hpos'⟩ := pos_of_flaw? hflaw
          exact ⟨hpos, lt_of_fieldOr hfields (by decide) hinterval,
            hpos', lt_of_fieldOr hfields (by decide) htimeout⟩

theorem timesInRange_of_load {disk : Disk} {path : String} {c : Config}
    (h : loadOrDefault disk path = .ok c) : c.TimesInRange := by
  unfold loadOrDefault load at h
  split at h
  · split at h
    · cases h
    · next text _ =>
        cases htext : ofText path text with
        | error fault =>
            rw [htext] at h
            cases h
        | ok found =>
            rw [htext] at h
            cases h
            exact timesInRange_of_ofText htext
  · cases h
    exact ⟨by decide, by decide, by decide, by decide⟩

/-! ## What holds the times -/

theorem toMillis_ofSeconds (n : Nat) : (Duration.ofSeconds n).toMillis = n * 1000 := by
  simp [Duration.ofSeconds, Duration.toMillis]

variable {c : Config}

theorem deadline?_eq (hpos : 0 < c.probeTimeoutSecs) :
    c.deadline? = if c.probeTimeoutSecs + 1 < secondsBound then
      some (.ofSeconds (c.probeTimeoutSecs + 1)) else none := by
  have htimeout : c.probeTimeout.seconds = c.probeTimeoutSecs := Nat.max_eq_left hpos
  rw [deadline?, htimeout]

theorem refreshInterval_toMillis (hpos : 0 < c.refreshIntervalSecs) :
    c.refreshInterval.toMillis = c.refreshIntervalSecs * 1000 := by
  rw [refreshInterval, Nat.max_eq_left hpos, toMillis_ofSeconds]

/-- What a scan has of a configuration: its deadline in milliseconds, and whether it takes outputs. -/
theorem of_scanOptions? (hpos : 0 < c.probeTimeoutSecs) {o : Scan.Options}
    (h : c.scanOptions? = some o) :
    o.room = (c.probeTimeoutSecs + 1) * 1000 ∧ o.captureLines.isSome = c.snapshotMode := by
  obtain ⟨deadline, hdeadline, rfl⟩ := Option.map_eq_some_iff.1 h
  rw [deadline?_eq hpos, Option.ite_none_right_eq_some] at hdeadline
  obtain ⟨-, hdeadline⟩ := hdeadline
  obtain rfl := Option.some.inj hdeadline
  refine ⟨toMillis_ofSeconds _, ?_⟩
  cases c.snapshotMode <;> rfl

end Config

/-- A cycle breaks off if a listing has come and the clock does not get as far as the deadline of the
outputs. -/
theorem Cycle.breaksOff_iff {cycle : Cycle} :
    cycle.breaksOff = true ↔ cycle.options.captureLines.isSome = true ∧
      ∃ pass, cycle.pass? = some pass ∧ ∃ v ∈ pass.visits, v.listed.toBool = true ∧
        ∃ call, v.calls.head? = some call ∧
          Clock.secondsBound * 1000 ≤ call.stop + cycle.options.room := by
  unfold breaksOff
  cases cycle.pass? with
  | none => simp
  | some pass =>
      simp only [overruns, List.any_eq_true, Bool.and_eq_true, Option.any_eq_true,
        Option.isNone_iff_eq_none, Clock.after?_eq_none_iff, Option.some.injEq, exists_eq_left']
      constructor
      · rintro ⟨v, hv, ⟨hlines, hlisted⟩, hcall⟩
        exact ⟨hlines, v, hv, hlisted, hcall⟩
      · rintro ⟨hlines, v, hv, hlisted, hcall⟩
        exact ⟨v, hv, ⟨hlines, hlisted⟩, hcall⟩

namespace Refresh

/-! ## A loop without a first tick -/

/-- A loop that is over starts no cycle. -/
theorem starts_of_finished {r : Refresh} (h : r.phase = .finished)
    (events : List (Nat × Event)) : r.starts events = [] := by
  induction events generalizing r with
  | nil => rfl
  | cons e rest ih =>
      obtain ⟨now, e⟩ := e
      rw [starts_cons_eq_nil_iff]
      refine ⟨?_, ih (finished_step h now e)⟩
      cases e <;> simp [started?, h]

end Refresh

namespace Program

/-! ## What is accepted -/

variable {s : Surroundings} {settings : Settings} {task : Task} {c : Config}

/-- The command line makes sense, and the configuration is what its settings make of the file. -/
structure Surroundings.Accepts (s : Surroundings) (settings : Settings) (task : Task)
    (c : Config) : Prop where
  /-- The words are read. -/
  read : CommandLine.read s.env s.words = .ok (settings, task)
  /-- The file is read, and its values are in range. -/
  configure : s.configure settings = .ok c

theorem Surroundings.Accepts.exists_file (h : s.Accepts settings task c) :
    ∃ file : Config, file.TimesInRange ∧ c = file.withSettings settings := by
  have hconfigure := h.configure
  rw [Surroundings.configure] at hconfigure
  cases hfile : Config.loadOrDefault s.disk (s.configPath settings) with
  | error fault =>
      rw [hfile] at hconfigure
      cases hconfigure
  | ok file =>
      rw [hfile] at hconfigure
      cases hconfigure
      exact ⟨file, Config.timesInRange_of_load hfile, rfl⟩

/-- The numbers are positive, and only a flag gets the timeout to where a second more does not fit
in a duration. -/
theorem Surroundings.Accepts.numbers (h : s.Accepts settings task c) :
    0 < c.refreshIntervalSecs ∧ 0 < c.probeTimeoutSecs ∧
      (Config.secondsBound ≤ c.probeTimeoutSecs + 1 ↔
        settings.probeTimeout = some 18446744073709551615) := by
  obtain ⟨file, hfile, rfl⟩ := h.exists_file
  obtain ⟨outer, inner, rfl⟩ := CommandLine.settings_of_read h.read
  obtain ⟨hinterval, -, htimeout, hbound⟩ := hfile
  unfold Clock.secondsBound at hbound
  refine ⟨?_, ?_, ?_⟩
  · unfold Config.withSettings
    cases (CommandLine.settings s.env outer inner).interval with
    | none => exact hinterval
    | some n => exact Nat.lt_of_lt_of_le Nat.one_pos (Nat.le_max_left 1 n)
  · unfold Config.withSettings
    cases (CommandLine.settings s.env outer inner).probeTimeout with
    | none => exact htimeout
    | some n => exact Nat.lt_of_lt_of_le Nat.one_pos (Nat.le_max_left 1 n)
  · unfold Config.withSettings Config.secondsBound
    cases hflag : (CommandLine.settings s.env outer inner).probeTimeout with
    | none =>
        simp only [Option.map_none, Option.getD_none, reduceCtorEq, iff_false]
        omega
    | some n =>
        have hn := CommandLine.number_lt hflag
        unfold CommandLine.Opt.numberBound at hn
        simp only [Option.map_some, Option.getD_some, Option.some.injEq]
        omega

/-- What becomes of the three times that a configuration sets.  Only the greatest number on the
command line is too much for the deadline of a scan, and the program breaks off on it.  The deadline
of the outputs and the first tick lie beyond the clock exactly if the sum says so.  A cycle with
such a deadline breaks off at the first listing that comes.  A loop without a first tick says that a
cycle will start, and starts none. -/
theorem times_of_accepts (h : s.Accepts settings task c) :
    ((c.deadline? = none ↔ settings.probeTimeout = some 18446744073709551615) ∧
      (c.deadline? = none → objection? task = none → (run s).status = 101)) ∧
    (∀ cycle : Cycle, c.scanOptions? = some cycle.options →
      (cycle.breaksOff = true ↔ c.snapshotMode = true ∧
        ∃ pass, cycle.pass? = some pass ∧ ∃ v ∈ pass.visits, v.listed.toBool = true ∧
          ∃ call, v.calls.head? = some call ∧
            Clock.secondsBound * 1000 ≤ call.stop + (c.probeTimeoutSecs + 1) * 1000)) ∧
    ∀ now,
      let loop := Refresh.spawn now c.refreshInterval.toMillis
      (now + c.refreshIntervalSecs * 1000 < Clock.secondsBound * 1000 →
        loop.phase = .arriving ∧ loop.nextTick = now + c.refreshIntervalSecs * 1000) ∧
      (Clock.secondsBound * 1000 ≤ now + c.refreshIntervalSecs * 1000 →
        loop.request = .scheduled ∧ ∀ events, loop.starts events = []) := by
  obtain ⟨hinterval, htimeout, hflag⟩ := h.numbers
  refine ⟨⟨?_, ?_⟩, ?_, ?_⟩
  · rw [Config.deadline?_eq htimeout, ite_eq_right_iff, ← hflag]
    simp
  · intro hdeadline hwilling
    have hengine : c.engineOptions? = none := by
      rw [Config.engineOptions?, Config.scanOptions?, hdeadline]
      rfl
    rw [run, h.read]
    dsimp only
    rw [h.configure]
    dsimp only
    rw [runTask, hwilling]
    dsimp only
    split <;> rw [runEngine, hengine] <;> rfl
  · intro cycle hoptions
    obtain ⟨hroom, hlines⟩ := Config.of_scanOptions? htimeout hoptions
    rw [Cycle.breaksOff_iff, hroom, hlines]
  · intro now
    dsimp only
    rw [Config.refreshInterval_toMillis hinterval]
    rcases Refresh.spawn_cases now (c.refreshIntervalSecs * 1000) with
      ⟨-, hlt, hloop⟩ | ⟨hover, hloop⟩
    · rw [hloop]
      exact ⟨fun _ => ⟨rfl, rfl⟩, fun hle => absurd hlt (Nat.not_lt.2 hle)⟩
    · rw [hloop]
      exact ⟨fun hlt => by omega, fun _ => ⟨rfl, Refresh.starts_of_finished rfl⟩⟩

/-- A run with the given words on its command line, and nothing around it. -/
def Surroundings.bare (words : List String) : Surroundings :=
  { words, env := fun _ => none, disk := {}, programs := fun _ => .hung, time := 0
    clock := ⟨0, 0⟩ }

theorem times_of_accepts_greatest :
    let s := Surroundings.bare ["--probe-timeout", "18446744073709551615"]
    let settings : Settings := { probeTimeout := some 18446744073709551615 }
    let c : Config := { probeTimeoutSecs := 18446744073709551615 }
    s.Accepts settings (.list "" false) c ∧ c.deadline? = none ∧ (run s).status = 101 := by
  have h : (Surroundings.bare ["--probe-timeout", "18446744073709551615"]).Accepts
      { probeTimeout := some 18446744073709551615 } (.list "" false)
      { probeTimeoutSecs := 18446744073709551615 } := ⟨by rfl, by rfl⟩
  have hdeadline := (times_of_accepts h).1.1.2 rfl
  exact ⟨h, hdeadline, (times_of_accepts h).1.2 hdeadline rfl⟩

/-- With no more than words on the command line, and a clock that has just started, the deadline is
too long for a duration, the deadline of the outputs lies beyond the clock, and so does the first
tick. -/
theorem times_of_accepts_overflow :
    (¬ ∀ s settings task c, Surroundings.Accepts s settings task c → c.deadline?.isSome) ∧
    (¬ ∀ s settings task c deadline, Surroundings.Accepts s settings task c →
      c.deadline? = some deadline → (Clock.after? 0 deadline.toMillis).isSome) ∧
    (¬ ∀ s settings task c, Surroundings.Accepts s settings task c →
      (Clock.after? 0 c.refreshInterval.toMillis).isSome) := by
  refine ⟨fun h => ?_, fun h => ?_, fun h => ?_⟩
  · exact absurd (h (.bare ["--probe-timeout", "18446744073709551615"])
      { probeTimeout := some 18446744073709551615 } (.list "" false)
      { probeTimeoutSecs := 18446744073709551615 } ⟨by rfl, by rfl⟩) (by decide)
  · exact absurd (h (.bare ["--probe-timeout", "9223372036854775807"])
      { probeTimeout := some 9223372036854775807 } (.list "" false)
      { probeTimeoutSecs := 9223372036854775807 } (.ofSeconds 9223372036854775808)
      ⟨by rfl, by rfl⟩ rfl) (by decide)
  · exact absurd (h (.bare ["--interval", "18446744073709551615"])
      { interval := some 18446744073709551615 } (.list "" false)
      { refreshIntervalSecs := 18446744073709551615 } ⟨by rfl, by rfl⟩) (by decide)

end Program

end Roster
