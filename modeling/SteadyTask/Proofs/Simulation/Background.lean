import Mathlib.Tactic
import SteadyTask.Proofs.Simulation.Scripted

/-!
# Behind the main activity

What a sampler does in a world leaves the clock, the mode controller, the collaborators and the
timers of the main activity alone, whatever its sensors answer.  Each of its steps either brings it
closer to the point where it has to wait for a time, or it waits already and the step wakes nobody.
So at one instant it can make only so many steps.

Nothing is said here about what is sampled.
-/

namespace SteadyTask

/-! ## The pace of a sampler -/

namespace Monitor.Sampler

/-- A sampler that samples has an interval in which time passes. -/
def Keeps (s : Sampler) : Prop :=
  match s.phase with
  | .waiting _ | .readingHost _ | .readingAccelerator _ _ => 0 < s.interval
  | _ => True

/-- How many steps a sampler can make at one instant until it has to wait. -/
def pace (s : Sampler) (now : Nat) : Nat :=
  match s.phase with
  | .starting => 1
  | .waiting due => 3 * (now + 1 - due)
  | .readingHost next => 3 * (now + 1 - next) + 2
  | .readingAccelerator next _ => 3 * (now + 1 - next) + 1
  | .crashed | .ended => 0

/-- Another sampler is a step ahead of this one at an instant. -/
structure Precedes (s : Sampler) (now : Nat) (s' : Sampler) : Prop where
  keeps : s'.Keeps
  cancelled : s'.cancelled = s.cancelled
  pace : s'.pace now < s.pace now

variable {s : Sampler} {now : Nat}

theorem precedes_begin (hPhase : s.phase = .starting) : s.Precedes now (s.begin now) := by
  unfold begin
  cases hKeep : canKeep s.interval now with
  | true =>
      have hInterval : 0 < s.interval := by
        simp only [canKeep, Bool.and_eq_true, decide_eq_true_eq] at hKeep
        exact Nat.pos_of_ne_zero hKeep.1
      refine ⟨hInterval, rfl, ?_⟩
      have hLater : now + 1 - (now + s.interval) = 0 := Nat.sub_eq_zero_of_le
        (Nat.add_le_add_left hInterval now)
      simp only [Sampler.pace, hPhase, if_true]
      rw [hLater]
      exact Nat.one_pos
  | false =>
      refine ⟨trivial, rfl, ?_⟩
      simp [Sampler.pace, hPhase]

/-- The next tick is due later than this one. -/
theorem lt_nextDue {interval due : Millis} (hInterval : 0 < interval) (hDue : due ≤ now) :
    due < nextDue interval due now := by
  unfold nextDue
  split
  · exact Nat.lt_of_le_of_lt hDue (Nat.lt_add_of_pos_right hInterval)
  · exact Nat.lt_add_of_pos_right hInterval

theorem precedes_tick (h : s.Keeps) {due : Nat} (hPhase : s.phase = .waiting due)
    (hDue : due ≤ now) : s.Precedes now (s.tick now) := by
  have hInterval : 0 < s.interval := by
    simpa only [Keeps, hPhase] using h
  have hTick : s.tick now = { s with phase := .readingHost (nextDue s.interval due now) } := by
    simp only [tick, hPhase, if_pos hDue]
  rw [hTick]
  refine ⟨hInterval, rfl, ?_⟩
  have hNext := lt_nextDue hInterval hDue
  generalize nextDue s.interval due now = next at hNext ⊢
  have hLess : due < (next : Nat) := hNext
  simp only [Sampler.pace, hPhase]
  omega

theorem precedes_hostRead (h : s.Keeps) {next : Millis} (hPhase : s.phase = .readingHost next)
    (mode : Mode) (thresholds : Mode.Thresholds) (r : Reading) :
    s.Precedes now (s.hostRead mode thresholds r) := by
  have hInterval : 0 < s.interval := by
    simpa only [Keeps, hPhase] using h
  cases r with
  | values v =>
      simp only [hostRead, hPhase]
      split
      · exact ⟨hInterval, rfl, by simp only [Sampler.pace, hPhase]; omega⟩
      · exact ⟨hInterval, rfl, by simp only [Sampler.pace, record, hPhase]; omega⟩
  | fault f =>
      simp only [hostRead, hPhase]
      exact ⟨hInterval, rfl, by simp only [Sampler.pace, hPhase]; omega⟩
  | panicked =>
      simp only [hostRead, hPhase]
      exact ⟨hInterval, rfl, by simp only [Sampler.pace, hPhase]; omega⟩

theorem precedes_acceleratorRead (h : s.Keeps) {next : Millis} {host : Metric.Values}
    (hPhase : s.phase = .readingAccelerator next host) (mode : Mode)
    (thresholds : Mode.Thresholds) (r : Reading) :
    s.Precedes now (s.acceleratorRead mode thresholds r) := by
  have hInterval : 0 < s.interval := by
    simpa only [Keeps, hPhase] using h
  cases r with
  | values v =>
      simp only [acceleratorRead, hPhase]
      exact ⟨hInterval, rfl, by simp only [Sampler.pace, record, hPhase]; omega⟩
  | fault f =>
      cases f <;> simp only [acceleratorRead, hPhase] <;>
        exact ⟨hInterval, rfl, by simp only [Sampler.pace, record, hPhase]; omega⟩
  | panicked =>
      simp only [acceleratorRead, hPhase]
      exact ⟨hInterval, rfl, by simp only [Sampler.pace, hPhase]; omega⟩

end Monitor.Sampler

/-! ## What stays as it is -/

namespace Simulation.World

open Monitor (Sampler)

/-- What goes on behind the main activity leaves this alone. -/
structure Behind (w w' : World) : Prop where
  now : w'.now = w.now
  controller : w'.controller = w.controller
  readers : w'.readers = w.readers
  reflections : w'.reflections = w.reflections
  scripts : w'.scripts = w.scripts
  woken : w.mainWoken = true → w'.mainWoken = true
  timer : ∀ time, (Party.main, time) ∈ w.timers → (Party.main, time) ∈ w'.timers
  ahead : (∀ timer ∈ w.timers, w.now < timer.2) → ∀ timer ∈ w'.timers, w.now < timer.2
  unlimited : (∀ read ∈ w.reads, read.2.deadline = none) →
    ∀ read ∈ w'.reads, read.2.deadline = none

namespace Behind

theorem refl (w : World) : Behind w w :=
  ⟨rfl, rfl, rfl, rfl, rfl, id, fun _ => id, id, id⟩

theorem trans {w w' w'' : World} (h : Behind w w') (h' : Behind w' w'') : Behind w w'' where
  now := h'.now.trans h.now
  controller := h'.controller.trans h.controller
  readers := h'.readers.trans h.readers
  reflections := h'.reflections.trans h.reflections
  scripts := h'.scripts.trans h.scripts
  woken hWoken := h'.woken (h.woken hWoken)
  timer time hTimer := h'.timer time (h.timer time hTimer)
  ahead hAhead := by
    have hNext := h'.ahead (by rw [h.now]; exact h.ahead hAhead)
    rw [h.now] at hNext
    exact hNext
  unlimited hUnlimited := h'.unlimited (h.unlimited hUnlimited)

end Behind

section Moves

variable {w : World}

/-- Sensors, their cache and the line may change. -/
theorem behind_of_sensors (source : Sensor.Source) (cache : Sensor.Cache Party)
    (line : List Party) : Behind w { w with source := source, cache := cache, line := line } :=
  ⟨rfl, rfl, rfl, rfl, rfl, id, fun _ => id, id, id⟩

theorem behind_wake (p : Party) : Behind w (w.wake p) := by
  unfold wake
  split
  · exact ⟨rfl, rfl, rfl, rfl, rfl, fun _ => rfl, fun _ => id, id, id⟩
  · split
    · exact .refl w
    · exact behind_of_sensors _ _ _

theorem monitors_wake (p : Party) : (w.wake p).monitors = w.monitors := by
  unfold wake
  split
  · rfl
  · split <;> rfl

theorem behind_clearTimer (m : Nat) : Behind w (w.clearTimer (.sampler m)) where
  now := rfl
  controller := rfl
  readers := rfl
  reflections := rfl
  scripts := rfl
  woken := id
  timer _ hTimer := List.mem_filter.mpr ⟨hTimer, by simp⟩
  ahead hAhead timer hTimer := hAhead timer (List.mem_filter.mp hTimer).1
  unlimited := id

theorem ahead_setTimer {p : Party} {time : Millis} (hTime : w.now < time)
    (h : ∀ timer ∈ w.timers, w.now < timer.2) :
    ∀ timer ∈ (w.setTimer p time).timers, w.now < timer.2 := by
  intro timer hTimer
  rcases List.mem_append.mp hTimer with hTimer | hTimer
  · exact h timer (List.mem_filter.mp hTimer).1
  · obtain rfl := List.mem_singleton.mp hTimer
    exact hTime

theorem behind_setTimer (m : Nat) {time : Millis} (hTime : w.now < time) :
    Behind w (w.setTimer (.sampler m) time) where
  now := rfl
  controller := rfl
  readers := rfl
  reflections := rfl
  scripts := rfl
  woken := id
  timer _ hTimer := List.mem_append_left _ (List.mem_filter.mpr ⟨hTimer, by simp⟩)
  ahead := ahead_setTimer hTime
  unlimited := id

theorem behind_handOn (g : Sensor.Group) (cache : Sensor.Cache Party) :
    Behind w (w.handOn g cache) := by
  have hCache : Behind w { w with cache := cache } := behind_of_sensors _ _ _
  unfold handOn wakeOwner
  split
  · exact hCache.trans (behind_wake _)
  · exact hCache

theorem monitors_handOn (g : Sensor.Group) (cache : Sensor.Cache Party) :
    (w.handOn g cache).monitors = w.monitors := by
  unfold handOn wakeOwner
  split
  · exact monitors_wake _
  · rfl

theorem behind_setSampler (m : Nat) (s : Sampler) : Behind w (w.setSampler m s) :=
  ⟨rfl, rfl, rfl, rfl, rfl, id, fun _ => id, id, id⟩

theorem behind_setSamplerRead (m : Nat) {r? : Option PendingRead}
    (h : ∀ r ∈ r?, r.deadline = none) : Behind w (w.setSamplerRead m r?) where
  now := rfl
  controller := rfl
  readers := rfl
  reflections := rfl
  scripts := rfl
  woken := id
  timer _ := id
  ahead := id
  unlimited hUnlimited read hRead := by
    rcases List.mem_append.mp hRead with hRead | hRead
    · obtain ⟨r, hr, rfl⟩ := Option.map_eq_some_iff.mp (Option.mem_toList.mp hRead)
      exact h r hr
    · exact hUnlimited read (List.mem_filter.mp hRead).1

theorem behind_keepInFront (p : Party) : Behind w (w.keepInFront p) :=
  behind_of_sensors _ _ _

end Moves

/-! ## Readings of a sampler -/

/-- A reading without a deadline stays behind; if it goes on, it has woken nobody. -/
structure ReadsBehind (w : World) (out : World × (ReadOutcome ⊕ PendingRead)) : Prop where
  behind : Behind w out.1
  monitors : out.1.monitors = w.monitors
  pending : ∀ r, out.2 = .inr r →
    r.deadline = none ∧ out.1.line = w.line ∧ out.1.mainWoken = w.mainWoken

section Readings

variable {w : World} {m : Nat} {r : PendingRead}

theorem readsBehind_handOn (outcome : ReadOutcome) (g : Sensor.Group)
    (cache : Sensor.Cache Party) : ReadsBehind w (w.handOn g cache, .inl outcome) :=
  ⟨behind_handOn g cache, monitors_handOn g cache, nofun⟩

theorem ReadsBehind.after {w' : World} {out : World × (ReadOutcome ⊕ PendingRead)}
    (h : ReadsBehind w' out) (hBehind : Behind w w') (hMonitors : w'.monitors = w.monitors)
    (hLine : w'.line = w.line) (hWoken : w'.mainWoken = w.mainWoken) : ReadsBehind w out := by
  refine ⟨hBehind.trans h.behind, h.monitors.trans hMonitors, fun r hr => ?_⟩
  obtain ⟨hDeadline, hLine', hWoken'⟩ := h.pending r hr
  exact ⟨hDeadline, hLine'.trans hLine, hWoken'.trans hWoken⟩

theorem readsBehind_waitOrGiveUp (hDeadline : r.deadline = none)
    (hEnds : ∀ ends late, r.phase = .polling ends late → w.now < ends) :
    ReadsBehind w (w.waitOrGiveUp (.sampler m) r) := by
  have hWaits {w' : World} (hBehind : Behind w w') (hMonitors : w'.monitors = w.monitors)
      (hLine : w'.line = w.line) (hWoken : w'.mainWoken = w.mainWoken) :
      ReadsBehind w (w', .inr r) := by
    refine ⟨hBehind, hMonitors, ?_⟩
    rintro _ ⟨⟩
    exact ⟨hDeadline, hLine, hWoken⟩
  unfold waitOrGiveUp
  cases hPhase : r.phase with
  | queued =>
      simp only [hDeadline, Option.any_none, Bool.false_eq_true, if_false]
      exact hWaits (.refl w) rfl rfl rfl
  | polling ends late =>
      simp only [hDeadline, Option.any_none, Bool.false_eq_true, if_false]
      exact hWaits (behind_setTimer m (hEnds ends late hPhase)) rfl rfl rfl

theorem readsBehind_settlePoll (hDeadline : r.deadline = none) (ends : Millis) (late : Bool) :
    ReadsBehind w (w.settlePoll (.sampler m) r ends late) := by
  unfold settlePoll
  split
  · next hEarly =>
      refine readsBehind_waitOrGiveUp hDeadline ?_
      rintro _ _ ⟨⟩
      exact hEarly
  · split
    · exact readsBehind_handOn _ _ _
    · dsimp only
      split <;> exact readsBehind_handOn _ _ _

theorem readsBehind_advanceRead (hDeadline : r.deadline = none) :
    ReadsBehind w (w.advanceRead (.sampler m) r) := by
  suffices h : ReadsBehind (w.clearTimer (.sampler m)) (w.advanceRead (.sampler m) r) from
    h.after (behind_clearTimer m) rfl rfl rfl
  unfold advanceRead
  cases hPhase : r.phase with
  | polling ends late => exact readsBehind_settlePoll hDeadline ends late
  | queued =>
      dsimp only
      split
      · split
        · exact readsBehind_handOn _ _ _
        · exact (readsBehind_settlePoll hDeadline _ _).after (behind_of_sensors _ _ _) rfl rfl rfl
      · refine readsBehind_waitOrGiveUp hDeadline ?_
        rw [hPhase]
        nofun

theorem readsBehind_beginRead (g : Sensor.Group) :
    ReadsBehind w (w.beginRead (.sampler m) g none) :=
  (readsBehind_advanceRead rfl).after (behind_of_sensors _ _ _) rfl rfl rfl

end Readings

/-! ## Steps of a sampler -/

/-- The world has one monitor; it runs, with this sampler or without one. -/
def Watched (w : World) (s? : Option Sampler) : Prop :=
  ∃ trace options startedAt, w.monitors = [⟨trace, options, .running startedAt s?⟩]

namespace Watched

variable {w w' : World} {s? : Option Sampler} {s : Sampler}

theorem sampler? (h : Watched w s?) : (w.monitors[0]?).bind Monitor.Watch.sampler? = s? := by
  obtain ⟨trace, options, startedAt, hMonitors⟩ := h
  rw [hMonitors]
  rfl

theorem of_monitors (h : Watched w s?) (hMonitors : w'.monitors = w.monitors) :
    Watched w' s? := by
  rw [Watched, hMonitors]
  exact h

theorem setSampler (h : Watched w (some s)) (s' : Sampler) :
    Watched (w.setSampler 0 s') (some s') := by
  obtain ⟨trace, options, startedAt, hMonitors⟩ := h
  refine ⟨trace, options, startedAt, ?_⟩
  show w.monitors.modify 0 _ = _
  rw [hMonitors]
  rfl

end Watched

/-- A step of a sampler that is not told to end: it gets ahead, or it waits and has woken nobody. -/
structure Paced (w : World) (s : Sampler) (w' : World) (s' : Sampler) : Prop where
  behind : Behind w w'
  watched : Watched w' (some s')
  keeps : s'.Keeps
  cancelled : s'.cancelled = false
  pace : s'.pace w.now < s.pace w.now ∨
    s' = s ∧ w'.line = w.line ∧ w'.mainWoken = w.mainWoken

section Steps

variable {w : World} {s : Sampler}

/-- A sampler gets ahead. -/
theorem paced_of_precedes (hLive : s.cancelled = false) {w' : World} {s' : Sampler}
    (hBehind : Behind w w') (hWatched : Watched w' (some s')) (h : s.Precedes w.now s') :
    Paced w s w' s' :=
  ⟨hBehind, hWatched, h.keeps, h.cancelled.trans hLive, .inl h.pace⟩

/-- A sampler waits. -/
theorem paced_of_waiting (hKeeps : s.Keeps) (hLive : s.cancelled = false) {w' : World}
    (hBehind : Behind w w') (hWatched : Watched w' (some s)) (hLine : w'.line = w.line)
    (hWoken : w'.mainWoken = w.mainWoken) : Paced w s w' s :=
  ⟨hBehind, hWatched, hKeeps, hLive, .inr ⟨rfl, hLine, hWoken⟩⟩

/-- A reading that a sampler has going has no deadline. -/
theorem deadline_of_samplerRead? (hUnlimited : ∀ read ∈ w.reads, read.2.deadline = none) {m : Nat}
    {r : PendingRead} (h : w.samplerRead? m = some r) : r.deadline = none := by
  obtain ⟨before, after, hReads, -⟩ := List.lookup_eq_some_iff.mp h
  exact hUnlimited (m, r) (by simp [hReads])

/-- A sampler takes the reading that it has going as far as it goes, or begins one. -/
def goOnReading (w : World) (m : Nat) (g : Sensor.Group) : World × (ReadOutcome ⊕ PendingRead) :=
  match w.samplerRead? m with
  | some r => w.advanceRead (.sampler m) r
  | none => w.beginRead (.sampler m) g none

theorem readsBehind_goOnReading (hUnlimited : ∀ read ∈ w.reads, read.2.deadline = none) (m : Nat)
    (g : Sensor.Group) : ReadsBehind w (w.goOnReading m g) := by
  unfold goOnReading
  split
  · next r hRead => exact readsBehind_advanceRead (deadline_of_samplerRead? hUnlimited hRead)
  · exact readsBehind_beginRead g

theorem sampleGroup_eq (m : Nat) (g : Sensor.Group) :
    w.sampleGroup m s g =
      match w.goOnReading m g with
      | (after, .inr r) => after.setSamplerRead m (some r)
      | (after, .inl outcome) =>
        ((after.setSamplerRead m none).setSampler m (s.groupRead g after.controller.mode
          after.controller.thresholds (samplerReading outcome))).keepInFront (.sampler m) := rfl

/-- A sampler reads a group, or waits for the reading. -/
theorem paced_sampleGroup (hWatched : Watched w (some s)) (hKeeps : s.Keeps)
    (hLive : s.cancelled = false) (hUnlimited : ∀ read ∈ w.reads, read.2.deadline = none)
    {g : Sensor.Group} (hStep : ∀ mode thresholds reading,
      s.Precedes w.now (s.groupRead g mode thresholds reading)) :
    ∃ s', Paced w s (w.sampleGroup 0 s g) s' := by
  have hReads := readsBehind_goOnReading hUnlimited 0 g
  rw [sampleGroup_eq]
  cases hOut : w.goOnReading 0 g with
  | mk after result =>
      rw [hOut] at hReads
      have hSame := hWatched.of_monitors hReads.monitors
      cases result with
      | inl outcome =>
          have hOver : Behind after (after.setSamplerRead 0 none) := behind_setSamplerRead 0 nofun
          refine ⟨_, paced_of_precedes hLive ?_ ?_ (hStep after.controller.mode
            after.controller.thresholds (samplerReading outcome))⟩
          · exact hReads.behind.trans (hOver.trans
              ((behind_setSampler 0 _).trans (behind_keepInFront _)))
          · exact (Watched.setSampler (w := after.setSamplerRead 0 none)
              (hSame.of_monitors rfl) _).of_monitors rfl
      | inr r =>
          obtain ⟨hDeadline, hLine, hWoken⟩ := hReads.pending r rfl
          refine ⟨s, paced_of_waiting hKeeps hLive ?_ (hSame.of_monitors rfl) hLine hWoken⟩
          refine hReads.behind.trans (behind_setSamplerRead 0 ?_)
          rintro _ ⟨⟩
          exact hDeadline

/-- Every step of a sampler is behind the main activity and paced. -/
theorem paced_runSampler (hWatched : Watched w (some s)) (hKeeps : s.Keeps)
    (hLive : s.cancelled = false) (hUnlimited : ∀ read ∈ w.reads, read.2.deadline = none) :
    ∃ s', Paced w s (w.runSampler 0) s' := by
  have hNotCancelled : ¬ s.cancelled = true := by simp [hLive]
  unfold runSampler
  rw [hWatched.sampler?]
  dsimp only
  cases hPhase : s.phase with
  | starting =>
      dsimp only
      split
      · refine ⟨_, paced_of_precedes hLive ((behind_setSampler 0 _).trans (behind_wake _))
          ((hWatched.setSampler _).of_monitors (monitors_wake _))
          (Monitor.Sampler.precedes_begin hPhase)⟩
      · exact ⟨_, paced_of_precedes hLive ((behind_setSampler 0 _).trans (behind_keepInFront _))
          ((hWatched.setSampler _).of_monitors rfl) (Monitor.Sampler.precedes_begin hPhase)⟩
  | waiting due =>
      dsimp only
      rw [if_neg hNotCancelled]
      split
      · next hDue =>
          have hCleared : Watched (w.clearTimer (.sampler 0)) (some s) := hWatched.of_monitors rfl
          exact ⟨_, paced_of_precedes hLive
            ((behind_clearTimer 0).trans ((behind_setSampler 0 _).trans (behind_keepInFront _)))
            ((hCleared.setSampler _).of_monitors rfl)
            (Monitor.Sampler.precedes_tick hKeeps hPhase hDue)⟩
      · next hEarly =>
          refine ⟨s, paced_of_waiting hKeeps hLive ?_ (hWatched.of_monitors rfl) rfl rfl⟩
          exact behind_setTimer 0 (Nat.lt_of_not_le hEarly)
  | readingHost next =>
      dsimp only
      rw [if_neg hNotCancelled]
      exact paced_sampleGroup hWatched hKeeps hLive hUnlimited
        (Monitor.Sampler.precedes_hostRead hKeeps hPhase)
  | readingAccelerator next host =>
      dsimp only
      rw [if_neg hNotCancelled]
      exact paced_sampleGroup hWatched hKeeps hLive hUnlimited
        (Monitor.Sampler.precedes_acceleratorRead hKeeps hPhase)
  | crashed =>
      exact ⟨s, paced_of_waiting hKeeps hLive (.refl w) hWatched rfl rfl⟩
  | ended =>
      exact ⟨s, paced_of_waiting hKeeps hLive (.refl w) hWatched rfl rfl⟩

end Steps

end Simulation.World

end SteadyTask
