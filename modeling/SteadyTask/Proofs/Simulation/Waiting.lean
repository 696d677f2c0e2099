import SteadyTask.Proofs.Simulation.Background
import SteadyTask.Proofs.Simulation.Turns

/-!
# Waiting while others go on

While the main activity sleeps its monitor may sample, and sensors and cache may do as they like:
it goes on at the time that it waits for, neither earlier nor later.  And when it has asked its
monitor to stop, it goes on without any time having passed, wherever the sampler is at that moment.

Only one task is looked at, so nobody else changes the mode or reads.
-/

namespace SteadyTask.Simulation.World

open Monitor (Sampler)

variable {α : Type} {c : Mode.Controller} {script : Scripts}

/-! ## At work -/

/-- The world of a task at work: only its monitor is behind it, and all timers are ahead. -/
structure Working (c : Mode.Controller) (script : Scripts) (w : World) : Prop where
  controller : w.controller = c
  scripts : w.scripts = script
  readers : w.readers = []
  reflections : w.reflections = []
  ahead : ∀ timer ∈ w.timers, w.now < timer.2
  unlimited : ∀ read ∈ w.reads, read.2.deadline = none
  watched : ∃ s?, Watched w s? ∧ ∀ s ∈ s?, s.Keeps ∧ s.cancelled = false

/-- The task is at work at a time, and has this left to do. -/
def GoesOn (c : Mode.Controller) (script : Scripts) (time : Millis) (next : Activity α) (w : World)
    (stage : Stage α) : Prop :=
  Working c script w ∧ w.now = time ∧ stage = .ready next

/-- How many steps the sampler of the world can make at this instant. -/
def pace (w : World) : Nat :=
  (((w.monitors[0]?).bind Monitor.Watch.sampler?).map fun s => s.pace w.now).getD 0

theorem pace_of_watched {w : World} {s : Sampler} (h : Watched w (some s)) :
    w.pace = s.pace w.now := by
  rw [pace, h.sampler?]
  rfl

/-- One world is a step ahead of another at the same instant, or nothing has changed in it that lets
anybody go on. -/
structure Onward (w w' : World) : Prop where
  behind : Behind w w'
  pace : w'.pace < w.pace ∨
    w'.pace = w.pace ∧ w'.line = w.line ∧ w'.mainWoken = w.mainWoken

theorem runSampler_of_none {w : World} {m : Nat}
    (h : (w.monitors[m]?).bind Monitor.Watch.sampler? = none) : w.runSampler m = w := by
  simp only [runSampler, h]

/-- Only the sampler does anything when it is first in line. -/
theorem runParty_of_ne {w : World} {s? : Option Sampler} (hReaders : w.readers = [])
    (hReflections : w.reflections = []) (hWatched : Watched w s?) {p : Party}
    (hOther : p ≠ .sampler 0) : w.runParty p = w := by
  cases p with
  | main => rfl
  | reader index => simp [runParty, runReader, hReaders]
  | reflection index => simp [runParty, runReflection, hReflections]
  | sampler m =>
      obtain ⟨trace, options, startedAt, hMonitors⟩ := hWatched
      cases m with
      | zero => exact absurd rfl hOther
      | succ m => exact runSampler_of_none (by simp [hMonitors])

namespace Working

variable {w w' : World}

/-- Sensors and cache do not matter. -/
theorem sensors (h : Working c script w) (source : Sensor.Source) (cache : Sensor.Cache Party) :
    Working c script { w with source := source, cache := cache } :=
  ⟨h.controller, h.scripts, h.readers, h.reflections, h.ahead, h.unlimited, h.watched⟩

/-- The main activity goes on with its waking forgotten. -/
theorem awake (h : Working c script w) : Working c script { w with mainWoken := false } :=
  ⟨h.controller, h.scripts, h.readers, h.reflections, h.ahead, h.unlimited, h.watched⟩

/-- Nor does it matter what the collaborators were asked. -/
theorem withScripts (h : Working c script w) (s : Scripts) : Working c s (w.withScripts s) :=
  ⟨h.controller, rfl, h.readers, h.reflections, h.ahead, h.unlimited, h.watched⟩

theorem of_behind (h : Working c script w) (hBehind : Behind w w')
    (hWatched : ∃ s?, Watched w' s? ∧ ∀ s ∈ s?, s.Keeps ∧ s.cancelled = false) :
    Working c script w' where
  controller := hBehind.controller.trans h.controller
  scripts := hBehind.scripts.trans h.scripts
  readers := hBehind.readers.trans h.readers
  reflections := hBehind.reflections.trans h.reflections
  ahead := by
    rw [hBehind.now]
    exact hBehind.ahead h.ahead
  unlimited := hBehind.unlimited h.unlimited
  watched := hWatched

theorem of_monitors (h : Working c script w) (hBehind : Behind w w')
    (hMonitors : w'.monitors = w.monitors) : Working c script w' := by
  obtain ⟨s?, hWatched, hSampler⟩ := h.watched
  exact h.of_behind hBehind ⟨s?, hWatched.of_monitors hMonitors, hSampler⟩

/-- What the first in line does is behind the main activity. -/
theorem runParty (h : Working c script w) (p : Party) :
    Working c script (w.runParty p) ∧ Onward w (w.runParty p) := by
  have hStill : Working c script w ∧ Onward w w := ⟨h, .refl w, .inr ⟨rfl, rfl, rfl⟩⟩
  obtain ⟨s?, hWatched, hSampler⟩ := h.watched
  by_cases hOther : p = .sampler 0
  · subst hOther
    cases s? with
    | none =>
        rw [World.runParty, runSampler_of_none hWatched.sampler?]
        exact hStill
    | some s =>
        obtain ⟨hKeeps, hLive⟩ := hSampler s rfl
        obtain ⟨s', hPaced⟩ := paced_runSampler hWatched hKeeps hLive h.unlimited
        have hNext : ∀ t ∈ some s', t.Keeps ∧ t.cancelled = false := by
          rintro _ ⟨⟩
          exact ⟨hPaced.keeps, hPaced.cancelled⟩
        refine ⟨h.of_behind hPaced.behind ⟨_, hPaced.watched, hNext⟩, hPaced.behind, ?_⟩
        rw [World.runParty, pace_of_watched hWatched, pace_of_watched hPaced.watched,
          hPaced.behind.now]
        rcases hPaced.pace with hLess | ⟨rfl, hLine, hWoken⟩
        · exact .inl hLess
        · exact .inr ⟨rfl, hLine, hWoken⟩
  · rw [runParty_of_ne h.readers h.reflections hWatched hOther]
    exact hStill

end Working

/-! ## The clock -/

section Clock

variable {w : World} {time : Millis}

/-- Waking those whose time has come. -/
theorem behind_wakeAll (due : List (Party × Millis)) :
    Behind w (due.foldl (fun w timer => w.wake timer.1) w) ∧
      (due.foldl (fun w timer => w.wake timer.1) w).monitors = w.monitors := by
  induction due generalizing w with
  | nil => exact ⟨.refl w, rfl⟩
  | cons timer due ih =>
      obtain ⟨hBehind, hMonitors⟩ := ih (w := w.wake timer.1)
      exact ⟨(behind_wake _).trans hBehind, hMonitors.trans (monitors_wake _)⟩

theorem woken_wakeAll {due : List (Party × Millis)} {at_ : Millis}
    (h : (Party.main, at_) ∈ due) :
    (due.foldl (fun w timer => w.wake timer.1) w).mainWoken = true := by
  induction due generalizing w with
  | nil => cases h
  | cons timer due ih =>
      rcases List.mem_cons.mp h with rfl | h
      · exact (behind_wakeAll due).1.woken rfl
      · exact ih h

/-- The time to which the clock moves is the least one that anyone waits for. -/
theorem nextTime?_eq_some_iff :
    w.nextTime? = some time ↔
      (∃ p, (p, time) ∈ w.timers) ∧ ∀ timer ∈ w.timers, time ≤ timer.2 := by
  rw [nextTime?, List.min?_eq_some_iff]
  constructor
  · rintro ⟨hMember, hLeast⟩
    obtain ⟨⟨p, _⟩, hTimer, rfl⟩ := List.mem_map.mp hMember
    exact ⟨⟨p, hTimer⟩, fun timer hTimer => hLeast _ (List.mem_map_of_mem hTimer)⟩
  · rintro ⟨⟨p, hTimer⟩, hLeast⟩
    refine ⟨List.mem_map.mpr ⟨_, hTimer, rfl⟩, fun other hOther => ?_⟩
    obtain ⟨timer, hTimer, rfl⟩ := List.mem_map.mp hOther
    exact hLeast timer hTimer

/-- Moving the clock to a time leaves those timers that are ahead of it. -/
theorem working_moveTo (h : Working c script w) (time : Millis) :
    Working c script (w.moveTo time) ∧ (w.moveTo time).now = time ∧
      ∀ timer ∈ w.timers, timer.1 = .main →
        if time < timer.2 then timer ∈ (w.moveTo time).timers
        else (w.moveTo time).mainWoken = true := by
  let moved : World :=
    { w with now := time, timers := w.timers.filter fun timer => time < timer.2 }
  have hMoved : Working c script moved := by
    refine ⟨h.controller, h.scripts, h.readers, h.reflections, ?_, h.unlimited, h.watched⟩
    intro timer hTimer
    exact of_decide_eq_true (List.mem_filter.mp hTimer).2
  obtain ⟨hBehind, hMonitors⟩ := behind_wakeAll (w := moved)
    (w.timers.filter fun timer => timer.2 ≤ time)
  refine ⟨hMoved.of_monitors hBehind hMonitors, hBehind.now, ?_⟩
  rintro ⟨_, due⟩ hTimer rfl
  split
  · next hAhead => exact hBehind.timer due (List.mem_filter.mpr ⟨hTimer, decide_eq_true hAhead⟩)
  · next hDue =>
      exact woken_wakeAll
        (List.mem_filter.mpr ⟨hTimer, decide_eq_true (Nat.le_of_not_lt hDue)⟩)

end Clock

/-! ## Asleep -/

/-- How far a sleep is from its end: the time, then the steps of the sampler at this instant, then
those that are woken. -/
def sleepLeft (wakeAt : Millis) (w : World) : Nat ×ₗ (Nat ×ₗ Nat) :=
  toLex (wakeAt - w.now, toLex (w.pace, w.line.length + w.mainWoken.toNat))

section Asleep

variable {w w' : World} {wakeAt : Millis} {next : Activity α}

theorem sleepLeft_lt_of_now (hLater : w.now < w'.now) (hWithin : w'.now ≤ wakeAt) :
    sleepLeft wakeAt w' < sleepLeft wakeAt w :=
  Prod.Lex.toLex_lt_toLex.mpr
    (.inl (Nat.sub_lt_sub_left (Nat.lt_of_lt_of_le hLater hWithin) hLater))

theorem sleepLeft_lt_of_pace (hNow : w'.now = w.now) (hPace : w'.pace < w.pace) :
    sleepLeft wakeAt w' < sleepLeft wakeAt w :=
  Prod.Lex.toLex_lt_toLex.mpr
    (.inr ⟨congrArg (wakeAt - ·) hNow, Prod.Lex.toLex_lt_toLex.mpr (.inl hPace)⟩)

theorem sleepLeft_lt_of_woken (hNow : w'.now = w.now) (hPace : w'.pace = w.pace)
    (hFewer : w'.line.length + w'.mainWoken.toNat < w.line.length + w.mainWoken.toNat) :
    sleepLeft wakeAt w' < sleepLeft wakeAt w :=
  Prod.Lex.toLex_lt_toLex.mpr
    (.inr ⟨congrArg (wakeAt - ·) hNow, Prod.Lex.toLex_lt_toLex.mpr (.inr ⟨hPace, hFewer⟩)⟩)

/-- The main activity sleeps, and its timer is set. -/
structure Asleep (c : Mode.Controller) (script : Scripts) (wakeAt : Millis) (w : World) : Prop where
  working : Working c script w
  timer : (Party.main, wakeAt) ∈ w.timers

theorem Asleep.now_lt (h : Asleep c script wakeAt w) : w.now < wakeAt :=
  h.working.ahead _ h.timer

/-- Going to sleep. -/
theorem asleep_setTimer (h : Working c script w) (hTime : w.now < wakeAt) :
    Asleep c script wakeAt (w.setTimer .main wakeAt) :=
  ⟨⟨h.controller, h.scripts, h.readers, h.reflections, ahead_setTimer hTime h.ahead, h.unlimited,
      h.watched⟩,
    List.mem_append_right _ (List.mem_singleton_self _)⟩

/-- What a turn makes of a sleep: it is over in time, or it goes on and is closer to its end. -/
def Slept (c : Mode.Controller) (script : Scripts) (wakeAt : Millis) (next : Activity α)
    (w : World) (out : World × Stage α) : Prop :=
  GoesOn c script wakeAt next out.1 out.2 ∨
    (Asleep c script wakeAt out.1 ∧ sleepLeft wakeAt out.1 < sleepLeft wakeAt w ∧
      out.2 = .asleep wakeAt next)

/-- Somebody in line goes on. -/
theorem slept_of_line (h : Asleep c script wakeAt w) {p : Party} {rest : List Party}
    (hLine : w.line = p :: rest) : Slept c script wakeAt next w (w.turn (.asleep wakeAt next)) := by
  have hRest : Working c script { w with line := rest } :=
    h.working.of_monitors (behind_of_sensors _ _ _) rfl
  obtain ⟨hWorking, hBehind, hPace⟩ := hRest.runParty p
  rw [turn_of_line Stage.waits_asleep hLine]
  refine .inr ⟨⟨hWorking, hBehind.timer _ h.timer⟩, ?_, rfl⟩
  rcases hPace with hPace | ⟨hPace, hRest, hWoken⟩
  · exact sleepLeft_lt_of_pace hBehind.now hPace
  · refine sleepLeft_lt_of_woken hBehind.now hPace ?_
    rw [hRest, hWoken, hLine]
    exact Nat.add_lt_add_right (Nat.lt_succ_self _) _

/-- The main activity was woken before its time. -/
theorem slept_of_woken (h : Asleep c script wakeAt w) (hLine : w.line = [])
    (hWoken : w.mainWoken = true) :
    Slept c script wakeAt next w (w.turn (.asleep wakeAt next)) := by
  rw [turn_of_woken Stage.waits_asleep hLine hWoken]
  show Slept _ _ _ _ _ (if wakeAt ≤ w.now then _ else _)
  rw [if_neg (Nat.not_le_of_lt h.now_lt)]
  refine .inr ⟨asleep_setTimer h.working.awake h.now_lt, sleepLeft_lt_of_woken rfl rfl ?_, rfl⟩
  show w.line.length + 0 < _
  rw [hWoken]
  exact Nat.lt_succ_self _

/-- The clock moves, at most to the time that the main activity waits for. -/
theorem slept_of_time (h : Asleep c script wakeAt w) (hLine : w.line = [])
    (hWoken : w.mainWoken = false) :
    Slept c script wakeAt next w (w.turn (.asleep wakeAt next)) := by
  cases hTime : w.nextTime? with
  | none =>
      have hTimers : w.timers = [] := List.map_eq_nil_iff.mp (List.min?_eq_none_iff.mp hTime)
      have hTimer := h.timer
      rw [hTimers] at hTimer
      cases hTimer
  | some time =>
      obtain ⟨⟨p, hFirst⟩, hLeast⟩ := nextTime?_eq_some_iff.mp hTime
      have hLater : w.now < time := h.working.ahead _ hFirst
      have hWithin : time ≤ wakeAt := hLeast _ h.timer
      obtain ⟨hMoved, hNow, hMain⟩ := working_moveTo h.working time
      have hTimer := hMain _ h.timer rfl
      have hCloser : sleepLeft wakeAt (w.moveTo time) < sleepLeft wakeAt w :=
        sleepLeft_lt_of_now (by rw [hNow]; exact hLater) (by rw [hNow]; exact hWithin)
      rw [turn_of_time Stage.waits_asleep hLine hWoken hTime]
      split
      · show Slept _ _ _ _ _ (if wakeAt ≤ (w.moveTo time).now then _ else _)
        rw [hNow]
        split
        · next hOver =>
            refine .inl ⟨hMoved.awake, ?_, rfl⟩
            exact hNow.trans (Nat.le_antisymm hWithin hOver)
        · next hEarly =>
            refine .inr ⟨asleep_setTimer hMoved.awake ?_, sleepLeft_lt_of_now ?_ ?_, rfl⟩
            · rw [hNow]
              exact Nat.lt_of_not_le hEarly
            · exact Nat.lt_of_lt_of_eq hLater hNow.symm
            · exact Nat.le_trans (Nat.le_of_eq hNow) hWithin
      · next hNotWoken =>
          split at hTimer
          · exact .inr ⟨⟨hMoved, hTimer⟩, hCloser, rfl⟩
          · exact absurd hTimer hNotWoken

theorem slept_turn (h : Asleep c script wakeAt w) :
    Slept c script wakeAt next w (w.turn (.asleep wakeAt next)) := by
  cases hLine : w.line with
  | cons p rest => exact slept_of_line h hLine
  | nil =>
      cases hWoken : w.mainWoken with
      | true => exact slept_of_woken h hLine hWoken
      | false => exact slept_of_time h hLine hWoken

/-- A sleep is over at its time, whatever goes on meanwhile. -/
theorem endsUp_asleep (h : Asleep c script wakeAt w) :
    EndsUp (GoesOn c script wakeAt next) w (.asleep wakeAt next) := by
  induction hLeft : sleepLeft wakeAt w using WellFoundedLT.induction generalizing w with
  | _ left ih =>
      refine .turn fun source cache => ?_
      have hSensors : Asleep c script wakeAt { w with source := source, cache := cache } :=
        ⟨h.working.sensors source cache, h.timer⟩
      have hSame : sleepLeft wakeAt { w with source := source, cache := cache } = left := hLeft
      rcases slept_turn hSensors with hOver | ⟨hAsleep, hLess, hStage⟩
      · exact .here hOver
      · rw [hStage]
        exact ih _ (hSame ▸ hLess) hAsleep rfl

end Asleep

/-! ## Stopping -/

/-- The sampler of a monitor that was asked to stop is over, and the main activity was woken, or it
is told to end and in line. -/
def IsEnding (s : Sampler) (w : World) : Prop :=
  s.isOver = true ∧ w.mainWoken = true ∨
    s.isOver = false ∧ s.cancelled = true ∧ Party.sampler 0 ∈ w.line

/-- The world of a task whose monitor was asked to stop. -/
structure Stopping (time : Millis) (script : Scripts) (w : World) : Prop where
  now : w.now = time
  scripts : w.scripts = script
  readers : w.readers = []
  reflections : w.reflections = []
  stops : ∃ s, Watched w (some s) ∧ IsEnding s w

/-- How many steps a sampler makes that is told to end. -/
def stepsToEnd (s : Sampler) : Nat :=
  match s.phase with
  | .starting => 2
  | .crashed | .ended => 0
  | _ => 1

/-- How far a stop is from its end: the steps of the sampler, then those in line. -/
def stopLeft (w : World) : Nat ×ₗ Nat :=
  toLex ((((w.monitors[0]?).bind Monitor.Watch.sampler?).map stepsToEnd).getD 0, w.line.length)

section Stops

variable {w w' : World} {s s' : Sampler} {time : Millis} {resume : Metric.Summary → Activity α}

theorem stopLeft_of_watched (h : Watched w (some s)) :
    stopLeft w = toLex (stepsToEnd s, w.line.length) := by
  rw [stopLeft, h.sampler?]
  rfl

theorem stepsToEnd_pos (hLive : s.isOver = false) : 0 < stepsToEnd s := by
  cases hPhase : s.phase with
  | crashed => simp [Sampler.isOver, hPhase] at hLive
  | ended => simp [Sampler.isOver, hPhase] at hLive
  | _ => simp [stepsToEnd, hPhase]

/-- A sampler that is told to end gives up its timer and its reading, and wakes who waits for it. -/
theorem endSampler_spec (h : Watched w (some s)) :
    Behind w (w.endSampler 0 s) ∧ Watched (w.endSampler 0 s) (some s.finish) ∧
      (w.endSampler 0 s).mainWoken = true := by
  have hEnd {given : World} (hBehind : Behind w given) (hMonitors : given.monitors = w.monitors) :
      Behind w ((given.setSampler 0 s.finish).wake .main) ∧
        Watched ((given.setSampler 0 s.finish).wake .main) (some s.finish) ∧
        ((given.setSampler 0 s.finish).wake .main).mainWoken = true :=
    ⟨hBehind.trans ((behind_setSampler 0 _).trans (behind_wake _)),
      ((h.of_monitors hMonitors).setSampler _).of_monitors rfl, rfl⟩
  unfold endSampler
  dsimp only
  split
  · next r hRead =>
      have hOver {given : World} : Behind given (given.setSamplerRead 0 none) :=
        behind_setSamplerRead 0 nofun
      exact hEnd ((behind_clearTimer 0).trans ((behind_handOn _ _).trans hOver))
        (monitors_handOn _ _)
  · exact hEnd (behind_clearTimer 0) rfl

theorem runSampler_of_isOver (h : Watched w (some s)) (hOver : s.isOver = true) :
    w.runSampler 0 = w := by
  unfold runSampler
  rw [h.sampler?]
  cases hPhase : s.phase with
  | crashed => simp only [hPhase]
  | ended => simp only [hPhase]
  | _ => simp [Sampler.isOver, hPhase] at hOver

/-- A sampler that is told to end does so wherever it has got to, unless it has yet to begin. -/
theorem runSampler_of_cancelled (h : Watched w (some s)) (hLive : s.isOver = false)
    (hCancelled : s.cancelled = true) (hBegun : s.phase ≠ .starting) :
    w.runSampler 0 = w.endSampler 0 s := by
  unfold runSampler
  rw [h.sampler?]
  dsimp only
  cases hPhase : s.phase with
  | starting => exact absurd hPhase hBegun
  | crashed => simp [Sampler.isOver, hPhase] at hLive
  | ended => simp [Sampler.isOver, hPhase] at hLive
  | _ => exact if_pos hCancelled

theorem runSampler_of_starting (h : Watched w (some s)) (hPhase : s.phase = .starting) :
    w.runSampler 0 =
      if (s.begin w.now).isOver then (w.setSampler 0 (s.begin w.now)).wake .main
      else (w.setSampler 0 (s.begin w.now)).keepInFront (.sampler 0) := by
  unfold runSampler
  rw [h.sampler?]
  simp only [hPhase]

/-- A sampler that is told to end does so in at most two steps. -/
theorem runSampler_stopping (h : Watched w (some s)) (hLive : s.isOver = false)
    (hCancelled : s.cancelled = true) :
    ∃ s', Behind w (w.runSampler 0) ∧ Watched (w.runSampler 0) (some s') ∧
      stepsToEnd s' < stepsToEnd s ∧ IsEnding s' (w.runSampler 0) := by
  by_cases hPhase : s.phase = .starting
  · rw [runSampler_of_starting h hPhase]
    have hBegun : Watched (w.setSampler 0 (s.begin w.now)) (some (s.begin w.now)) := h.setSampler _
    have hFewer : stepsToEnd (s.begin w.now) < stepsToEnd s := by
      cases hKeep : Sampler.canKeep s.interval w.now <;>
        simp [stepsToEnd, hPhase, Sampler.begin, hKeep]
    cases hOver : (s.begin w.now).isOver with
    | true =>
        rw [if_pos rfl]
        exact ⟨_, (behind_setSampler 0 _).trans (behind_wake _), hBegun.of_monitors rfl, hFewer,
          .inl ⟨hOver, rfl⟩⟩
    | false =>
        rw [if_neg Bool.false_ne_true]
        exact ⟨_, (behind_setSampler 0 _).trans (behind_keepInFront _), hBegun.of_monitors rfl,
          hFewer, .inr ⟨hOver, hCancelled, List.mem_cons_self ..⟩⟩
  · obtain ⟨hBehind, hWatched, hWoken⟩ := endSampler_spec h
    rw [runSampler_of_cancelled h hLive hCancelled hPhase]
    exact ⟨_, hBehind, hWatched, stepsToEnd_pos hLive, .inl ⟨rfl, hWoken⟩⟩

/-- The summary is settled, no time has passed and nobody was called. -/
def Settled (time : Millis) (script : Scripts) (resume : Metric.Summary → Activity α) (w : World)
    (stage : Stage α) : Prop :=
  w.now = time ∧ w.scripts = script ∧ ∃ summary, stage = .ready (resume summary)

theorem stopping_of_behind (h : Stopping time script w) (hBehind : Behind w w')
    (hWatched : Watched w' (some s)) (hEnding : IsEnding s w') : Stopping time script w' :=
  ⟨hBehind.now.trans h.now, hBehind.scripts.trans h.scripts, hBehind.readers.trans h.readers,
    hBehind.reflections.trans h.reflections, s, hWatched, hEnding⟩

/-- Somebody in line goes on, and the stop is closer to its end. -/
theorem stopping_of_line (h : Stopping time script w) {p : Party} {rest : List Party}
    (hLine : w.line = p :: rest) :
    Stopping time script ({ w with line := rest }.runParty p) ∧
      stopLeft ({ w with line := rest }.runParty p) < stopLeft w := by
  obtain ⟨s, hWatched, hEnding⟩ := h.stops
  have hRest : Watched { w with line := rest } (some s) := hWatched.of_monitors rfl
  have hBehind : Behind w { w with line := rest } := behind_of_sensors _ _ _
  have hShorter : stopLeft { w with line := rest } < stopLeft w := by
    rw [stopLeft_of_watched hRest, stopLeft_of_watched hWatched, hLine]
    exact Prod.Lex.toLex_lt_toLex.mpr (.inr ⟨rfl, Nat.lt_succ_self _⟩)
  by_cases hOther : p = .sampler 0
  · subst hOther
    rw [runParty]
    rcases hEnding with ⟨hOver, hWoken⟩ | ⟨hLive, hCancelled, -⟩
    · rw [runSampler_of_isOver hRest hOver]
      exact ⟨stopping_of_behind h hBehind hRest (.inl ⟨hOver, hWoken⟩), hShorter⟩
    · obtain ⟨s', hNext, hWatched', hFewer, hEnding'⟩ :=
        runSampler_stopping hRest hLive hCancelled
      refine ⟨stopping_of_behind h (hBehind.trans hNext) hWatched' hEnding', ?_⟩
      rw [stopLeft_of_watched hWatched', stopLeft_of_watched hWatched]
      exact Prod.Lex.toLex_lt_toLex.mpr (.inl hFewer)
  · rw [runParty_of_ne (w := { w with line := rest }) h.readers h.reflections hRest hOther]
    refine ⟨stopping_of_behind h hBehind hRest ?_, hShorter⟩
    rcases hEnding with hOver | ⟨hLive, hCancelled, hMember⟩
    · exact .inl hOver
    · rw [hLine] at hMember
      exact .inr ⟨hLive, hCancelled, (List.mem_cons.mp hMember).resolve_left (Ne.symm hOther)⟩

/-- A summary is settled as soon as there is no sampler that goes on. -/
theorem settled_of_over (resume : Metric.Summary → Activity α) {s? : Option Sampler}
    (h : Watched w s?) (hOver : ∀ s ∈ s?, s.isOver = true) :
    Settled w.now w.scripts resume (w.stoppedOrWait 0 resume).1 (w.stoppedOrWait 0 resume).2 := by
  obtain ⟨trace, options, startedAt, hMonitors⟩ := h
  cases s? with
  | none =>
      simp [Settled, scripts, stoppedOrWait, finishStop, modifyMonitor, hMonitors,
        Monitor.Watch.finishStop, Monitor.Watch.summary?]
  | some s =>
      simp [Settled, scripts, stoppedOrWait, finishStop, modifyMonitor, hMonitors,
        Monitor.Watch.finishStop, Monitor.Watch.summary?, hOver s rfl]

theorem stoppedOrWait_of_live (h : Watched w (some s)) (hLive : s.isOver = false) :
    w.stoppedOrWait 0 resume = (w, .stopping 0 resume) := by
  obtain ⟨trace, options, startedAt, hMonitors⟩ := h
  have hMonitors' : w.monitors.modify 0 (fun watch => watch.finishStop w.now) = w.monitors := by
    simp [hMonitors, Monitor.Watch.finishStop, hLive]
  have hSame : w.modifyMonitor 0 (fun watch => watch.finishStop w.now) = w := by
    rw [modifyMonitor, hMonitors']
  have hNone : (w.monitors[0]?).bind Monitor.Watch.summary? = none := by
    rw [hMonitors]
    rfl
  simp only [stoppedOrWait, finishStop, hSame, hNone]

/-- What a turn makes of a stop: it is over, or it goes on and is closer to its end. -/
theorem stopped_turn (resume : Metric.Summary → Activity α) (h : Stopping time script w) :
    Settled time script resume (w.turn (.stopping 0 resume)).1 (w.turn (.stopping 0 resume)).2 ∨
      Stopping time script (w.turn (.stopping 0 resume)).1 ∧
        stopLeft (w.turn (.stopping 0 resume)).1 < stopLeft w ∧
        (w.turn (.stopping 0 resume)).2 = .stopping 0 resume := by
  cases hLine : w.line with
  | cons p rest =>
      obtain ⟨hStopping, hLess⟩ := stopping_of_line h hLine
      rw [turn_of_line Stage.waits_stopping hLine]
      exact .inr ⟨hStopping, hLess, rfl⟩
  | nil =>
      obtain ⟨s, hWatched, ⟨hOver, hWoken⟩ | ⟨-, -, hMember⟩⟩ := h.stops
      · have hAwake : Watched { w with mainWoken := false } (some s) := hWatched.of_monitors rfl
        have hSettled := settled_of_over resume hAwake (by rintro _ ⟨⟩; exact hOver)
        rw [turn_of_woken Stage.waits_stopping hLine hWoken, ← h.now, ← h.scripts]
        exact .inl hSettled
      · rw [hLine] at hMember
        cases hMember

/-- A stop that was asked for comes to an end at the same instant. -/
theorem endsUp_stopping (resume : Metric.Summary → Activity α) (h : Stopping time script w) :
    EndsUp (Settled time script resume) w (.stopping 0 resume) := by
  induction hLeft : stopLeft w using WellFoundedLT.induction generalizing w with
  | _ left ih =>
      refine .turn fun source cache => ?_
      have hSensors : Stopping time script { w with source := source, cache := cache } :=
        ⟨h.now, h.scripts, h.readers, h.reflections, h.stops⟩
      have hSame : stopLeft { w with source := source, cache := cache } = left := hLeft
      rcases stopped_turn resume hSensors with hSettled | ⟨hStopping, hLess, hStage⟩
      · exact .here hSettled
      · rw [hStage]
        exact ih _ (hSame ▸ hLess) hStopping rfl

theorem mem_line_wake_sampler (w : World) (m : Nat) :
    Party.sampler m ∈ (w.wake (.sampler m)).line := by
  simp only [wake]
  split
  · next hMember => simpa using hMember
  · exact List.mem_append_right _ (List.mem_singleton_self _)

/-- A sampler that is not over when its monitor is asked to stop gets in line. -/
theorem requestStop_of_watched {s? : Option Sampler}
    (h : Watched (w.modifyMonitor 0 Monitor.Watch.requestStop) s?) :
    let asked := w.modifyMonitor 0 Monitor.Watch.requestStop
    w.requestStop 0 =
      s?.elim asked fun s => if s.isOver then asked else asked.wake (.sampler 0) := by
  intro asked
  unfold requestStop
  dsimp only
  rw [h.sampler?]
  cases s? <;> rfl

/-- Asking the monitor of a task at work to stop. -/
theorem stopMonitor_working (resume : Metric.Summary → Activity α) (h : Working c script w) :
    Settled w.now script resume ((w.requestStop 0).stoppedOrWait 0 resume).1
        ((w.requestStop 0).stoppedOrWait 0 resume).2 ∨
      Stopping w.now script ((w.requestStop 0).stoppedOrWait 0 resume).1 ∧
        ((w.requestStop 0).stoppedOrWait 0 resume).2 = .stopping 0 resume := by
  obtain ⟨s?, hWatched, -⟩ := h.watched
  let asked := w.modifyMonitor 0 Monitor.Watch.requestStop
  have hAsked : Watched asked (s?.map Sampler.cancel) := by
    obtain ⟨trace, options, startedAt, hMonitors⟩ := hWatched
    refine ⟨trace, options, startedAt, ?_⟩
    show w.monitors.modify 0 _ = _
    rw [hMonitors]
    rfl
  have hScripts : asked.scripts = script := h.scripts
  rw [requestStop_of_watched hAsked, ← hScripts]
  cases s? with
  | none => exact .inl (settled_of_over resume hAsked fun _ hNone => absurd hNone (by simp))
  | some s =>
      dsimp only [Option.map_some, Option.elim_some]
      cases hOver : s.cancel.isOver with
      | true =>
          rw [if_pos rfl]
          exact .inl (settled_of_over resume hAsked (by rintro _ ⟨⟩; exact hOver))
      | false =>
          rw [if_neg Bool.false_ne_true]
          have hLined : Watched (asked.wake (.sampler 0)) (some s.cancel) :=
            hAsked.of_monitors (monitors_wake _)
          have hBehind : Behind asked (asked.wake (.sampler 0)) := behind_wake _
          rw [stoppedOrWait_of_live hLined hOver]
          refine .inr ⟨⟨hBehind.now, hBehind.scripts, hBehind.readers.trans h.readers,
            hBehind.reflections.trans h.reflections, s.cancel, hLined, ?_⟩, rfl⟩
          exact .inr ⟨hOver, rfl, mem_line_wake_sampler asked 0⟩

/-- A monitor stops without any time passing, wherever its sampler is. -/
theorem endsUp_stopMonitor (h : Working c script w) :
    EndsUp (Settled w.now script resume) w (.ready (.request (.stopMonitor 0) resume)) := by
  refine .turn fun source cache => ?_
  have hAwake := (h.sensors source cache).awake
  rcases stopMonitor_working resume hAwake with hSettled | ⟨hStopping, hStage⟩
  · exact .here hSettled
  · show EndsUp _ (stoppedOrWait _ 0 resume).1 (stoppedOrWait _ 0 resume).2
    rw [hStage]
    exact endsUp_stopping resume hStopping

end Stops

end SteadyTask.Simulation.World
