import Mathlib.Tactic
import SteadyTask.Simulation.Run

/-!
# Turns of a run

A run is a sequence of turns: the main activity goes on, or one party in line does, or the clock
moves.  The sensors and their cache are in nobody's hands, so they may turn into anything before
each turn.  What a run ends up with in spite of that, it ends up with when they are left alone too,
and more turns than it takes do not change the answer.

Whether a run ends is not decided here.
-/

namespace SteadyTask.Simulation

/-- An activity that waits for something. -/
def Stage.Waits {α : Type} : Stage α → Prop
  | .ready _ => False
  | .done _ => False
  | _ => True

theorem Stage.waits_asleep {α : Type} {wakeAt : Millis} {next : Activity α} :
    (Stage.asleep wakeAt next).Waits := trivial

theorem Stage.waits_stopping {α : Type} {m : Nat} {resume : Metric.Summary → Activity α} :
    (Stage.stopping m resume).Waits := trivial

namespace World

variable {α : Type} {w : World} {stage : Stage α}

/-! ## One turn -/

/-- One turn of a run.  Nothing changes once the activity has returned, or if it waits for something
that never comes. -/
def turn (w : World) : Stage α → World × Stage α
  | .done a => (w, .done a)
  | .ready activity => { w with mainWoken := false }.resume .main (.ready activity)
  | stage =>
    match w.line with
    | p :: rest => ({ w with line := rest }.runParty p, stage)
    | [] =>
      if w.mainWoken then { w with mainWoken := false }.resume .main stage
      else
        match w.nextTime? with
        | none => (w, stage)
        | some time =>
          let w := w.moveTo time
          if w.mainWoken then { w with mainWoken := false }.resume .main stage else (w, stage)

/-- While the activity waits, the first in line goes on. -/
theorem turn_of_line (h : stage.Waits) {p : Party} {rest : List Party}
    (hLine : w.line = p :: rest) :
    w.turn stage = ({ w with line := rest }.runParty p, stage) := by
  cases stage with
  | ready next => exact h.elim
  | done a => exact h.elim
  | _ => simp only [turn, hLine]

/-- With nobody in line the activity goes on if it was woken. -/
theorem turn_of_woken (h : stage.Waits) (hLine : w.line = []) (hWoken : w.mainWoken = true) :
    w.turn stage = { w with mainWoken := false }.resume .main stage := by
  cases stage with
  | ready next => exact h.elim
  | done a => exact h.elim
  | _ => simp only [turn, hLine, hWoken, if_true]

/-- When nobody can go on, the clock moves. -/
theorem turn_of_time (h : stage.Waits) (hLine : w.line = []) (hWoken : w.mainWoken = false)
    {time : Millis} (hTime : w.nextTime? = some time) :
    w.turn stage =
      if (w.moveTo time).mainWoken then
        { w.moveTo time with mainWoken := false }.resume .main stage
      else (w.moveTo time, stage) := by
  cases stage with
  | ready next => exact h.elim
  | done a => exact h.elim
  | _ => simp [turn, hLine, hWoken, hTime]

/-- When nobody can go on and there is no time to wait for, all stays as it is. -/
theorem turn_of_none (h : stage.Waits) (hLine : w.line = []) (hWoken : w.mainWoken = false)
    (hTime : w.nextTime? = none) : w.turn stage = (w, stage) := by
  cases stage with
  | ready next => exact h.elim
  | done a => exact h.elim
  | _ => simp [turn, hLine, hWoken, hTime]

/-! ## Runs -/

/-- A world in which nobody has begun anything. -/
structure Fresh (w : World) : Prop where
  monitors : w.monitors = []
  reads : w.reads = []
  readers : w.readers = []
  reflections : w.reflections = []
  timers : w.timers = []

theorem runWithin_done (steps : Nat) (a : α) : runWithin (steps + 1) w (.done a) = (w, some a) :=
  rfl

theorem runWithin_of_none (h : stage.Waits) (hLine : w.line = []) (hWoken : w.mainWoken = false)
    (hTime : w.nextTime? = none) (steps : Nat) : runWithin steps w stage = (w, none) := by
  cases steps with
  | zero => rfl
  | succ steps =>
      cases stage with
      | ready next => exact h.elim
      | done a => exact h.elim
      | _ => simp [runWithin, hLine, hWoken, hTime]

/-- A run begins with its first turn. -/
theorem runWithin_turn (h : ∀ a, stage ≠ .done a) (steps : Nat) :
    runWithin (steps + 1) w stage = runWithin steps (w.turn stage).1 (w.turn stage).2 := by
  by_cases hWaits : stage.Waits
  · cases hLine : w.line with
    | cons p rest =>
        rw [turn_of_line hWaits hLine]
        cases stage with
        | ready next => exact hWaits.elim
        | done a => exact hWaits.elim
        | _ => simp only [runWithin, hLine]
    | nil =>
        cases hWoken : w.mainWoken with
        | true =>
            rw [turn_of_woken hWaits hLine hWoken]
            cases stage with
            | ready next => exact hWaits.elim
            | done a => exact hWaits.elim
            | _ => simp only [runWithin, hLine, hWoken, if_true]
        | false =>
            cases hTime : w.nextTime? with
            | none =>
                rw [turn_of_none hWaits hLine hWoken hTime]
                rw [runWithin_of_none hWaits hLine hWoken hTime,
                  runWithin_of_none hWaits hLine hWoken hTime]
            | some time =>
                rw [turn_of_time hWaits hLine hWoken hTime]
                cases stage with
                | ready next => exact hWaits.elim
                | done a => exact hWaits.elim
                | _ =>
                    simp only [runWithin, hLine, hWoken, hTime, Bool.false_eq_true, if_false]
                    split <;> rfl
  · cases stage with
    | ready next => rfl
    | done a => exact absurd rfl (h a)
    | _ => exact absurd trivial hWaits

/-! ## Whatever the sensors turn into -/

/-- After some turns something holds, whatever the sensors and their cache have turned into before
each of them. -/
inductive EndsUp (P : World → Stage α → Prop) : World → Stage α → Prop
  | here {w : World} {stage : Stage α} (h : P w stage) : EndsUp P w stage
  | turn {w : World} {stage : Stage α}
      (h : ∀ (source : Sensor.Source) (cache : Sensor.Cache Party),
        EndsUp P ({ w with source := source, cache := cache }.turn stage).1
          ({ w with source := source, cache := cache }.turn stage).2) :
      EndsUp P w stage

namespace EndsUp

variable {P Q : World → Stage α → Prop}

/-- What is ended up with can be the start of something else. -/
theorem trans (h : EndsUp P w stage) (hNext : ∀ w stage, P w stage → EndsUp Q w stage) :
    EndsUp Q w stage := by
  induction h with
  | here h => exact hNext _ _ h
  | turn _ ih => exact .turn ih

/-- With the sensors left alone, a run gets there in some number of turns. -/
theorem exists_runWithin (h : EndsUp P w stage) :
    ∃ turns w' stage', P w' stage' ∧
      ∀ steps, runWithin (turns + (steps + 1)) w stage = runWithin (steps + 1) w' stage' := by
  induction h with
  | @here w stage h => exact ⟨0, w, stage, h, fun steps => by rw [Nat.zero_add]⟩
  | @turn w stage _ ih =>
      obtain ⟨turns, w', stage', hThere, hRun⟩ := ih w.source w.cache
      by_cases hDone : ∃ a, stage = .done a
      · obtain ⟨a, rfl⟩ := hDone
        exact ⟨turns, w', stage', hThere, hRun⟩
      · push Not at hDone
        refine ⟨turns + 1, w', stage', hThere, fun steps => ?_⟩
        rw [Nat.add_right_comm, runWithin_turn hDone]
        exact hRun steps

end EndsUp

end World

end SteadyTask.Simulation
