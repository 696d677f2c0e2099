import SteadyTask.Proofs.Activity.Timed
import SteadyTask.Simulation.Run

/-!
# Answers in the simulated world

A request that needs no turn in the cache and waits for nobody else is answered by the world at a
time that is settled when the request is made.  The models, tools and routers of the world keep the
limits that they are asked under, and a pause lasts exactly as long as it says, as far as the clock
can count.
-/

namespace SteadyTask.Simulation.World

open Activity

section Answers

variable {w : World} {p : Party} {limit : Millis}

theorem cutAt_stepOutcome (step : Llm.Step) :
    (stepOutcome step (some limit)).2.CutAt limit (stepOutcome step (some limit)).1 := by
  cases step with
  | reply text => exact Nat.zero_le limit
  | fail e => exact Nat.zero_le limit
  | panic text => exact Nat.zero_le limit
  | hang duration text =>
      by_cases hLate : limit < duration
      · simp [stepOutcome, hLate, Outcome.CutAt]
      · simp [stepOutcome, hLate, Outcome.CutAt, Nat.le_of_not_lt hLate]

theorem takes_askClient (name : String) (messages : List Llm.Message) (limit? : Option Millis) :
    Request.Takes w.now (w.askClient name messages limit?).2.1 (.ask name messages limit?)
      (w.askClient name messages limit?).2.2 := by
  cases limit? with
  | none => trivial
  | some limit =>
      unfold askClient
      split
      · exact Nat.zero_le limit
      · exact cutAt_stepOutcome _

theorem takes_consultRouter :
    Request.Takes w.now (w.consultRouter limit).2.1 (.consult limit)
      (w.consultRouter limit).2.2 := by
  unfold consultRouter
  split
  dsimp only
  split
  · rfl
  · next hInTime =>
      dsimp only
      split <;> exact Nat.le_of_not_lt hInTime

theorem takes_useTool (name : String) (args : Json.Value) :
    Request.Takes w.now (w.useTool name args limit).2.1 (.useTool name args limit)
      (w.useTool name args limit).2.2 := by
  unfold useTool
  split
  · exact Nat.zero_le limit
  · dsimp only
    split
    · exact Nat.zero_le limit
    · exact cutAt_stepOutcome _

theorem now_askClient (name : String) (messages : List Llm.Message) (limit? : Option Millis) :
    (w.askClient name messages limit?).1.now = w.now := by
  unfold askClient
  split <;> rfl

theorem now_consultRouter : (w.consultRouter limit).1.now = w.now := by
  unfold consultRouter
  split
  dsimp only
  split <;> rfl

theorem now_useTool (name : String) (args : Json.Value) :
    (w.useTool name args limit).1.now = w.now := by
  unfold useTool
  split
  · rfl
  · dsimp only
    split <;> rfl

variable {α : Type}

/-- A party goes on with an activity after a time. -/
inductive GoesOnAfter (start : Millis) (next : Activity α) : Millis → Stage α → Prop
  | atOnce : GoesOnAfter start next 0 (.ready next)
  | later (took : Millis) : GoesOnAfter start next took (.asleep (start + took) next)

theorem goesOnAfter_sleepThen {start duration : Millis} {next : Activity α} (hNow : w.now = start)
    (hClock : (start + duration) / 1000 < Millis.clockRange) :
    GoesOnAfter start next duration (w.sleepThen p duration next).2 := by
  subst hNow
  unfold sleepThen
  split
  · next hNow =>
      subst hNow
      exact .atOnce
  · have hWake : Millis.after w.now duration = w.now + duration := if_pos hClock
    dsimp only
    rw [hWake]
    exact .later duration

/-- A request needs no turn in the cache and waits for nobody. -/
def StandsAlone : Request → Prop
  | .read _ _ => False
  | .readAll _ => False
  | .forget _ => False
  | .stopMonitor _ => False
  | .awaitReflections => False
  | _ => True

/-- When a request that stands alone is made, its answer and the time that it takes are settled, and
the party goes on when that time has passed. -/
theorem exists_takes_begin {r : Request} (hAlone : StandsAlone r) (resume : r.Answer → Activity α) :
    ∃ took answer, r.Takes w.now took answer ∧
      ((w.now + took) / 1000 < Millis.clockRange →
        GoesOnAfter w.now (resume answer) took (w.begin p r resume).2) := by
  cases r with
  | ask client messages limit? =>
      exact ⟨_, _, takes_askClient client messages limit?,
        goesOnAfter_sleepThen (now_askClient client messages limit?)⟩
  | consult limit => exact ⟨_, _, takes_consultRouter, goesOnAfter_sleepThen now_consultRouter⟩
  | useTool tool args limit =>
      exact ⟨_, _, takes_useTool tool args, goesOnAfter_sleepThen (now_useTool tool args)⟩
  | pause duration => exact ⟨duration, (), rfl, goesOnAfter_sleepThen rfl⟩
  | now => exact ⟨0, w.now, ⟨rfl, rfl⟩, fun _ => .atOnce⟩
  | mode => exact ⟨0, w.controller.mode, trivial, fun _ => .atOnce⟩
  | startMonitor => exact ⟨0, _, trivial, fun _ => .atOnce⟩
  | evaluate summary => exact ⟨0, (), trivial, fun _ => .atOnce⟩
  | reflect input => exact ⟨0, (), trivial, fun _ => .atOnce⟩
  | read g deadline => exact hAlone.elim
  | readAll groups => exact hAlone.elim
  | forget g => exact hAlone.elim
  | stopMonitor m => exact hAlone.elim
  | awaitReflections => exact hAlone.elim

end Answers

end SteadyTask.Simulation.World
