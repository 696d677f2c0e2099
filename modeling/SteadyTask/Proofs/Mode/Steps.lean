import Mathlib.Tactic
import SteadyTask.Mode.Controller

/-!
# The steps of the mode controller

What each operation does, mode by mode.  An operation either changes the mode along the graph of
modes, with its transition as the answer, or it leaves the mode and answers nothing.  What is left
then of an evaluation are the counters; the two other operations leave nothing at all.

Which evaluations come first is not looked at here.
-/

namespace SteadyTask.Mode.Controller

variable {c : Controller} {summary : Metric.Summary}

/-! ## Changing -/

theorem enter_clearStreak (c : Controller) (t : Transition) : (c.enter t).clearStreak = 0 := rfl

theorem enter_breachStreak (c : Controller) (t : Transition) :
    (c.enter t).breachStreak = if t.target = .alert then c.breachStreak else 0 := rfl

/-- A change that the graph has is made. -/
theorem changeOrStay_of_canChange {target : Mode} (h : c.mode.canChange target = true)
    (reason : String) (triggers : List Trigger) :
    c.changeOrStay target reason triggers =
      (c.enter ⟨c.mode, target, reason, triggers⟩, some ⟨c.mode, target, reason, triggers⟩) := by
  rw [changeOrStay, change, if_pos h]

/-! ## Evaluating -/

theorem evaluate_normal_clear (hMode : c.mode = .normal) (hBreach : summary.isBreach = false) :
    c.evaluate summary = (c, none) := by
  simp only [evaluate, hMode, hBreach]

theorem evaluate_normal_breach (hMode : c.mode = .normal) (hBreach : summary.isBreach = true) :
    c.evaluate summary =
      (({ c with breachStreak := 1 } : Controller).enter
          ⟨.normal, .alert, "threshold breach", breachTriggers summary.violations⟩,
        some ⟨.normal, .alert, "threshold breach", breachTriggers summary.violations⟩) := by
  have hChanged : ({ c with breachStreak := 1 } : Controller).mode = .normal := hMode
  simp only [evaluate, hMode, hBreach]
  rw [changeOrStay_of_canChange (by rw [hChanged]; rfl), hChanged]

theorem evaluate_alert_clear (hMode : c.mode = .alert) (hBreach : summary.isBreach = false) :
    c.evaluate summary =
      (c.enter ⟨.alert, .normal, "breach cleared", observedPeaks summary⟩,
        some ⟨.alert, .normal, "breach cleared", observedPeaks summary⟩) := by
  simp only [evaluate, hMode, hBreach]
  rw [changeOrStay_of_canChange (by rw [hMode]; rfl), hMode]

theorem evaluate_alert_stay (hMode : c.mode = .alert) (hBreach : summary.isBreach = true)
    (hFew : c.breachStreak + 1 < c.degradeAfter) :
    c.evaluate summary = ({ c with breachStreak := c.breachStreak + 1 }, none) := by
  simp only [evaluate, hMode, hBreach, if_pos hFew]

/-- Why a breach that persists degrades. -/
def degradeReason (streak : Nat) : String :=
  "breach persisted for " ++ toString streak ++ " consecutive evaluations"

theorem evaluate_alert_degrade (hMode : c.mode = .alert) (hBreach : summary.isBreach = true)
    (hMany : ¬ c.breachStreak + 1 < c.degradeAfter) :
    c.evaluate summary =
      (({ c with breachStreak := c.breachStreak + 1 } : Controller).enter
          ⟨.alert, .degraded, degradeReason (c.breachStreak + 1),
            breachTriggers summary.violations⟩,
        some ⟨.alert, .degraded, degradeReason (c.breachStreak + 1),
          breachTriggers summary.violations⟩) := by
  have hChanged : ({ c with breachStreak := c.breachStreak + 1 } : Controller).mode = .alert :=
    hMode
  simp only [evaluate, hMode, hBreach, if_neg hMany]
  rw [changeOrStay_of_canChange (by rw [hChanged]; rfl), hChanged]
  rfl

theorem evaluate_degraded_breach (hMode : c.mode = .degraded) (hBreach : summary.isBreach = true) :
    c.evaluate summary = ({ c with clearStreak := 0 }, none) := by
  simp only [evaluate, hMode, hBreach]

theorem evaluate_degraded_stay (hMode : c.mode = .degraded) (hBreach : summary.isBreach = false)
    (hFew : c.recoverAfter = 0 ∨ c.clearStreak + 1 < c.recoverAfter) :
    c.evaluate summary = ({ c with clearStreak := c.clearStreak + 1 }, none) := by
  simp only [evaluate, hMode, hBreach, if_pos hFew]

/-- Why degraded operation recovers by itself. -/
def recoverReason (streak : Nat) : String :=
  "internal recovery trigger after " ++ toString streak ++ " clear evaluations"

theorem evaluate_degraded_recover (hMode : c.mode = .degraded) (hBreach : summary.isBreach = false)
    (hMany : ¬ (c.recoverAfter = 0 ∨ c.clearStreak + 1 < c.recoverAfter)) :
    c.evaluate summary =
      (({ c with clearStreak := c.clearStreak + 1 } : Controller).enter
          ⟨.degraded, .recovery, recoverReason (c.clearStreak + 1), observedPeaks summary⟩,
        some ⟨.degraded, .recovery, recoverReason (c.clearStreak + 1), observedPeaks summary⟩) := by
  have hChanged : ({ c with clearStreak := c.clearStreak + 1 } : Controller).mode = .degraded :=
    hMode
  simp only [evaluate, hMode, hBreach, if_neg hMany]
  rw [changeOrStay_of_canChange (by rw [hChanged]; rfl), hChanged]
  rfl

theorem evaluate_recovery_breach (hMode : c.mode = .recovery) (hBreach : summary.isBreach = true) :
    c.evaluate summary = ({ c with clearStreak := 0 }, none) := by
  simp only [evaluate, hMode, hBreach]

theorem evaluate_recovery_stay (hMode : c.mode = .recovery) (hBreach : summary.isBreach = false)
    (hFew : c.clearStreak + 1 < c.checks) :
    c.evaluate summary = ({ c with clearStreak := c.clearStreak + 1 }, none) := by
  simp only [evaluate, hMode, hBreach, if_pos hFew]

theorem evaluate_recovery_pass (hMode : c.mode = .recovery) (hBreach : summary.isBreach = false)
    (hMany : ¬ c.clearStreak + 1 < c.checks) :
    c.evaluate summary =
      (({ c with clearStreak := c.clearStreak + 1 } : Controller).enter
          ⟨.recovery, .normal, "self-checks passed", observedPeaks summary⟩,
        some ⟨.recovery, .normal, "self-checks passed", observedPeaks summary⟩) := by
  have hChanged : ({ c with clearStreak := c.clearStreak + 1 } : Controller).mode = .recovery :=
    hMode
  simp only [evaluate, hMode, hBreach, if_neg hMany]
  rw [changeOrStay_of_canChange (by rw [hChanged]; rfl), hChanged]

theorem evaluate_lockdown (hMode : c.mode = .lockdown) : c.evaluate summary = (c, none) := by
  simp only [evaluate, hMode]

/-- The controller with other counters. -/
def recount (c : Controller) (breaches clears : Nat) : Controller :=
  { c with breachStreak := breaches, clearStreak := clears }

/-- An evaluation counts and answers nothing, or it counts and changes the mode along the graph. -/
theorem evaluate_cases (c : Controller) (summary : Metric.Summary) :
    ∃ breaches clears, c.evaluate summary = (c.recount breaches clears, none) ∨
      ∃ t : Transition, c.evaluate summary = ((c.recount breaches clears).enter t, some t) ∧
        t.source = c.mode ∧ c.mode.canChange t.target = true := by
  cases hMode : c.mode with
  | normal =>
      cases hBreach : summary.isBreach with
      | true => exact ⟨_, _, .inr ⟨_, evaluate_normal_breach hMode hBreach, rfl, rfl⟩⟩
      | false => exact ⟨_, _, .inl (evaluate_normal_clear hMode hBreach)⟩
  | alert =>
      cases hBreach : summary.isBreach with
      | true =>
          by_cases hFew : c.breachStreak + 1 < c.degradeAfter
          · exact ⟨_, _, .inl (evaluate_alert_stay hMode hBreach hFew)⟩
          · exact ⟨_, _, .inr ⟨_, evaluate_alert_degrade hMode hBreach hFew, rfl, rfl⟩⟩
      | false => exact ⟨_, _, .inr ⟨_, evaluate_alert_clear hMode hBreach, rfl, rfl⟩⟩
  | degraded =>
      cases hBreach : summary.isBreach with
      | true => exact ⟨_, _, .inl (evaluate_degraded_breach hMode hBreach)⟩
      | false =>
          by_cases hFew : c.recoverAfter = 0 ∨ c.clearStreak + 1 < c.recoverAfter
          · exact ⟨_, _, .inl (evaluate_degraded_stay hMode hBreach hFew)⟩
          · exact ⟨_, _, .inr ⟨_, evaluate_degraded_recover hMode hBreach hFew, rfl, rfl⟩⟩
  | recovery =>
      cases hBreach : summary.isBreach with
      | true => exact ⟨_, _, .inl (evaluate_recovery_breach hMode hBreach)⟩
      | false =>
          by_cases hFew : c.clearStreak + 1 < c.checks
          · exact ⟨_, _, .inl (evaluate_recovery_stay hMode hBreach hFew)⟩
          · exact ⟨_, _, .inr ⟨_, evaluate_recovery_pass hMode hBreach hFew, rfl, rfl⟩⟩
  | lockdown => exact ⟨_, _, .inl (evaluate_lockdown hMode)⟩

/-! ## Signals and triggers -/

theorem canChange_lockdown {m : Mode} (h : m ≠ .lockdown) : m.canChange .lockdown = true := by
  cases m with
  | lockdown => exact absurd rfl h
  | normal => rfl
  | alert => rfl
  | degraded => rfl
  | recovery => rfl

theorem canChange_recovery_iff {m : Mode} :
    m.canChange .recovery = true ↔ m = .degraded ∨ m = .lockdown := by
  cases m <;> decide

/-- No mode changes to itself. -/
theorem ne_of_canChange {m next : Mode} (h : m.canChange next = true) : next ≠ m := by
  rintro rfl
  cases next <;> cases h

/-- Outside lockdown a critical signal leads there. -/
theorem signalCritical_of_ne (hMode : c.mode ≠ .lockdown) (reason : String)
    (triggers : List Trigger) :
    c.signalCritical reason triggers =
      (c.enter ⟨c.mode, .lockdown, reason, triggers⟩,
        some ⟨c.mode, .lockdown, reason, triggers⟩) := by
  rw [signalCritical, if_neg hMode, changeOrStay_of_canChange (canChange_lockdown hMode)]

/-- In lockdown a critical signal does nothing. -/
theorem signalCritical_lockdown (hMode : c.mode = .lockdown) (reason : String)
    (triggers : List Trigger) : c.signalCritical reason triggers = (c, none) := by
  rw [signalCritical, if_pos hMode]

/-- Recovery starts from degraded operation and from lockdown. -/
theorem perform_triggerRecovery_of_canChange (h : c.mode.canChange .recovery = true)
    (reason : String) :
    c.perform (.triggerRecovery reason) =
      (c.enter ⟨c.mode, .recovery, reason, []⟩, some ⟨c.mode, .recovery, reason, []⟩) := by
  rw [perform, triggerRecovery, change, if_pos h]

/-- A recovery that is refused leaves everything as it is. -/
theorem perform_triggerRecovery_refused (h : c.mode.canChange .recovery = false)
    (reason : String) : c.perform (.triggerRecovery reason) = (c, none) := by
  rw [perform, triggerRecovery, change, if_neg (by rw [h]; decide)]

/-! ## Runs -/

theorem run_append (c : Controller) (operations others : List Operation) :
    c.run (operations ++ others) = (c.run operations).run others :=
  List.foldl_append

end SteadyTask.Mode.Controller
