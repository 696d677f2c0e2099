import SteadyTask.Proofs.Mode.Hysteresis

/-!
# How far the counters count

A number of the settings ends each count: that of the breaches on alert, that of the clear
evaluations in recovery, and that of the clear evaluations in degraded operation unless the number
is zero.  With zero nothing ends this last count but a breach or an operation from outside, so it
passes every limit in some run.  Where the numbers of the settings fit in 32 bits, this is the only
way for an increment to leave them.
-/

namespace SteadyTask.Mode

/-- The greatest number that fits in 32 bits. -/
def counterLimit : Nat := 4294967295

/-- The numbers of the settings fit in 32 bits. -/
structure Settings.Fits (s : Settings) : Prop where
  degradeAfterBreaches : s.degradeAfterBreaches ≤ counterLimit
  recoveryAfterClear : s.recoveryAfterClear ≤ counterLimit
  recoveryChecks : s.recoveryChecks ≤ counterLimit

namespace Controller

variable {c : Controller} {settings : Settings}

/-! ## Increments -/

/-- The value that an operation increments a counter to. -/
def increment? (c : Controller) : Operation → Option Nat
  | .evaluate summary =>
    match c.mode, summary.isBreach with
    | .alert, true => some (c.breachStreak + 1)
    | .degraded, false | .recovery, false => some (c.clearStreak + 1)
    | _, _ => none
  | _ => none

/-- From one controller to the next no counter grows, but to one or by an increment to its new
value. -/
structure Counted (c next : Controller) (n? : Option Nat) : Prop where
  breach : next.breachStreak ≤ max c.breachStreak 1 ∨ n? = some next.breachStreak
  clear : next.clearStreak ≤ c.clearStreak ∨ n? = some next.clearStreak

theorem counted_self (n? : Option Nat) : Counted c c n? :=
  ⟨.inl (Nat.le_max_left ..), .inl (Nat.le_refl _)⟩

/-- A change of mode starts the counters anew; on alert the breach that led there counts. -/
theorem counted_enter {counted : Controller} {t : Transition} {n? : Option Nat}
    (h : t.target = .alert → counted.breachStreak = 1) : Counted c (counted.enter t) n? := by
  refine ⟨.inl ?_, .inl ?_⟩
  · rw [enter_breachStreak]
    split
    · next hAlert =>
        rw [h hAlert]
        exact Nat.le_max_right ..
    · exact Nat.zero_le _
  · rw [enter_clearStreak]
    exact Nat.zero_le _

/-- No counter grows but by an increment, or to one. -/
theorem counted_evaluate (c : Controller) (summary : Metric.Summary) :
    Counted c (c.evaluate summary).1 (c.increment? (.evaluate summary)) := by
  cases hMode : c.mode with
  | normal =>
      cases hBreach : summary.isBreach with
      | true =>
          rw [evaluate_normal_breach hMode hBreach]
          exact counted_enter fun _ => rfl
      | false =>
          rw [evaluate_normal_clear hMode hBreach]
          exact counted_self _
  | alert =>
      cases hBreach : summary.isBreach with
      | true =>
          by_cases hFew : c.breachStreak + 1 < c.degradeAfter
          · rw [evaluate_alert_stay hMode hBreach hFew]
            refine ⟨.inr ?_, .inl (Nat.le_refl _)⟩
            simp only [increment?, hMode, hBreach]
          · rw [evaluate_alert_degrade hMode hBreach hFew]
            exact counted_enter nofun
      | false =>
          rw [evaluate_alert_clear hMode hBreach]
          exact counted_enter nofun
  | degraded =>
      cases hBreach : summary.isBreach with
      | true =>
          rw [evaluate_degraded_breach hMode hBreach]
          exact ⟨.inl (Nat.le_max_left ..), .inl (Nat.zero_le _)⟩
      | false =>
          by_cases hFew : c.recoverAfter = 0 ∨ c.clearStreak + 1 < c.recoverAfter
          · rw [evaluate_degraded_stay hMode hBreach hFew]
            refine ⟨.inl (Nat.le_max_left ..), .inr ?_⟩
            simp only [increment?, hMode, hBreach]
          · rw [evaluate_degraded_recover hMode hBreach hFew]
            exact counted_enter nofun
  | recovery =>
      cases hBreach : summary.isBreach with
      | true =>
          rw [evaluate_recovery_breach hMode hBreach]
          exact ⟨.inl (Nat.le_max_left ..), .inl (Nat.zero_le _)⟩
      | false =>
          by_cases hFew : c.clearStreak + 1 < c.checks
          · rw [evaluate_recovery_stay hMode hBreach hFew]
            refine ⟨.inl (Nat.le_max_left ..), .inr ?_⟩
            simp only [increment?, hMode, hBreach]
          · rw [evaluate_recovery_pass hMode hBreach hFew]
            exact counted_enter nofun
  | lockdown =>
      rw [evaluate_lockdown hMode]
      exact counted_self _

theorem counted_perform (c : Controller) (operation : Operation) :
    Counted c (c.perform operation).1 (c.increment? operation) := by
  cases operation with
  | evaluate summary => exact c.counted_evaluate summary
  | signalCritical reason triggers =>
      show Counted c (c.signalCritical reason triggers).1 none
      by_cases hMode : c.mode = .lockdown
      · rw [signalCritical_lockdown hMode]
        exact counted_self _
      · rw [signalCritical_of_ne hMode]
        exact counted_enter nofun
  | triggerRecovery reason =>
      cases hChange : c.mode.canChange .recovery with
      | false =>
          rw [perform_triggerRecovery_refused hChange]
          exact counted_self _
      | true =>
          rw [perform_triggerRecovery_of_canChange hChange]
          exact counted_enter nofun

/-! ## What ends the counts -/

/-- An increment stays within 32 bits, unless nothing ends the count. -/
theorem Agrees.limit_lt_iff {past : List Event} (h : Agrees settings c past)
    (hFits : settings.Fits) {operation : Operation} {n : Nat}
    (hIncrement : c.increment? operation = some n) :
    counterLimit < n ↔ settings.recoveryAfterClear = 0 ∧ c.mode = .degraded ∧
      counterLimit ≤ clearCount past := by
  obtain ⟨hDegrade, hRecover, hChecks⟩ := hFits
  have hSmall : 2 ≤ counterLimit := by decide
  unfold increment? at hIncrement
  split at hIncrement
  · split at hIncrement
    · next hMode _ =>
        obtain ⟨-, -, hFew⟩ := h.alert hMode
        cases hIncrement
        refine iff_of_false (by omega) ?_
        rw [hMode]
        exact fun hAt => nomatch hAt.2.1
    · next hMode _ =>
        obtain ⟨hCount, hFew⟩ := h.degraded hMode
        cases hIncrement
        simp only [hMode, true_and]
        omega
    · next hMode _ =>
        obtain ⟨-, hFew⟩ := h.recovery hMode
        cases hIncrement
        refine iff_of_false (by omega) ?_
        rw [hMode]
        exact fun hAt => nomatch hAt.2.1
    · cases hIncrement
  · cases hIncrement

/-- If no increment leaves 32 bits no counter does. -/
theorem counters_le_limit (h : ∀ operations operation n,
      ((make settings).run operations).increment? operation = some n → n ≤ counterLimit)
    (operations : List Operation) :
    ((make settings).run operations).breachStreak ≤ counterLimit ∧
      ((make settings).run operations).clearStreak ≤ counterLimit := by
  -- along the run from its end
  induction operations using List.reverseRecOn with
  | nil => exact ⟨Nat.zero_le _, Nat.zero_le _⟩
  | append_singleton before operation ih =>
      obtain ⟨hBreach, hClear⟩ := counted_perform ((make settings).run before) operation
      rw [run_append]
      constructor
      · rcases hBreach with hLe | hIncrement
        · exact Nat.le_trans hLe (Nat.max_le.mpr ⟨ih.1, by decide⟩)
        · exact h before operation _ hIncrement
      · rcases hClear with hLe | hIncrement
        · exact Nat.le_trans hLe ih.2
        · exact h before operation _ hIncrement

/-! ## A count that nothing ends -/

/-- The evaluation of a task in which a measurement was above its ceiling. -/
def breach : Operation :=
  .evaluate { Metric.Summary.empty 1.0 with
    violations := [⟨Metric.cpuPercent, 97.0, 85.0, .normal⟩] }

/-- The evaluation of a task in which none was. -/
def calm : Operation :=
  .evaluate (.empty 1.0)

/-- Breaches that go on degrade. -/
theorem exists_run_degraded (hMode : c.mode = .alert) :
    ∃ n, (c.run (List.replicate n breach)).mode = .degraded := by
  -- by how many breaches are left until then
  induction hLeft : c.degradeAfter - c.breachStreak using Nat.strong_induction_on
    generalizing c with
  | _ left ih =>
      by_cases hFew : c.breachStreak + 1 < c.degradeAfter
      · have hStep : (c.perform breach).1 = { c with breachStreak := c.breachStreak + 1 } :=
          congrArg Prod.fst (evaluate_alert_stay hMode rfl hFew)
        obtain ⟨n, hn⟩ := ih (c.degradeAfter - (c.breachStreak + 1)) (by omega)
          (c := { c with breachStreak := c.breachStreak + 1 }) hMode rfl
        refine ⟨n + 1, ?_⟩
        rw [List.replicate_succ]
        show ((c.perform breach).1.run (List.replicate n breach)).mode = .degraded
        rw [hStep]
        exact hn
      · exact ⟨1, congrArg (fun answered => answered.1.mode)
          (evaluate_alert_degrade hMode rfl hFew)⟩

/-- Where degraded operation does not recover by itself, clear evaluations are counted on and
on. -/
theorem run_calm (hMode : c.mode = .degraded) (hZero : c.recoverAfter = 0) (n : Nat) :
    c.run (List.replicate n calm) = { c with clearStreak := c.clearStreak + n } := by
  induction n generalizing c with
  | zero => rfl
  | succ n ih =>
      have hStep : (c.perform calm).1 = { c with clearStreak := c.clearStreak + 1 } :=
        congrArg Prod.fst (evaluate_degraded_stay hMode rfl (.inl hZero))
      have hRest := ih (c := { c with clearStreak := c.clearStreak + 1 }) hMode hZero
      rw [List.replicate_succ]
      show (c.perform calm).1.run (List.replicate n calm) = _
      rw [hStep, hRest, Nat.add_right_comm, Nat.add_assoc]

theorem increment?_calm (hMode : c.mode = .degraded) :
    c.increment? calm = some (c.clearStreak + 1) := by
  have hCalm : (Metric.Summary.empty 1.0).isBreach = false := rfl
  simp only [increment?, calm, hMode, hCalm]

/-- No limit is enough for a count that nothing ends. -/
theorem exists_increment_gt (hZero : settings.recoveryAfterClear = 0) (limit : Nat) :
    ∃ operations operation n,
      ((make settings).run operations).increment? operation = some n ∧ limit < n := by
  have hAlert : ((make settings).run [breach]).mode = .alert := rfl
  obtain ⟨k, hDegraded⟩ := exists_run_degraded hAlert
  rw [← run_append] at hDegraded
  have hNever : ((make settings).run ([breach] ++ List.replicate k breach)).recoverAfter = 0 :=
    (agrees_past settings _).recoverAfter.trans hZero
  refine ⟨([breach] ++ List.replicate k breach) ++ List.replicate limit calm, calm, _,
    increment?_calm ?_, ?_⟩
  · rw [run_append, run_calm hDegraded hNever]
    exact hDegraded
  · rw [run_append, run_calm hDegraded hNever]
    show limit < _ + limit + 1
    omega

/-- With settings of 32 bits no increment of a counter leaves 32 bits, in any run, exactly if a
number of clear evaluations ends degraded operation; and then no counter ever does.  Otherwise the
increments that do are those in degraded operation after so many clear evaluations in a row. -/
theorem counters_fit_iff (settings : Settings) (hFits : settings.Fits) :
    ((∀ operations operation n,
        ((make settings).run operations).increment? operation = some n → n ≤ counterLimit) ↔
      0 < settings.recoveryAfterClear) ∧
    (0 < settings.recoveryAfterClear → ∀ operations,
      ((make settings).run operations).breachStreak ≤ counterLimit ∧
        ((make settings).run operations).clearStreak ≤ counterLimit) ∧
    ∀ operations operation n, ((make settings).run operations).increment? operation = some n →
      (counterLimit < n ↔ settings.recoveryAfterClear = 0 ∧
        ((make settings).run operations).mode = .degraded ∧
          counterLimit ≤ clearCount (past settings operations)) := by
  have hLimit (operations : List Operation) (operation : Operation) (n : Nat)
      (hIncrement : ((make settings).run operations).increment? operation = some n) :=
    (agrees_past settings operations).limit_lt_iff hFits hIncrement
  have hWithin (hPositive : 0 < settings.recoveryAfterClear) (operations : List Operation)
      (operation : Operation) (n : Nat)
      (hIncrement : ((make settings).run operations).increment? operation = some n) :
      n ≤ counterLimit := by
    refine Nat.not_lt.mp fun hBeyond => ?_
    have hZero := ((hLimit operations operation n hIncrement).mp hBeyond).1
    omega
  refine ⟨⟨fun hAll => ?_, hWithin⟩, fun hPositive => counters_le_limit (hWithin hPositive),
    hLimit⟩
  refine Nat.pos_of_ne_zero fun hZero => ?_
  obtain ⟨operations, operation, n, hIncrement, hBeyond⟩ := exists_increment_gt hZero counterLimit
  exact Nat.not_lt.mpr (hAll operations operation n hIncrement) hBeyond

/-- Settings with the greatest numbers, under which degraded operation does not recover by
itself. -/
def unending : Settings :=
  ⟨counterLimit, 0, counterLimit, .default⟩

theorem unending_counters_do_not_fit :
    unending.Fits ∧ ¬ ∀ operations operation n,
      ((make unending).run operations).increment? operation = some n → n ≤ counterLimit := by
  have hFits : unending.Fits := ⟨Nat.le_refl _, Nat.zero_le _, Nat.le_refl _⟩
  exact ⟨hFits, fun hAll => Nat.lt_irrefl 0 ((counters_fit_iff unending hFits).1.mp hAll)⟩

/-- After two breaches and as many clear evaluations as 32 bits can count, one more is one too
many. -/
theorem clear_count_leaves_limit :
    ((make ⟨1, 0, 1, .default⟩).run
        ([breach, breach] ++ List.replicate 4294967295 calm)).increment? calm =
      some 4294967296 := by
  have hDegraded : ((make ⟨1, 0, 1, .default⟩).run [breach, breach]).mode = .degraded := rfl
  have hRun := run_calm hDegraded rfl 4294967295
  have hMode : ((make ⟨1, 0, 1, .default⟩).run
      ([breach, breach] ++ List.replicate 4294967295 calm)).mode = .degraded := by
    rw [run_append, hRun]
    exact hDegraded
  rw [increment?_calm hMode, run_append, hRun]
  rfl

end Controller

end SteadyTask.Mode
