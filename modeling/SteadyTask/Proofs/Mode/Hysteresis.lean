import SteadyTask.Proofs.Mode.Steps

/-!
# Counters and history

The controller keeps two counters.  What they count can be said without them, from the history of
what was done and which modes it led through: how many breaches in a row have come since the
evaluation that entered alert, that one included, and how many clear evaluations in a row have come
since the current mode was entered.  A rule on that history says to which mode an evaluation leads,
and the counters decide exactly as the rule does, in every run from the start.

So nothing else of the past has an influence: two runs that end in the same mode with the same
counts go on alike, whatever was done, refused or without effect before.

Counters have no upper limit here.
-/

namespace SteadyTask.Mode

/-! ## The history -/

/-- Something that was done, with the mode before and after it. -/
structure Event where
  operation : Controller.Operation
  source : Mode
  target : Mode

namespace Event

/-- An evaluation. -/
def isEvaluation (e : Event) : Bool :=
  match e.operation with
  | .evaluate _ => true
  | _ => false

/-- An evaluation with violations. -/
def isBreach (e : Event) : Bool :=
  match e.operation with
  | .evaluate summary => !summary.violations.isEmpty
  | _ => false

/-- An evaluation without violations. -/
def isClear (e : Event) : Bool :=
  match e.operation with
  | .evaluate summary => summary.violations.isEmpty
  | _ => false

/-- The mode did not change. -/
def stays (e : Event) : Bool :=
  e.source = e.target

end Event

/-- What was done since the current mode was entered, the latest first. -/
def sinceEntering (past : List Event) : List Event :=
  past.takeWhile Event.stays

/-- What was done since the current mode was entered, with what entered it, the latest first. -/
def fromEntering (past : List Event) : List Event :=
  past.take ((sinceEntering past).length + 1)

/-- How many breaches have come in a row, from the evaluation on that entered the mode. -/
def breachCount (past : List Event) : Nat :=
  (((fromEntering past).filter Event.isEvaluation).takeWhile Event.isBreach).length

/-- How many clear evaluations have come in a row since the mode was entered. -/
def clearCount (past : List Event) : Nat :=
  (((sinceEntering past).filter Event.isEvaluation).takeWhile Event.isClear).length

/-- The mode that a history has led to. -/
def modeAfter : List Event → Mode
  | [] => .normal
  | e :: _ => e.target

/-- The mode that an evaluation leads to after a history. -/
def historyRule (settings : Settings) (past : List Event) (breach : Bool) : Mode :=
  match modeAfter past, breach with
  | .normal, true => .alert
  | .normal, false => .normal
  | .alert, true =>
    if breachCount past + 1 = max 2 settings.degradeAfterBreaches then .degraded else .alert
  | .alert, false => .normal
  | .degraded, true => .degraded
  | .degraded, false =>
    if 0 < settings.recoveryAfterClear ∧ clearCount past + 1 = settings.recoveryAfterClear then
      .recovery
    else .degraded
  | .recovery, true => .recovery
  | .recovery, false =>
    if clearCount past + 1 = max 1 settings.recoveryChecks then .normal else .recovery
  | .lockdown, _ => .lockdown

section Counts

variable {e : Event} {past : List Event}

theorem sinceEntering_cons_of_stays (h : e.stays = true) :
    sinceEntering (e :: past) = e :: sinceEntering past :=
  List.takeWhile_cons_of_pos h

theorem sinceEntering_cons_of_changes (h : e.stays = false) : sinceEntering (e :: past) = [] :=
  List.takeWhile_cons_of_neg (by simp [h])

theorem fromEntering_cons_of_stays (h : e.stays = true) :
    fromEntering (e :: past) = e :: fromEntering past := by
  rw [fromEntering, sinceEntering_cons_of_stays h, List.length_cons, List.take_succ_cons]
  rfl

theorem fromEntering_cons_of_changes (h : e.stays = false) : fromEntering (e :: past) = [e] := by
  rw [fromEntering, sinceEntering_cons_of_changes h]
  rfl

/-- The evaluation that enters a mode with a breach counts as the first. -/
theorem breachCount_cons_entering (hStays : e.stays = false) (hEvaluation : e.isEvaluation = true)
    (hBreach : e.isBreach = true) : breachCount (e :: past) = 1 := by
  simp [breachCount, fromEntering_cons_of_changes hStays, hEvaluation, hBreach]

theorem clearCount_cons_entering (hStays : e.stays = false) : clearCount (e :: past) = 0 := by
  simp [clearCount, sinceEntering_cons_of_changes hStays]

/-- What is no evaluation and changes nothing does not count. -/
theorem breachCount_cons_other (hStays : e.stays = true) (hEvaluation : e.isEvaluation = false) :
    breachCount (e :: past) = breachCount past := by
  simp [breachCount, fromEntering_cons_of_stays hStays, hEvaluation]

theorem clearCount_cons_other (hStays : e.stays = true) (hEvaluation : e.isEvaluation = false) :
    clearCount (e :: past) = clearCount past := by
  simp [clearCount, sinceEntering_cons_of_stays hStays, hEvaluation]

variable {summary : Metric.Summary} (m : Mode)

theorem stays_self (operation : Controller.Operation) : (⟨operation, m, m⟩ : Event).stays = true :=
  decide_eq_true rfl

theorem breachCount_cons_breach (hBreach : summary.isBreach = true) :
    breachCount (⟨.evaluate summary, m, m⟩ :: past) = breachCount past + 1 := by
  have hEvent : (⟨.evaluate summary, m, m⟩ : Event).isBreach = true := hBreach
  rw [breachCount, fromEntering_cons_of_stays (stays_self m _), List.filter_cons_of_pos (by rfl),
    List.takeWhile_cons_of_pos hEvent]
  rfl

theorem clearCount_cons_clear (hBreach : summary.isBreach = false) :
    clearCount (⟨.evaluate summary, m, m⟩ :: past) = clearCount past + 1 := by
  have hEvent : (⟨.evaluate summary, m, m⟩ : Event).isClear = true := by
    simpa [Event.isClear, Metric.Summary.isBreach] using hBreach
  rw [clearCount, sinceEntering_cons_of_stays (stays_self m _), List.filter_cons_of_pos (by rfl),
    List.takeWhile_cons_of_pos hEvent]
  rfl

/-- A breach starts the count of clear evaluations anew. -/
theorem clearCount_cons_breach (hBreach : summary.isBreach = true) :
    clearCount (⟨.evaluate summary, m, m⟩ :: past) = 0 := by
  have hEvent : (⟨.evaluate summary, m, m⟩ : Event).isClear = false := by
    simpa [Event.isClear, Metric.Summary.isBreach] using hBreach
  rw [clearCount, sinceEntering_cons_of_stays (stays_self m _), List.filter_cons_of_pos (by rfl),
    List.takeWhile_cons_of_neg (by rw [hEvent]; decide)]
  rfl

end Counts

namespace Controller

/-- An operation as an event. -/
def event (c : Controller) (operation : Operation) : Event :=
  ⟨operation, c.mode, (c.perform operation).1.mode⟩

/-- The events of operations, the first one first. -/
def events (c : Controller) : List Operation → List Event
  | [] => []
  | operation :: rest => c.event operation :: events (c.perform operation).1 rest

/-- The history of a controller that started with given settings, the latest first. -/
def past (settings : Settings) (operations : List Operation) : List Event :=
  (events (make settings) operations).reverse

/-! ## The counters count what the history says -/

/-- A controller with given settings stands where a history has led to, and its counters hold what
the history counts.  The counters stay below the numbers at which the mode changes. -/
structure Agrees (settings : Settings) (c : Controller) (past : List Event) : Prop where
  mode : c.mode = modeAfter past
  degradeAfter : c.degradeAfter = max settings.degradeAfterBreaches 1
  recoverAfter : c.recoverAfter = settings.recoveryAfterClear
  checks : c.checks = max settings.recoveryChecks 1
  alert : c.mode = .alert → c.breachStreak = breachCount past ∧ 1 ≤ c.breachStreak ∧
    c.breachStreak < max 2 settings.degradeAfterBreaches
  degraded : c.mode = .degraded → c.clearStreak = clearCount past ∧
    (0 < settings.recoveryAfterClear → c.clearStreak < settings.recoveryAfterClear)
  recovery : c.mode = .recovery → c.clearStreak = clearCount past ∧
    c.clearStreak < max 1 settings.recoveryChecks

namespace Agrees

variable {settings : Settings} {c : Controller} {past : List Event}

theorem make (settings : Settings) : Agrees settings (Controller.make settings) [] :=
  ⟨rfl, rfl, rfl, rfl, nofun, nofun, nofun⟩

/-- A change of mode starts both counts anew; only alert is entered with a breach that counts. -/
theorem enter (counted : Controller) (h : Agrees settings c past)
    (hDegrade : counted.degradeAfter = c.degradeAfter)
    (hRecover : counted.recoverAfter = c.recoverAfter) (hChecks : counted.checks = c.checks)
    {t : Transition} {operation : Operation} (hSource : c.mode ≠ t.target)
    (hAlert : t.target = .alert → counted.breachStreak = 1 ∧
      (⟨operation, c.mode, t.target⟩ : Event).isEvaluation = true ∧
      (⟨operation, c.mode, t.target⟩ : Event).isBreach = true) :
    Agrees settings (counted.enter t) (⟨operation, c.mode, t.target⟩ :: past) := by
  have hStays : (⟨operation, c.mode, t.target⟩ : Event).stays = false := decide_eq_false hSource
  -- of the counters only that of the mode entered is read there
  refine ⟨rfl, hDegrade.trans h.degradeAfter, hRecover.trans h.recoverAfter,
    hChecks.trans h.checks, ?_, ?_, ?_⟩
  · intro hMode
    have hEntered : t.target = .alert := hMode
    obtain ⟨hOne, hEvaluation, hBreach⟩ := hAlert hEntered
    rw [enter_breachStreak, if_pos hEntered, hOne,
      breachCount_cons_entering hStays hEvaluation hBreach]
    omega
  · intro _
    rw [enter_clearStreak, clearCount_cons_entering hStays]
    omega
  · intro _
    rw [enter_clearStreak, clearCount_cons_entering hStays]
    omega

/-- What is no evaluation and changes nothing leaves the agreement as it is. -/
theorem other (h : Agrees settings c past) {operation : Operation}
    (hEvaluation : (⟨operation, c.mode, c.mode⟩ : Event).isEvaluation = false) :
    Agrees settings c (⟨operation, c.mode, c.mode⟩ :: past) := by
  have hStays : (⟨operation, c.mode, c.mode⟩ : Event).stays = true := stays_self _ _
  refine ⟨rfl, h.degradeAfter, h.recoverAfter, h.checks, ?_, ?_, ?_⟩
  · rw [breachCount_cons_other hStays hEvaluation]
    exact h.alert
  · rw [clearCount_cons_other hStays hEvaluation]
    exact h.degraded
  · rw [clearCount_cons_other hStays hEvaluation]
    exact h.recovery

/-- An evaluation that keeps the mode leaves an agreement if the counter of that mode agrees. -/
theorem stay (counted : Controller) (h : Agrees settings c past)
    (hMode : counted.mode = c.mode) (hDegrade : counted.degradeAfter = c.degradeAfter)
    (hRecover : counted.recoverAfter = c.recoverAfter) (hChecks : counted.checks = c.checks)
    {operation : Operation}
    (hAlert : c.mode = .alert →
      counted.breachStreak = breachCount (⟨operation, c.mode, c.mode⟩ :: past) ∧
      1 ≤ counted.breachStreak ∧ counted.breachStreak < max 2 settings.degradeAfterBreaches)
    (hDegraded : c.mode = .degraded →
      counted.clearStreak = clearCount (⟨operation, c.mode, c.mode⟩ :: past) ∧
      (0 < settings.recoveryAfterClear → counted.clearStreak < settings.recoveryAfterClear))
    (hRecovery : c.mode = .recovery →
      counted.clearStreak = clearCount (⟨operation, c.mode, c.mode⟩ :: past) ∧
      counted.clearStreak < max 1 settings.recoveryChecks) :
    Agrees settings counted (⟨operation, c.mode, c.mode⟩ :: past) :=
  ⟨hMode, hDegrade.trans h.degradeAfter, hRecover.trans h.recoverAfter,
    hChecks.trans h.checks, fun hAt => hAlert (hMode.symm.trans hAt),
    fun hAt => hDegraded (hMode.symm.trans hAt), fun hAt => hRecovery (hMode.symm.trans hAt)⟩

/-- In one mode nothing is said about the counters of another. -/
theorem of_otherMode {m other : Mode} {p : Prop} (hMode : c.mode = m) (hNe : m ≠ other) :
    c.mode = other → p :=
  fun hAt => absurd (hMode.symm.trans hAt) hNe

theorem evaluate_normal (h : Agrees settings c past) (hMode : c.mode = .normal)
    (summary : Metric.Summary) :
    Agrees settings (c.evaluate summary).1
      (⟨.evaluate summary, c.mode, (c.evaluate summary).1.mode⟩ :: past) := by
  cases hBreach : summary.isBreach with
  | true =>
      rw [evaluate_normal_breach hMode hBreach]
      refine h.enter { c with breachStreak := 1 } rfl rfl rfl ?_ ?_
      · rw [hMode]
        exact nofun
      · exact fun _ => ⟨rfl, rfl, hBreach⟩
  | false =>
      rw [evaluate_normal_clear hMode hBreach]
      refine h.stay c rfl rfl rfl rfl ?_ ?_ ?_
      · exact of_otherMode hMode (by decide)
      · exact of_otherMode hMode (by decide)
      · exact of_otherMode hMode (by decide)

/-- On alert a further breach counts, until the one that degrades. -/
theorem evaluate_alert (h : Agrees settings c past) (hMode : c.mode = .alert)
    (summary : Metric.Summary) :
    Agrees settings (c.evaluate summary).1
      (⟨.evaluate summary, c.mode, (c.evaluate summary).1.mode⟩ :: past) := by
  cases hBreach : summary.isBreach with
  | false =>
      rw [evaluate_alert_clear hMode hBreach]
      refine h.enter c rfl rfl rfl ?_ ?_
      · rw [hMode]
        exact nofun
      · exact nofun
  | true =>
      -- the counter is below the number, so this breach reaches it or stays below
      by_cases hFew : c.breachStreak + 1 < c.degradeAfter
      · rw [evaluate_alert_stay hMode hBreach hFew]
        refine h.stay { c with breachStreak := c.breachStreak + 1 } rfl rfl rfl rfl ?_ ?_ ?_
        · intro _
          obtain ⟨hCount, -, -⟩ := h.alert hMode
          have hDegrade := h.degradeAfter
          rw [breachCount_cons_breach c.mode hBreach]
          refine ⟨congrArg (· + 1) hCount, by simp, ?_⟩
          show c.breachStreak + 1 < _
          omega
        · exact of_otherMode hMode (by decide)
        · exact of_otherMode hMode (by decide)
      · rw [evaluate_alert_degrade hMode hBreach hFew]
        refine h.enter { c with breachStreak := c.breachStreak + 1 } rfl rfl rfl ?_ ?_
        · rw [hMode]
          exact nofun
        · exact nofun

/-- In degraded operation a clear evaluation counts, until the one that recovers. -/
theorem evaluate_degraded (h : Agrees settings c past) (hMode : c.mode = .degraded)
    (summary : Metric.Summary) :
    Agrees settings (c.evaluate summary).1
      (⟨.evaluate summary, c.mode, (c.evaluate summary).1.mode⟩ :: past) := by
  cases hBreach : summary.isBreach with
  | true =>
      rw [evaluate_degraded_breach hMode hBreach]
      refine h.stay { c with clearStreak := 0 } rfl rfl rfl rfl ?_ ?_ ?_
      · exact of_otherMode hMode (by decide)
      · intro _
        rw [clearCount_cons_breach c.mode hBreach]
        exact ⟨rfl, id⟩
      · exact of_otherMode hMode (by decide)
  | false =>
      -- a number of zero is never reached
      by_cases hFew : c.recoverAfter = 0 ∨ c.clearStreak + 1 < c.recoverAfter
      · rw [evaluate_degraded_stay hMode hBreach hFew]
        refine h.stay { c with clearStreak := c.clearStreak + 1 } rfl rfl rfl rfl ?_ ?_ ?_
        · exact of_otherMode hMode (by decide)
        · intro _
          obtain ⟨hCount, -⟩ := h.degraded hMode
          have hRecover := h.recoverAfter
          rw [clearCount_cons_clear c.mode hBreach]
          refine ⟨congrArg (· + 1) hCount, ?_⟩
          intro hPositive
          show c.clearStreak + 1 < _
          omega
        · exact of_otherMode hMode (by decide)
      · rw [evaluate_degraded_recover hMode hBreach hFew]
        refine h.enter { c with clearStreak := c.clearStreak + 1 } rfl rfl rfl ?_ ?_
        · rw [hMode]
          exact nofun
        · exact nofun

/-- In recovery a clear evaluation counts, until the one that ends it. -/
theorem evaluate_recovery (h : Agrees settings c past) (hMode : c.mode = .recovery)
    (summary : Metric.Summary) :
    Agrees settings (c.evaluate summary).1
      (⟨.evaluate summary, c.mode, (c.evaluate summary).1.mode⟩ :: past) := by
  cases hBreach : summary.isBreach with
  | true =>
      rw [evaluate_recovery_breach hMode hBreach]
      refine h.stay { c with clearStreak := 0 } rfl rfl rfl rfl ?_ ?_ ?_
      · exact of_otherMode hMode (by decide)
      · exact of_otherMode hMode (by decide)
      · intro _
        rw [clearCount_cons_breach c.mode hBreach]
        refine ⟨rfl, ?_⟩
        show 0 < _
        omega
  | false =>
      by_cases hFew : c.clearStreak + 1 < c.checks
      · rw [evaluate_recovery_stay hMode hBreach hFew]
        refine h.stay { c with clearStreak := c.clearStreak + 1 } rfl rfl rfl rfl ?_ ?_ ?_
        · exact of_otherMode hMode (by decide)
        · exact of_otherMode hMode (by decide)
        · intro _
          obtain ⟨hCount, -⟩ := h.recovery hMode
          have hChecks := h.checks
          rw [clearCount_cons_clear c.mode hBreach]
          refine ⟨congrArg (· + 1) hCount, ?_⟩
          show c.clearStreak + 1 < _
          omega
      · rw [evaluate_recovery_pass hMode hBreach hFew]
        refine h.enter { c with clearStreak := c.clearStreak + 1 } rfl rfl rfl ?_ ?_
        · rw [hMode]
          exact nofun
        · exact nofun

theorem evaluate_lockdown (h : Agrees settings c past) (hMode : c.mode = .lockdown)
    (summary : Metric.Summary) :
    Agrees settings (c.evaluate summary).1
      (⟨.evaluate summary, c.mode, (c.evaluate summary).1.mode⟩ :: past) := by
  rw [Controller.evaluate_lockdown hMode]
  refine h.stay c rfl rfl rfl rfl ?_ ?_ ?_
  · exact of_otherMode hMode (by decide)
  · exact of_otherMode hMode (by decide)
  · exact of_otherMode hMode (by decide)

/-- Every operation keeps counters and history in agreement. -/
theorem perform (h : Agrees settings c past) (operation : Operation) :
    Agrees settings (c.perform operation).1 (c.event operation :: past) := by
  cases operation with
  | evaluate summary =>
      cases hMode : c.mode with
      | normal => exact h.evaluate_normal hMode summary
      | alert => exact h.evaluate_alert hMode summary
      | degraded => exact h.evaluate_degraded hMode summary
      | recovery => exact h.evaluate_recovery hMode summary
      | lockdown => exact h.evaluate_lockdown hMode summary
  | signalCritical reason triggers =>
      have hStep :
          c.perform (.signalCritical reason triggers) = c.signalCritical reason triggers := rfl
      by_cases hMode : c.mode = .lockdown
      · rw [event, hStep, signalCritical_lockdown hMode]
        exact h.other rfl
      · rw [event, hStep, signalCritical_of_ne hMode]
        refine h.enter c rfl rfl rfl hMode ?_
        exact nofun
  | triggerRecovery reason =>
      cases hChange : c.mode.canChange .recovery with
      | false =>
          rw [event, perform_triggerRecovery_refused hChange]
          exact h.other rfl
      | true =>
          have hMode : c.mode ≠ .recovery := by
            intro hAt
            rw [hAt] at hChange
            cases hChange
          rw [event, perform_triggerRecovery_of_canChange hChange]
          refine h.enter c rfl rfl rfl hMode ?_
          exact nofun

/-- Over a whole run the counters agree with the history. -/
theorem run (h : Agrees settings c past) (operations : List Operation) :
    Agrees settings (c.run operations) ((c.events operations).reverse ++ past) := by
  -- from any agreement on, since the history grows at the front
  induction operations generalizing c past with
  | nil => exact h
  | cons operation rest ih =>
      have hRest := ih (h.perform operation)
      rw [events, List.reverse_cons, List.append_assoc, List.singleton_append]
      exact hRest

end Agrees

/-! ## Decisions -/

/-- What a controller answers to operations, one after another. -/
def decisions (c : Controller) : List Operation → List (Option Transition)
  | [] => []
  | operation :: rest => (c.perform operation).2 :: decisions (c.perform operation).1 rest

/-- A controller that knows of its past no more than a mode and two counts. -/
def ofCounts (settings : Settings) (mode : Mode) (breaches clears : Nat) : Controller :=
  { make settings with
    status := ⟨mode, none, []⟩
    breachStreak := breaches
    clearStreak := clears }

/-- Two controllers in one mode, with equal settings and with equal counters where the mode reads
them. -/
structure Alike (c d : Controller) : Prop where
  mode : c.mode = d.mode
  degradeAfter : c.degradeAfter = d.degradeAfter
  recoverAfter : c.recoverAfter = d.recoverAfter
  checks : c.checks = d.checks
  alert : c.mode = .alert → c.breachStreak = d.breachStreak
  clear : c.mode = .degraded ∨ c.mode = .recovery → c.clearStreak = d.clearStreak

namespace Alike

variable {c d : Controller}

/-- The same change keeps controllers alike. -/
theorem enter {c' d' : Controller} (h : Alike c d) (hc : c'.degradeAfter = c.degradeAfter ∧
    c'.recoverAfter = c.recoverAfter ∧ c'.checks = c.checks)
    (hd : d'.degradeAfter = d.degradeAfter ∧ d'.recoverAfter = d.recoverAfter ∧
      d'.checks = d.checks) {t : Transition}
    (hAlert : t.target = .alert → c'.breachStreak = d'.breachStreak) :
    Alike (c'.enter t) (d'.enter t) := by
  obtain ⟨hc₁, hc₂, hc₃⟩ := hc
  obtain ⟨hd₁, hd₂, hd₃⟩ := hd
  refine ⟨rfl, hc₁.trans (h.degradeAfter.trans hd₁.symm), hc₂.trans (h.recoverAfter.trans hd₂.symm),
    hc₃.trans (h.checks.trans hd₃.symm), ?_, fun _ => rfl⟩
  intro hMode
  have hEntered : t.target = .alert := hMode
  rw [enter_breachStreak, enter_breachStreak, if_pos hEntered, if_pos hEntered, hAlert hEntered]

/-- Counters that the mode reads keep controllers alike if they change alike. -/
theorem stay {c' d' : Controller} (h : Alike c d) (hMode : c'.mode = c.mode)
    (hMode' : d'.mode = d.mode)
    (hc : c'.degradeAfter = c.degradeAfter ∧ c'.recoverAfter = c.recoverAfter ∧
      c'.checks = c.checks)
    (hd : d'.degradeAfter = d.degradeAfter ∧ d'.recoverAfter = d.recoverAfter ∧
      d'.checks = d.checks)
    (hAlert : c.mode = .alert → c'.breachStreak = d'.breachStreak)
    (hClear : c.mode = .degraded ∨ c.mode = .recovery → c'.clearStreak = d'.clearStreak) :
    Alike c' d' := by
  obtain ⟨hc₁, hc₂, hc₃⟩ := hc
  obtain ⟨hd₁, hd₂, hd₃⟩ := hd
  exact ⟨hMode.trans (h.mode.trans hMode'.symm), hc₁.trans (h.degradeAfter.trans hd₁.symm),
    hc₂.trans (h.recoverAfter.trans hd₂.symm), hc₃.trans (h.checks.trans hd₃.symm),
    fun hAt => hAlert (hMode.symm.trans hAt), fun hAt => hClear (hMode ▸ hAt)⟩

theorem evaluate_alert (h : Alike c d) (hMode : c.mode = .alert) (summary : Metric.Summary) :
    (c.evaluate summary).2 = (d.evaluate summary).2 ∧
      Alike (c.evaluate summary).1 (d.evaluate summary).1 := by
  have hMode' : d.mode = .alert := h.mode.symm.trans hMode
  have hStreak := h.alert hMode
  cases hBreach : summary.isBreach with
  | false =>
      rw [evaluate_alert_clear hMode hBreach, evaluate_alert_clear hMode' hBreach]
      exact ⟨rfl, h.enter ⟨rfl, rfl, rfl⟩ ⟨rfl, rfl, rfl⟩ nofun⟩
  | true =>
      by_cases hFew : c.breachStreak + 1 < c.degradeAfter
      · have hFew' : d.breachStreak + 1 < d.degradeAfter := hStreak ▸ h.degradeAfter ▸ hFew
        rw [evaluate_alert_stay hMode hBreach hFew, evaluate_alert_stay hMode' hBreach hFew']
        refine ⟨rfl, h.stay rfl rfl ⟨rfl, rfl, rfl⟩ ⟨rfl, rfl, rfl⟩ ?_ h.clear⟩
        exact fun _ => congrArg (· + 1) hStreak
      · have hMany : ¬ d.breachStreak + 1 < d.degradeAfter := hStreak ▸ h.degradeAfter ▸ hFew
        rw [evaluate_alert_degrade hMode hBreach hFew, evaluate_alert_degrade hMode' hBreach hMany,
          ← hStreak]
        exact ⟨rfl, h.enter ⟨rfl, rfl, rfl⟩ ⟨rfl, rfl, rfl⟩ nofun⟩

theorem evaluate_degraded (h : Alike c d) (hMode : c.mode = .degraded) (summary : Metric.Summary) :
    (c.evaluate summary).2 = (d.evaluate summary).2 ∧
      Alike (c.evaluate summary).1 (d.evaluate summary).1 := by
  have hMode' : d.mode = .degraded := h.mode.symm.trans hMode
  have hStreak := h.clear (Or.inl hMode)
  cases hBreach : summary.isBreach with
  | true =>
      rw [evaluate_degraded_breach hMode hBreach, evaluate_degraded_breach hMode' hBreach]
      exact ⟨rfl, h.stay rfl rfl ⟨rfl, rfl, rfl⟩ ⟨rfl, rfl, rfl⟩ h.alert fun _ => rfl⟩
  | false =>
      by_cases hFew : c.recoverAfter = 0 ∨ c.clearStreak + 1 < c.recoverAfter
      · have hFew' : d.recoverAfter = 0 ∨ d.clearStreak + 1 < d.recoverAfter :=
          hStreak ▸ h.recoverAfter ▸ hFew
        rw [evaluate_degraded_stay hMode hBreach hFew, evaluate_degraded_stay hMode' hBreach hFew']
        refine ⟨rfl, h.stay rfl rfl ⟨rfl, rfl, rfl⟩ ⟨rfl, rfl, rfl⟩ h.alert ?_⟩
        exact fun _ => congrArg (· + 1) hStreak
      · have hMany : ¬ (d.recoverAfter = 0 ∨ d.clearStreak + 1 < d.recoverAfter) :=
          hStreak ▸ h.recoverAfter ▸ hFew
        rw [evaluate_degraded_recover hMode hBreach hFew,
          evaluate_degraded_recover hMode' hBreach hMany, ← hStreak]
        exact ⟨rfl, h.enter ⟨rfl, rfl, rfl⟩ ⟨rfl, rfl, rfl⟩ nofun⟩

theorem evaluate_recovery (h : Alike c d) (hMode : c.mode = .recovery) (summary : Metric.Summary) :
    (c.evaluate summary).2 = (d.evaluate summary).2 ∧
      Alike (c.evaluate summary).1 (d.evaluate summary).1 := by
  have hMode' : d.mode = .recovery := h.mode.symm.trans hMode
  have hStreak := h.clear (Or.inr hMode)
  cases hBreach : summary.isBreach with
  | true =>
      rw [evaluate_recovery_breach hMode hBreach, evaluate_recovery_breach hMode' hBreach]
      exact ⟨rfl, h.stay rfl rfl ⟨rfl, rfl, rfl⟩ ⟨rfl, rfl, rfl⟩ h.alert fun _ => rfl⟩
  | false =>
      by_cases hFew : c.clearStreak + 1 < c.checks
      · have hFew' : d.clearStreak + 1 < d.checks := hStreak ▸ h.checks ▸ hFew
        rw [evaluate_recovery_stay hMode hBreach hFew, evaluate_recovery_stay hMode' hBreach hFew']
        refine ⟨rfl, h.stay rfl rfl ⟨rfl, rfl, rfl⟩ ⟨rfl, rfl, rfl⟩ h.alert ?_⟩
        exact fun _ => congrArg (· + 1) hStreak
      · have hMany : ¬ d.clearStreak + 1 < d.checks := hStreak ▸ h.checks ▸ hFew
        rw [evaluate_recovery_pass hMode hBreach hFew, evaluate_recovery_pass hMode' hBreach hMany]
        exact ⟨rfl, h.enter ⟨rfl, rfl, rfl⟩ ⟨rfl, rfl, rfl⟩ nofun⟩

/-- Controllers that are alike answer an evaluation alike and stay alike. -/
theorem evaluate (h : Alike c d) (summary : Metric.Summary) :
    (c.evaluate summary).2 = (d.evaluate summary).2 ∧
      Alike (c.evaluate summary).1 (d.evaluate summary).1 := by
  cases hMode : c.mode with
  | normal =>
      have hMode' : d.mode = .normal := h.mode.symm.trans hMode
      cases hBreach : summary.isBreach with
      | true =>
          rw [evaluate_normal_breach hMode hBreach, evaluate_normal_breach hMode' hBreach]
          refine ⟨rfl, Alike.enter h ?_ ?_ fun _ => ?_⟩
          · exact ⟨rfl, rfl, rfl⟩
          · exact ⟨rfl, rfl, rfl⟩
          · rfl
      | false =>
          rw [evaluate_normal_clear hMode hBreach, evaluate_normal_clear hMode' hBreach]
          exact ⟨rfl, h⟩
  | alert => exact h.evaluate_alert hMode summary
  | degraded => exact h.evaluate_degraded hMode summary
  | recovery => exact h.evaluate_recovery hMode summary
  | lockdown =>
      rw [evaluate_lockdown hMode, evaluate_lockdown (h.mode.symm.trans hMode)]
      exact ⟨rfl, h⟩

/-- Controllers that are alike answer every operation alike and stay alike. -/
theorem perform (h : Alike c d) (operation : Operation) :
    (c.perform operation).2 = (d.perform operation).2 ∧
      Alike (c.perform operation).1 (d.perform operation).1 := by
  cases operation with
  | evaluate summary => exact h.evaluate summary
  | signalCritical reason triggers =>
      show (c.signalCritical reason triggers).2 = (d.signalCritical reason triggers).2 ∧
        Alike (c.signalCritical reason triggers).1 (d.signalCritical reason triggers).1
      by_cases hMode : c.mode = .lockdown
      · rw [signalCritical_lockdown hMode, signalCritical_lockdown (h.mode ▸ hMode)]
        exact ⟨rfl, h⟩
      · rw [signalCritical_of_ne hMode, signalCritical_of_ne (h.mode ▸ hMode), ← h.mode]
        exact ⟨rfl, h.enter ⟨rfl, rfl, rfl⟩ ⟨rfl, rfl, rfl⟩ nofun⟩
  | triggerRecovery reason =>
      cases hChange : c.mode.canChange .recovery with
      | false =>
          rw [perform_triggerRecovery_refused hChange,
            perform_triggerRecovery_refused (h.mode ▸ hChange)]
          exact ⟨rfl, h⟩
      | true =>
          rw [perform_triggerRecovery_of_canChange hChange,
            perform_triggerRecovery_of_canChange (h.mode ▸ hChange), ← h.mode]
          exact ⟨rfl, h.enter ⟨rfl, rfl, rfl⟩ ⟨rfl, rfl, rfl⟩ nofun⟩

/-- Controllers that are alike decide alike for ever after. -/
theorem decisions (h : Alike c d) (operations : List Operation) :
    c.decisions operations = d.decisions operations := by
  induction operations generalizing c d with
  | nil => rfl
  | cons operation rest ih =>
      obtain ⟨hAnswer, hNext⟩ := h.perform operation
      rw [Controller.decisions, Controller.decisions, hAnswer, ih hNext]

end Alike

/-- A controller that agrees with a history is like one that knows only what the history counts. -/
theorem Agrees.alike {settings : Settings} {c : Controller} {past : List Event}
    (h : Agrees settings c past) :
    Alike c (ofCounts settings (modeAfter past) (breachCount past) (clearCount past)) := by
  refine ⟨h.mode, h.degradeAfter, h.recoverAfter, h.checks, fun hMode => (h.alert hMode).1, ?_⟩
  rintro (hMode | hMode)
  · exact (h.degraded hMode).1
  · exact (h.recovery hMode).1

/-- An evaluation leads to the mode that the history rule says. -/
theorem Agrees.evaluate_mode {settings : Settings} {c : Controller} {past : List Event}
    (h : Agrees settings c past) (summary : Metric.Summary) :
    (c.evaluate summary).1.mode = historyRule settings past summary.isBreach := by
  have hPast := h.mode.symm
  have hDegrade := h.degradeAfter
  have hRecover := h.recoverAfter
  have hChecks := h.checks
  -- with the bounds of the agreement, not below the number means equal to it
  cases hMode : c.mode with
  | normal =>
      rw [hMode] at hPast
      cases hBreach : summary.isBreach with
      | true =>
          rw [evaluate_normal_breach hMode hBreach]
          simp only [historyRule, hPast]
          rfl
      | false =>
          rw [evaluate_normal_clear hMode hBreach]
          simp only [historyRule, hPast]
          exact hMode
  | alert =>
      rw [hMode] at hPast
      obtain ⟨hCount, hOne, hFew⟩ := h.alert hMode
      cases hBreach : summary.isBreach with
      | false =>
          rw [evaluate_alert_clear hMode hBreach]
          simp only [historyRule, hPast]
          rfl
      | true =>
          by_cases hLess : c.breachStreak + 1 < c.degradeAfter
          · rw [evaluate_alert_stay hMode hBreach hLess]
            simp only [historyRule, hPast]
            rw [if_neg (by omega)]
            exact hMode
          · rw [evaluate_alert_degrade hMode hBreach hLess]
            simp only [historyRule, hPast]
            rw [if_pos (by omega)]
            rfl
  | degraded =>
      rw [hMode] at hPast
      obtain ⟨hCount, hFew⟩ := h.degraded hMode
      cases hBreach : summary.isBreach with
      | true =>
          rw [evaluate_degraded_breach hMode hBreach]
          simp only [historyRule, hPast]
          exact hMode
      | false =>
          by_cases hLess : c.recoverAfter = 0 ∨ c.clearStreak + 1 < c.recoverAfter
          · rw [evaluate_degraded_stay hMode hBreach hLess]
            simp only [historyRule, hPast]
            rw [if_neg (by omega)]
            exact hMode
          · rw [evaluate_degraded_recover hMode hBreach hLess]
            simp only [historyRule, hPast]
            rw [if_pos (by omega)]
            rfl
  | recovery =>
      rw [hMode] at hPast
      obtain ⟨hCount, hFew⟩ := h.recovery hMode
      cases hBreach : summary.isBreach with
      | true =>
          rw [evaluate_recovery_breach hMode hBreach]
          simp only [historyRule, hPast]
          exact hMode
      | false =>
          by_cases hLess : c.clearStreak + 1 < c.checks
          · rw [evaluate_recovery_stay hMode hBreach hLess]
            simp only [historyRule, hPast]
            rw [if_neg (by omega)]
            exact hMode
          · rw [evaluate_recovery_pass hMode hBreach hLess]
            simp only [historyRule, hPast]
            rw [if_pos (by omega)]
            rfl
  | lockdown =>
      rw [hMode] at hPast
      rw [Controller.evaluate_lockdown hMode]
      simp only [historyRule, hPast]
      exact hMode

theorem agrees_past (settings : Settings) (operations : List Operation) :
    Agrees settings ((make settings).run operations) (past settings operations) := by
  have hRun := (Agrees.make settings).run operations
  rw [List.append_nil] at hRun
  exact hRun

/-- An evaluation answers with a transition exactly if it changes the mode. -/
theorem evaluate_answer (c : Controller) (summary : Metric.Summary) :
    (c.evaluate summary).2.map (fun t => (t.source, t.target)) =
      if (c.evaluate summary).1.mode = c.mode then none
      else some (c.mode, (c.evaluate summary).1.mode) := by
  obtain ⟨breaches, clears, hEval | ⟨t, hEval, hSource, hTarget⟩⟩ := c.evaluate_cases summary
  · have hMode : (c.recount breaches clears).mode = c.mode := rfl
    rw [hEval, if_pos hMode]
    rfl
  · have hEntered : ((c.recount breaches clears).enter t).mode ≠ c.mode := ne_of_canChange hTarget
    rw [hEval, if_neg hEntered]
    show some (t.source, t.target) = some (c.mode, t.target)
    rw [hSource]

/-- In every run from the start an evaluation changes the mode exactly as the rule on the history
says, and answers with that change; and whatever is done later is decided from the mode and the two
counts alone. -/
theorem counters_refine_history (settings : Settings) (operations : List Operation) :
    (∀ summary : Metric.Summary,
      let c := (make settings).run operations
      let next := historyRule settings (past settings operations) (!summary.violations.isEmpty)
      c.mode = modeAfter (past settings operations) ∧
        (c.evaluate summary).1.mode = next ∧
        (c.evaluate summary).2.map (fun t => (t.source, t.target)) =
          if next = c.mode then none else some (c.mode, next)) ∧
      ∀ later : List Operation,
        ((make settings).run operations).decisions later =
          (ofCounts settings (modeAfter (past settings operations))
            (breachCount (past settings operations))
            (clearCount (past settings operations))).decisions later := by
  have hAgrees := agrees_past settings operations
  constructor
  · intro summary
    have hNext := hAgrees.evaluate_mode summary
    refine ⟨hAgrees.mode, hNext, ?_⟩
    rw [evaluate_answer, hNext]
    rfl
  · exact hAgrees.alike.decisions

end Controller

end SteadyTask.Mode
