import SteadyTask.Proofs.Mode.Hysteresis

/-!
# What the controller publishes

Three things tell of the same changes: the answers of the operations, the history, and the published
status.  In every run from the start the history is the end of what was answered, each change goes
along the graph of modes and starts where the one before it has led to, and the status is what the
last change says.

An evaluation and a critical signal ask only for changes that the graph has, so no answer means that
nothing was asked for.  A trigger can ask for one that the graph lacks; then it is refused and
leaves everything as it is.
-/

namespace SteadyTask.Mode

namespace Controller

/-! ## What is asked for -/

/-- A change that an operation asks for. -/
structure Proposal where
  target : Mode
  reason : String
  triggers : List Trigger

/-- The controller with its counters after a summary, and the change that it then asks for. -/
def consider (c : Controller) (summary : Metric.Summary) : Controller × Option Proposal :=
  match c.mode, summary.isBreach with
  | .normal, true =>
    (c.recount 1 c.clearStreak,
      some ⟨.alert, "threshold breach", breachTriggers summary.violations⟩)
  | .normal, false => (c, none)
  | .alert, true =>
    let streak := c.breachStreak + 1
    (c.recount streak c.clearStreak,
      if streak < c.degradeAfter then none
      else some ⟨.degraded, degradeReason streak, breachTriggers summary.violations⟩)
  | .alert, false => (c, some ⟨.normal, "breach cleared", observedPeaks summary⟩)
  | .degraded, true => (c.recount c.breachStreak 0, none)
  | .degraded, false =>
    let streak := c.clearStreak + 1
    (c.recount c.breachStreak streak,
      if c.recoverAfter = 0 ∨ streak < c.recoverAfter then none
      else some ⟨.recovery, recoverReason streak, observedPeaks summary⟩)
  | .recovery, true => (c.recount c.breachStreak 0, none)
  | .recovery, false =>
    let streak := c.clearStreak + 1
    (c.recount c.breachStreak streak,
      if streak < c.checks then none
      else some ⟨.normal, "self-checks passed", observedPeaks summary⟩)
  | .lockdown, _ => (c, none)

/-- Makes a change that was asked for, if the graph has it. -/
def grant (c : Controller) : Option Proposal → Controller × Option Transition
  | none => (c, none)
  | some p => c.changeOrStay p.target p.reason p.triggers

/-- An evaluation makes the change that it asks for, if the graph has it. -/
theorem evaluate_eq_grant (c : Controller) (summary : Metric.Summary) :
    c.evaluate summary = (c.consider summary).1.grant (c.consider summary).2 := by
  cases hMode : c.mode with
  | normal =>
      cases hBreach : summary.isBreach <;> simp only [evaluate, consider, hMode, hBreach] <;> rfl
  | alert =>
      cases hBreach : summary.isBreach with
      | true =>
          simp only [evaluate, consider, hMode, hBreach]
          split <;> rfl
      | false =>
          simp only [evaluate, consider, hMode, hBreach]
          rfl
  | degraded =>
      cases hBreach : summary.isBreach with
      | true =>
          simp only [evaluate, consider, hMode, hBreach]
          rfl
      | false =>
          simp only [evaluate, consider, hMode, hBreach]
          split <;> rfl
  | recovery =>
      cases hBreach : summary.isBreach with
      | true =>
          simp only [evaluate, consider, hMode, hBreach]
          rfl
      | false =>
          simp only [evaluate, consider, hMode, hBreach]
          split <;> rfl
  | lockdown =>
      simp only [evaluate, consider, hMode]
      rfl

/-- What an operation leaves before it changes the mode, and the change that it asks for. -/
def request (c : Controller) : Operation → Controller × Option Proposal
  | .evaluate summary => c.consider summary
  | .signalCritical reason triggers =>
    (c, if c.mode = .lockdown then none else some ⟨.lockdown, reason, triggers⟩)
  | .triggerRecovery reason => (c, some ⟨.recovery, reason, []⟩)

/-- Every operation makes the change that it asks for, if the graph has it. -/
theorem perform_eq_grant (c : Controller) (operation : Operation) :
    c.perform operation = (c.request operation).1.grant (c.request operation).2 := by
  cases operation with
  | evaluate summary => exact c.evaluate_eq_grant summary
  | signalCritical reason triggers =>
      rw [perform, signalCritical, request]
      split <;> rfl
  | triggerRecovery reason => rfl

section Consider

variable {c : Controller} {summary : Metric.Summary}

/-- Looking at a summary changes counters only. -/
theorem mode_consider : (c.consider summary).1.mode = c.mode := by
  unfold consider
  split <;> rfl

theorem canChange_consider {p : Proposal} (h : (c.consider summary).2 = some p) :
    c.mode.canChange p.target = true := by
  cases hMode : c.mode with
  | normal =>
      cases hBreach : summary.isBreach with
      | true =>
          simp only [consider, hMode, hBreach] at h
          cases h
          rfl
      | false =>
          simp only [consider, hMode, hBreach] at h
          cases h
  | alert =>
      cases hBreach : summary.isBreach with
      | true =>
          simp only [consider, hMode, hBreach] at h
          split at h <;> cases h
          rfl
      | false =>
          simp only [consider, hMode, hBreach] at h
          cases h
          rfl
  | degraded =>
      cases hBreach : summary.isBreach with
      | true =>
          simp only [consider, hMode, hBreach] at h
          cases h
      | false =>
          simp only [consider, hMode, hBreach] at h
          split at h <;> cases h
          rfl
  | recovery =>
      cases hBreach : summary.isBreach with
      | true =>
          simp only [consider, hMode, hBreach] at h
          cases h
      | false =>
          simp only [consider, hMode, hBreach] at h
          split at h <;> cases h
          rfl
  | lockdown =>
      simp only [consider, hMode] at h
      cases h

end Consider

/-- Asking changes counters only. -/
theorem mode_request {c : Controller} {operation : Operation} :
    (c.request operation).1.mode = c.mode := by
  cases operation with
  | evaluate summary => exact mode_consider
  | signalCritical reason triggers => rfl
  | triggerRecovery reason => rfl

/-- Whoever does not trigger recovery asks only for what the graph has. -/
theorem canChange_request {c : Controller} {operation : Operation} {p : Proposal}
    (hTrigger : ∀ reason, operation ≠ .triggerRecovery reason)
    (h : (c.request operation).2 = some p) : c.mode.canChange p.target = true := by
  cases operation with
  | evaluate summary => exact canChange_consider h
  | signalCritical reason triggers =>
      simp only [request] at h
      split at h
      · cases h
      · rename_i hMode
        cases h
        exact canChange_lockdown hMode
  | triggerRecovery reason => exact absurd rfl (hTrigger reason)

/-- Whoever does not trigger recovery is answered with what was asked for. -/
theorem target_perform {c : Controller} {operation : Operation}
    (hTrigger : ∀ reason, operation ≠ .triggerRecovery reason) :
    (c.perform operation).2.map Transition.target =
      (c.request operation).2.map Proposal.target := by
  rw [perform_eq_grant]
  cases hAsked : (c.request operation).2 with
  | none => rfl
  | some p =>
      have hEdge : (c.request operation).1.mode.canChange p.target = true := by
        rw [mode_request]
        exact canChange_request hTrigger hAsked
      rw [grant, changeOrStay_of_canChange hEdge]
      rfl

/-! ## What is answered -/

/-- An operation counts at most and answers nothing, or it counts and changes the mode along the
graph. -/
theorem perform_cases (c : Controller) (operation : Operation) :
    ∃ breaches clears, c.perform operation = (c.recount breaches clears, none) ∨
      ∃ t : Transition, c.perform operation = ((c.recount breaches clears).enter t, some t) ∧
        t.source = c.mode ∧ c.mode.canChange t.target = true := by
  cases operation with
  | evaluate summary => exact c.evaluate_cases summary
  | signalCritical reason triggers =>
      by_cases hMode : c.mode = .lockdown
      · exact ⟨_, _, .inl (signalCritical_lockdown hMode reason triggers)⟩
      · exact ⟨_, _, .inr ⟨_, signalCritical_of_ne hMode reason triggers, rfl,
          canChange_lockdown hMode⟩⟩
  | triggerRecovery reason =>
      cases hChange : c.mode.canChange .recovery with
      | false => exact ⟨_, _, .inl (perform_triggerRecovery_refused hChange reason)⟩
      | true =>
          exact ⟨_, _, .inr ⟨_, perform_triggerRecovery_of_canChange hChange reason, rfl, hChange⟩⟩

/-- The changes that operations made, the first one first. -/
def transitions (c : Controller) : List Operation → List Transition
  | [] => []
  | operation :: rest =>
    (c.perform operation).2.toList ++ transitions (c.perform operation).1 rest

/-- What the last of some changes says. -/
def statusAfter (made : List Transition) : Status :=
  match made.getLast? with
  | none => ⟨.normal, none, []⟩
  | some t => ⟨t.target, some t.reason, t.triggers⟩

/-- A full history drops its oldest entry for a new one. -/
theorem remember_drop (made : List Transition) (t : Transition) :
    remember (made.drop (made.length - historyLimit)) t =
      (made ++ [t]).drop (made.length + 1 - historyLimit) := by
  unfold remember
  by_cases hFull : historyLimit ≤ made.length
  · have hLength : (made.drop (made.length - historyLimit)).length = historyLimit := by
      rw [List.length_drop]
      omega
    have hWithin : made.length + 1 - historyLimit ≤ made.length := by
      unfold historyLimit
      omega
    rw [if_pos hLength, List.drop_drop, List.drop_append_of_le_length hWithin,
      Nat.sub_add_comm hFull]
  · have hLength : ¬ (made.drop (made.length - historyLimit)).length = historyLimit := by
      rw [List.length_drop]
      omega
    have hNone : made.length - historyLimit = 0 := by omega
    have hNone' : made.length + 1 - historyLimit = 0 := by omega
    rw [if_neg hLength, hNone, hNone', List.drop_zero, List.drop_zero]

/-- A controller tells of the changes that were made. -/
structure Tells (c : Controller) (made : List Transition) : Prop where
  history : c.history = made.drop (made.length - 100)
  edges : ∀ t ∈ made, t.source.canChange t.target = true
  chained : made.IsChain fun earlier later => later.source = earlier.target
  first : ∀ t ∈ made.head?, t.source = .normal
  status : c.status = statusAfter made

namespace Tells

variable {c : Controller} {made : List Transition}

theorem make (settings : Settings) : Tells (Controller.make settings) [] :=
  ⟨rfl, nofun, .nil, nofun, rfl⟩

/-- Counters are not told of. -/
theorem recount (h : Tells c made) (breaches clears : Nat) :
    Tells (c.recount breaches clears) made :=
  ⟨h.history, h.edges, h.chained, h.first, h.status⟩

/-- The mode is where the last change has led to. -/
theorem mode_of_getLast? (h : Tells c made) {t : Transition} (hLast : made.getLast? = some t) :
    c.mode = t.target := by
  rw [mode, h.status, statusAfter, hLast]

theorem mode_of_nil (h : Tells c []) : c.mode = .normal := by
  rw [mode, h.status]
  rfl

/-- A change along the graph is told of like those before it. -/
theorem enter (h : Tells c made) {t : Transition} (hSource : t.source = c.mode)
    (hEdge : c.mode.canChange t.target = true) : Tells (c.enter t) (made ++ [t]) := by
  refine ⟨?_, ?_, ?_, ?_, ?_⟩
  · show remember c.history t = _
    rw [h.history, List.length_append, List.length_singleton]
    exact remember_drop made t
  · intro u hu
    rcases List.mem_append.mp hu with hu | hu
    · exact h.edges u hu
    · obtain rfl := List.mem_singleton.mp hu
      rw [hSource]
      exact hEdge
  · refine h.chained.append (.singleton t) ?_
    rintro last hLast _ ⟨⟩
    rw [hSource]
    exact h.mode_of_getLast? hLast
  · intro u hu
    cases made with
    | nil =>
        cases hu
        rw [hSource]
        exact h.mode_of_nil
    | cons earliest rest => exact h.first u hu
  · rw [statusAfter, List.getLast?_concat]
    rfl

/-- Every operation keeps what the controller tells in line with what was answered. -/
theorem perform (h : Tells c made) (operation : Operation) :
    Tells (c.perform operation).1 (made ++ (c.perform operation).2.toList) := by
  obtain ⟨breaches, clears, hStep | ⟨t, hStep, hSource, hEdge⟩⟩ := c.perform_cases operation
  · rw [hStep]
    simpa using h.recount breaches clears
  · rw [hStep]
    exact (h.recount breaches clears).enter hSource hEdge

/-- Over a whole run the controller tells of all that was answered. -/
theorem run (h : Tells c made) (operations : List Operation) :
    Tells (c.run operations) (made ++ c.transitions operations) := by
  -- from any changes on, since each operation adds its own behind them
  induction operations generalizing c made with
  | nil =>
      show Tells c (made ++ [])
      rw [List.append_nil]
      exact h
  | cons operation rest ih =>
      have hRest := ih (h.perform operation)
      rw [List.append_assoc] at hRest
      exact hRest

end Tells

/-- What an operation answers is what it did. -/
structure AnswersTruly (c : Controller) (operation : Operation) : Prop where
  appended : ∀ t, (c.perform operation).2 = some t →
    (c.perform operation).1.history = remember c.history t ∧
      (c.perform operation).1.status = ⟨t.target, some t.reason, t.triggers⟩
  unchanged : (c.perform operation).2 = none →
    (c.perform operation).1.history = c.history ∧ (c.perform operation).1.status = c.status
  requested : c.perform operation = (c.request operation).1.grant (c.request operation).2
  granted : (∀ reason, operation ≠ .triggerRecovery reason) →
    (c.perform operation).2.map Transition.target = (c.request operation).2.map Proposal.target ∧
      ∀ p, (c.request operation).2 = some p → c.mode.canChange p.target = true

theorem answersTruly (c : Controller) (operation : Operation) : c.AnswersTruly operation := by
  refine ⟨?_, ?_, c.perform_eq_grant operation,
    fun hTrigger => ⟨target_perform hTrigger, fun _ => canChange_request hTrigger⟩⟩
  · intro t hAnswer
    obtain ⟨breaches, clears, hStep | ⟨u, hStep, -, -⟩⟩ := c.perform_cases operation
    · rw [hStep] at hAnswer
      cases hAnswer
    · rw [hStep] at hAnswer ⊢
      cases hAnswer
      exact ⟨rfl, rfl⟩
  · intro hAnswer
    obtain ⟨breaches, clears, hStep | ⟨u, hStep, -, -⟩⟩ := c.perform_cases operation
    · rw [hStep]
      exact ⟨rfl, rfl⟩
    · rw [hStep] at hAnswer
      cases hAnswer

/-- Recovery is refused in the three modes that are neither degraded nor locked down. -/
theorem triggerRecovery_refused_iff (c : Controller) (reason : String) :
    (∃ refusal, c.triggerRecovery reason = .error refusal) ↔
      c.mode = .normal ∨ c.mode = .alert ∨ c.mode = .recovery := by
  have hModes : c.mode.canChange .recovery = false ↔
      c.mode = .normal ∨ c.mode = .alert ∨ c.mode = .recovery := by
    cases c.mode <;> decide
  rw [← hModes, triggerRecovery, change]
  cases c.mode.canChange .recovery with
  | true => simp
  | false => simp

/-- In every run from the start, status, history and answers agree; and an operation that answers
nothing has asked for nothing, but for a trigger, which is refused without a trace. -/
theorem published_changes_agree (settings : Settings) (operations : List Operation) :
    let c := (make settings).run operations
    Tells c ((make settings).transitions operations) ∧
      (∀ operation, c.AnswersTruly operation) ∧
      ∀ reason,
        ((∃ refusal, c.triggerRecovery reason = .error refusal) ↔
          c.mode = .normal ∨ c.mode = .alert ∨ c.mode = .recovery) ∧
        ∀ refusal, c.triggerRecovery reason = .error refusal →
          refusal = ⟨c.mode, .recovery⟩ ∧ c.perform (.triggerRecovery reason) = (c, none) := by
  intro c
  refine ⟨(Tells.make settings).run operations, c.answersTruly, fun reason => ⟨?_, ?_⟩⟩
  · exact c.triggerRecovery_refused_iff reason
  · intro refusal hRefused
    refine ⟨?_, by rw [perform, hRefused]⟩
    unfold triggerRecovery change at hRefused
    split at hRefused
    · cases hRefused
    · cases hRefused
      rfl

end Controller

end SteadyTask.Mode
