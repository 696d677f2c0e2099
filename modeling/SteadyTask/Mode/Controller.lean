import SteadyTask.Metric.Summary
import SteadyTask.Mode.Ceilings
import SteadyTask.Severity

/-!
# The mode controller

After each task the controller looks at the task's summary and decides whether the mode changes.
Two counters give it hysteresis: consecutive evaluations with a breach while on alert, and
consecutive evaluations without one while degraded or recovering.  Besides, an operator or a
safety system can put it into lockdown or start recovery.  Every change is published with its
reason and kept in a bounded history.
-/

namespace SteadyTask.Mode

/-- A measurement that made the mode change, with its value. -/
structure Trigger where
  metric : String
  value : Float
  deriving Repr, Inhabited

/-- What the controller publishes. -/
structure Status where
  mode : Mode
  reason : Option String
  triggers : List Trigger
  deriving Repr, Inhabited

/-- A change of mode. -/
structure Transition where
  source : Mode
  target : Mode
  reason : String
  triggers : List Trigger
  deriving Repr, Inhabited

/-- A change that is not possible. -/
structure Refusal where
  source : Mode
  target : Mode
  deriving Repr, DecidableEq

/-- The refusal in words. -/
def Refusal.message (r : Refusal) : String :=
  "Illegal mode transition " ++ r.source.name ++ " -> " ++ r.target.name

/-- After how many evaluations the mode changes, and the ceilings of all modes. -/
structure Settings where
  degradeAfterBreaches : Nat
  recoveryAfterClear : Nat
  recoveryChecks : Nat
  thresholds : Thresholds
  deriving Repr, Inhabited

/-- The controller. -/
structure Controller where
  status : Status
  thresholds : Thresholds
  degradeAfter : Nat
  recoverAfter : Nat
  checks : Nat
  breachStreak : Nat
  clearStreak : Nat
  history : List Transition
  deriving Repr, Inhabited

/-- How many changes the history keeps. -/
def historyLimit : Nat := 100

/-- Appends to a history; the oldest entry of a full one is dropped. -/
def remember (history : List Transition) (t : Transition) : List Transition :=
  (if history.length = historyLimit then history.drop 1 else history) ++ [t]

/-- Enters a violation into triggers: the greatest value of each measurement counts. -/
def raiseTrigger (metric : String) (value : Float) : List Trigger → List Trigger
  | [] => [⟨metric, value⟩]
  | t :: rest =>
    if t.metric = metric then (if value > t.value then ⟨t.metric, value⟩ else t) :: rest
    else t :: raiseTrigger metric value rest

/-- The triggers of a breach: each violated measurement with its greatest value. -/
def breachTriggers (violations : List Metric.Violation) : List Trigger :=
  violations.foldl (fun triggers v => raiseTrigger v.metric v.value triggers) []

/-- The triggers of a calm run: the greatest value of each measurement. -/
def observedPeaks (summary : Metric.Summary) : List Trigger :=
  summary.aggregates.filterMap fun (metric, a) => a.greatest.map fun x => ⟨metric, x⟩

namespace Controller

/-- A controller in normal operation. -/
def make (settings : Settings) : Controller where
  status := ⟨.normal, none, []⟩
  thresholds := settings.thresholds
  degradeAfter := max settings.degradeAfterBreaches 1
  recoverAfter := settings.recoveryAfterClear
  checks := max settings.recoveryChecks 1
  breachStreak := 0
  clearStreak := 0
  history := []

/-- The current mode. -/
def mode (c : Controller) : Mode :=
  c.status.mode

/-- The controller after a change.  The breaches that led to an alert go on counting. -/
def enter (c : Controller) (t : Transition) : Controller :=
  { c with
    status := ⟨t.target, some t.reason, t.triggers⟩
    breachStreak := if t.target = .alert then c.breachStreak else 0
    clearStreak := 0
    history := remember c.history t }

/-- Changes the mode, if it can change so. -/
def change (c : Controller) (target : Mode) (reason : String) (triggers : List Trigger) :
    Except Refusal (Controller × Transition) :=
  if c.mode.canChange target then
    let t : Transition := ⟨c.mode, target, reason, triggers⟩
    .ok (c.enter t, t)
  else .error ⟨c.mode, target⟩

/-- Changes the mode if it can change so, and otherwise leaves it. -/
def changeOrStay (c : Controller) (target : Mode) (reason : String) (triggers : List Trigger) :
    Controller × Option Transition :=
  match c.change target reason triggers with
  | .ok (c, t) => (c, some t)
  | .error _ => (c, none)

/-- Looks at the summary of a task. -/
def evaluate (c : Controller) (summary : Metric.Summary) : Controller × Option Transition :=
  match c.mode, summary.isBreach with
  | .normal, true =>
    { c with breachStreak := 1 }.changeOrStay .alert "threshold breach"
      (breachTriggers summary.violations)
  | .normal, false => (c, none)
  | .alert, true =>
    let streak := c.breachStreak + 1
    let c := { c with breachStreak := streak }
    if streak < c.degradeAfter then (c, none)
    else
      c.changeOrStay .degraded
        ("breach persisted for " ++ toString streak ++ " consecutive evaluations")
        (breachTriggers summary.violations)
  | .alert, false => c.changeOrStay .normal "breach cleared" (observedPeaks summary)
  | .degraded, true => ({ c with clearStreak := 0 }, none)
  | .degraded, false =>
    let streak := c.clearStreak + 1
    let c := { c with clearStreak := streak }
    if c.recoverAfter = 0 ∨ streak < c.recoverAfter then (c, none)
    else
      c.changeOrStay .recovery
        ("internal recovery trigger after " ++ toString streak ++ " clear evaluations")
        (observedPeaks summary)
  | .recovery, true => ({ c with clearStreak := 0 }, none)
  | .recovery, false =>
    let streak := c.clearStreak + 1
    let c := { c with clearStreak := streak }
    if streak < c.checks then (c, none)
    else c.changeOrStay .normal "self-checks passed" (observedPeaks summary)
  | .lockdown, _ => (c, none)

/-- Goes into lockdown; in lockdown nothing happens. -/
def signalCritical (c : Controller) (reason : String) (triggers : List Trigger) :
    Controller × Option Transition :=
  if c.mode = .lockdown then (c, none) else c.changeOrStay .lockdown reason triggers

/-- Starts recovery, from degraded operation or from lockdown. -/
def triggerRecovery (c : Controller) (reason : String) :
    Except Refusal (Controller × Transition) :=
  c.change .recovery reason []

/-! ## Runs -/

/-- An operation on the controller. -/
inductive Operation where
  | evaluate (summary : Metric.Summary)
  | signalCritical (reason : String) (triggers : List Trigger)
  | triggerRecovery (reason : String)

/-- The controller after an operation, and the change it made. -/
def perform (c : Controller) : Operation → Controller × Option Transition
  | .evaluate summary => c.evaluate summary
  | .signalCritical reason triggers => c.signalCritical reason triggers
  | .triggerRecovery reason =>
    match c.triggerRecovery reason with
    | .ok (c, t) => (c, some t)
    | .error _ => (c, none)

/-- The controller after operations. -/
def run (c : Controller) (operations : List Operation) : Controller :=
  operations.foldl (fun c operation => (c.perform operation).1) c

end Controller

/-! ## Records -/

/-- Changes for the worse are warnings. -/
def Transition.severity (t : Transition) : Severity :=
  match t.target with
  | .alert | .degraded | .lockdown => .warn
  | .normal | .recovery => .info

/-- A trigger as a record. -/
def Trigger.toJson (t : Trigger) : Json.Value :=
  .ofFields [("metric", .str t.metric), ("value", .float t.value)]

/-- A status as a record. -/
def Status.toJson (s : Status) : Json.Value :=
  .ofFields [("mode", .str s.mode.name), ("reason", .ofText? s.reason),
    ("triggers", .ofList Trigger.toJson s.triggers)]

/-- A change as a record. -/
def Transition.toJson (t : Transition) : Json.Value :=
  .ofFields [("from", .str t.source.name), ("to", .str t.target.name), ("reason", .str t.reason),
    ("triggers", .ofList Trigger.toJson t.triggers)]

/-- A change in one line. -/
def Transition.line (t : Transition) : String :=
  t.source.name ++ "->" ++ t.target.name ++ ": " ++ t.reason

end SteadyTask.Mode
