import SteadyTask.Sensor.Basic

/-!
# A source under control

A source of readings whose answers are set from outside: a reading or none for each group, groups
that are switched off, a delay before each answer, and answers that are forced.  It counts its
polls.
-/

namespace SteadyTask.Sensor

/-- An answer that replaces the normal one. -/
inductive Forced where
  | fault (f : Fault)
  | panic (text : String)
  deriving Repr, DecidableEq

/-- A source under control. -/
structure Source where
  delay : Millis
  readings : PerGroup (Option Metric.Values)
  failing : PerGroup Bool
  forced : PerGroup (Option Forced)
  polls : PerGroup Nat
  deriving Repr, Inhabited

namespace Source

/-- A source that answers at once with a calm host and accelerator. -/
def calm : Source where
  delay := 0
  readings :=
    ⟨some (Metric.Values.ofList [(Metric.cpuPercent, 12.0), (Metric.memoryPercent, 40.0)]),
      some (Metric.Values.ofList [(Metric.acceleratorPercent, 5.0)])⟩
  failing := .both false
  forced := .both none
  polls := .both 0

/-- Counts a poll that starts. -/
def countPoll (s : Source) (g : Group) : Source :=
  { s with polls := s.polls.modify g (· + 1) }

/-- The answer to a poll, at the moment it is given. -/
def answer (s : Source) (g : Group) : PollAnswer :=
  match s.forced.get g with
  | some (.panic text) => .panic text
  | some (.fault f) => .fault f
  | none =>
    if s.failing.get g then .fault (.unavailable (g.name ++ " disabled"))
    else
      match s.readings.get g with
      | some v => .values v
      | none => .fault (.unavailable ("no reading for " ++ g.name))

/-- Sets the reading of a group. -/
def setReading (s : Source) (g : Group) (v : Metric.Values) : Source :=
  { s with readings := s.readings.set g (some v) }

/-- Switches a group off or on. -/
def setFailing (s : Source) (g : Group) (failing : Bool) : Source :=
  { s with failing := s.failing.set g failing }

/-- Forces the answers of a group, or lets go. -/
def force (s : Source) (g : Group) (forced : Option Forced) : Source :=
  { s with forced := s.forced.set g forced }

end Source

end SteadyTask.Sensor
