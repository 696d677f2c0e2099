import SteadyTask.Mode.Ceilings
import SteadyTask.Time

/-!
# Samples and their summary

A sample is what was measured at one moment, together with the measurements that were above the
ceilings of the mode in force.  The summary of a run holds the least, greatest and mean value of
each known measurement, and all violations in the order of the samples.
-/

namespace SteadyTask.Metric

/-- A measurement above its ceiling. -/
structure Violation where
  metric : String
  value : Float
  ceiling : Float
  mode : Mode
  deriving Repr, Inhabited

/-- What was measured at one moment. -/
structure Sample where
  values : Values
  mode : Mode
  violations : List Violation
  deriving Repr, Inhabited

/-- Judges one measurement. -/
def judge (mode : Mode) (ceilings : Mode.Ceilings) (pair : String × Float) : Option Violation :=
  match ceilings.of? pair.1 with
  | none => none
  | some ceiling => if pair.2 > ceiling then some ⟨pair.1, pair.2, ceiling, mode⟩ else none

/-- Records measurements, judged by the ceilings of the mode in force. -/
def Sample.record (values : Values) (mode : Mode) (ceilings : Mode.Ceilings) : Sample :=
  ⟨values, mode, values.filterMap (judge mode ceilings)⟩

/-- Least, greatest and mean value; all absent if there were no values. -/
structure Aggregate where
  least : Option Float
  greatest : Option Float
  mean : Option Float
  deriving Repr, Inhabited

/-- The lesser of two numbers; one that is not a number does not count. -/
def lesser (x y : Float) : Float :=
  if x.isNaN then y else if y.isNaN then x else if y < x then y else x

/-- The greater of two numbers; one that is not a number does not count. -/
def greater (x y : Float) : Float :=
  if x.isNaN then y else if y.isNaN then x else if y > x then y else x

/-- The sum of numbers, from the left.  No numbers add up to negative zero, the neutral element. -/
def sum (xs : List Float) : Float :=
  xs.foldl (· + ·) (-0.0)

/-- The mean of numbers. -/
def mean (xs : List Float) : Float :=
  sum xs / Float.ofNat xs.length

namespace Aggregate

/-- The aggregate of no values. -/
def empty : Aggregate :=
  ⟨none, none, none⟩

/-- The aggregate of some values, rounded to two places. -/
def ofList : List Float → Aggregate
  | [] => empty
  | x :: xs =>
    ⟨some (round2 ((x :: xs).foldl lesser (1.0 / 0.0))),
      some (round2 ((x :: xs).foldl greater (-1.0 / 0.0))),
      some (round2 (Metric.mean (x :: xs)))⟩

/-- The aggregate of one value. -/
def single (x : Float) : Aggregate :=
  ofList [x]

/-- Whether there were no values. -/
def isEmpty (a : Aggregate) : Bool :=
  a.mean.isNone

end Aggregate

/-- What a run measured. -/
structure Summary where
  durationSeconds : Float
  sampleCount : Nat
  cpu : Aggregate
  memory : Aggregate
  accelerator : Aggregate
  violations : List Violation
  deriving Repr, Inhabited

namespace Summary

/-- The summary of a run without samples. -/
def empty (durationSeconds : Float) : Summary :=
  ⟨round2 durationSeconds, 0, .empty, .empty, .empty, []⟩

/-- The values that samples have for one measurement. -/
def valuesOf (samples : List Sample) (metric : String) : List Float :=
  samples.filterMap fun s => s.values.get? metric

/-- The summary of samples taken in the course of a duration. -/
def ofSamples (samples : List Sample) (duration : Millis) : Summary where
  durationSeconds := round2 duration.toSeconds
  sampleCount := samples.length
  cpu := .ofList (valuesOf samples cpuPercent)
  memory := .ofList (valuesOf samples memoryPercent)
  accelerator := .ofList (valuesOf samples acceleratorPercent)
  violations := samples.flatMap Sample.violations

/-- The aggregates with their names. -/
def aggregates (s : Summary) : List (String × Aggregate) :=
  [(cpuPercent, s.cpu), (memoryPercent, s.memory), (acceleratorPercent, s.accelerator)]

/-- Whether any measurement was above its ceiling. -/
def isBreach (s : Summary) : Bool :=
  !s.violations.isEmpty

end Summary

/-! ## Records -/

/-- A violation as a record. -/
def Violation.toJson (v : Violation) : Json.Value :=
  .ofFields [("metric", .str v.metric), ("value", .float v.value), ("threshold", .float v.ceiling),
    ("mode", .str v.mode.name)]

/-- An aggregate as a record. -/
def Aggregate.toJson (a : Aggregate) : Json.Value :=
  .ofFields [("min", .ofOption .float a.least), ("max", .ofOption .float a.greatest),
    ("avg", .ofOption .float a.mean)]

/-- A summary as a record. -/
def Summary.toJson (s : Summary) : Json.Value :=
  .ofFields [("duration_seconds", .float s.durationSeconds), ("sample_count", .ofNat s.sampleCount),
    ("cpu", s.cpu.toJson), ("memory", s.memory.toJson), ("accelerator", s.accelerator.toJson),
    ("violations", .ofList Violation.toJson s.violations)]

end SteadyTask.Metric
