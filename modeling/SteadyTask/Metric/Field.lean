import SteadyTask.Metric.Summary
import SteadyTask.Text.Search

/-!
# Fields of a record

A summary is recorded as a list of named numbers with units.  Aggregates that are absent have no
field.
-/

namespace SteadyTask.Metric

/-- What a number counts. -/
inductive Measure where
  | seconds
  | percent
  | count
  deriving Repr, DecidableEq, Inhabited

namespace Measure

/-- The unit in records. -/
def name : Measure → String
  | .seconds => "seconds"
  | .percent => "percent"
  | .count => "count"

/-- The unit in prose. -/
def title : Measure → String
  | .seconds => "Seconds"
  | .percent => "Percent"
  | .count => "Count"

/-- The unit with a given name. -/
def ofName? (name : String) : Option Measure :=
  [seconds, percent, count].find? fun u => u.name == name

end Measure

/-- A named number with its unit. -/
structure Field where
  name : String
  value : Float
  measure : Measure
  deriving Repr, Inhabited

/-- A field as a record. -/
def Field.toJson (f : Field) : Json.Value :=
  .ofFields [("name", .str f.name), ("value", .float f.value), ("unit", .str f.measure.name)]

/-- A measurement's name without its unit. -/
def stem (metric : String) : String :=
  String.ofList (stemChars metric.toList)
where
  /-- Drops the unit from the end of a name. -/
  stemChars (cs : List Char) : List Char :=
    match Text.afterStart? "_percent".toList.reverse cs.reverse with
    | some rest => rest.reverse
    | none => cs

/-- The fields of one aggregate. -/
def aggregateFields (named : String × Aggregate) : List Field :=
  [("min", named.2.least), ("max", named.2.greatest), ("avg", named.2.mean)].filterMap
    fun (kind, value) => value.map fun x => ⟨stem named.1 ++ "_" ++ kind, x, .percent⟩

/-- The fields of a summary. -/
def Summary.fields (s : Summary) : List Field :=
  [⟨"duration_seconds", s.durationSeconds, .seconds⟩,
    ⟨"sample_count", s.sampleCount.toUInt64.toFloat, .count⟩]
  ++ s.aggregates.flatMap aggregateFields
  ++ [⟨"violation_count", s.violations.length.toUInt64.toFloat, .count⟩]

end SteadyTask.Metric
