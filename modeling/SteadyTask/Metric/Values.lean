import SteadyTask.Json.Value

/-!
# Named measurements

Measurements are percentages under a name.  A collection of them is sorted by name and holds a
name once.
-/

namespace SteadyTask.Metric

/-- Share of the processor in use. -/
def cpuPercent : String := "cpu_percent"

/-- Share of the memory in use. -/
def memoryPercent : String := "memory_percent"

/-- Share of the accelerator in use. -/
def acceleratorPercent : String := "accelerator_percent"

/-- Measurements, sorted by name. -/
abbrev Values := List (String × Float)

namespace Values

/-- Sets one measurement. -/
def set (name : String) (x : Float) : Values → Values
  | [] => [(name, x)]
  | (other, y) :: rest =>
    if name = other then (name, x) :: rest
    else if name < other then (name, x) :: (other, y) :: rest
    else (other, y) :: set name x rest

/-- Measurements in any order; of two with one name the later counts. -/
def ofList (pairs : List (String × Float)) : Values :=
  pairs.foldl (fun values pair => values.set pair.1 pair.2) []

/-- One collection with another put on top. -/
def merge (values more : Values) : Values :=
  more.foldl (fun values pair => values.set pair.1 pair.2) values

/-- The measurement with a given name. -/
def get? (values : Values) (name : String) : Option Float :=
  values.lookup name

/-- The measurements as fields. -/
def toJson (values : Values) : Json.Value :=
  Json.Value.ofFields (values.map fun (name, x) => (name, .float x))

end Values

/-- Rounds to two places; a half goes away from zero. -/
def round2 (x : Float) : Float :=
  (x * 100.0).round / 100.0

end SteadyTask.Metric
