import SteadyTask.Metric.Values
import SteadyTask.Time

/-!
# Sensors

Sensors come in two groups that are read, cached and fail apart from each other: the host with its
processor and memory, and the accelerator.
-/

namespace SteadyTask.Sensor

/-- A group of sensors. -/
inductive Group where
  | host
  | accelerator
  deriving Repr, DecidableEq, Inhabited

namespace Group

/-- The group in messages. -/
def name : Group → String
  | .host => "host"
  | .accelerator => "accelerator"

/-- Both groups. -/
def all : List Group :=
  [.host, .accelerator]

/-- The group with a given name. -/
def ofName? (name : String) : Option Group :=
  all.find? fun g => g.name == name

end Group

/-- One thing for each group. -/
structure PerGroup (α : Type) where
  host : α
  accelerator : α
  deriving Repr, Inhabited

namespace PerGroup

variable {α : Type}

/-- The same for both groups. -/
def both (a : α) : PerGroup α :=
  ⟨a, a⟩

/-- What belongs to a group. -/
def get (p : PerGroup α) : Group → α
  | .host => p.host
  | .accelerator => p.accelerator

/-- Replaces what belongs to a group. -/
def set (p : PerGroup α) (g : Group) (a : α) : PerGroup α :=
  match g with
  | .host => { p with host := a }
  | .accelerator => { p with accelerator := a }

/-- Changes what belongs to a group. -/
def modify (p : PerGroup α) (g : Group) (f : α → α) : PerGroup α :=
  p.set g (f (p.get g))

@[simp]
theorem get_set_self (p : PerGroup α) (g : Group) (a : α) : (p.set g a).get g = a := by
  cases g <;> rfl

@[simp]
theorem get_set_of_ne (p : PerGroup α) {g h : Group} (a : α) (hne : h ≠ g) :
    (p.set g a).get h = p.get h := by
  cases g <;> cases h <;> simp_all [set, get]

end PerGroup

/-- Why a group could not be read. -/
inductive Fault where
  | unreadable (source text : String)
  | unparsable (text : String)
  | unavailable (text : String)
  | timedOut (limit : Millis)
  deriving Repr, DecidableEq, Inhabited

/-- The fault in words. -/
def Fault.message : Fault → String
  | .unreadable source text => "I/O error reading " ++ source ++ ": " ++ text
  | .unparsable text => "Unparsable sensor output: " ++ text
  | .unavailable text => "Sensor unavailable: " ++ text
  | .timedOut limit => "Sensor poll timed out after " ++ limit.text

/-- How a poll ends. -/
inductive PollAnswer where
  | values (v : Metric.Values)
  | fault (f : Fault)
  | panic (text : String)
  deriving Repr

end SteadyTask.Sensor
