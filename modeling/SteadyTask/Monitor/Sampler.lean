import SteadyTask.Metric.Summary
import SteadyTask.Sensor.Basic

/-!
# Sampling

While a task runs a sampler reads the sensors once per interval, the first time one interval after
it has started.  A tick that is noticed late shifts the following ones: if it is more than five
milliseconds late, the next tick comes one interval after now, and otherwise one interval after
the tick was due.

A tick reads the host and then the accelerator.  If the host cannot be read there is no sample.
An accelerator that is unavailable is not read again; any other fault of it leaves the sample
without it.  A panic costs the sample of its tick and nothing else.
-/

namespace SteadyTask.Monitor

/-- What a sampler is doing. -/
inductive Phase where
  /-- It has not run yet. -/
  | starting
  /-- It waits for the tick that is due at a time. -/
  | waiting (due : Millis)
  /-- It reads the host; the next tick is due at a time. -/
  | readingHost (next : Millis)
  /-- It reads the accelerator and has read the host. -/
  | readingAccelerator (next : Millis) (host : Metric.Values)
  /-- Its interval is none it can keep, so it takes no samples. -/
  | crashed
  /-- It has ended. -/
  | ended
  deriving Repr, Inhabited

/-- A sampler. -/
structure Sampler where
  interval : Millis
  phase : Phase
  readsAccelerator : Bool
  samples : List Metric.Sample
  cancelled : Bool
  deriving Repr, Inhabited

/-- How late a tick may be noticed without shifting those that follow. -/
def lateness : Millis := 5

/-- When the tick after one that was due at a time, and is noticed now, is due. -/
def nextDue (interval due now : Millis) : Millis :=
  if now > due + lateness then now + interval else due + interval

namespace Sampler

/-- A sampler that has not run yet. -/
def make (interval : Millis) : Sampler :=
  ⟨interval, .starting, true, [], false⟩

/-- Whether an interval can be kept from a time on. -/
def canKeep (interval now : Millis) : Bool :=
  interval ≠ 0 && (now + interval) / 1000 < Millis.clockRange

/-- Runs for the first time. -/
def begin (s : Sampler) (now : Millis) : Sampler :=
  { s with phase := if canKeep s.interval now then .waiting (now + s.interval) else .crashed }

/-- Notices a tick that is due. -/
def tick (s : Sampler) (now : Millis) : Sampler :=
  match s.phase with
  | .waiting due =>
    if due ≤ now then { s with phase := .readingHost (nextDue s.interval due now) } else s
  | _ => s

/-- Records a sample and waits for the next tick. -/
def record (s : Sampler) (next : Millis) (values : Metric.Values) (mode : Mode)
    (thresholds : Mode.Thresholds) : Sampler :=
  { s with
    phase := .waiting next
    samples := s.samples ++ [Metric.Sample.record values mode (thresholds.forMode mode)] }

/-- How the reading of a group ended, for a sampler. -/
inductive Reading where
  | values (v : Metric.Values)
  | fault (f : Sensor.Fault)
  | panicked
  deriving Repr

/-- The host was read. -/
def hostRead (s : Sampler) (mode : Mode) (thresholds : Mode.Thresholds) (r : Reading) : Sampler :=
  match s.phase, r with
  | .readingHost next, .values v =>
    if s.readsAccelerator then { s with phase := .readingAccelerator next v }
    else s.record next v mode thresholds
  | .readingHost next, .fault _ => { s with phase := .waiting next }
  | .readingHost next, .panicked => { s with phase := .waiting next }
  | _, _ => s

/-- The accelerator was read. -/
def acceleratorRead (s : Sampler) (mode : Mode) (thresholds : Mode.Thresholds) (r : Reading) :
    Sampler :=
  match s.phase, r with
  | .readingAccelerator next host, .values v => s.record next (host.merge v) mode thresholds
  | .readingAccelerator next host, .fault (.unavailable _) =>
    { s.record next host mode thresholds with readsAccelerator := false }
  | .readingAccelerator next host, .fault _ => s.record next host mode thresholds
  | .readingAccelerator next _, .panicked => { s with phase := .waiting next }
  | _, _ => s

/-- The group that is being read. -/
def reading? (s : Sampler) : Option Sensor.Group :=
  match s.phase with
  | .readingHost _ => some .host
  | .readingAccelerator _ _ => some .accelerator
  | _ => none

/-- A group was read. -/
def groupRead (s : Sampler) (g : Sensor.Group) (mode : Mode) (thresholds : Mode.Thresholds)
    (r : Reading) : Sampler :=
  match g with
  | .host => s.hostRead mode thresholds r
  | .accelerator => s.acceleratorRead mode thresholds r

/-- Tells the sampler to end; it ends when it runs next. -/
def cancel (s : Sampler) : Sampler :=
  { s with cancelled := true }

/-- Ends. -/
def finish (s : Sampler) : Sampler :=
  { s with phase := .ended }

/-- Whether the sampler will not run again. -/
def isOver (s : Sampler) : Bool :=
  match s.phase with
  | .ended | .crashed => true
  | _ => false

/-- The samples that count: a sampler that has crashed has none. -/
def result (s : Sampler) : List Metric.Sample :=
  match s.phase with
  | .crashed => []
  | _ => s.samples

end Sampler

end SteadyTask.Monitor
