import SteadyTask.Monitor.Sampler
import SteadyTask.Text.Printable

/-!
# The life of a monitor

A monitor is started at most once.  Stopping it ends its sampler and settles the summary, which
every further stop returns again; stopping a monitor that was never started settles an empty
summary, and it can no longer be started.
-/

namespace SteadyTask.Monitor

/-- Whether a monitor samples, and how often. -/
structure Options where
  enabled : Bool
  interval : Millis
  deriving Repr, DecidableEq, Inhabited

/-- Where a monitor stands. -/
inductive Life where
  | idle
  /-- It was started at a time; one that is switched off has no sampler. -/
  | running (startedAt : Millis) (sampler : Option Sampler)
  | stopped (summary : Metric.Summary)
  deriving Repr, Inhabited

/-- The monitor of one task. -/
structure Watch where
  trace : String
  options : Options
  life : Life
  deriving Repr, Inhabited

/-- A monitor that was started before. -/
structure AlreadyStarted where
  trace : String
  deriving Repr, DecidableEq

/-- The refusal in words. -/
def AlreadyStarted.message (e : AlreadyStarted) : String :=
  "Monitor for trace " ++ e.trace ++ " already started"

namespace Watch

/-- A monitor that was not started. -/
def make (trace : String) (options : Options) : Watch :=
  ⟨trace, options, .idle⟩

/-- Whether the monitor runs. -/
def isRunning (w : Watch) : Bool :=
  match w.life with
  | .running _ _ => true
  | _ => false

/-- Starts the monitor. -/
def start (w : Watch) (now : Millis) : Except AlreadyStarted Watch :=
  match w.life with
  | .idle =>
    .ok { w with
      life := .running now (if w.options.enabled then some (.make w.options.interval) else none) }
  | _ => .error ⟨w.trace⟩

/-- The sampler of a running monitor. -/
def sampler? (w : Watch) : Option Sampler :=
  match w.life with
  | .running _ s => s
  | _ => none

/-- Changes the sampler of a running monitor. -/
def withSampler (w : Watch) (s : Sampler) : Watch :=
  match w.life with
  | .running startedAt _ => { w with life := .running startedAt (some s) }
  | _ => w

/-- Asks the sampler to end; settles the summary of a monitor that does not run. -/
def requestStop (w : Watch) : Watch :=
  match w.life with
  | .idle => { w with life := .stopped (.empty 0.0) }
  | .running startedAt s => { w with life := .running startedAt (s.map Sampler.cancel) }
  | .stopped _ => w

/-- Settles the summary once the sampler is over. -/
def finishStop (w : Watch) (now : Millis) : Watch :=
  match w.life with
  | .running startedAt none =>
    { w with life := .stopped (.ofSamples [] (now - startedAt)) }
  | .running startedAt (some s) =>
    if s.isOver then { w with life := .stopped (.ofSamples s.result (now - startedAt)) } else w
  | _ => w

/-- The summary, once it is settled. -/
def summary? (w : Watch) : Option Metric.Summary :=
  match w.life with
  | .stopped summary => some summary
  | _ => none

/-- The stage of life in words. -/
def lifeName (w : Watch) : String :=
  match w.life with
  | .idle => "idle"
  | .running _ _ => "running"
  | .stopped _ => "stopped"

/-- The monitor in one line. -/
def describe (w : Watch) : String :=
  "ResourceMonitor \x7b trace_id: " ++ Text.debugQuote w.trace ++
    ", options: MonitorOptions \x7b enabled: " ++ toString w.options.enabled ++ ", interval: " ++
    w.options.interval.text ++ " \x7d, phase: " ++ Text.debugQuote w.lifeName ++ " \x7d"

end Watch

end SteadyTask.Monitor
