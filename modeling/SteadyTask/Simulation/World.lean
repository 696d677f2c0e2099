import SteadyTask.Llm.Client
import SteadyTask.Mode.Subscription
import SteadyTask.Monitor.Lifecycle
import SteadyTask.Reflection.Backlog
import SteadyTask.Reflection.Generate
import SteadyTask.Sensor.Cache
import SteadyTask.Sensor.Source

/-!
# A world in simulated time

The surroundings of activities, as one value: the clock, the models and other collaborators with
their scripts, the sensors behind their cache, the mode controller, the monitors, and the
reflections in the background.  Time moves only when nothing can go on, and then straight to the
next point in time that something waits for.

One main activity runs in front.  Samplers, concurrent readers and reflections run behind it, each
until it has to wait; those that can go on form a line.
-/

namespace SteadyTask.Simulation

/-- Who acts. -/
inductive Party where
  | main
  | sampler (monitor : Nat)
  | reader (index : Nat)
  | reflection (index : Nat)
  deriving Repr, DecidableEq, Inhabited

/-- How far the reading of a group is. -/
inductive ReadPhase where
  /-- It waits for its turn in the cache. -/
  | queued
  /-- It polls the source until a time; `late` says that the poll is then cut off. -/
  | polling (ends : Millis) (late : Bool)
  deriving Repr, DecidableEq

/-- A reading that goes on. -/
structure PendingRead where
  group : Sensor.Group
  phase : ReadPhase
  deadline : Option Millis
  deriving Repr, DecidableEq

/-- How a reading ended. -/
abbrev ReadOutcome := Outcome Sensor.Fault Metric.Values

/-- Where an activity stands in the world. -/
inductive Stage (α : Type) where
  /-- It can go on. -/
  | ready (next : Activity α)
  /-- It waits for a time. -/
  | asleep (wakeAt : Millis) (next : Activity α)
  /-- It waits for a reading. -/
  | reading (r : PendingRead) (resume : ReadOutcome → Activity α)
  /-- It waits for its turn to make the cache forget a group. -/
  | forgetting (g : Sensor.Group) (next : Activity α)
  /-- It waits for the concurrent readers. -/
  | gathering (resume : List ReadOutcome → Activity α)
  /-- It waits for a sampler to end. -/
  | stopping (monitor : Nat) (resume : Metric.Summary → Activity α)
  /-- It waits for the reflections that it has taken from the backlog to end. -/
  | draining (awaited : Reflection.Backlog) (next : Activity α)
  /-- It has returned. -/
  | done (a : α)

/-- One of several concurrent readings. -/
inductive Reader where
  | pending (r : PendingRead)
  | answered (outcome : ReadOutcome)
  deriving Repr

/-- How an installed tool answers once. -/
inductive ToolStep where
  | model (step : Llm.Step)
  /-- It gives back its arguments. -/
  | args
  deriving Repr, Inhabited

/-- An installed tool: its steps, of which the last repeats, and how often it was called. -/
structure InstalledTool where
  name : String
  steps : List ToolStep
  calls : Nat
  deriving Repr, Inhabited

/-- How an installed router answers once. -/
inductive RouteStep where
  | route (r : Route)
  | fail (e : CallError)
  | panic (p : Panic)
  deriving Repr, Inhabited

/-- An answer of an installed router, and after which time it is given. -/
structure TimedRoute where
  delay : Millis
  step : RouteStep
  deriving Repr, Inhabited

/-- An installed router: its answers, of which the last repeats. -/
structure InstalledRouter where
  answers : List TimedRoute
  deriving Repr, Inhabited

/-- What reflections need to know. -/
structure ReflectionPlan where
  settings : Reflection.Settings
  client : String
  start : Timestamp
  deriving Repr, Inhabited

/-- The world. -/
structure World where
  now : Millis
  clients : List (String × Llm.Client)
  router : InstalledRouter
  tools : List InstalledTool
  source : Sensor.Source
  cache : Sensor.Cache Party
  controller : Mode.Controller
  monitorOptions : Monitor.Options
  monitors : List Monitor.Watch
  reads : List (Nat × PendingRead)
  readers : List Reader
  plan : ReflectionPlan
  reflections : List (Stage Reflection.Generated)
  backlog : Reflection.Backlog
  records : List Reflection.Generated
  line : List Party
  mainWoken : Bool
  timers : List (Party × Millis)

namespace World

/-- A world at the start of its clock. -/
def start (source : Sensor.Source) (ttl pollLimit : Millis) (mode : Mode.Settings)
    (monitorOptions : Monitor.Options) (plan : ReflectionPlan) : World where
  now := 0
  clients := []
  router := ⟨[]⟩
  tools := []
  source := source
  cache := .make ttl pollLimit
  controller := .make mode
  monitorOptions := monitorOptions
  monitors := []
  reads := []
  readers := []
  plan := plan
  reflections := []
  backlog := []
  records := []
  line := []
  mainWoken := false
  timers := []

/-! ## Waking and timers -/

/-- Lets a party go on. -/
def wake (w : World) (p : Party) : World :=
  match p with
  | .main => { w with mainWoken := true }
  | p => if w.line.contains p then w else { w with line := w.line ++ [p] }

/-- Stops waiting for a time. -/
def clearTimer (w : World) (p : Party) : World :=
  { w with timers := w.timers.filter fun timer => timer.1 ≠ p }

/-- Waits for a time. -/
def setTimer (w : World) (p : Party) (at_ : Millis) : World :=
  { w.clearTimer p with timers := (w.clearTimer p).timers ++ [(p, at_)] }

/-- The next point in time that anyone waits for. -/
def nextTime? (w : World) : Option Millis :=
  (w.timers.map Prod.snd).min?

/-- Moves the clock and wakes those whose time has come, in the order in which they began to
wait. -/
def moveTo (w : World) (time : Millis) : World :=
  let due := w.timers.filter fun timer => timer.2 ≤ time
  let w := { w with now := time, timers := w.timers.filter fun timer => time < timer.2 }
  due.foldl (fun w timer => w.wake timer.1) w

/-! ## Readings -/

/-- Wakes the new owner of a slot. -/
def wakeOwner (w : World) (g : Sensor.Group) : World :=
  match (w.cache.slots.get g).owner with
  | some (p, .granted) => w.wake p
  | _ => w

/-- Replaces the cache after an owner has left a slot, and wakes the next one. -/
def handOn (w : World) (g : Sensor.Group) (cache : Sensor.Cache Party) : World :=
  { w with cache := cache }.wakeOwner g

/-- A reading that cannot go on: it is given up if its deadline has come. -/
def waitOrGiveUp (w : World) (p : Party) (r : PendingRead) : World × (ReadOutcome ⊕ PendingRead) :=
  let overdue := r.deadline.any fun deadline => deadline ≤ w.now
  if overdue then (w.handOn r.group (w.cache.leave r.group p), .inl .overdue)
  else
    let ends :=
      match r.phase with
      | .queued => none
      | .polling ends _ => some ends
    match (ends.toList ++ r.deadline.toList).min? with
    | some time => (w.setTimer p time, .inr r)
    | none => (w, .inr r)

/-- A poll whose time may have come. -/
def settlePoll (w : World) (p : Party) (r : PendingRead) (ends : Millis) (late : Bool) :
    World × (ReadOutcome ⊕ PendingRead) :=
  let g := r.group
  if w.now < ends then w.waitOrGiveUp p { r with phase := .polling ends late }
  else if late then
    (w.handOn g (w.cache.reject g), .inl (.error (.timedOut w.cache.pollLimit)))
  else
    match w.source.answer g with
    | .values v => (w.handOn g (w.cache.store g v w.now), .inl (.value v))
    | .fault f => (w.handOn g (w.cache.reject g), .inl (.error f))
    | .panic text => (w.handOn g (w.cache.leave g p), .inl (.panicked (.text text)))

/-- Takes a reading as far as it goes. -/
def advanceRead (w : World) (p : Party) (r : PendingRead) : World × (ReadOutcome ⊕ PendingRead) :=
  let g := r.group
  let w := w.clearTimer p
  match r.phase with
  | .polling ends late => w.settlePoll p r ends late
  | .queued =>
    if (w.cache.slots.get g).isGranted p then
      match w.cache.look g p w.now with
      | (cache, .hit values) => (w.handOn g cache, .inl (.value values))
      | (cache, .miss) =>
        let w := { w with cache := cache, source := w.source.countPoll g }
        let late := w.source.delay > cache.pollLimit
        let ends := Millis.after w.now (if late then cache.pollLimit else w.source.delay)
        w.settlePoll p r ends late
    else w.waitOrGiveUp p r

/-- Begins a reading. -/
def beginRead (w : World) (p : Party) (g : Sensor.Group) (deadline : Option Millis) :
    World × (ReadOutcome ⊕ PendingRead) :=
  { w with cache := w.cache.request g p }.advanceRead p ⟨g, .queued, deadline⟩

/-! ## The mode -/

/-- The outcome of an operation on the controller. -/
def withController (w : World) (changed : Mode.Controller × Option Mode.Transition) :
    World × Option Mode.Transition :=
  ({ w with controller := changed.1 }, changed.2)

/-- Puts the system into lockdown. -/
def signalCritical (w : World) (reason : String) (triggers : List Mode.Trigger) :
    World × Option Mode.Transition :=
  w.withController (w.controller.signalCritical reason triggers)

/-- Starts recovery. -/
def triggerRecovery (w : World) (reason : String) : World × Except Mode.Refusal Mode.Transition :=
  match w.controller.triggerRecovery reason with
  | .ok (controller, t) => ({ w with controller := controller }, .ok t)
  | .error refusal => (w, .error refusal)

/-- Evaluates a summary. -/
def evaluate (w : World) (summary : Metric.Summary) : World × Option Mode.Transition :=
  w.withController (w.controller.evaluate summary)

/-! ## Monitors -/

/-- Changes one monitor. -/
def modifyMonitor (w : World) (m : Nat) (f : Monitor.Watch → Monitor.Watch) : World :=
  { w with monitors := w.monitors.modify m f }

/-- Adds a monitor that was not started. -/
def addMonitor (w : World) (trace : String) : World × Nat :=
  ({ w with monitors := w.monitors ++ [.make trace w.monitorOptions] }, w.monitors.length)

/-- Starts a monitor; its sampler gets in line. -/
def startMonitor (w : World) (m : Nat) : World × Except Monitor.AlreadyStarted Unit :=
  match w.monitors[m]? with
  | none => (w, .ok ())
  | some watch =>
    match watch.start w.now with
    | .error e => (w, .error e)
    | .ok started =>
      let w := w.modifyMonitor m fun _ => started
      (if started.sampler?.isSome then w.wake (.sampler m) else w, .ok ())

/-- Asks a monitor to stop; a sampler that is not over gets in line. -/
def requestStop (w : World) (m : Nat) : World :=
  let w := w.modifyMonitor m Monitor.Watch.requestStop
  match (w.monitors[m]?).bind Monitor.Watch.sampler? with
  | some s => if s.isOver then w else w.wake (.sampler m)
  | none => w

/-- The summary of a monitor that was asked to stop, once it is settled. -/
def finishStop (w : World) (m : Nat) : World × Option Metric.Summary :=
  let w := w.modifyMonitor m fun watch => watch.finishStop w.now
  (w, (w.monitors[m]?).bind Monitor.Watch.summary?)

/-! ## Collaborators -/

/-- Replaces the client with a given name. -/
def setClient (w : World) (name : String) (client : Llm.Client) : World :=
  { w with clients := w.clients.map fun named =>
      if named.1 = name then (name, client) else named }

/-- What a step of a script comes to under a limit, and after which time. -/
def stepOutcome (step : Llm.Step) (limit : Option Millis) :
    Millis × Outcome CallError String :=
  match step with
  | .reply text => (0, .value text)
  | .fail e => (0, .error e)
  | .panic text => (0, .panicked (.text text))
  | .hang duration text =>
    match limit with
    | none => (duration, .value text)
    | some limit => if limit < duration then (limit, .overdue) else (duration, .value text)

/-- A client's answer to a conversation. -/
def askClient (w : World) (name : String) (messages : List Llm.Message) (limit : Option Millis) :
    World × Millis × Outcome CallError String :=
  match w.clients.lookup name with
  | none => (w, 0, .error (.connection "no such client"))
  | some client =>
    let (client, step) := client.next messages
    (w.setClient name client, stepOutcome step limit)

/-- The next step of steps of which the last repeats. -/
def nextStep {β : Type} [Inhabited β] : List β → β × List β
  | [] => (default, [])
  | [step] => (step, [step])
  | step :: rest => (step, rest)

/-- The installed router's answer. -/
def consultRouter (w : World) (limit : Millis) : World × Millis × Outcome CallError Route :=
  let (answer, rest) := nextStep w.router.answers
  let w := { w with router := ⟨rest⟩ }
  if limit < answer.delay then (w, limit, .overdue)
  else
    (w, answer.delay,
      match answer.step with
      | .route r => .value r
      | .fail e => .error e
      | .panic p => .panicked p)

/-- Takes the next step of the last tool with a given name. -/
def nextToolStep (name : String) : List InstalledTool → Option (ToolStep × List InstalledTool)
  | [] => none
  | tool :: rest =>
    match nextToolStep name rest with
    | some (step, rest) => some (step, tool :: rest)
    | none =>
      if tool.name = name then
        let (step, steps) := nextStep tool.steps
        some (step, { tool with steps := steps, calls := tool.calls + 1 } :: rest)
      else none

/-- An installed tool's answer.  Of several tools with one name the last answers. -/
def useTool (w : World) (name : String) (args : Json.Value) (limit : Millis) :
    World × Millis × Outcome CallError String :=
  match nextToolStep name w.tools with
  | none => (w, 0, .error (.connection "no such tool"))
  | some (step, tools) =>
    let w := { w with tools := tools }
    match step with
    | .args => (w, 0, .value (Json.compact args))
    | .model step => (w, stepOutcome step (some limit))

end World

end SteadyTask.Simulation
