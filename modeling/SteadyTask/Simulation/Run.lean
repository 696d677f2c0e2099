import SteadyTask.Simulation.World

/-!
# Running activities in the world

The main activity goes on as long as it can.  Then those in line go on, one after another, each as
far as it can; then the main activity again, if something has woken it; and when nothing can go on
the clock moves.  Right after the clock has moved the main activity comes first.
-/

namespace SteadyTask.Simulation

namespace World

variable {α : Type}

/-- An activity that goes on after a time. -/
def sleepThen (w : World) (p : Party) (duration : Millis) (next : Activity α) : World × Stage α :=
  if duration = 0 then (w, .ready next)
  else
    let wakeAt := Millis.after w.now duration
    (w.setTimer p wakeAt, .asleep wakeAt next)

/-- The stage of an activity with a reading that was taken as far as it goes. -/
def afterRead (read : World × (ReadOutcome ⊕ PendingRead)) (resume : ReadOutcome → Activity α) :
    World × Stage α :=
  match read with
  | (w, .inl outcome) => (w, .ready (resume outcome))
  | (w, .inr r) => (w, .reading r resume)

/-- Whether all concurrent readers have their answers, and these. -/
def gathered? (w : World) : Option (List ReadOutcome) :=
  w.readers.mapM fun
    | .answered outcome => some outcome
    | .pending _ => none

/-- Begins a concurrent reading. -/
def addReader (w : World) (g : Sensor.Group) : World :=
  let index := w.readers.length
  match w.beginRead (.reader index) g none with
  | (w, .inl outcome) => { w with readers := w.readers ++ [.answered outcome] }
  | (w, .inr r) => { w with readers := w.readers ++ [.pending r] }

/-- Whether a reflection is over. -/
def reflectionIsOver (w : World) (index : Nat) : Bool :=
  match w.reflections[index]? with
  | some (.done _) => true
  | _ => false

/-- Goes on once the reflections that were taken from the backlog are over. -/
def drainOrWait (w : World) (awaited : Reflection.Backlog) (next : Activity α) :
    World × Stage α :=
  if awaited.isOver w.reflectionIsOver then (w, .ready next) else (w, .draining awaited next)

/-- Makes the cache forget a group, when it is the party's turn. -/
def forgetOrWait (w : World) (p : Party) (g : Sensor.Group) (next : Activity α) :
    World × Stage α :=
  if (w.cache.slots.get g).isGranted p then (w.handOn g (w.cache.drop g), .ready next)
  else (w, .forgetting g next)

/-- Goes on once a monitor's summary is settled. -/
def stoppedOrWait (w : World) (m : Nat) (resume : Metric.Summary → Activity α) :
    World × Stage α :=
  match w.finishStop m with
  | (w, some summary) => (w, .ready (resume summary))
  | (w, none) => (w, .stopping m resume)

/-- Answers a request, or lets the party wait for the answer. -/
def begin (w : World) (p : Party) (r : Request) (resume : r.Answer → Activity α) :
    World × Stage α :=
  match r, resume with
  | .ask client messages limit, resume =>
    let (w, duration, outcome) := w.askClient client messages limit
    w.sleepThen p duration (resume outcome)
  | .consult limit, resume =>
    let (w, duration, outcome) := w.consultRouter limit
    w.sleepThen p duration (resume outcome)
  | .useTool tool args limit, resume =>
    let (w, duration, outcome) := w.useTool tool args limit
    w.sleepThen p duration (resume outcome)
  | .read g deadline, resume => afterRead (w.beginRead p g deadline) resume
  | .readAll groups, resume =>
    let w := groups.foldl addReader { w with readers := [] }
    match w.gathered? with
    | some outcomes => (w, .ready (resume outcomes))
    | none => (w, .gathering resume)
  | .forget g, resume =>
    { w with cache := w.cache.request g p }.forgetOrWait p g (resume ())
  | .now, resume => (w, .ready (resume w.now))
  | .mode, resume => (w, .ready (resume w.controller.mode))
  | .pause duration, resume => w.sleepThen p duration (resume ())
  | .startMonitor, resume =>
    let (w, m) := w.addMonitor ""
    ((w.startMonitor m).1, .ready (resume m))
  | .stopMonitor m, resume => (w.requestStop m).stoppedOrWait m resume
  | .evaluate summary, resume => ((w.evaluate summary).1, .ready (resume ()))
  | .reflect input, resume =>
    let index := w.reflections.length
    let plan := w.plan
    let activity := Reflection.generate plan.settings plan.client plan.start input
    let w := { w with
      reflections := w.reflections ++ [Stage.ready activity]
      backlog := w.backlog.join w.reflectionIsOver index }
    (w.wake (.reflection index), .ready (resume ()))
  | .awaitReflections, resume =>
    { w with backlog := [] }.drainOrWait w.backlog (resume ())

/-- Lets a party that was woken go on, if what it waits for is there. -/
def resume (w : World) (p : Party) : Stage α → World × Stage α
  | .ready (.done a) => (w, .done a)
  | .ready (.request r resume) => w.begin p r resume
  | .asleep wakeAt next =>
    if wakeAt ≤ w.now then (w, .ready next) else (w.setTimer p wakeAt, .asleep wakeAt next)
  | .reading r resume => afterRead (w.advanceRead p r) resume
  | .forgetting g next => w.forgetOrWait p g next
  | .gathering resume =>
    match w.gathered? with
    | some outcomes => (w, .ready (resume outcomes))
    | none => (w, .gathering resume)
  | .stopping m resume => w.stoppedOrWait m resume
  | .draining awaited next => w.drainOrWait awaited next
  | .done a => (w, .done a)

/-! ## Those in line -/

/-- Keeps a party in front of the line. -/
def keepInFront (w : World) (p : Party) : World :=
  { w with line := p :: w.line.filter (· ≠ p) }

/-- A concurrent reader goes on. -/
def runReader (w : World) (index : Nat) : World :=
  match w.readers[index]? with
  | some (.pending r) =>
    match w.advanceRead (.reader index) r with
    | (w, .inl outcome) =>
      { w with readers := w.readers.set index (.answered outcome) }.wake .main
    | (w, .inr r) => { w with readers := w.readers.set index (.pending r) }
  | _ => w

/-- A reflection goes on by one request. -/
def runReflection (w : World) (index : Nat) : World :=
  match w.reflections[index]? with
  | none => w
  | some stage =>
    let (w, stage) := w.resume (.reflection index) stage
    let w := { w with reflections := w.reflections.set index stage }
    match stage with
    | .done generated => { w with records := w.records ++ [generated] }.wake .main
    | .ready _ => w.keepInFront (.reflection index)
    | _ => w

/-- How a reading ended, for a sampler. -/
def samplerReading : ReadOutcome → Monitor.Sampler.Reading
  | .value v => .values v
  | .error f => .fault f
  | .overdue => .fault (.unavailable "")
  | .panicked _ => .panicked

/-- Replaces the sampler of a monitor. -/
def setSampler (w : World) (m : Nat) (s : Monitor.Sampler) : World :=
  w.modifyMonitor m fun watch => watch.withSampler s

/-- The reading that a sampler has going. -/
def samplerRead? (w : World) (m : Nat) : Option PendingRead :=
  w.reads.lookup m

/-- Replaces the reading that a sampler has going. -/
def setSamplerRead (w : World) (m : Nat) (r : Option PendingRead) : World :=
  let others := w.reads.filter fun read => read.1 ≠ m
  { w with reads := (r.map fun r => (m, r)).toList ++ others }

/-- A sampler takes a reading as far as it goes. -/
def sampleGroup (w : World) (m : Nat) (s : Monitor.Sampler) (g : Sensor.Group) : World :=
  let p := Party.sampler m
  let read :=
    match w.samplerRead? m with
    | some r => w.advanceRead p r
    | none => w.beginRead p g none
  match read with
  | (w, .inr r) => w.setSamplerRead m (some r)
  | (w, .inl outcome) =>
    let s := s.groupRead g w.controller.mode w.controller.thresholds (samplerReading outcome)
    ((w.setSamplerRead m none).setSampler m s).keepInFront p

/-- A sampler that was told to end gives up what it waits for. -/
def endSampler (w : World) (m : Nat) (s : Monitor.Sampler) : World :=
  let p := Party.sampler m
  let w := w.clearTimer p
  let w :=
    match w.samplerRead? m with
    | some r => (w.handOn r.group (w.cache.leave r.group p)).setSamplerRead m none
    | none => w
  (w.setSampler m s.finish).wake .main

/-- A sampler goes on by one step. -/
def runSampler (w : World) (m : Nat) : World :=
  let p := Party.sampler m
  match (w.monitors[m]?).bind Monitor.Watch.sampler? with
  | none => w
  | some s =>
    match s.phase with
    | .starting =>
      let s := s.begin w.now
      let w := w.setSampler m s
      if s.isOver then w.wake .main else w.keepInFront p
    | .waiting due =>
      if s.cancelled then w.endSampler m s
      else if due ≤ w.now then ((w.clearTimer p).setSampler m (s.tick w.now)).keepInFront p
      else w.setTimer p due
    | .readingHost _ => if s.cancelled then w.endSampler m s else w.sampleGroup m s .host
    | .readingAccelerator _ _ =>
      if s.cancelled then w.endSampler m s else w.sampleGroup m s .accelerator
    | .crashed | .ended => w

/-- A party that is first in line goes on. -/
def runParty (w : World) : Party → World
  | .main => w
  | .sampler m => w.runSampler m
  | .reader index => w.runReader index
  | .reflection index => w.runReflection index

/-! ## The main activity -/

/-- Runs the main activity until it returns, in at most so many steps. -/
def runWithin : Nat → World → Stage α → World × Option α
  | 0, w, _ => (w, none)
  | _ + 1, w, .done a => (w, some a)
  | steps + 1, w, .ready activity =>
    let (w, stage) := { w with mainWoken := false }.resume .main (.ready activity)
    runWithin steps w stage
  | steps + 1, w, stage =>
    match w.line with
    | p :: rest => runWithin steps ({ w with line := rest }.runParty p) stage
    | [] =>
      if w.mainWoken then
        let (w, stage) := { w with mainWoken := false }.resume .main stage
        runWithin steps w stage
      else
        match w.nextTime? with
        | none => (w, none)
        | some time =>
          let w := w.moveTo time
          if w.mainWoken then
            let (w, stage) := { w with mainWoken := false }.resume .main stage
            runWithin steps w stage
          else runWithin steps w stage

/-- More steps than any run takes that ends in our lifetime. -/
def manySteps : Nat := Nat.pow 10 15

/-- Runs the main activity until it returns; `none` if it waits for something that never comes. -/
def run (w : World) (activity : Activity α) : World × Option α :=
  runWithin manySteps w (.ready activity)

end World

end SteadyTask.Simulation
