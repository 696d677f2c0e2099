import SteadyTask.Proofs.Simulation.Waiting
import SteadyTask.Proofs.Task.Calls

/-!
# Monitoring and reflection are invisible

What a task comes to, which calls it makes and when it returns depends on the task, its
collaborators, the mode and the time, and on nothing else.  Sensors and their cache may do anything
at any moment, the monitor may be on or off with any interval, reflections may be planned in any
way: the task does not notice, and it always returns.

The collaborators do not read the sensors, and neither does the tool that the task is routed to.
What the summary holds is not said here.
-/

namespace SteadyTask.Simulation.World

open Activity
open SteadyTask.Task (Context Executor Ending retry)

section Attended

variable {α β : Type} {c : Mode.Controller} {script : Scripts} {w : World} {k : Collaborators}

/-! ## A task at work -/

/-- Who goes to sleep goes on in time. -/
theorem endsUp_sleepThen (h : Working c script w) (duration : Millis) (next : Activity α) :
    EndsUp (GoesOn c script (afterWait w.now duration) next) (w.sleepThen .main duration next).1
      (w.sleepThen .main duration next).2 := by
  unfold sleepThen afterWait
  by_cases hNone : duration = 0
  · rw [if_pos hNone, if_pos hNone]
    exact .here ⟨h, rfl, rfl⟩
  · rw [if_neg hNone, if_neg hNone]
    exact endsUp_asleep (asleep_setTimer h (lt_after hNone))

/-- What needs nobody is answered as it is alone. -/
theorem endsUp_own {r : Request} {own : Millis × r.Answer} (h : Working c script w)
    (hOwn : ownAnswer? c.mode w.now r = some own) (resume : r.Answer → Activity α) :
    EndsUp (GoesOn c script (afterWait w.now own.1) (resume own.2)) w
      (.ready (.request r resume)) := by
  refine .turn fun source cache => ?_
  have hAwake := (h.sensors source cache).awake
  cases r with
  | now =>
      cases hOwn
      exact .here ⟨hAwake, rfl, rfl⟩
  | mode =>
      cases hOwn
      refine .here ⟨hAwake, rfl, ?_⟩
      show Stage.ready (resume w.controller.mode) = _
      rw [h.controller]
  | pause duration =>
      cases hOwn
      exact endsUp_sleepThen hAwake duration (resume ())
  | _ => cases hOwn

/-- A call takes its time and is answered, as the collaborators of a world that has made the same
calls answer it. -/
theorem endsUp_call {w₀ : World} {calls : List Call} {r : Request} (hCall : r.isCall = true)
    (h : Working c (w₀.replay calls).scripts w) (resume : r.Answer → Activity α) :
    let answered := w₀.collaborators.answer calls w.now r hCall
    EndsUp
      (GoesOn c (w₀.replay (calls ++ [⟨w.now, answered.1, r, answered.2⟩])).scripts
        (afterWait w.now answered.1) (resume answered.2))
      w (.ready (.request r resume)) := by
  intro answered
  refine .turn fun source cache => ?_
  have hAwake := (h.sensors source cache).awake
  show EndsUp _ (begin _ .main r resume).1 (begin _ .main r resume).2
  rw [begin_call_of_replay hAwake.scripts .main hCall resume]
  exact endsUp_sleepThen (hAwake.withScripts _) answered.1 (resume answered.2)

/-- What an attended activity comes to alone it comes to in every world of a task at work. -/
theorem endsUp_attend (activity : Activity α) (f : α × List Call → Activity β)
    {calls later : List Call} {a : α} {finish : Millis} (h : Working c script w)
    (hAlone : alone k c.mode activity calls w.now = some (a, later, finish)) :
    EndsUp (GoesOn c script finish (f (a, later))) w
      (.ready ((attend k activity calls).bind f)) := by
  induction activity generalizing w calls with
  | done b =>
      cases hAlone
      exact .here ⟨h, rfl, rfl⟩
  | request r resume ih =>
      cases hCall : r.isCall with
      | true =>
          rw [alone_call hCall] at hAlone
          rw [attend_call hCall]
          refine (endsUp_own (r := .now) h rfl _).trans ?_
          rintro w₁ _ ⟨h₁, hNow₁, rfl⟩
          refine (endsUp_own (r := .pause _) h₁ rfl _).trans ?_
          rintro w₂ _ ⟨h₂, hNow₂, rfl⟩
          refine ih _ h₂ ?_
          rw [hNow₂, hNow₁]
          exact hAlone
      | false =>
          rw [alone_of_not_isCall hCall] at hAlone
          rw [attend_of_not_isCall hCall]
          obtain ⟨own, hOwn, hRest⟩ := Option.bind_eq_some_iff.mp hAlone
          refine (endsUp_own h hOwn _).trans ?_
          rintro w₁ _ ⟨h₁, hNow₁, rfl⟩
          refine ih _ h₁ ?_
          rw [hNow₁]
          exact hRest

/-- What an activity comes to alone, with a world's own models, tools and router, it comes to in
every world of a task at work that has the same scripts. -/
theorem endsUp_unattended {w₀ : World} (activity : Activity α) (f : α → Activity β)
    {calls later : List Call} {a : α} {finish : Millis}
    (h : Working c (w₀.replay calls).scripts w)
    (hAlone : alone w₀.collaborators c.mode activity calls w.now = some (a, later, finish)) :
    EndsUp (GoesOn c (w₀.replay later).scripts finish (f a)) w
      (.ready (activity.bind f)) := by
  induction activity generalizing w calls with
  | done b =>
      cases hAlone
      exact .here ⟨h, rfl, rfl⟩
  | request r resume ih =>
      cases hCall : r.isCall with
      | true =>
          rw [alone_call hCall] at hAlone
          refine (endsUp_call hCall h _).trans ?_
          rintro w₁ _ ⟨h₁, hNow₁, rfl⟩
          refine ih _ h₁ ?_
          rw [hNow₁]
          exact hAlone
      | false =>
          rw [alone_of_not_isCall hCall] at hAlone
          obtain ⟨own, hOwn, hRest⟩ := Option.bind_eq_some_iff.mp hAlone
          refine (endsUp_own h hOwn _).trans ?_
          rintro w₁ _ ⟨h₁, hNow₁, rfl⟩
          refine ih _ h₁ ?_
          rw [hNow₁]
          exact hRest

/-! ## Before and after -/

/-- The first monitor of a world runs, and its sampler is in line if it has one. -/
theorem startMonitor_first (h : w.monitors = []) :
    ∃ s?, (∀ s ∈ s?, ∃ interval, s = Monitor.Sampler.make interval) ∧
      ((w.addMonitor "").1.startMonitor (w.addMonitor "").2).1 =
        let started : World :=
          { w with monitors := [⟨"", w.monitorOptions, .running w.now s?⟩] }
        if s?.isSome then started.wake (.sampler 0) else started := by
  cases hEnabled : w.monitorOptions.enabled with
  | true =>
      refine ⟨some (.make w.monitorOptions.interval), ?_, ?_⟩
      · rintro _ ⟨⟩
        exact ⟨_, rfl⟩
      · simp [addMonitor, startMonitor, h, Monitor.Watch.make, Monitor.Watch.start, hEnabled,
          modifyMonitor, Monitor.Watch.sampler?]
  | false =>
      refine ⟨none, fun _ hNone => absurd hNone (Option.not_mem_none _), ?_⟩
      simp [addMonitor, startMonitor, h, Monitor.Watch.make, Monitor.Watch.start, hEnabled,
        modifyMonitor, Monitor.Watch.sampler?]

theorem working_startMonitor (h : Fresh w) :
    Working w.controller w.scripts ((w.addMonitor "").1.startMonitor (w.addMonitor "").2).1 ∧
      ((w.addMonitor "").1.startMonitor (w.addMonitor "").2).1.now = w.now := by
  obtain ⟨s?, hMade, hStarted⟩ := startMonitor_first h.monitors
  let started : World := { w with monitors := [⟨"", w.monitorOptions, .running w.now s?⟩] }
  have hWorking : Working w.controller w.scripts started := by
    refine ⟨rfl, rfl, h.readers, h.reflections, ?_, ?_, s?, ⟨_, _, _, rfl⟩, ?_⟩
    · intro timer hTimer
      rw [show started.timers = [] from h.timers] at hTimer
      cases hTimer
    · intro read hRead
      rw [show started.reads = [] from h.reads] at hRead
      cases hRead
    · intro s hs
      obtain ⟨interval, rfl⟩ := hMade s hs
      exact ⟨trivial, rfl⟩
  rw [hStarted]
  dsimp only
  split
  · exact ⟨hWorking.of_monitors (behind_wake _) (monitors_wake _), (behind_wake _).now⟩
  · exact ⟨hWorking, rfl⟩

/-- A task begins by starting its monitor. -/
theorem endsUp_startMonitor (h : Fresh w) (resume : Nat → Activity α) :
    EndsUp (GoesOn w.controller w.scripts w.now (resume 0)) w
      (.ready (.request .startMonitor resume)) := by
  refine .turn fun source cache => .here ?_
  have hFresh : Fresh { w with source := source, cache := cache, mainWoken := false } :=
    ⟨h.monitors, h.reads, h.readers, h.reflections, h.timers⟩
  obtain ⟨hWorking, hNow⟩ := working_startMonitor hFresh
  refine ⟨hWorking, hNow, ?_⟩
  show Stage.ready (resume w.monitors.length) = _
  rw [h.monitors]
  rfl

/-- The activity has returned at a time, with a result that is known up to a summary, and this is
left of the scripts. -/
def Returned (finish : Millis) (script : Scripts) (result : Metric.Summary → α) (w : World)
    (stage : Stage α) : Prop :=
  w.now = finish ∧ w.scripts = script ∧ ∃ summary, stage = .done (result summary)

/-- Once the work of a task is over, the task returns without any time having passed. -/
theorem endsUp_closing (h : Working c script w) (trace request : String) (context : Context)
    (f : Context → α) :
    EndsUp (Returned w.now script fun summary => f { context with summary := some summary }) w
      (.ready
        ((Executor.closing trace request 0 context).bind fun closed => .done (f closed))) := by
  refine (endsUp_stopMonitor h).trans ?_
  rintro w₁ _ ⟨hNow₁, hScripts₁, summary, rfl⟩
  -- nothing that is left takes any time or waits for anybody
  refine .turn fun _ _ => .turn fun _ _ => .turn fun _ _ => .turn fun _ _ => .here ?_
  have hBehind {given : World} (p : Party) : Behind given (given.wake p) := behind_wake p
  exact ⟨(hBehind _).now.trans hNow₁, (hBehind _).scripts.trans hScripts₁, summary, rfl⟩

theorem attend_execute (x : Executor) (trace request : String) :
    attend k (x.execute trace request) [] =
      .request .startMonitor fun monitor =>
        (attend k (x.work request Context.start) []).bind fun out =>
          attend k (Executor.closing trace request monitor (Executor.close out.1.1 out.1.2))
            out.2 := by
  have hStart := attend_of_not_isCall (k := k) (r := .startMonitor) rfl
    (fun monitor => (x.work request Context.start).bind fun out =>
      Executor.closing trace request monitor (Executor.close out.1 out.2)) []
  simp only [attend_bind] at hStart
  exact hStart

section Execute

variable {x : Executor} {request : String} {worked : Context} {ending : Ending String}
  {calls : List Call} {finish : Millis}

/-- An attended task returns what its work comes to alone. -/
theorem returned_attend_execute (hFresh : Fresh w)
    (hAlone : alone k w.controller.mode (x.work request Context.start) [] w.now =
      some ((worked, ending), calls, finish)) (trace : String) :
    EndsUp
      (Returned finish w.scripts fun summary =>
        ({ Executor.close worked ending with summary := some summary }, calls))
      w (.ready (attend k (x.execute trace request) [])) := by
  rw [attend_execute]
  refine (endsUp_startMonitor hFresh _).trans ?_
  rintro w₁ _ ⟨h₁, hNow₁, rfl⟩
  rw [← hNow₁] at hAlone
  refine (endsUp_attend _ _ h₁ hAlone).trans ?_
  rintro w₂ _ ⟨h₂, rfl, rfl⟩
  exact endsUp_closing h₂ trace request _ fun closed => (closed, calls)

/-- A task whose calls the world answers returns what its work comes to alone, with the same
answers. -/
theorem returned_execute (hFresh : Fresh w)
    (hAlone : alone w.collaborators w.controller.mode (x.work request Context.start) [] w.now =
      some ((worked, ending), calls, finish)) (trace : String) :
    EndsUp
      (Returned finish (w.replay calls).scripts fun summary =>
        { Executor.close worked ending with summary := some summary })
      w (.ready (x.execute trace request)) := by
  refine (endsUp_startMonitor hFresh _).trans ?_
  rintro w₁ _ ⟨h₁, hNow₁, rfl⟩
  rw [← hNow₁] at hAlone
  have hNone : Working w.controller (w.replay []).scripts w₁ := h₁
  refine (endsUp_unattended _ _ hNone hAlone).trans ?_
  rintro w₂ _ ⟨h₂, rfl, rfl⟩
  exact endsUp_closing h₂ trace request _ id

end Execute

end Attended

/-! ## Tasks that keep off the sensors -/

section Plain

variable {x : Executor} {k : Collaborators} {mode : Mode} {request : String} {now : Millis}

/-- The tool that a task is routed to, if it is routed to any, does not read the sensors. -/
def KeepsOffSensors (x : Executor) (k : Collaborators) (mode : Mode) (request : String)
    (now : Millis) : Prop :=
  ∀ tool args calls later,
    alone k mode (retry x.recovery .model (x.routeOnce request)) [] now =
        some (.value (.toolCall tool args), calls, later) →
      ∀ spec, x.registry.get? tool = some spec → spec.worker ≠ .metrics

theorem only_plain_retry {α : Type} {r : Recovery} {kind : CallKind}
    {call : Activity (Outcome CallError α)} (hCall : call.Only IsPlain) :
    (retry r kind call).Only IsPlain :=
  Task.only_retryFrom hCall (fun _ => trivial) 0

theorem only_plain_routeOnce (x : Executor) (request : String) :
    (x.routeOnce request).Only IsPlain := by
  unfold Executor.routeOnce
  split
  · exact Only.bind (only_perform trivial) (fun _ => trivial)
  · exact only_perform trivial

theorem only_plain_callToolOnce {tool : String} {args : Json.Value}
    (h : ∀ spec, x.registry.get? tool = some spec → spec.worker ≠ .metrics) :
    (x.callToolOnce tool args).Only IsPlain := by
  refine Only.bind (Only.bind ?_ (fun _ => trivial)) (fun _ => trivial)
  unfold Tool.work
  split
  · exact trivial
  · next spec hSpec =>
      cases hWorker : spec.worker with
      | echo => exact trivial
      | metrics => exact absurd hWorker (h spec hSpec)
      | installed => exact only_perform trivial

theorem only_plain_carryOut {route : Route}
    (h : ∀ tool args, route = .toolCall tool args →
      ∀ spec, x.registry.get? tool = some spec → spec.worker ≠ .metrics) :
    (x.carryOut route).Only IsPlain := by
  cases route with
  | handleDirect reply => exact trivial
  | toolCall tool args =>
      exact Executor.only_ifPermitted trivial
        (only_plain_retry (only_plain_callToolOnce (h tool args rfl)))
  | modelDelegate prompt =>
      exact Executor.only_ifPermitted trivial (only_plain_retry (only_perform trivial))

/-- The work of a task that keeps off the sensors comes to something alone. -/
theorem exists_alone_work (h : KeepsOffSensors x k mode request now) (c : Context) :
    ∃ worked calls finish,
      alone k mode (x.work request c) [] now = some (worked, calls, finish) := by
  have hPlain : (retry x.recovery .model (x.routeOnce request)).Only IsPlain :=
    only_plain_retry (only_plain_routeOnce x request)
  obtain ⟨routed, routing, later, hRouting⟩ : ∃ routed routing later,
      alone k mode (retry x.recovery .model (x.routeOnce request)) [] now =
        some (routed, routing, later) := exists_alone hPlain [] now
  unfold Executor.work
  show ∃ worked calls finish, alone k mode
    (Activity.bind (retry x.recovery .model (x.routeOnce request)) _) [] now =
      some (worked, calls, finish)
  rw [alone_bind, hRouting]
  refine exists_alone ?_ routing later
  cases routed with
  | failed f => exact trivial
  | panicked p => exact trivial
  | value route =>
      refine Only.bind (only_plain_carryOut ?_) (fun _ => trivial)
      rintro tool args rfl
      exact h tool args routing later hRouting

end Plain

/-! ## The result -/

/-- The activity returns a result, known up to a summary, at a time, and leaves this of the scripts,
whatever the sensors and their cache turn into before each turn; and a run with the sensors left
alone comes to that as soon as it may take enough turns. -/
def Returns {α : Type} (w : World) (activity : Activity α) (finish : Millis) (script : Scripts)
    (result : Metric.Summary → α) : Prop :=
  EndsUp (Returned finish script result) w (.ready activity) ∧
    ∃ turns w' summary, w'.now = finish ∧ w'.scripts = script ∧
      ∀ more, runWithin (turns + more) w (.ready activity) = (w', some (result summary))

theorem returns_of_endsUp {α : Type} {w : World} {activity : Activity α} {finish : Millis}
    {script : Scripts} {result : Metric.Summary → α}
    (h : EndsUp (Returned finish script result) w (.ready activity)) :
    Returns w activity finish script result := by
  refine ⟨h, ?_⟩
  obtain ⟨turns, w', _, ⟨hFinish, hScripts, summary, rfl⟩, hRun⟩ := h.exists_runWithin
  refine ⟨turns + 1, w', summary, hFinish, hScripts, fun more => ?_⟩
  rw [Nat.add_assoc, Nat.add_comm 1, hRun more, runWithin_done]

/-- Two tasks that begin at the same time in the same mode, with the same executor, collaborators
and request, come to the same, make the same calls and return at the same time, in whatever worlds:
whatever their sensors do, however they are monitored, and whatever is planned for reflections.  It
does not matter whether the calls are attended to or made in the world, if they are answered in the
same way. -/
theorem monitoring_and_reflection_invisible (x : Executor) (k : Collaborators) (mode : Mode)
    (request : String) (now : Millis) (hSensors : KeepsOffSensors x k mode request now) :
    ∃ (context : Context) (calls : List Call) (finish : Millis),
      ∀ (w : World) (trace : String), Fresh w → w.now = now → w.controller.mode = mode →
        Returns w (attend k (x.execute trace request) []) finish w.scripts
            (fun summary => ({ context with summary := some summary }, calls)) ∧
          (w.collaborators = k →
            Returns w (x.execute trace request) finish (w.replay calls).scripts
              fun summary => { context with summary := some summary }) := by
  obtain ⟨⟨worked, ending⟩, calls, finish, hAlone⟩ := exists_alone_work hSensors Context.start
  refine ⟨Executor.close worked ending, calls, finish, ?_⟩
  rintro w trace hFresh rfl rfl
  refine ⟨returns_of_endsUp (returned_attend_execute hFresh hAlone trace), ?_⟩
  rintro rfl
  exact returns_of_endsUp (returned_execute hFresh hAlone trace)

/-- An executor whose router is asked once and has two tools, one of which reads the sensors. -/
def echoing : Executor where
  router := .installed
  delegate := "delegate"
  registry := [Tool.echo, Tool.systemMetrics]
  governance := .byMode
  recovery := .make 500 30000 ⟨30000, 0⟩ ⟨60000, 0⟩

/-- A world with its sensors, a cache and a monitor, and a router that takes its time and then
chooses the tool that echoes. -/
def worldWith (source : Sensor.Source) (ttl pollLimit : Millis) (options : Monitor.Options) :
    World :=
  (World.start source ttl pollLimit default options default).withScripts
    ⟨[], ⟨[⟨25, .route (.toolCall "echo" (.obj []))⟩]⟩, []⟩

theorem fresh_worldWith (source : Sensor.Source) (ttl pollLimit : Millis)
    (options : Monitor.Options) : Fresh (worldWith source ttl pollLimit options) :=
  ⟨rfl, rfl, rfl, rfl, rfl⟩

theorem keepsOffSensors_echoing (source : Sensor.Source) (ttl pollLimit : Millis)
    (options : Monitor.Options) :
    KeepsOffSensors echoing (worldWith source ttl pollLimit options).collaborators .normal "hello"
      0 := by
  intro tool args calls later hRouting spec hSpec
  rw [retry, Task.retryFrom_eq] at hRouting
  cases hRouting
  cases hSpec
  decide

/-- A task whose sampler is in the middle of a slow poll when it returns, and one that is not
monitored. -/
theorem slow_poll_invisible :
    let polled := worldWith { Sensor.Source.calm with delay := 1000 } 100 500 ⟨true, 10⟩
    let unmonitored := worldWith .calm 0 0 ⟨false, 0⟩
    ∃ (context : Context) (calls : List Call) (finish : Millis),
      ∀ w ∈ [polled, unmonitored],
        Returns w (echoing.execute "trace" "hello") finish (w.replay calls).scripts
          fun summary => { context with summary := some summary } := by
  intro polled unmonitored
  obtain ⟨context, calls, finish, hAll⟩ := monitoring_and_reflection_invisible echoing
    polled.collaborators .normal "hello" 0 (keepsOffSensors_echoing _ _ _ _)
  refine ⟨context, calls, finish, fun w hw => ?_⟩
  rcases List.mem_cons.mp hw with rfl | hw
  · exact (hAll polled "trace" (fresh_worldWith ..) rfl rfl).2 rfl
  · obtain rfl := List.mem_singleton.mp hw
    exact (hAll unmonitored "trace" (fresh_worldWith ..) rfl rfl).2 (collaborators_of_scripts rfl)

end SteadyTask.Simulation.World
