import SteadyTask.Proofs.Monitor.Places

/-!
# The life of a monitor among others

However the calls of a monitor, its sampler and everybody else take their turns, a monitor is
started at most once, every stop that returns gives the same summary, and once the first one has
returned the sampler does nothing any more.  A stop that was called can return after at most two
steps of the sampler, wherever that is.

What the summary holds is not said here, except of a monitor that was stopped before it was started.
-/

namespace SteadyTask.Monitor

variable {κ : Type}

/-! ## Events -/

/-- Whether a call of the monitor begins. -/
def Event.beginsCall : Event κ → Bool
  | .start | .stop => true
  | _ => false

/-- Whether the sampler goes on. -/
def Event.bySampler : Event κ → Bool
  | .begin | .tick | .look _ | .succeed _ _ | .fail _ _ | .panic _ | .finish => true
  | _ => false

variable [DecidableEq κ]

namespace Scene

variable {c c' : Scene κ} {event : Event κ} {past : List (Happening κ)} {trace : String}
  {options : Options} {summary : Metric.Summary}

/-- A monitor that was not called yet, and whose sampler stands nowhere. -/
structure Fresh (trace : String) (options : Options) (c : Scene κ) : Prop where
  watch : c.watch = .make trace options
  stopping : c.stopping = false
  orderly : c.moment.Orderly
  nowhere : ∀ g, c.reader ∉ (c.moment.slot g).line

omit [DecidableEq κ] in
theorem Fresh.placed (h : c.Fresh trace options) : c.Placed := by
  refine ⟨h.orderly, fun g => iff_of_false (h.nowhere g) ?_⟩
  rw [h.watch]
  nofun

/-- Only a sampler that is not over goes on. -/
theorem exists_sampler_of_bySampler (h : c.Placed) (hEnabled : c.Enabled event)
    (hBy : event.bySampler = true) : ∃ s, c.sampler? = some s ∧ s.isOver = false := by
  have hReads {g : Sensor.Group} {t : Sensor.Tenure}
      (hOwner : (c.moment.slot g).owner = some (c.reader, t)) :
      ∃ s, c.sampler? = some s ∧ s.isOver = false := by
    have hMem : c.reader ∈ (c.moment.slot g).line := by
      rw [Sensor.Slot.line_of_owner hOwner]
      exact List.mem_cons_self ..
    obtain ⟨s, hSampler, hReading⟩ := Option.bind_eq_some_iff.mp ((h.mem_line_iff g).mp hMem)
    refine ⟨s, hSampler, Bool.eq_false_iff.mpr fun hOver => ?_⟩
    rw [Sampler.reading?_of_isOver hOver] at hReading
    cases hReading
  cases event with
  | begin =>
      obtain ⟨s, hSampler, hPhase⟩ := enabled_begin_iff.mp hEnabled
      exact ⟨s, hSampler, by simp [Sampler.isOver, hPhase]⟩
  | tick =>
      obtain ⟨s, due, hSampler, hPhase, -⟩ := enabled_tick_iff.mp hEnabled
      exact ⟨s, hSampler, by simp [Sampler.isOver, hPhase]⟩
  | look g => exact hReads (Sensor.Slot.isGranted_iff.mp hEnabled)
  | succeed g values => exact hReads (Sensor.Slot.isPolling_iff.mp hEnabled)
  | fail g f => exact hReads (Sensor.Slot.isPolling_iff.mp hEnabled)
  | panic g => exact hReads (Sensor.Slot.isPolling_iff.mp hEnabled)
  | finish =>
      obtain ⟨s, hSampler, hFinish⟩ := enabled_finish_iff.mp hEnabled
      refine ⟨s, hSampler, ?_⟩
      unfold Sampler.canFinish at hFinish
      unfold Sampler.isOver
      cases hPhase : s.phase <;> simp_all
  | _ => cases hBy

/-! ## Before the first call -/

/-- Until it is called a monitor is idle. -/
structure Uncalled (c : Scene κ) : Prop where
  life : c.watch.life = .idle
  stopping : c.stopping = false

omit [DecidableEq κ] in
theorem Uncalled.sampler?_eq_none (h : c.Uncalled) : c.sampler? = none := by
  simp [Watch.sampler?, h.life]

theorem Uncalled.step (h : c.Uncalled) (hEnabled : c.Enabled event)
    (hCall : event.beginsCall = false) : (c.step event).Uncalled := by
  have hSame (hEvent : event.isCall = false) : (c.step event).watch = c.watch :=
    watchAfter_of_no_sampler hEvent h.sampler?_eq_none
  cases event with
  | start | stop => cases hCall
  | stopped =>
      obtain ⟨hStopping, -⟩ := enabled_stopped_iff.mp hEnabled
      rw [h.stopping] at hStopping
      cases hStopping
  | _ => exact ⟨by rw [hSame rfl, h.life], h.stopping⟩

theorem Uncalled.of_history (h : c.Uncalled) (hPast : History c past c')
    (hCalls : ∀ e ∈ past, e.event.beginsCall = false) : c'.Uncalled :=
  hPast.preserves hCalls (fun _ _ hEnabled hCall hBefore => hBefore.step hEnabled hCall) h

/-! ## After the first call -/

/-- Once a call has begun the monitor is not idle, and a stop under way has told the sampler to
end. -/
structure Called (c : Scene κ) : Prop where
  life : c.watch.life ≠ .idle
  told : c.stopping = true → ∀ s, c.sampler? = some s → s.cancelled = true

theorem called_of_beginsCall (h : c.Uncalled ∨ c.Called) (hEnabled : c.Enabled event)
    (hCall : event.beginsCall = true) : (c.step event).Called := by
  cases event with
  | start =>
      have hStopping : c.stopping = false := hEnabled
      refine ⟨?_, fun hStop => absurd (hStopping.symm.trans hStop) nofun⟩
      show (c.watchAfter .start).life ≠ .idle
      rw [watchAfter_start]
      rcases h with h | h
      · simp [Watch.start, h.life, Except.toOption]
      · unfold Watch.start
        cases hLife : c.watch.life with
        | idle => exact absurd hLife h.life
        | _ => simp [hLife, Except.toOption]
  | stop =>
      refine ⟨?_, fun _ s hSampler => ?_⟩
      · show c.watch.requestStop.life ≠ .idle
        unfold Watch.requestStop
        cases hLife : c.watch.life <;> simp [hLife]
      · have hTold : c.watch.requestStop.sampler? = some s := hSampler
        rw [Watch.sampler?_requestStop] at hTold
        obtain ⟨s', -, rfl⟩ := Option.map_eq_some_iff.mp hTold
        rfl
  | _ => cases hCall

/-- A stop that returns has settled the monitor. -/
theorem Called.stopped_of_returned (h : c.Called) (hEnabled : c.Enabled .stopped) :
    ∃ summary, (c.step .stopped).watch.life = .stopped summary := by
  obtain ⟨-, hOver⟩ := enabled_stopped_iff.mp hEnabled
  show ∃ summary, (c.watch.finishStop c.now).life = .stopped summary
  cases hLife : c.watch.life with
  | idle => exact absurd hLife h.life
  | running startedAt s? =>
      refine ⟨_, Watch.life_finishStop c.now hLife fun s hs => ?_⟩
      subst hs
      exact hOver s (Watch.sampler?_eq_some_iff.mpr ⟨startedAt, hLife⟩)
  | stopped summary => exact ⟨summary, by simp [Watch.finishStop, hLife]⟩

theorem Called.step (h : c.Called) (hEnabled : c.Enabled event) : (c.step event).Called := by
  rcases event.isCall_cases with rfl | rfl | rfl | hCall
  · exact called_of_beginsCall (.inr h) hEnabled rfl
  · exact called_of_beginsCall (.inr h) hEnabled rfl
  · refine ⟨?_, nofun⟩
    obtain ⟨summary, hLife⟩ := h.stopped_of_returned hEnabled
    rw [hLife]
    nofun
  · obtain ⟨hStopping, ⟨-, hSame⟩ | ⟨startedAt, s, hLife, hAfter⟩⟩ := c.step_cases_of_not_call hCall
    · exact ⟨by rw [hSame]; exact h.life, by rw [hStopping, sampler?, hSame]; exact h.told⟩
    · refine ⟨by rw [hAfter]; simp, fun hStop s' hSampler => ?_⟩
      rw [hStopping] at hStop
      have hTold := h.told hStop s (Watch.sampler?_eq_some_iff.mpr ⟨startedAt, hLife⟩)
      obtain rfl : c.samplerAfter s event = s' := by
        simpa [sampler?, hAfter, Watch.sampler?] using hSampler
      rw [cancelled_samplerAfter, hTold]

theorem Called.of_history (h : c.Called) (hPast : History c past c') : c'.Called :=
  hPast.preserves (C := fun _ => True) (fun _ _ => trivial)
    (fun _ _ hEnabled _ hBefore => hBefore.step hEnabled) h

/-- A monitor was called if and only if it is not idle. -/
theorem called_of_mem (h : c.Uncalled) (hPast : History c past c')
    (hCall : ∃ e ∈ past, e.event.beginsCall = true) : c'.Called := by
  induction hPast with
  | nil c =>
      obtain ⟨e, he, -⟩ := hCall
      cases he
  | @cons c c' event past hEnabled rest ih =>
      by_cases hBegins : event.beginsCall = true
      · exact (called_of_beginsCall (.inl h) hEnabled hBegins).of_history rest
      · refine ih (h.step hEnabled (Bool.eq_false_iff.mpr hBegins)) ?_
        obtain ⟨e, he, hEvent⟩ := hCall
        rcases List.mem_cons.mp he with rfl | he
        · exact absurd hEvent hBegins
        · exact ⟨e, he, hEvent⟩

/-- The name of a monitor stays. -/
theorem trace_step (c : Scene κ) (event : Event κ) :
    (c.step event).watch.trace = c.watch.trace := by
  rcases event.isCall_cases with rfl | rfl | rfl | hCall
  · show (c.watchAfter .start).trace = c.watch.trace
    rw [watchAfter_start]
    unfold Watch.start
    cases c.watch.life <;> rfl
  · show c.watch.requestStop.trace = c.watch.trace
    unfold Watch.requestStop
    cases c.watch.life <;> rfl
  · show (c.watch.finishStop c.now).trace = c.watch.trace
    unfold Watch.finishStop
    cases c.watch.life with
    | running startedAt s? =>
        cases s? with
        | none => rfl
        | some s => by_cases hOver : s.isOver = true <;> simp [hOver]
    | _ => rfl
  · obtain ⟨-, ⟨-, hSame⟩ | ⟨startedAt, s, -, hAfter⟩⟩ := c.step_cases_of_not_call hCall
    · rw [hSame]
    · rw [hAfter]

theorem trace_of_history (hPast : History c past c') : c'.watch.trace = c.watch.trace :=
  hPast.preserves (P := fun c' => c'.watch.trace = c.watch.trace) (C := fun _ => True)
    (fun _ _ => trivial) (fun _ _ _ _ hBefore => (trace_step _ _).trans hBefore) rfl

/-! ## Starts -/

omit [DecidableEq κ] in
/-- The first call of a monitor can start it. -/
theorem start_of_uncalled (h : c.Uncalled) : ∃ started, c.watch.start c.now = .ok started := by
  unfold Watch.start
  rw [h.life]
  exact ⟨_, rfl⟩

/-- A later start is refused and changes nothing. -/
theorem start_of_called (h : c.Called) :
    c.watch.start c.now = .error ⟨c.watch.trace⟩ ∧ c.step .start = c := by
  have hRefused : c.watch.start c.now = .error ⟨c.watch.trace⟩ := by
    unfold Watch.start
    cases hLife : c.watch.life with
    | idle => exact absurd hLife h.life
    | _ => rfl
  refine ⟨hRefused, ?_⟩
  have hWatch : c.watchAfter .start = c.watch := by
    simp only [watchAfter, hRefused]
  show (⟨c.reader, ask c.moment c.reader c.watch.reading? (c.watchAfter .start).reading?, c.mode,
    c.thresholds, c.watchAfter .start, c.stopping⟩ : Scene κ) = c
  rw [hWatch, ask_self]

/-! ## A monitor that was called -/

/-- The monitor was called, and its sampler stands where it reads. -/
structure Begun (c : Scene κ) : Prop where
  placed : c.Placed
  called : c.Called

namespace Begun

theorem step (h : c.Begun) (hEnabled : c.Enabled event) : (c.step event).Begun :=
  ⟨h.placed.step hEnabled, h.called.step hEnabled⟩

theorem of_history (h : c.Begun) (hPast : History c past c') : c'.Begun :=
  ⟨h.placed.of_history hPast, h.called.of_history hPast⟩

/-- What every event keeps once a monitor was called holds at the end of a history that it holds at
the start of. -/
theorem preserves {P : Scene κ → Prop} {C : Happening κ → Prop} (h : c.Begun)
    (hPast : History c past c') (hCondition : ∀ h ∈ past, C h)
    (hStep : ∀ c event, c.Begun → c.Enabled event → C ⟨c, event⟩ → P c → P (c.step event))
    (hStart : P c) : P c' :=
  (hPast.preserves (P := fun c => P c ∧ c.Begun) hCondition
    (fun c event hEnabled hThis hBoth =>
      ⟨hStep c event hBoth.2 hEnabled hThis hBoth.1, hBoth.2.step hEnabled⟩) ⟨hStart, h⟩).1

/-- Until a stop is called only the sampler changes the monitor. -/
theorem step_eq_or (h : c.Begun) (hEnabled : c.Enabled event) (hStopping : c.stopping = false)
    (hStop : event ≠ .stop) : c.step event = c ∨ event.isCall = false := by
  rcases event.isCall_cases with rfl | rfl | rfl | hCall
  · exact .inl (start_of_called h.called).2
  · exact absurd rfl hStop
  · cases hStopping.symm.trans (enabled_stopped_iff.mp hEnabled).1
  · exact .inr hCall

end Begun

omit [DecidableEq κ] in
theorem Fresh.uncalled (h : c.Fresh trace options) : c.Uncalled :=
  ⟨by rw [h.watch]; rfl, h.stopping⟩

theorem Fresh.begun_start (h : c.Fresh trace options) : (c.step .start).Begun :=
  ⟨h.placed.step h.stopping, called_of_beginsCall (.inl h.uncalled) h.stopping rfl⟩

/-! ## Stops -/

/-- Nothing changes a monitor that has settled. -/
theorem watch_step_of_stopped (h : c.watch.life = .stopped summary) (event : Event κ) :
    (c.step event).watch = c.watch := by
  rcases event.isCall_cases with rfl | rfl | rfl | hCall
  · show c.watchAfter .start = c.watch
    simp [watchAfter_start, Watch.start, h, Except.toOption]
  · show c.watch.requestStop = c.watch
    simp [Watch.requestStop, h]
  · show c.watch.finishStop c.now = c.watch
    simp [Watch.finishStop, h]
  · refine watchAfter_of_no_sampler hCall ?_
    simp [Watch.sampler?, h]

theorem watch_of_stopped (h : c.watch.life = .stopped summary) (hPast : History c past c') :
    c'.watch = c.watch := by
  refine hPast.preserves (P := fun c' => c'.watch = c.watch) (C := fun _ => True)
    (fun _ _ => trivial) (fun c' event _ _ hBefore => ?_) rfl
  exact (watch_step_of_stopped (hBefore ▸ h) event).trans hBefore

/-- A monitor that was not started is idle until it is stopped, and has no samples then. -/
theorem empty_of_not_started (h : c.Uncalled ∨ c.watch.life = .stopped (.empty 0.0))
    (hEnabled : c.Enabled event) (hStart : event ≠ .start) :
    (c.step event).Uncalled ∨ (c.step event).watch.life = .stopped (.empty 0.0) := by
  rcases h with h | h
  · by_cases hBegins : event.beginsCall = true
    · refine .inr ?_
      cases event with
      | start => exact absurd rfl hStart
      | stop =>
          show c.watch.requestStop.life = _
          simp [Watch.requestStop, h.life]
      | _ => cases hBegins
    · exact .inl (h.step hEnabled (Bool.eq_false_iff.mpr hBegins))
  · exact .inr (by rw [watch_step_of_stopped h, h])

theorem stopped_enabled_of_over (hStopping : c.stopping = true)
    (hOver : ∀ s, c.sampler? = some s → s.isOver = true) : c.AllEnabled [.stopped] :=
  ⟨enabled_stopped_iff.mpr ⟨hStopping, hOver⟩, trivial⟩

/-- A sampler that was told to end and waits for something ends at once. -/
theorem finish_enabled_of_canFinish {s : Sampler} (hStopping : c.stopping = true)
    (hSampler : c.sampler? = some s) (hFinish : s.canFinish = true) :
    c.AllEnabled [.finish, .stopped] := by
  refine ⟨enabled_finish_iff.mpr ⟨s, hSampler, hFinish⟩, stopped_enabled_of_over hStopping ?_⟩
  intro s' hAfter
  obtain rfl : s.finish = s' :=
    Option.some.inj ((sampler?_watchAfter rfl hSampler).symm.trans hAfter)
  rfl

/-- A stop under way can return after at most two steps of the sampler. -/
theorem exists_steps_stopped (h : c.Called) (hStopping : c.stopping = true) :
    ∃ steps : List (Event κ), steps.length ≤ 2 ∧ (∀ e ∈ steps, e.bySampler = true) ∧
      c.AllEnabled (steps ++ [.stopped]) := by
  cases hSampler : c.sampler? with
  | none =>
      refine ⟨[], by simp, by simp, stopped_enabled_of_over hStopping fun s hs => ?_⟩
      cases hSampler.symm.trans hs
  | some s =>
      have hTold := h.told hStopping s hSampler
      have hFinish (hWaits : s.canFinish = s.cancelled) :
          ∃ steps : List (Event κ), steps.length ≤ 2 ∧ (∀ e ∈ steps, e.bySampler = true) ∧
            c.AllEnabled (steps ++ [.stopped]) :=
        ⟨[.finish], by simp, by simp [Event.bySampler],
          finish_enabled_of_canFinish hStopping hSampler (hWaits.trans hTold)⟩
      have hOver (hEnd : s.isOver = true) :
          ∃ steps : List (Event κ), steps.length ≤ 2 ∧ (∀ e ∈ steps, e.bySampler = true) ∧
            c.AllEnabled (steps ++ [.stopped]) := by
        refine ⟨[], by simp, by simp, stopped_enabled_of_over hStopping fun s' hs => ?_⟩
        obtain rfl := Option.some.inj (hSampler.symm.trans hs)
        exact hEnd
      cases hPhase : s.phase with
      | waiting | readingHost | readingAccelerator =>
          exact hFinish (by simp [Sampler.canFinish, hPhase])
      | crashed | ended => exact hOver (by simp [Sampler.isOver, hPhase])
      | starting =>
          have hBegin : c.Enabled .begin := enabled_begin_iff.mpr ⟨s, hSampler, hPhase⟩
          have hBegun : (c.step .begin).sampler? = some (s.begin c.now) :=
            sampler?_watchAfter rfl hSampler
          have hStop : (c.step .begin).stopping = true := hStopping
          by_cases hKeeps : Sampler.canKeep s.interval c.now = true
          · refine ⟨[.begin, .finish], by simp, by simp [Event.bySampler], hBegin, ?_⟩
            refine finish_enabled_of_canFinish hStop hBegun ?_
            simp [Sampler.begin, Sampler.canFinish, hKeeps, hTold]
          · refine ⟨[.begin], by simp, by simp [Event.bySampler], hBegin, ?_⟩
            refine stopped_enabled_of_over hStop fun s' hs => ?_
            obtain rfl := Option.some.inj (hBegun.symm.trans hs)
            simp [Sampler.begin, Sampler.isOver, hKeeps]

/-- Where a stop returns it was called before. -/
theorem called_of_stopping (h : c.Uncalled) (hPast : History c past c')
    (hStopping : c'.stopping = true) : c'.Called := by
  by_cases hCall : ∃ e ∈ past, e.event.beginsCall = true
  · exact called_of_mem h hPast hCall
  · have hNone : ∀ e ∈ past, e.event.beginsCall = false := by simpa using hCall
    cases (h.of_history hPast hNone).stopping.symm.trans hStopping

/-- A stop that returns has settled the monitor once and for all. -/
theorem watch_eq_of_stopped (h : c.Uncalled) (hPast : History c past c') {stop : Happening κ}
    (hMem : stop ∈ past) (hStop : stop.event = .stopped) :
    stop.after.watch = c'.watch ∧ ∃ summary, c'.watch.life = .stopped summary := by
  obtain ⟨before, after, rfl⟩ := List.append_of_mem hMem
  obtain ⟨hBefore, hEnabled, hAfter⟩ := hPast.cut
  obtain ⟨scene, event⟩ := stop
  subst hStop
  have hCalled := called_of_stopping h hBefore (enabled_stopped_iff.mp hEnabled).1
  obtain ⟨summary, hLife⟩ := hCalled.stopped_of_returned hEnabled
  have hSame := watch_of_stopped hLife hAfter
  exact ⟨hSame.symm, summary, by rw [hSame, hLife]⟩

/-- A stop that no start came before settles the empty summary. -/
theorem summary?_of_not_started (hUncalled : c.Uncalled) {before after : List (Happening κ)}
    {stop h : Happening κ} (hPast : History c (before ++ stop :: after) c')
    (hStop : stop.event = .stop) (hNoStart : ∀ e ∈ before, e.event ≠ .start) (hh : h ∈ after)
    (hStopped : h.event = .stopped) : h.after.watch.summary? = some (.empty 0.0) := by
  obtain ⟨scene, event⟩ := stop
  subst hStop
  obtain ⟨hBefore, hEnabled, hAfter⟩ := hPast.cut
  -- the stop finds the monitor idle, or settled by an earlier stop
  have hNotStarted : scene.Uncalled ∨ scene.watch.life = .stopped (.empty 0.0) :=
    hBefore.preserves (P := fun c => c.Uncalled ∨ c.watch.life = .stopped (.empty 0.0))
      hNoStart (fun _ _ hEnabled hEvent hOld => empty_of_not_started hOld hEnabled hEvent)
      (.inl hUncalled)
  have hSettled : (scene.step .stop).watch.life = .stopped (.empty 0.0) := by
    rcases hNotStarted with hIdle | hOld
    · show scene.watch.requestStop.life = _
      simp [Watch.requestStop, hIdle.life]
    · rw [watch_step_of_stopped hOld, hOld]
  have hMem : h ∈ before ++ ⟨scene, .stop⟩ :: after :=
    List.mem_append_right _ (List.mem_cons_of_mem _ hh)
  rw [(watch_eq_of_stopped hUncalled hPast hMem hStopped).1, watch_of_stopped hSettled hAfter]
  simp [Watch.summary?, hSettled]

/-- After a stop that has returned nothing is done by the sampler, and nothing is left of it. -/
theorem quiet_of_stopped (hUncalled : c.Uncalled) (hPlaced : c.Placed)
    {before after : List (Happening κ)} {stop h : Happening κ}
    (hPast : History c (before ++ stop :: after) c') (hStopped : stop.event = .stopped)
    (hh : h ∈ after) :
    h.event.bySampler = false ∧ h.after.watch = stop.after.watch ∧
      ∀ g, h.after.reader ∉ (h.after.moment.slot g).line := by
  obtain ⟨first, last, rfl⟩ := List.append_of_mem hh
  obtain ⟨hBefore, hEnabled, hAfter⟩ := hPast.cut
  obtain ⟨hFirst, hEnabled', -⟩ := hAfter.cut
  have hPlaced' : h.scene.Placed := ((hPlaced.of_history hBefore).step hEnabled).of_history hFirst
  have hUpTo : History c (before ++ [stop]) stop.after :=
    history_append_iff.mpr ⟨_, hBefore, history_cons_iff.mpr ⟨rfl, hEnabled, .nil _⟩⟩
  obtain ⟨-, summary, hLife⟩ := watch_eq_of_stopped hUncalled hUpTo (by simp) hStopped
  have hSame := watch_of_stopped hLife hFirst
  have hSettled : h.scene.watch.life = .stopped summary := by rw [hSame, hLife]
  have hStays : h.after.watch = stop.after.watch :=
    (watch_step_of_stopped hSettled h.event).trans hSame
  refine ⟨Bool.eq_false_iff.mpr fun hBy => ?_, hStays, fun g => ?_⟩
  · obtain ⟨s, hSampler, -⟩ := exists_sampler_of_bySampler hPlaced' hEnabled' hBy
    simp [Watch.sampler?, hSettled] at hSampler
  · rw [(hPlaced'.step hEnabled').mem_line_iff, hStays]
    simp [Watch.reading?, Watch.sampler?, hLife]

end Scene

open Scene

/-- The life of a monitor. -/
structure LifeCycle (trace : String) (past : List (Happening κ)) : Prop where
  /-- A start succeeds if no start and no stop came before it. -/
  starts : ∀ (before : List (Happening κ)) h (after : List (Happening κ)),
    past = before ++ h :: after → h.event = .start →
    (∀ e ∈ before, e.event.beginsCall = false) →
    ∃ started, h.scene.watch.start h.scene.now = .ok started ∧ h.after.watch = started
  /-- Every other start is refused and changes nothing. -/
  refuses : ∀ (before : List (Happening κ)) h (after : List (Happening κ)),
    past = before ++ h :: after → h.event = .start →
    (∃ e ∈ before, e.event.beginsCall = true) →
    h.scene.watch.start h.scene.now = .error ⟨trace⟩ ∧ h.after = h.scene
  /-- All stops that return give the same summary. -/
  settles : ∀ first ∈ past, first.event = .stopped →
    ∃ summary, first.after.watch.summary? = some summary ∧
      ∀ h ∈ past, h.event = .stopped → h.after.watch.summary? = some summary
  /-- A stop without a start before it settles the empty summary. -/
  empty : ∀ (before : List (Happening κ)) stop (after : List (Happening κ)),
    past = before ++ stop :: after → stop.event = .stop → (∀ e ∈ before, e.event ≠ .start) →
    ∀ h ∈ after, h.event = .stopped → h.after.watch.summary? = some (.empty 0.0)
  /-- Once a stop has returned the sampler neither reads nor records, and stands nowhere. -/
  quiet : ∀ (before : List (Happening κ)) stop (after : List (Happening κ)),
    past = before ++ stop :: after → stop.event = .stopped → ∀ h ∈ after,
      h.event.bySampler = false ∧ h.after.watch = stop.after.watch ∧
        ∀ g, h.after.reader ∉ (h.after.moment.slot g).line

/-- However the calls of a monitor, its sampler and everybody else take their turns, the monitor has
one life; and a stop that was called can return after at most two steps of the sampler. -/
theorem monitors_live_once {trace : String} {options : Options} {c c' : Scene κ}
    {past : List (Happening κ)} (hFresh : c.Fresh trace options) (hPast : History c past c') :
    LifeCycle trace past ∧
      (c'.stopping = true → ∃ steps : List (Event κ), steps.length ≤ 2 ∧
        (∀ e ∈ steps, e.bySampler = true) ∧ c'.AllEnabled (steps ++ [.stopped])) := by
  have hUncalled := hFresh.uncalled
  refine ⟨⟨?_, ?_, ?_, ?_, ?_⟩, ?_⟩
  · rintro before ⟨scene, event⟩ after rfl rfl hFirst
    obtain ⟨hBefore, -, -⟩ := hPast.cut
    obtain ⟨started, hStart⟩ := start_of_uncalled (hUncalled.of_history hBefore hFirst)
    refine ⟨started, hStart, ?_⟩
    show scene.watchAfter .start = started
    simp only [watchAfter]
    rw [hStart]
  · rintro before ⟨scene, event⟩ after rfl rfl hLater
    obtain ⟨hBefore, -, -⟩ := hPast.cut
    obtain ⟨hRefused, hSame⟩ := start_of_called (called_of_mem hUncalled hBefore hLater)
    have hTrace : scene.watch.trace = trace := by
      rw [trace_of_history hBefore, hFresh.watch]
      rfl
    rw [hTrace] at hRefused
    exact ⟨hRefused, hSame⟩
  · intro first hFirst hEvent
    obtain ⟨hSame, summary, hLife⟩ := watch_eq_of_stopped hUncalled hPast hFirst hEvent
    refine ⟨summary, by rw [hSame]; simp [Watch.summary?, hLife], fun h hh hStopped => ?_⟩
    obtain ⟨hSame', -⟩ := watch_eq_of_stopped hUncalled hPast hh hStopped
    rw [hSame']
    simp [Watch.summary?, hLife]
  · rintro before stop after rfl hStop hNoStart h hh hStopped
    exact summary?_of_not_started hUncalled hPast hStop hNoStart hh hStopped
  · rintro before stop after rfl hStopped h hh
    exact quiet_of_stopped hUncalled hFresh.placed hPast hStopped hh
  · intro hStopping
    exact exists_steps_stopped (called_of_stopping hUncalled hPast hStopping) hStopping

/-- A monitor that was not called, at the start of the clock and with a cache of its own. -/
def lone (options : Options) : Scene Nat :=
  ⟨0, Sensor.Cache.unused 10000 5000 0, .normal, default, .make "lone" options, false⟩

theorem fresh_lone (options : Options) : (lone options).Fresh "lone" options := by
  refine ⟨rfl, rfl, Sensor.Cache.orderly_unused 10000 5000 0, fun g => ?_⟩
  show 0 ∉ ((Sensor.Cache.unused 10000 5000 0).slot g).line
  rw [Sensor.Cache.slot_unused]
  exact List.not_mem_nil

/-- The monitor is stopped while its sampler polls the host, and called again later. -/
def stoppedPolling : List (Event Nat) :=
  [.start, .begin, .pass 5000, .tick, .look .host, .pass 100, .stop, .finish, .stopped, .start,
    .stop, .stopped]

theorem life_of_stoppedPolling :
    (lone ⟨true, 5000⟩).AllEnabled stoppedPolling ∧
      LifeCycle "lone" ((lone ⟨true, 5000⟩).happenings stoppedPolling) := by
  have hEnabled : (lone ⟨true, 5000⟩).AllEnabled stoppedPolling := by decide
  exact ⟨hEnabled, (monitors_live_once (fresh_lone _) (history_happenings hEnabled)).1⟩

end SteadyTask.Monitor
