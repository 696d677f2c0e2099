import SteadyTask.Proofs.Monitor.Lifecycle
import SteadyTask.Proofs.Simulation.Readings

/-!
# Monitors in the simulated world

What a world does with one of its monitors is a history of that monitor.  A step of its sampler is
at most two events of the sampler; a call of the monitor, the clock, and the reading of another
party are events of their own.

In a history a sampler that has a group to read asks for it at once.  In the world it does so when
it runs next, and until then nobody else runs.

Main statements, one for each thing that happens in a world with a monitor: `depicts_addMonitor`,
`Depicts.startMonitor`, `Depicts.runSampler`, `Depicts.requestStop`, `Depicts.finishStop`,
`Depicts.moveTo`, `Depicts.beginRead` and `Depicts.advanceRead`.
-/

namespace SteadyTask

/-! ## Single events -/

namespace Monitor.Scene

open Sensor (Group)

variable {κ : Type} [DecidableEq κ] {c : Scene κ} {event : Event κ} {g : Group} {s : Sampler}

theorem ask_eq_of_ne {m : Sensor.Cache.Moment κ} {reader : κ} {before after : Option Group}
    (h : after ≠ before) : ask m reader before after = ask m reader none after := by
  unfold ask
  cases after with
  | none => rfl
  | some g =>
      have hOther : before ≠ some g := fun hSame => h hSame.symm
      simp [hOther]

/-- What is no concern of the monitor changes the cache alone. -/
theorem step_other (c : Scene κ) (e : Sensor.Cache.Event κ) :
    c.step (.other e) = { c with moment := c.moment.step e } := by
  have hWatch : c.watchAfter (.other e) = c.watch := watchAfter_of_idle rfl fun s => rfl
  show (⟨c.reader,
    ask (c.moment.step e) c.reader c.watch.reading? (c.watchAfter (.other e)).reading?,
    c.mode, c.thresholds, c.watchAfter (.other e), c.stopping⟩ : Scene κ) = _
  rw [hWatch, ask_self]

/-- A sampler that finds nothing fresh polls. -/
theorem step_look_of_miss (h : c.answer? (.look g) = none) :
    c.step (.look g) = { c with moment := c.moment.step (.look c.reader g) } := by
  have hWatch : c.watchAfter (.look g) = c.watch :=
    watchAfter_of_idle rfl fun s => by simp [samplerAfter, h]
  show (⟨c.reader, ask (c.moment.step (.look c.reader g)) c.reader c.watch.reading?
    (c.watchAfter (.look g)).reading?, c.mode, c.thresholds, c.watchAfter (.look g), c.stopping⟩ :
    Scene κ) = _
  rw [hWatch, ask_self]

/-- A reading of the sampler ends. -/
theorem step_of_answer? {r : Sampler.Reading} (hAnswer : c.answer? event = some (g, r))
    (hSampler : c.sampler? = some s) (hReading : s.reading? = some g) :
    c.step event =
      { c with
        moment := ask (c.momentAfter event) c.reader (some g)
          (s.groupRead g c.mode c.thresholds r).reading?
        watch := c.watch.withSampler (s.groupRead g c.mode c.thresholds r) } := by
  have hCall := isCall_of_answer? hAnswer
  have hBefore : c.watch.reading? = some g := (Watch.reading?_of_sampler? hSampler).trans hReading
  have hWatch : c.watchAfter event =
      c.watch.withSampler (s.groupRead g c.mode c.thresholds r) := by
    rw [watchAfter_of_sampler hCall hSampler, samplerAfter_of_answer? hAnswer]
  have hAfter : (c.watchAfter event).reading? =
      (s.groupRead g c.mode c.thresholds r).reading? := by
    rw [reading?_watchAfter hCall hSampler, samplerAfter_of_answer? hAnswer]
  cases event with
  | look | succeed | fail | panic =>
      show (⟨c.reader, ask (c.momentAfter _) c.reader c.watch.reading? (c.watchAfter _).reading?,
        c.mode, c.thresholds, c.watchAfter _, c.stopping⟩ : Scene κ) = _
      rw [hBefore, hAfter, hWatch]
  | _ => cases hAnswer

/-- A sampler that reads nothing begins, or notices a tick. -/
theorem step_of_not_reading (hEvent : event = .begin ∨ event = .tick)
    (hSampler : c.sampler? = some s) (hReading : s.reading? = none) :
    c.step event =
      { c with
        moment := ask c.moment c.reader none (c.samplerAfter s event).reading?
        watch := c.watch.withSampler (c.samplerAfter s event) } := by
  have hBefore : c.watch.reading? = none := (Watch.reading?_of_sampler? hSampler).trans hReading
  have hCall : event.isCall = false := by rcases hEvent with rfl | rfl <;> rfl
  have hAfter := reading?_watchAfter hCall hSampler
  have hWatch := watchAfter_of_sampler hCall hSampler
  rcases hEvent with rfl | rfl <;>
    · show (⟨c.reader, ask c.moment c.reader c.watch.reading? (c.watchAfter _).reading?, c.mode,
        c.thresholds, c.watchAfter _, c.stopping⟩ : Scene κ) = _
      rw [hBefore, hAfter, hWatch]

/-- The sampler ends. -/
theorem step_finish (hSampler : c.sampler? = some s) :
    c.step .finish =
      { c with moment := c.momentAfter .finish, watch := c.watch.withSampler s.finish } := by
  have hWatch : c.watchAfter .finish = c.watch.withSampler s.finish :=
    watchAfter_of_sampler rfl hSampler
  have hAfter : (c.watchAfter .finish).reading? = none := reading?_watchAfter rfl hSampler
  show (⟨c.reader, ask (c.momentAfter .finish) c.reader c.watch.reading?
    (c.watchAfter .finish).reading?, c.mode, c.thresholds, c.watchAfter .finish, c.stopping⟩ :
    Scene κ) = _
  rw [hAfter, hWatch]
  rfl

end Monitor.Scene

namespace Simulation.World

open Sensor (Group)
open Sensor.Cache (Moment)
open Monitor (Sampler Scene)

/-! ## Readings as histories -/

/-- The scene after the sampler has taken a reading as far as it goes. -/
def sceneAfterReading (c : Scene Party) (s : Sampler) (g : Group) (m : Moment Party) :
    Option ReadOutcome → Scene Party
  | none => { c with moment := m }
  | some outcome =>
    let s' := s.groupRead g c.mode c.thresholds (samplerReading outcome)
    { c with
      moment := Scene.ask m c.reader (some g) s'.reading?
      watch := c.watch.withSampler s' }

/-- A reading of the sampler is a history of the monitor. -/
theorem Proceeds.history {p : Party} {g : Group} {m m' : Moment Party}
    {outcome? : Option ReadOutcome} (h : Proceeds p g m m' outcome?) {c : Scene Party} {s : Sampler}
    (hReader : c.reader = p) (hMoment : c.moment = m) (hSampler : c.sampler? = some s)
    (hReading : s.reading? = some g) (hOutcome : outcome? ≠ some .overdue) :
    ∃ past, Monitor.History c past (sceneAfterReading c s g m' outcome?) ∧
      ∀ e ∈ past, e.event.bySampler = true := by
  -- one event of the sampler that answers the reading
  have hAnswers {c : Scene Party} (event : Monitor.Event Party) {outcome : ReadOutcome}
      (hSampler : c.sampler? = some s) (hEnabled : c.Enabled event)
      (hAnswer : c.answer? event = some (g, samplerReading outcome))
      (hBy : event.bySampler = true) :
      ∃ past, Monitor.History c past
          (sceneAfterReading c s g (c.momentAfter event) (some outcome)) ∧
        ∀ e ∈ past, e.event.bySampler = true := by
    refine ⟨[⟨c, event⟩], ?_, by simpa using hBy⟩
    have hStep : sceneAfterReading c s g (c.momentAfter event) (some outcome) = c.step event :=
      (Scene.step_of_answer? hAnswer hSampler hReading).symm
    rw [hStep]
    exact .cons hEnabled (.nil _)
  induction h generalizing c with
  | waits m =>
      subst hMoment
      exact ⟨[], .nil c, by simp⟩
  | hit hEnabled hFound =>
      subst hReader hMoment
      refine hAnswers (.look g) hSampler hEnabled ?_ rfl
      simp [Scene.answer?, hFound, samplerReading]
  | miss hEnabled hFound rest ih =>
      subst hReader hMoment
      have hStep : c.step (.look g) = { c with moment := c.moment.step (.look c.reader g) } :=
        Scene.step_look_of_miss (by simp [Scene.answer?, hFound])
      obtain ⟨past, hPast, hBy⟩ := ih
        (c := { c with moment := c.moment.step (.look c.reader g) }) rfl rfl hSampler hOutcome
      refine ⟨⟨c, .look g⟩ :: past, .cons hEnabled ?_, ?_⟩
      · rw [hStep]
        cases outcome? <;> exact hPast
      · rintro e he
        rcases List.mem_cons.mp he with rfl | he
        · rfl
        · exact hBy e he
  | succeeds values hEnabled =>
      subst hReader hMoment
      exact hAnswers (.succeed g values) hSampler hEnabled rfl rfl
  | fails f hEnabled =>
      subst hReader hMoment
      exact hAnswers (.fail g f) hSampler hEnabled rfl rfl
  | panics panic hEnabled =>
      subst hReader hMoment
      exact hAnswers (.panic g) hSampler hEnabled rfl rfl
  | givesUp m => exact absurd rfl hOutcome

section Readings

variable {p : Party} {g : Group} {m m' : Moment Party} {outcome? : Option ReadOutcome}

/-- A reading of somebody else is a history in which the monitor does nothing. -/
theorem Proceeds.history_of_other (h : Proceeds p g m m' outcome?) {c : Scene Party}
    (hOther : p ≠ c.reader) (hMoment : c.moment = m) :
    ∃ past, Monitor.History c past { c with moment := m' } ∧
      ∀ e ∈ past, ∃ e', e.event = .other e' := by
  subst hMoment
  refine h.preserves (P := fun m' => ∃ past, Monitor.History c past { c with moment := m' } ∧
    ∀ e ∈ past, ∃ e', e.event = .other e') ?_ ⟨[], .nil c, by simp⟩
  rintro m e hReader - hEnabled ⟨past, hPast, hBy⟩
  refine ⟨past ++ [⟨{ c with moment := m }, .other e⟩], ?_, ?_⟩
  · refine Monitor.history_append_iff.mpr ⟨_, hPast, ?_⟩
    have hStep := Scene.step_other { c with moment := m } e
    rw [← hStep]
    refine .cons ⟨?_, ?_, hEnabled⟩ (.nil _)
    · rw [hReader]
      rintro ⟨⟩
    · rw [hReader]
      rintro ⟨⟩
      exact hOther rfl
  · intro e' he'
    rcases List.mem_append.mp he' with he' | he'
    · exact hBy e' he'
    · obtain rfl := List.mem_singleton.mp he'
      exact ⟨e, rfl⟩

end Readings

/-! ## A monitor of a world -/

/-- The scene of a monitor in a world.  A sampler that has a group to read, and no reading going,
asks for the group when it runs next. -/
structure Depicts (w : World) (m : Nat) (c : Scene Party) : Prop where
  reader : c.reader = .sampler m
  mode : c.mode = w.controller.mode
  thresholds : c.thresholds = w.controller.thresholds
  watch : w.monitors[m]? = some c.watch
  moment : c.moment =
    if (w.samplerRead? m).isSome then w.moment
    else Scene.ask w.moment (.sampler m) none c.watch.reading?
  orderly : w.moment.Orderly
  reads : ∀ r, w.samplerRead? m = some r →
    c.watch.reading? = some r.group ∧ r.deadline = none ∧ Fits w.moment (.sampler m) r

section Worlds

variable {w : World} {m : Nat}

theorem monitors_setSampler {watch : Monitor.Watch} (h : w.monitors[m]? = some watch)
    (s : Sampler) : (w.setSampler m s).monitors[m]? = some (watch.withSampler s) := by
  show (w.monitors.modify m _)[m]? = _
  simp [h]

/-- A monitor that was just added was not called yet. -/
theorem depicts_addMonitor (w : World) (trace : String) (hOrderly : w.moment.Orderly)
    (hNothing : w.samplerRead? w.monitors.length = none)
    (hNowhere : ∀ g, Party.sampler w.monitors.length ∉ (w.moment.slot g).line) :
    ∃ c : Scene Party, Depicts (w.addMonitor trace).1 (w.addMonitor trace).2 c ∧
      c.Fresh trace w.monitorOptions := by
  refine ⟨⟨.sampler w.monitors.length, w.moment, w.controller.mode, w.controller.thresholds,
    .make trace w.monitorOptions, false⟩, ⟨rfl, rfl, rfl, ?_, ?_, hOrderly, ?_⟩, rfl, rfl, hOrderly,
    hNowhere⟩
  · exact List.getElem?_concat_length ..
  · exact (ite_self _).symm
  · intro r hr
    cases hNothing.symm.trans hr

end Worlds

namespace Depicts

variable {w w' : World} {m : Nat} {c : Scene Party} {s s' : Sampler} {g : Group}

theorem sampler? (h : Depicts w m c) :
    (w.monitors[m]?).bind Monitor.Watch.sampler? = c.sampler? := by
  rw [h.watch]
  rfl

/-- A sampler that reads nothing has nothing going. -/
theorem samplerRead?_eq_none (h : Depicts w m c) (hReading : c.watch.reading? = none) :
    w.samplerRead? m = none := by
  refine Option.eq_none_iff_forall_ne_some.mpr fun r hr => ?_
  cases hReading.symm.trans (h.reads r hr).1

theorem moment_of_not_reading (h : Depicts w m c) (hReading : c.watch.reading? = none) :
    c.moment = w.moment := by
  rw [h.moment, hReading]
  exact ite_self _

theorem moment_of_reading (h : Depicts w m c) {r : PendingRead}
    (hRead : w.samplerRead? m = some r) : c.moment = w.moment := by
  rw [h.moment, hRead]
  rfl

/-- A sampler that is about to ask for a group has asked for it in the scene. -/
theorem moment_of_asking (h : Depicts w m c) (hRead : w.samplerRead? m = none)
    (hReading : c.watch.reading? = some g) :
    c.moment = w.moment.step (.request (.sampler m) g) := by
  rw [h.moment, hRead, hReading]
  rfl

theorem now (h : Depicts w m c) : c.now = w.now := by
  show c.moment.now = w.moment.now
  rw [h.moment]
  split
  · rfl
  · unfold Scene.ask
    split <;> rfl

/-- Only the line and the timers have changed. -/
theorem congr (h : Depicts w m c) (hMoment : w'.moment = w.moment)
    (hController : w'.controller = w.controller) (hMonitors : w'.monitors = w.monitors)
    (hReads : w'.reads = w.reads) : Depicts w' m c := by
  have hRead : w'.samplerRead? m = w.samplerRead? m := by rw [samplerRead?, hReads, samplerRead?]
  refine ⟨h.reader, by rw [hController, h.mode], by rw [hController, h.thresholds],
    by rw [hMonitors, h.watch], by rw [hRead, hMoment, h.moment], hMoment ▸ h.orderly, ?_⟩
  intro r hr
  rw [hMoment]
  exact h.reads r (hRead ▸ hr)

/-- Whoever is woken or kept in line makes no difference to a monitor. -/
theorem wake (h : Depicts w m c) (p : Party) : Depicts (w.wake p) m c :=
  h.congr moment_wake (behind_wake p).controller (monitors_wake p) (reads_wake p)

theorem keepInFront (h : Depicts w m c) (p : Party) : Depicts (w.keepInFront p) m c :=
  h.congr rfl rfl rfl rfl

/-- The sampler of a monitor is replaced and has no reading going. -/
theorem setSampler (h : Depicts w m c) (w' : World) (hSampler : c.sampler? = some s)
    (hMoment : w'.moment.Orderly) (hController : w'.controller = w.controller)
    (hMonitors : w'.monitors = w.monitors) (hRead : w'.samplerRead? m = none) (s' : Sampler) :
    Depicts (w'.setSampler m s') m
      { c with
        moment := Scene.ask w'.moment c.reader none s'.reading?
        watch := c.watch.withSampler s' } := by
  have hWatch : w'.monitors[m]? = some c.watch := by rw [hMonitors, h.watch]
  have hReading : (c.watch.withSampler s').reading? = s'.reading? :=
    Monitor.Watch.reading?_of_sampler? (Monitor.Watch.sampler?_withSampler hSampler)
  have hRead' : (w'.setSampler m s').samplerRead? m = none := hRead
  refine ⟨h.reader, hController ▸ h.mode, hController ▸ h.thresholds, monitors_setSampler hWatch s',
    ?_, hMoment, ?_⟩
  · rw [hRead', hReading, h.reader]
    rfl
  · rw [hRead']
    rintro r ⟨⟩

/-- The sampler runs for the first time. -/
theorem begin (h : Depicts w m c) (hSampler : c.sampler? = some s) (hPhase : s.phase = .starting) :
    Monitor.History c [⟨c, .begin⟩] (c.step .begin) ∧
      Depicts (w.setSampler m (s.begin w.now)) m (c.step .begin) := by
  have hReading : s.reading? = none := by rw [Sampler.reading?, hPhase]
  have hNone := (Monitor.Watch.reading?_of_sampler? hSampler).trans hReading
  refine ⟨.cons (Scene.enabled_begin_iff.mpr ⟨s, hSampler, hPhase⟩) (.nil _), ?_⟩
  rw [Scene.step_of_not_reading (.inl rfl) hSampler hReading, h.moment_of_not_reading hNone]
  have hBegun : c.samplerAfter s .begin = s.begin w.now := by rw [← h.now]; rfl
  rw [hBegun]
  exact h.setSampler w hSampler h.orderly rfl rfl (h.samplerRead?_eq_none hNone) _

/-- The sampler notices a tick. -/
theorem tick (h : Depicts w m c) (hSampler : c.sampler? = some s) {due : Millis}
    (hPhase : s.phase = .waiting due) (hDue : due ≤ w.now) (hLive : s.cancelled = false) :
    Monitor.History c [⟨c, .tick⟩] (c.step .tick) ∧
      Depicts ((w.clearTimer (.sampler m)).setSampler m (s.tick w.now)) m (c.step .tick) := by
  have hReading : s.reading? = none := by rw [Sampler.reading?, hPhase]
  have hNone := (Monitor.Watch.reading?_of_sampler? hSampler).trans hReading
  have hEnabled : c.Enabled .tick :=
    Scene.enabled_tick_iff.mpr ⟨s, due, hSampler, hPhase, h.now ▸ hDue, hLive⟩
  refine ⟨.cons hEnabled (.nil _), ?_⟩
  rw [Scene.step_of_not_reading (.inr rfl) hSampler hReading, h.moment_of_not_reading hNone]
  have hTicked : c.samplerAfter s .tick = s.tick w.now := by rw [← h.now]; rfl
  rw [hTicked]
  exact h.setSampler (w.clearTimer _) hSampler h.orderly rfl rfl (h.samplerRead?_eq_none hNone) _

/-- A sampler that has not asked for the group that it is about to read stands nowhere. -/
theorem not_mem_line (h : Depicts w m c) (hPlaced : c.Placed) (hRead : w.samplerRead? m = none)
    (hReading : c.watch.reading? = some g) : Party.sampler m ∉ (w.moment.slot g).line := by
  intro hMem
  have hOnce := (hPlaced.orderly g).once
  rw [h.moment_of_asking hRead hReading, Sensor.Cache.step_slot rfl] at hOnce
  have hLine : ((w.moment.slot g).request (.sampler m)).line =
      (w.moment.slot g).line ++ [.sampler m] := (h.orderly g).line_request
  have hOnce' : ((w.moment.slot g).request (.sampler m)).line.Nodup := hOnce
  rw [hLine, List.nodup_append] at hOnce'
  exact hOnce'.2.2 _ hMem _ (List.mem_singleton_self _) rfl

/-- A sampler that was told to end gives up what it waits for. -/
theorem finish (h : Depicts w m c) (hPlaced : c.Placed) (hSampler : c.sampler? = some s)
    (hFinish : s.canFinish = true) :
    Monitor.History c [⟨c, .finish⟩] (c.step .finish) ∧
      Depicts (w.endSampler m s) m (c.step .finish) := by
  refine ⟨.cons (Scene.enabled_finish_iff.mpr ⟨s, hSampler, hFinish⟩) (.nil _), ?_⟩
  rw [Scene.step_finish hSampler]
  have hReader := h.reader
  have hEnds {w' : World} (hMoment : c.momentAfter .finish = w'.moment)
      (hOrderly : w'.moment.Orderly) (hController : w'.controller = w.controller)
      (hMonitors : w'.monitors = w.monitors)
      (hRead : w'.samplerRead? m = none) :
      Depicts ((w'.setSampler m s.finish).wake .main) m
        { c with moment := c.momentAfter .finish, watch := c.watch.withSampler s.finish } := by
    rw [hMoment]
    exact (h.setSampler w' hSampler hOrderly hController hMonitors hRead s.finish).wake .main
  unfold endSampler
  cases hRead : w.samplerRead? m with
  | some r =>
      have hReading := (h.reads r hRead).1
      have hLeaves : c.momentAfter .finish = w.moment.step (.leave (.sampler m) r.group) := by
        simp only [Scene.momentAfter, Scene.inCache?, hReading, Option.map_some]
        rw [h.moment_of_reading hRead, hReader]
      have hCleared : (w.clearTimer (.sampler m)).samplerRead? m = some r := hRead
      dsimp only
      rw [hCleared]
      refine hEnds ?_ ?_ ?_ ?_ (samplerRead?_setSamplerRead none)
      · rw [hLeaves, moment_setSamplerRead, moment_handOn]
        rfl
      · rw [moment_setSamplerRead, moment_handOn]
        exact Sensor.Cache.orderly_step h.orderly
          (show w.moment.Enabled (.leave (.sampler m) r.group) from trivial)
      · exact (behind_handOn _ _).controller
      · exact monitors_handOn _ _
  | none =>
      have hCleared : (w.clearTimer (.sampler m)).samplerRead? m = none := hRead
      dsimp only
      rw [hCleared]
      have hLeaves : c.momentAfter .finish = (w.clearTimer (.sampler m)).moment := ?_
      · exact hEnds hLeaves h.orderly rfl rfl hRead
      show c.momentAfter .finish = w.moment
      cases hReading : c.watch.reading? with
      | none =>
          simp only [Scene.momentAfter, Scene.inCache?, hReading, Option.map_none]
          exact h.moment_of_not_reading hReading
      | some g =>
          simp only [Scene.momentAfter, Scene.inCache?, hReading, Option.map_some]
          rw [h.moment_of_asking hRead hReading, hReader]
          exact Sensor.Cache.leave_request h.orderly (h.not_mem_line hPlaced hRead hReading)

/-- The reading that the sampler has going, or that it is about to begin, is taken as far as it
goes. -/
theorem progresses (h : Depicts w m c) (hReading : c.watch.reading? = some g) :
    Spares w (w.goOnReading m g).1 ∧ ∃ r : PendingRead, r.group = g ∧ r.deadline = none ∧
      Progresses (.sampler m) r c.moment (w.goOnReading m g) := by
  unfold goOnReading
  cases hRead : w.samplerRead? m with
  | some r =>
      obtain ⟨hGroup, hDeadline, hFits⟩ := h.reads r hRead
      have hSame : r.group = g := Option.some.inj (hGroup.symm.trans hReading)
      refine ⟨spares_advanceRead w _ r, r, hSame, hDeadline, ?_⟩
      rw [h.moment_of_reading hRead]
      exact progresses_advanceRead hFits
  | none =>
      refine ⟨spares_beginRead w _ g none, ⟨g, .queued, none⟩, rfl, rfl, ?_⟩
      rw [h.moment_of_asking hRead hReading]
      let asked : World := { w with cache := w.cache.request g (.sampler m) }
      have hQueued : Fits asked.moment (.sampler m) ⟨g, .queued, none⟩ := by
        rintro ends late ⟨⟩
      exact progresses_advanceRead hQueued

/-- A step of a sampler that reads a group. -/
theorem sampleGroup (h : Depicts w m c) (hPlaced : c.Placed) (hSampler : c.sampler? = some s)
    (hReading : s.reading? = some g) :
    ∃ past c', Monitor.History c past c' ∧ Depicts (w.sampleGroup m s g) m c' ∧
      ∀ e ∈ past, e.event.bySampler = true := by
  have hReads := (Monitor.Watch.reading?_of_sampler? hSampler).trans hReading
  obtain ⟨hSpares, r, rfl, hDeadline, hProgresses⟩ := h.progresses hReads
  rw [sampleGroup_eq]
  cases hOut : w.goOnReading m r.group with
  | mk after result =>
      rw [hOut] at hSpares hProgresses
      have hController := hSpares.controller
      have hProceeds : Proceeds c.reader r.group c.moment after.moment result.getLeft? :=
        h.reader ▸ hProgresses.proceeds
      have hOrderly := hProceeds.orderly hPlaced.orderly
      obtain ⟨past, hPast, hBy⟩ := hProceeds.history rfl rfl hSampler hReading
        (hProgresses.unlimited hDeadline)
      refine ⟨past, _, hPast, ?_, hBy⟩
      cases result with
      | inl outcome =>
          have hMode : after.controller.mode = c.mode := by rw [hController, h.mode]
          have hThresholds : after.controller.thresholds = c.thresholds := by
            rw [hController, h.thresholds]
          dsimp only
          rw [hMode, hThresholds]
          refine Depicts.keepInFront ?_ _
          have hNext := Sampler.reading?_groupRead_ne hReading c.mode c.thresholds
            (samplerReading outcome)
          have hDepicts := h.setSampler (after.setSamplerRead m none) hSampler hOrderly hController
            hSpares.monitors (samplerRead?_setSamplerRead none)
            (s.groupRead r.group c.mode c.thresholds (samplerReading outcome))
          show Depicts _ m { c with moment := Scene.ask after.moment c.reader _ _, watch := _ }
          rw [Scene.ask_eq_of_ne hNext]
          exact hDepicts
      | inr r' =>
          obtain ⟨hGroup, hDeadline', hFits⟩ := hProgresses.pending r' rfl
          have hRead : (after.setSamplerRead m (some r')).samplerRead? m = some r' :=
            samplerRead?_setSamplerRead (some r')
          refine ⟨h.reader, hController ▸ h.mode, hController ▸ h.thresholds, ?_, ?_, hOrderly, ?_⟩
          · exact (congrArg (·[m]?) hSpares.monitors).trans h.watch
          · rw [hRead]
            rfl
          · intro r'' hr''
            obtain rfl : r' = r'' := Option.some.inj (hRead.symm.trans hr'')
            exact ⟨hReads.trans (congrArg some hGroup.symm), hDeadline'.trans hDeadline, hFits⟩

/-- A step of the sampler is a history of the monitor, in which only the sampler goes on. -/
theorem runSampler (h : Depicts w m c) (hPlaced : c.Placed) :
    ∃ past c', Monitor.History c past c' ∧ Depicts (w.runSampler m) m c' ∧
      ∀ e ∈ past, e.event.bySampler = true := by
  have hRests (hSame : w.runSampler m = w) : ∃ past c', Monitor.History c past c' ∧
      Depicts (w.runSampler m) m c' ∧ ∀ e ∈ past, e.event.bySampler = true :=
    ⟨[], c, .nil c, hSame.symm ▸ h, by simp⟩
  have hSingle {w' : World} {event : Monitor.Event Party} (hBy : event.bySampler = true)
      (hMove : Monitor.History c [⟨c, event⟩] (c.step event) ∧ Depicts w' m (c.step event)) :
      ∃ past c', Monitor.History c past c' ∧ Depicts w' m c' ∧
        ∀ e ∈ past, e.event.bySampler = true :=
    ⟨_, _, hMove.1, hMove.2, by simpa using hBy⟩
  cases hSampler : c.sampler? with
  | none => exact hRests (by simp only [World.runSampler, h.sampler?, hSampler])
  | some s =>
      have hEnds (hReading : s.canFinish = s.cancelled) (hTold : s.cancelled = true) :=
        hSingle rfl (h.finish hPlaced hSampler (hReading.trans hTold))
      have hReads {g : Group} (hReading : s.reading? = some g) :=
        h.sampleGroup hPlaced hSampler hReading
      unfold World.runSampler
      rw [h.sampler?, hSampler]
      dsimp only
      cases hPhase : s.phase with
      | starting =>
          obtain ⟨hPast, hBegun⟩ := h.begin hSampler hPhase
          dsimp only
          split
          · exact hSingle rfl ⟨hPast, hBegun.wake .main⟩
          · exact hSingle rfl ⟨hPast, hBegun.keepInFront _⟩
      | waiting due =>
          dsimp only
          split
          · next hTold => exact hEnds (by simp [Sampler.canFinish, hPhase]) hTold
          · next hLive =>
              split
              · next hDue =>
                  obtain ⟨hPast, hTicked⟩ := h.tick hSampler hPhase hDue (by simpa using hLive)
                  exact hSingle rfl ⟨hPast, hTicked.keepInFront _⟩
              · exact ⟨[], c, .nil c, h.congr rfl rfl rfl rfl, by simp⟩
      | readingHost next =>
          dsimp only
          split
          · next hTold => exact hEnds (by simp [Sampler.canFinish, hPhase]) hTold
          · exact hReads (by rw [Sampler.reading?, hPhase])
      | readingAccelerator next host =>
          dsimp only
          split
          · next hTold => exact hEnds (by simp [Sampler.canFinish, hPhase]) hTold
          · exact hReads (by rw [Sampler.reading?, hPhase])
      | crashed | ended => exact ⟨[], c, .nil c, h, by simp⟩

/-! ### Calls, and the clock -/

/-- The monitor changes, but not what its sampler reads. -/
theorem modifyMonitor (h : Depicts w m c) (f : Monitor.Watch → Monitor.Watch)
    (hReading : (f c.watch).reading? = c.watch.reading?) (stopping : Bool) :
    Depicts (w.modifyMonitor m f) m { c with watch := f c.watch, stopping := stopping } := by
  refine ⟨h.reader, h.mode, h.thresholds, ?_, ?_, h.orderly, ?_⟩
  · show (w.monitors.modify m f)[m]? = _
    simp [h.watch]
  · rw [hReading]
    exact h.moment
  · rw [hReading]
    exact h.reads

/-- A start is one event of the monitor. -/
theorem startMonitor (h : Depicts w m c) (hStopping : c.stopping = false) :
    Monitor.History c [⟨c, .start⟩] (c.step .start) ∧
      Depicts (w.startMonitor m).1 m (c.step .start) := by
  refine ⟨.cons hStopping (.nil _), ?_⟩
  have hStep {watch : Monitor.Watch} (hWatch : c.watchAfter .start = watch)
      (hReading : watch.reading? = c.watch.reading?) :
      c.step .start = { c with watch := watch } := by
    show (⟨c.reader, Scene.ask c.moment c.reader c.watch.reading? (c.watchAfter .start).reading?,
      c.mode, c.thresholds, c.watchAfter .start, c.stopping⟩ : Scene Party) = _
    rw [hWatch, hReading, Scene.ask_self]
  have hAfter := c.watchAfter_start
  unfold World.startMonitor
  rw [h.watch]
  dsimp only
  rw [← h.now]
  cases hStart : c.watch.start c.now with
  | error e =>
      rw [hStart] at hAfter
      rw [hStep hAfter rfl]
      exact h
  | ok started =>
      rw [hStart] at hAfter
      obtain ⟨hBefore, hNone⟩ := Monitor.Watch.reading?_start hStart
      have hSame := hNone.trans hBefore.symm
      have hStarted := h.modifyMonitor (fun _ => started) hSame c.stopping
      rw [hStep hAfter hSame]
      dsimp only
      split
      · exact hStarted.wake _
      · exact hStarted

/-- A stop begins with one event of the monitor. -/
theorem requestStop (h : Depicts w m c) (hStopping : c.stopping = false) :
    Monitor.History c [⟨c, .stop⟩] (c.step .stop) ∧
      Depicts (w.requestStop m) m (c.step .stop) := by
  refine ⟨.cons hStopping (.nil _), ?_⟩
  have hStep : c.step .stop = { c with watch := c.watch.requestStop, stopping := true } := by
    show (⟨c.reader, Scene.ask c.moment c.reader c.watch.reading? c.watch.requestStop.reading?,
      c.mode, c.thresholds, c.watch.requestStop, true⟩ : Scene Party) = _
    rw [Monitor.Watch.reading?_requestStop, Scene.ask_self]
  have hTold := h.modifyMonitor Monitor.Watch.requestStop Monitor.Watch.reading?_requestStop true
  rw [hStep]
  unfold World.requestStop
  dsimp only
  split
  · split
    · exact hTold
    · exact hTold.wake _
  · exact hTold

/-- A stop returns with one event of the monitor, once the sampler is over. -/
theorem finishStop (h : Depicts w m c) (hStopping : c.stopping = true)
    (hOver : ∀ s, c.sampler? = some s → s.isOver = true) :
    Monitor.History c [⟨c, .stopped⟩] (c.step .stopped) ∧
      Depicts (w.finishStop m).1 m (c.step .stopped) ∧
      (w.finishStop m).2 = (c.step .stopped).watch.summary? := by
  refine ⟨.cons (Scene.enabled_stopped_iff.mpr ⟨hStopping, hOver⟩) (.nil _), ?_⟩
  have hNone : (c.watch.finishStop w.now).reading? = none :=
    Monitor.Watch.reading?_of_sampler?_none (Monitor.Watch.sampler?_finishStop w.now hOver)
  have hBefore : c.watch.reading? = none := by
    cases hSampler : c.sampler? with
    | none => exact Monitor.Watch.reading?_of_sampler?_none hSampler
    | some s =>
        rw [Monitor.Watch.reading?_of_sampler? hSampler]
        exact Sampler.reading?_of_isOver (hOver s hSampler)
  have hSame := hNone.trans hBefore.symm
  have hStep : c.step .stopped =
      { c with watch := c.watch.finishStop w.now, stopping := false } := by
    show (⟨c.reader, Scene.ask c.moment c.reader c.watch.reading?
      (c.watch.finishStop c.now).reading?, c.mode, c.thresholds, c.watch.finishStop c.now, false⟩ :
      Scene Party) = _
    rw [h.now, hSame, Scene.ask_self]
  have hStopped := h.modifyMonitor (fun watch => watch.finishStop w.now) hSame false
  rw [hStep]
  refine ⟨hStopped, ?_⟩
  show ((w.modifyMonitor m _).monitors[m]?).bind Monitor.Watch.summary? = _
  rw [hStopped.watch]
  rfl

/-- The clock moves as far as it can count. -/
theorem moveTo (h : Depicts w m c) {time : Millis} (hLater : w.now ≤ time)
    (hClock : time / 1000 < Millis.clockRange) :
    Monitor.History c [⟨c, .pass (time - w.now)⟩] (c.step (.pass (time - w.now))) ∧
      Depicts (w.moveTo time) m (c.step (.pass (time - w.now))) := by
  have hTime : w.now + (time - w.now) = time := Nat.add_sub_cancel' hLater
  have hWakes (timers : List (Party × Millis)) {w : World} {c : Scene Party}
      (h : Depicts w m c) : Depicts (timers.foldl (fun w timer => w.wake timer.1) w) m c := by
    induction timers generalizing w with
    | nil => exact h
    | cons timer timers ih => exact ih (h.wake timer.1)
  have hStep : c.step (.pass (time - w.now)) =
      { c with moment := c.moment.step (.pass (time - w.now)) } := by
    have hWatch : c.watchAfter (.pass (time - w.now)) = c.watch :=
      Scene.watchAfter_of_idle rfl fun s => rfl
    show (⟨c.reader, Scene.ask (c.moment.step (.pass (time - w.now))) c.reader c.watch.reading?
      (c.watchAfter (.pass (time - w.now))).reading?, c.mode, c.thresholds,
      c.watchAfter (.pass (time - w.now)), c.stopping⟩ : Scene Party) = _
    rw [hWatch, Scene.ask_self]
  refine ⟨.cons ?_ (.nil _), ?_⟩
  · show (c.now + (time - w.now)) / 1000 < Millis.clockRange
    rwa [h.now, hTime]
  · rw [hStep]
    refine hWakes _ ⟨h.reader, h.mode, h.thresholds, h.watch, ?_, h.orderly, h.reads⟩
    have hMoved : w.moment.step (.pass (time - w.now)) = ⟨w.cache, time⟩ :=
      congrArg (Moment.mk w.cache) hTime
    have hAsked (g : Group) :
        (w.moment.step (.request (.sampler m) g)).step (.pass (time - w.now)) =
          (⟨w.cache, time⟩ : Moment Party).step (.request (.sampler m) g) :=
      congrArg (Moment.mk _) hTime
    show c.moment.step (.pass (time - w.now)) =
      if (w.samplerRead? m).isSome then ⟨w.cache, time⟩
      else Scene.ask ⟨w.cache, time⟩ (.sampler m) none c.watch.reading?
    rw [h.moment]
    split
    · exact hMoved
    · cases hReading : c.watch.reading? with
      | none => exact hMoved
      | some g => exact hAsked g

/-! ### Other parties -/

/-- Others have done something to the cache, after the sampler has asked for what it has to read. -/
theorem of_spares (h : Depicts w m c) (hSpares : Spares w w')
    (hAsked : (w.samplerRead? m).isSome = true ∨ c.watch.reading? = none)
    (hOrderly : w'.moment.Orderly)
    (hPolling : ∀ g, (w.moment.slot g).isPolling (.sampler m) = true →
      (w'.moment.slot g).isPolling (.sampler m) = true) :
    Depicts w' m { c with moment := w'.moment } := by
  have hController := hSpares.controller
  have hRead : w'.samplerRead? m = w.samplerRead? m := by
    rw [samplerRead?, hSpares.reads, samplerRead?]
  refine ⟨h.reader, hController ▸ h.mode, hController ▸ h.thresholds, hSpares.monitors ▸ h.watch,
    ?_, hOrderly, ?_⟩
  · rw [hRead]
    rcases hAsked with hRead | hNone
    · rw [if_pos hRead]
    · rw [hNone]
      exact (ite_self _).symm
  · intro r' hr'
    obtain ⟨hGroup, hDeadline, hFits⟩ := h.reads r' (hRead ▸ hr')
    exact ⟨hGroup, hDeadline, fun ends late hPhase => hPolling _ (hFits ends late hPhase)⟩

theorem moment_of_asked (h : Depicts w m c)
    (hAsked : (w.samplerRead? m).isSome = true ∨ c.watch.reading? = none) :
    c.moment = w.moment := by
  rcases hAsked with hRead | hNone
  · rw [h.moment, if_pos hRead]
  · exact h.moment_of_not_reading hNone

/-- The reading of another party is a history in which the monitor does nothing. -/
theorem advanceRead (h : Depicts w m c) {p : Party} (hOther : p ≠ .sampler m)
    (hAsked : (w.samplerRead? m).isSome = true ∨ c.watch.reading? = none) {r : PendingRead}
    (hFits : Fits w.moment p r) :
    ∃ past c', Monitor.History c past c' ∧ Depicts (w.advanceRead p r).1 m c' ∧
      ∀ e ∈ past, ∃ e', e.event = .other e' := by
  have hProceeds := (progresses_advanceRead hFits).proceeds
  obtain ⟨past, hPast, hBy⟩ :=
    hProceeds.history_of_other (h.reader ▸ hOther) (h.moment_of_asked hAsked)
  refine ⟨past, _, hPast, h.of_spares (spares_advanceRead w p r) hAsked ?_ ?_, hBy⟩
  · exact hProceeds.orderly h.orderly
  · exact fun g => hProceeds.isPolling hOther

/-- And so is a reading that another party begins. -/
theorem beginRead (h : Depicts w m c) {p : Party} (hOther : p ≠ .sampler m)
    (hAsked : (w.samplerRead? m).isSome = true ∨ c.watch.reading? = none) {g : Group}
    (hEnabled : w.moment.Enabled (.request p g)) (deadline : Option Millis) :
    ∃ past c', Monitor.History c past c' ∧ Depicts (w.beginRead p g deadline).1 m c' ∧
      ∀ e ∈ past, ∃ e', e.event = .other e' := by
  let asked : World := { w with cache := w.cache.request g p }
  have hStep : asked.moment = w.moment.step (.request p g) := rfl
  have hRequest : Depicts asked m { c with moment := asked.moment } := by
    refine h.of_spares (spares_of_sensors w w.source _) hAsked
      (Sensor.Cache.orderly_step h.orderly hEnabled) fun g' => ?_
    exact Sensor.Cache.isPolling_step_of_ne hEnabled fun hSame => hOther (Option.some.inj hSame)
  have hFits : Fits asked.moment p ⟨g, .queued, deadline⟩ := by
    rintro ends late ⟨⟩
  obtain ⟨past, c', hPast, hDepicts, hBy⟩ := hRequest.advanceRead hOther hAsked hFits
  refine ⟨⟨c, .other (.request p g)⟩ :: past, c', .cons ⟨?_, ?_, ?_⟩ ?_, hDepicts, ?_⟩
  · rintro ⟨⟩
  · rw [h.reader]
    rintro ⟨⟩
    exact hOther rfl
  · rw [h.moment_of_asked hAsked]
    exact hEnabled
  · rw [Scene.step_other, h.moment_of_asked hAsked, ← hStep]
    exact hPast
  · rintro e he
    rcases List.mem_cons.mp he with rfl | he
    · exact ⟨_, rfl⟩
    · exact hBy e he

end Depicts

end Simulation.World

end SteadyTask
