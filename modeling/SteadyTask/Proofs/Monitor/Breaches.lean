import SteadyTask.Proofs.Metric.Breaches
import SteadyTask.Proofs.Monitor.Lifecycle

/-!
# Breaches in a run

However the mode changes in the course of a run, each sample is judged by the mode in force when it
is recorded, which is after both groups were read.  Once the monitor is stopped its summary reports
the observations that were recorded, all of them and in their order.

What a source measures comes as a collection that is sorted by name; this is the only condition on
it.  The collection may have any names and any values.
-/

namespace SteadyTask.Sensor.Cache

variable {κ : Type}

/-- What a source gives is sorted by name. -/
def Event.Sorted : Event κ → Prop
  | .succeed _ _ values => values.Sorted
  | _ => True

instance : (event : Event κ) → Decidable event.Sorted
  | .succeed _ _ values => inferInstanceAs (Decidable values.Sorted)
  | .pass _ | .request _ _ | .look _ _ | .fail _ _ | .leave _ _ | .drop _ _ =>
    inferInstanceAs (Decidable True)

/-- Whatever is stored in the cache is sorted by name. -/
def Moment.Sorted (m : Moment κ) : Prop :=
  ∀ g e, (m.slot g).entry = some e → e.values.Sorted

variable [DecidableEq κ] {m : Moment κ} {event : Event κ}

theorem Moment.Sorted.step (h : m.Sorted) (hEvent : event.Sorted) : (m.step event).Sorted := by
  intro g e hEntry
  rcases entry_step_cases (m := m) event g with ⟨reader, values, rfl, hNew⟩ |
    ⟨reader, -, hNone⟩ | ⟨-, -, hSame⟩
  · obtain rfl := Option.some.inj (hNew.symm.trans hEntry)
    exact hEvent
  · cases hNone.symm.trans hEntry
  · exact h g e (hSame.symm.trans hEntry)

end SteadyTask.Sensor.Cache

namespace SteadyTask.Monitor

open Sensor (Group)
open SteadyTask.Metric (Observation)

/-! ## The samples of a sampler -/

namespace Sampler

variable {s s' : Sampler} {observations : List Observation} {mode : Mode}
  {thresholds : Mode.Thresholds} {g : Group} {r : Reading}

/-- The sampler has the samples of some observations, and what it has read is sorted by name. -/
structure Has (s : Sampler) (observations : List Observation) : Prop where
  samples : s.samples = observations.map Observation.sample
  unbegun : s.phase = .starting ∨ s.phase = .crashed → s.samples = []
  host : ∀ next host, s.phase = .readingAccelerator next host → host.Sorted

theorem Has.result_eq (h : s.Has observations) : s.result = observations.map Observation.sample := by
  rw [← h.samples]
  unfold result
  split
  · next hCrashed => exact (h.unbegun (.inr hCrashed)).symm
  · rfl

theorem Has.cancel (h : s.Has observations) : s.cancel.Has observations :=
  ⟨h.samples, h.unbegun, h.host⟩

theorem Has.finish (h : s.Has observations) : s.finish.Has observations :=
  ⟨h.samples, nofun, nofun⟩

theorem Has.begin (h : s.Has observations) (hPhase : s.phase = .starting) (now : Millis) :
    (s.begin now).Has observations := by
  refine ⟨h.samples, fun _ => h.unbegun (.inl hPhase), fun next host hReading => ?_⟩
  unfold Sampler.begin at hReading
  by_cases hKeep : canKeep s.interval now <;> simp [hKeep] at hReading

/-- A sampler that waits again has what it had, and at most one observation more. -/
theorem Has.waiting (h : s.Has observations) {next : Millis} (hPhase : s'.phase = .waiting next)
    {more : List Observation}
    (hSamples : s'.samples = s.samples ++ more.map Observation.sample) :
    s'.Has (observations ++ more) := by
  refine ⟨?_, ?_, ?_⟩
  · rw [hSamples, h.samples, List.map_append]
  · rw [hPhase]
    nofun
  · rw [hPhase]
    nofun

/-- In a step the sampler records nothing, or one observation in the mode in force. -/
inductive Grows (mode : Mode) (thresholds : Mode.Thresholds) (observations : List Observation)
    (s s' : Sampler) : Prop
  | nothing (hSamples : s'.samples = s.samples) (hHas : s'.Has observations)
  | one (o : Observation) (hMode : o.mode = mode) (hCeilings : o.ceilings = thresholds.forMode mode)
      (hSamples : s'.samples = s.samples ++ [o.sample]) (hHas : s'.Has (observations ++ [o]))

/-- When a reading ends there is an observation, or the tick goes on or is lost. -/
theorem Has.answered (h : s.Has observations) (hAnswered : s.Answered mode thresholds g r s')
    (hValues : ∀ values, r = .values values → values.Sorted) :
    Grows mode thresholds observations s s' := by
  have hLost {next : Millis} (hPhase : s'.phase = .waiting next) (hSame : s'.samples = s.samples) :
      Grows mode thresholds observations s s' := by
    refine .nothing hSame ?_
    rw [← List.append_nil observations]
    exact h.waiting hPhase (by rw [hSame, List.map_nil, List.append_nil])
  have hRecorded {next : Millis} {values : Metric.Values} (hSorted : values.Sorted)
      (hPhase : s'.phase = .waiting next)
      (hSamples : s'.samples = s.samples ++ [.record values mode (thresholds.forMode mode)]) :
      Grows mode thresholds observations s s' :=
    .one ⟨values, mode, thresholds.forMode mode, hSorted⟩ rfl rfl hSamples (h.waiting hPhase hSamples)
  cases hAnswered with
  | goesOn hPhase hReads =>
      refine .nothing rfl ⟨h.samples, nofun, fun next host hReading => ?_⟩
      cases hReading
      exact hValues _ rfl
  | hostAlone hPhase hReads => exact hRecorded (hValues _ rfl) rfl rfl
  | hostFault hPhase => exact hLost rfl rfl
  | hostPanic hPhase => exact hLost rfl rfl
  | both hPhase => exact hRecorded ((h.host _ _ hPhase).merge _) rfl rfl
  | unavailable hPhase => exact hRecorded (h.host _ _ hPhase) rfl rfl
  | otherFault hPhase hOther => exact hRecorded (h.host _ _ hPhase) rfl rfl
  | acceleratorPanic hPhase => exact hLost rfl rfl

end Sampler

/-! ## The samples of a monitor -/

/-- The samples that the sampler of a monitor has. -/
def Watch.samples (w : Watch) : List Metric.Sample :=
  w.sampler?.elim [] Sampler.samples

/-- A monitor has the samples of some observations, and once it is stopped its summary reports
them. -/
def Watch.Has (w : Watch) (observations : List Observation) : Prop :=
  match w.life with
  | .idle => observations = []
  | .running _ none => observations = []
  | .running _ (some s) => s.Has observations
  | .stopped summary => summary.Reports observations

namespace Watch

variable {w : Watch} {observations : List Observation}

theorem samples_eq {s : Sampler} (h : w.sampler? = some s) : w.samples = s.samples := by
  rw [samples, h, Option.elim_some]

theorem samples_eq_nil (h : w.sampler? = none) : w.samples = [] := by
  rw [samples, h, Option.elim_none]

theorem samples_requestStop : w.requestStop.samples = w.samples := by
  rw [samples, sampler?_requestStop, samples]
  cases w.sampler? <;> rfl

theorem Has.start (h : w.Has observations) (now : Millis) {started : Watch}
    (hStart : w.start now = .ok started) : started.samples = [] ∧ started.Has observations := by
  unfold Watch.start at hStart
  cases hLife : w.life with
  | idle =>
      rw [Has, hLife] at h
      simp only [hLife, Except.ok.injEq] at hStart
      subst h hStart
      by_cases hEnabled : w.options.enabled = true
      · simp only [hEnabled, if_true]
        exact ⟨rfl, rfl, fun _ => rfl, nofun⟩
      · simp only [hEnabled, Bool.false_eq_true, if_false]
        exact ⟨rfl, rfl⟩
  | _ =>
      rw [hLife] at hStart
      cases hStart

theorem Has.requestStop (h : w.Has observations) : w.requestStop.Has observations := by
  unfold Watch.requestStop
  unfold Has at h
  cases hLife : w.life with
  | idle =>
      rw [hLife] at h
      subst h
      exact Metric.reports_empty 0.0
  | running startedAt s? =>
      rw [hLife] at h
      cases s? with
      | none => exact h
      | some s => exact Sampler.Has.cancel h
  | stopped summary =>
      rw [hLife] at h
      rw [Has, hLife]
      exact h

theorem Has.finishStop (h : w.Has observations) (now : Millis)
    (hOver : ∀ s, w.sampler? = some s → s.isOver = true) :
    (w.finishStop now).Has observations := by
  cases hLife : w.life with
  | idle => simpa [Watch.finishStop, hLife] using h
  | running startedAt s? =>
      have hSettled := w.life_finishStop now hLife fun s hs =>
        hOver s (sampler?_eq_some_iff.mpr ⟨startedAt, hs ▸ hLife⟩)
      rw [Has, hLife] at h
      rw [Has, hSettled]
      cases s? with
      | none =>
          subst h
          exact Metric.reports_ofSamples [] _
      | some s =>
          rw [Option.elim_some, Sampler.Has.result_eq h]
          exact Metric.reports_ofSamples observations _
  | stopped summary => simpa [Watch.finishStop, hLife] using h

theorem Has.reports (h : w.Has observations) {summary : Metric.Summary}
    (hSummary : w.summary? = some summary) : summary.Reports observations := by
  unfold Watch.summary? at hSummary
  split at hSummary
  · next hLife =>
      cases hSummary
      rwa [Has, hLife] at h
  · cases hSummary

end Watch

/-! ## What is recorded -/

variable {κ : Type}

/-- What sources give is sorted by name, whoever has asked for it. -/
def Event.Sorted : Event κ → Prop
  | .other event => event.Sorted
  | .succeed _ values => values.Sorted
  | _ => True

instance : (event : Event κ) → Decidable event.Sorted
  | .other event => inferInstanceAs (Decidable event.Sorted)
  | .succeed _ values => inferInstanceAs (Decidable values.Sorted)
  | .pass _ | .enter _ | .start | .stop | .stopped | .begin | .tick | .look _ | .fail _ _ | .panic _
  | .finish => inferInstanceAs (Decidable True)

variable [DecidableEq κ]

/-- The samples that something adds to those that the monitor has. -/
def Happening.recorded (h : Happening κ) : List Metric.Sample :=
  h.after.watch.samples.drop h.scene.watch.samples.length

/-- Whether a sample is recorded. -/
def Happening.isRecording (h : Happening κ) : Bool :=
  !h.recorded.isEmpty

/-- The sample of an observation is recorded, in the mode that is in force at that moment and with
the ceilings of that mode. -/
structure Happening.Records (h : Happening κ) (o : Observation) : Prop where
  recorded : h.recorded = [o.sample]
  mode : o.mode = h.scene.mode
  ceilings : o.ceilings = h.scene.thresholds.forMode h.scene.mode

/-- What was recorded in the course of something are these observations, in their order. -/
def Recorded (past : List (Happening κ)) (observations : List Observation) : Prop :=
  List.Forall₂ Happening.Records (past.filter Happening.isRecording) observations

namespace Happening

variable {h : Happening κ} {past : List (Happening κ)} {o : Observation}
  {observations : List Observation}

theorem isRecording_eq_false (hSame : h.after.watch.samples = h.scene.watch.samples ∨
    h.after.watch.samples = []) : h.isRecording = false := by
  have hNone : h.recorded = [] := by
    rw [recorded]
    rcases hSame with hSame | hNone
    · rw [hSame, List.drop_length]
    · rw [hNone, List.drop_nil]
  rw [isRecording, hNone]
  rfl

theorem recorded_cons_of_quiet (hQuiet : h.isRecording = false) (hPast : Recorded past observations) :
    Recorded (h :: past) observations := by
  rwa [Recorded, List.filter_cons_of_neg (Bool.eq_false_iff.mp hQuiet)]

theorem Records.recorded_cons (hRecords : h.Records o) (hPast : Recorded past observations) :
    Recorded (h :: past) (o :: observations) := by
  have hRecording : h.isRecording = true := by
    rw [isRecording, hRecords.recorded]
    rfl
  rw [Recorded, List.filter_cons_of_pos hRecording]
  exact .cons hRecords hPast

end Happening

namespace Scene

variable {c c' : Scene κ} {event : Event κ} {s s' : Sampler} {observations : List Observation}
  {past : List (Happening κ)} {g : Group} {values : Metric.Values}

omit [DecidableEq κ] in
theorem sorted_of_answer? (h : c.moment.Sorted) (hEvent : event.Sorted)
    (hAnswer : c.answer? event = some (g, .values values)) : values.Sorted := by
  cases event with
  | look g' =>
      simp only [answer?, Sensor.Cache.look_snd] at hAnswer
      cases hFresh : (c.moment.slot g').fresh? c.moment.cache.ttl c.now with
      | none =>
          rw [hFresh] at hAnswer
          cases hAnswer
      | some found =>
          rw [hFresh] at hAnswer
          cases hAnswer
          obtain ⟨e, hEntry, -, rfl⟩ := Sensor.Slot.fresh?_eq_some_iff.mp hFresh
          exact h _ e hEntry
  | succeed g' found =>
      cases hAnswer
      exact hEvent
  | _ => cases hAnswer

theorem sorted_step (h : c.moment.Sorted) (hEvent : event.Sorted) : (c.step event).moment.Sorted := by
  have hAfter : (c.momentAfter event).Sorted := by
    unfold momentAfter
    split
    · next e hCache =>
        refine h.step ?_
        cases event with
        | other e' =>
            cases hCache
            exact hEvent
        | succeed g values =>
            cases hCache
            exact hEvent
        | finish =>
            obtain ⟨g, -, rfl⟩ := Option.map_eq_some_iff.mp hCache
            exact trivial
        | pass | look | fail | panic =>
            cases hCache
            exact trivial
        | _ => cases hCache
    · exact h
  show (ask _ _ _ _).Sorted
  unfold ask
  split
  · split
    · exact hAfter
    · exact hAfter.step trivial
  · exact hAfter

omit [DecidableEq κ] in
/-- The sampler goes on, and its samples are those of observations again. -/
theorem Move.grows (hMove : c.Move s event s') (h : s.Has observations)
    (hValues : ∀ g values, c.answer? event = some (g, .values values) → values.Sorted) :
    s.Grows c.mode c.thresholds observations s' := by
  cases hMove with
  | begin hPhase => exact .nothing rfl (h.begin hPhase c.now)
  | tick hPhase _ _ => exact .nothing rfl ⟨h.samples, nofun, nofun⟩
  | answer hAnswer hAnswered =>
      refine h.answered hAnswered fun values hRead => ?_
      subst hRead
      exact hValues _ values hAnswer
  | finish _ => exact .nothing rfl h.finish
  | rest _ _ => exact .nothing rfl h

/-- The samples so far are those of some observations, and nothing is stored out of order. -/
structure Has (c : Scene κ) (observations : List Observation) : Prop where
  placed : c.Placed
  sorted : c.moment.Sorted
  watch : c.watch.Has observations

/-- In a step nothing is recorded, or one observation is. -/
theorem Has.step (h : c.Has observations) (hEnabled : c.Enabled event) (hEvent : event.Sorted) :
    (Happening.mk c event).isRecording = false ∧ (c.step event).Has observations ∨
      ∃ o, (Happening.mk c event).Records o ∧ (c.step event).Has (observations ++ [o]) := by
  have hNext {observations' : List Observation} (hWatch : (c.step event).watch.Has observations') :
      (c.step event).Has observations' :=
    ⟨h.placed.step hEnabled, sorted_step h.sorted hEvent, hWatch⟩
  have hQuiet (hSamples : (c.step event).watch.samples = c.watch.samples ∨
      (c.step event).watch.samples = []) (hWatch : (c.step event).watch.Has observations) :
      (Happening.mk c event).isRecording = false ∧ (c.step event).Has observations :=
    ⟨Happening.isRecording_eq_false hSamples, hNext hWatch⟩
  -- A call records nothing: a start begins without samples, and a stop only moves them.
  rcases event.isCall_cases with rfl | rfl | rfl | hCall
  · left
    have hAfter : (c.step .start).watch = (c.watch.start c.now).toOption.getD c.watch :=
      c.watchAfter_start
    cases hStart : c.watch.start c.now with
    | ok started =>
        obtain hSame : (c.step .start).watch = started := by rw [hAfter, hStart]; rfl
        obtain ⟨hNone, hStarted⟩ := h.watch.start c.now hStart
        exact hQuiet (.inr (hSame ▸ hNone)) (hSame ▸ hStarted)
    | error e =>
        obtain hSame : (c.step .start).watch = c.watch := by rw [hAfter, hStart]; rfl
        exact hQuiet (.inl (by rw [hSame])) (hSame ▸ h.watch)
  · exact .inl (hQuiet (.inl Watch.samples_requestStop) h.watch.requestStop)
  · have hOver := (enabled_stopped_iff.mp hEnabled).2
    exact .inl (hQuiet (.inr (Watch.samples_eq_nil (Watch.sampler?_finishStop c.now hOver)))
      (h.watch.finishStop c.now hOver))
  · obtain ⟨-, ⟨-, hSame⟩ | ⟨startedAt, s, hLife, hAfter⟩⟩ := c.step_cases_of_not_call hCall
    · exact .inl (hQuiet (.inl (by rw [hSame])) (hSame ▸ h.watch))
    · have hSampler : c.sampler? = some s := Watch.sampler?_eq_some_iff.mpr ⟨startedAt, hLife⟩
      -- What is recorded is what the move of the sampler adds to its samples.
      have hWatch := h.watch
      rw [Watch.Has, hLife] at hWatch
      have hSamples : (c.step event).watch.samples = (c.samplerAfter s event).samples := by
        rw [hAfter]
        rfl
      have hHas {observations' : List Observation}
          (hSome : (c.samplerAfter s event).Has observations') :
          (c.step event).Has observations' := by
        refine hNext ?_
        rw [hAfter]
        exact hSome
      cases (h.placed.move hEnabled hCall hSampler).grows hWatch
        fun g values hAnswer => sorted_of_answer? h.sorted hEvent hAnswer with
      | nothing hSame hSome =>
          refine .inl ⟨Happening.isRecording_eq_false (.inl ?_), hHas hSome⟩
          rw [hSamples, hSame, Watch.samples_eq hSampler]
      | one o hMode hCeilings hMore hSome =>
          refine .inr ⟨o, ⟨?_, hMode, hCeilings⟩, hHas hSome⟩
          show (c.step event).watch.samples.drop c.watch.samples.length = _
          rw [hSamples, hMore, Watch.samples_eq hSampler, List.drop_left]

/-- In the course of a run the observations that are recorded come on top of those before. -/
theorem Has.of_history (h : c.Has observations) (hPast : History c past c')
    (hEvents : ∀ h ∈ past, h.event.Sorted) :
    ∃ later, Recorded past later ∧ c'.Has (observations ++ later) := by
  -- By induction on the history, for all observations that may have come before it.
  induction hPast generalizing observations with
  | nil c => exact ⟨[], .nil, by rwa [List.append_nil]⟩
  | @cons c c' event past hEnabled rest ih =>
      obtain ⟨hEvent, hRest⟩ := List.forall_mem_cons.mp hEvents
      rcases h.step hEnabled hEvent with ⟨hQuiet, hNext⟩ | ⟨o, hRecords, hNext⟩
      · obtain ⟨later, hLater, hHas⟩ := ih hNext hRest
        exact ⟨later, Happening.recorded_cons_of_quiet hQuiet hLater, hHas⟩
      · obtain ⟨later, hLater, hHas⟩ := ih hNext hRest
        refine ⟨o :: later, hRecords.recorded_cons hLater, ?_⟩
        rwa [List.append_assoc] at hHas

omit [DecidableEq κ] in
theorem Fresh.has {trace : String} {options : Options} (h : c.Fresh trace options)
    (hSorted : c.moment.Sorted) : c.Has [] := by
  refine ⟨h.placed, hSorted, ?_⟩
  rw [h.watch]
  rfl

end Scene

open Scene

/-! ## A run -/

/-- A summary reports the observations that its samples were made of; and in every run of a monitor
these are the observations that were recorded, whatever becomes of the mode. -/
theorem summaries_report_observations :
    (∀ (observations : List Observation) (duration : Millis),
      (Metric.Summary.ofSamples (observations.map Observation.sample) duration).Reports
        observations) ∧
    ∀ {trace : String} {options : Options} {c c' : Scene κ} {past : List (Happening κ)},
      c.Fresh trace options → c.moment.Sorted → (∀ h ∈ past, h.event.Sorted) → History c past c' →
        ∀ summary, c'.watch.summary? = some summary →
          ∃ observations, Recorded past observations ∧ summary.Reports observations := by
  refine ⟨Metric.reports_ofSamples, ?_⟩
  intro trace options c c' past hFresh hSorted hEvents hPast summary hSummary
  obtain ⟨observations, hRecorded, hHas⟩ := (hFresh.has hSorted).of_history hPast hEvents
  exact ⟨observations, hRecorded, hHas.watch.reports hSummary⟩

/-- A monitor with the usual thresholds. -/
def watchful : Scene Nat :=
  { lone ⟨true, 5000⟩ with thresholds := .default }

/-- The processor is too busy for alert, but not for normal operation.  The mode changes between two
ticks, the second of which finds the reading of the host in the cache. -/
def busyIntoAlert : List (Event Nat) :=
  [.start, .begin, .pass 5000, .tick, .look .host, .succeed .host [(Metric.cpuPercent, 82.0)],
    .look .accelerator, .fail .accelerator (.unavailable ""), .enter .alert, .pass 5000, .tick,
    .look .host, .stop, .finish, .stopped]

theorem one_breach_in_busyIntoAlert :
    watchful.AllEnabled busyIntoAlert ∧
      ∃ summary, (busyIntoAlert.foldl step watchful).watch.summary? = some summary ∧
        summary.sampleCount = 2 ∧ summary.violations.length = 1 ∧
        ∃ observations, Recorded (watchful.happenings busyIntoAlert) observations ∧
          summary.Reports observations := by
  have hFresh : watchful.Fresh "lone" ⟨true, 5000⟩ := by
    obtain ⟨hWatch, hStopping, hOrderly, hNowhere⟩ := fresh_lone ⟨true, 5000⟩
    exact ⟨hWatch, hStopping, hOrderly, hNowhere⟩
  have hSorted : watchful.moment.Sorted := by
    intro g e hEntry
    cases g <;> cases hEntry
  have hAll : ∀ event ∈ busyIntoAlert, event.Sorted := by decide
  have hEvents : ∀ h ∈ watchful.happenings busyIntoAlert, h.event.Sorted :=
    fun h hh => hAll h.event (event_mem_of_mem_happenings hh)
  have hEnabled : watchful.AllEnabled busyIntoAlert := by decide
  obtain ⟨summary, hSummary, hCount, hOne⟩ :
      ∃ summary, (busyIntoAlert.foldl step watchful).watch.summary? = some summary ∧
        summary.sampleCount = 2 ∧ summary.violations.length = 1 :=
    ⟨_, rfl, by decide +kernel, by decide +kernel⟩
  exact ⟨hEnabled, summary, hSummary, hCount, hOne, summaries_report_observations.2 hFresh hSorted
    hEvents (history_happenings hEnabled) summary hSummary⟩

end SteadyTask.Monitor
