import SteadyTask.Monitor.Lifecycle
import SteadyTask.Proofs.Sensor.Lines

/-!
# Histories of a monitor

A monitor with its sampler, the cache that the sampler reads, and the mode in force are looked at
together.  In one step time passes, another reader does something to the cache, the mode changes,
the monitor is called, or its sampler goes on.  Which step comes next is left open, and so is how
each reading of the sampler ends; so a history can be any interleaving.

The calls of one monitor come one after another: a stop begins by telling the sampler to end, and
returns once the sampler is over.  Between the two anything else may happen, also what the sampler
has going may still come to its end.  A call is not given up half way.

When the sampler has a group to read it asks for it at once, and nobody comes in between.
-/

namespace SteadyTask.Monitor

open Sensor (Group Slot)
open Sensor.Cache (Moment)

/-! ## Samplers -/

namespace Sampler

/-- Whether the sampler has not run yet. -/
def isStarting (s : Sampler) : Bool :=
  match s.phase with
  | .starting => true
  | _ => false

/-- Whether the sampler has a tick to notice.  One that was told to end notices none. -/
def hasTick (s : Sampler) (now : Millis) : Bool :=
  match s.phase with
  | .waiting due => due ≤ now && !s.cancelled
  | _ => false

/-- Whether the sampler was told to end and waits for something. -/
def canFinish (s : Sampler) : Bool :=
  match s.phase with
  | .waiting _ | .readingHost _ | .readingAccelerator _ _ => s.cancelled
  | _ => false

end Sampler

/-! ## Watches -/

namespace Watch

variable {w : Watch} {s s' : Sampler}

/-- The group that the sampler of a monitor has to read. -/
def reading? (w : Watch) : Option Group :=
  w.sampler?.bind Sampler.reading?

theorem sampler?_eq_some_iff :
    w.sampler? = some s ↔ ∃ startedAt, w.life = .running startedAt (some s) := by
  unfold sampler?
  cases w.life <;> simp

theorem life_withSampler {startedAt : Millis} (h : w.life = .running startedAt (some s)) :
    (w.withSampler s').life = .running startedAt (some s') := by
  simp [withSampler, h]

theorem sampler?_withSampler (h : w.sampler? = some s) :
    (w.withSampler s').sampler? = some s' := by
  obtain ⟨startedAt, hLife⟩ := sampler?_eq_some_iff.mp h
  exact sampler?_eq_some_iff.mpr ⟨startedAt, life_withSampler hLife⟩

theorem withSampler_self (h : w.sampler? = some s) : w.withSampler s = w := by
  obtain ⟨startedAt, hLife⟩ := sampler?_eq_some_iff.mp h
  obtain ⟨trace, options, life⟩ := w
  cases hLife
  rfl

theorem reading?_of_sampler? (h : w.sampler? = some s) : w.reading? = s.reading? := by
  simp [reading?, h]

theorem reading?_of_sampler?_none (h : w.sampler? = none) : w.reading? = none := by
  simp [reading?, h]

theorem sampler?_requestStop : w.requestStop.sampler? = w.sampler?.map Sampler.cancel := by
  obtain ⟨trace, options, life⟩ := w
  cases life <;> rfl

/-- To be told to end does not change what is being read. -/
theorem reading?_requestStop : w.requestStop.reading? = w.reading? := by
  rw [reading?, sampler?_requestStop, reading?]
  cases w.sampler? <;> rfl

/-- A monitor that has just been started reads nothing, and neither does one that was not. -/
theorem reading?_start {now : Millis} {started : Watch} (h : w.start now = .ok started) :
    w.reading? = none ∧ started.reading? = none := by
  obtain ⟨trace, options, life⟩ := w
  cases life with
  | idle =>
      cases h
      refine ⟨rfl, ?_⟩
      unfold reading? sampler?
      by_cases hEnabled : options.enabled <;> simp [hEnabled, Sampler.make, Sampler.reading?]
  | running startedAt s? => cases h
  | stopped summary => cases h

/-- Once its sampler is over a monitor settles on the samples that count. -/
theorem life_finishStop (now : Millis) {startedAt : Millis} {s? : Option Sampler}
    (hLife : w.life = .running startedAt s?) (hOver : ∀ s, s? = some s → s.isOver = true) :
    (w.finishStop now).life =
      .stopped (.ofSamples (s?.elim [] Sampler.result) (now - startedAt)) := by
  unfold finishStop
  cases s? with
  | none => simp [hLife]
  | some s => simp [hLife, hOver s rfl]

theorem sampler?_finishStop (now : Millis) (h : ∀ s, w.sampler? = some s → s.isOver = true) :
    (w.finishStop now).sampler? = none := by
  obtain ⟨trace, options, life⟩ := w
  cases life with
  | idle => rfl
  | running startedAt s? =>
      cases s? with
      | none => rfl
      | some s => simp [finishStop, h s rfl, sampler?]
  | stopped summary => rfl

end Watch

namespace Sampler

variable {s : Sampler} {g : Group}

theorem reading?_of_isOver (h : s.isOver = true) : s.reading? = none := by
  unfold isOver at h
  unfold reading?
  cases hPhase : s.phase <;> simp_all

theorem cancelled_of_canFinish (h : s.canFinish = true) : s.cancelled = true := by
  unfold canFinish at h
  split at h
  · exact h
  · exact h
  · exact h
  · cases h

theorem length_result_le (s : Sampler) : s.result.length ≤ s.samples.length := by
  unfold result
  split
  · exact Nat.zero_le _
  · exact Nat.le_refl _

/-- A reading changes neither how often the sampler samples nor whether it was told to end. -/
theorem groupRead_eq (mode : Mode) (thresholds : Mode.Thresholds) (g : Group) (r : Reading) :
    ∃ phase reads samples,
      s.groupRead g mode thresholds r = ⟨s.interval, phase, reads, samples, s.cancelled⟩ := by
  cases g with
  | host =>
      unfold groupRead hostRead record
      cases s.phase with
      | readingHost next =>
          cases r with
          | values v => by_cases hReads : s.readsAccelerator = true <;> simp [hReads]
          | _ => simp
      | _ => exact ⟨_, _, _, rfl⟩
  | accelerator =>
      unfold groupRead acceleratorRead record
      cases s.phase with
      | readingAccelerator next host =>
          cases r with
          | fault f => cases f <;> simp
          | _ => simp
      | _ => exact ⟨_, _, _, rfl⟩

theorem reading?_begin (now : Millis) : (s.begin now).reading? = none := by
  unfold begin reading?
  by_cases hKeep : canKeep s.interval now <;> simp [hKeep]

/-- What a reading of a group does to the sampler that has it going. -/
inductive Answered (mode : Mode) (thresholds : Mode.Thresholds) (s : Sampler) :
    Group → Reading → Sampler → Prop
  | goesOn {next : Millis} {v : Metric.Values} (hPhase : s.phase = .readingHost next)
      (hReads : s.readsAccelerator = true) :
      Answered mode thresholds s .host (.values v) { s with phase := .readingAccelerator next v }
  | hostAlone {next : Millis} {v : Metric.Values} (hPhase : s.phase = .readingHost next)
      (hReads : s.readsAccelerator = false) :
      Answered mode thresholds s .host (.values v) (s.record next v mode thresholds)
  | hostFault {next : Millis} {f : Sensor.Fault} (hPhase : s.phase = .readingHost next) :
      Answered mode thresholds s .host (.fault f) { s with phase := .waiting next }
  | hostPanic {next : Millis} (hPhase : s.phase = .readingHost next) :
      Answered mode thresholds s .host .panicked { s with phase := .waiting next }
  | both {next : Millis} {host v : Metric.Values}
      (hPhase : s.phase = .readingAccelerator next host) :
      Answered mode thresholds s .accelerator (.values v)
        (s.record next (host.merge v) mode thresholds)
  | unavailable {next : Millis} {host : Metric.Values} {text : String}
      (hPhase : s.phase = .readingAccelerator next host) :
      Answered mode thresholds s .accelerator (.fault (.unavailable text))
        { s.record next host mode thresholds with readsAccelerator := false }
  | otherFault {next : Millis} {host : Metric.Values} {f : Sensor.Fault}
      (hPhase : s.phase = .readingAccelerator next host) (hOther : ∀ text, f ≠ .unavailable text) :
      Answered mode thresholds s .accelerator (.fault f) (s.record next host mode thresholds)
  | acceleratorPanic {next : Millis} {host : Metric.Values}
      (hPhase : s.phase = .readingAccelerator next host) :
      Answered mode thresholds s .accelerator .panicked { s with phase := .waiting next }

theorem answered_groupRead (h : s.reading? = some g) (mode : Mode) (thresholds : Mode.Thresholds)
    (r : Reading) : Answered mode thresholds s g r (s.groupRead g mode thresholds r) := by
  unfold reading? at h
  cases hPhase : s.phase with
  | readingHost next =>
      rw [hPhase] at h
      cases h
      cases r with
      | values v =>
          simp only [groupRead, hostRead, hPhase]
          by_cases hReads : s.readsAccelerator = true
          · rw [if_pos hReads]
            exact .goesOn hPhase hReads
          · rw [if_neg hReads]
            exact .hostAlone hPhase (Bool.eq_false_iff.mpr hReads)
      | fault f =>
          simp only [groupRead, hostRead, hPhase]
          exact .hostFault hPhase
      | panicked =>
          simp only [groupRead, hostRead, hPhase]
          exact .hostPanic hPhase
  | readingAccelerator next host =>
      rw [hPhase] at h
      cases h
      cases r with
      | values v =>
          simp only [groupRead, acceleratorRead, hPhase]
          exact .both hPhase
      | fault f =>
          cases f with
          | unavailable text =>
              simp only [groupRead, acceleratorRead, hPhase]
              exact .unavailable hPhase
          | _ =>
              simp only [groupRead, acceleratorRead, hPhase]
              exact .otherFault hPhase nofun
      | panicked =>
          simp only [groupRead, acceleratorRead, hPhase]
          exact .acceleratorPanic hPhase
  | _ =>
      rw [hPhase] at h
      cases h

theorem Answered.reading?_eq {mode : Mode} {thresholds : Mode.Thresholds} {r : Reading}
    {s' : Sampler} (h : Answered mode thresholds s g r s') : s.reading? = some g := by
  cases h <;> simp [reading?, *]

/-- After a reading there is none to make, or that of the accelerator. -/
theorem reading?_groupRead (h : s.reading? = some g) (mode : Mode) (thresholds : Mode.Thresholds)
    (r : Reading) :
    (s.groupRead g mode thresholds r).reading? = none ∨
      g = .host ∧ (s.groupRead g mode thresholds r).reading? = some .accelerator := by
  have hAnswered := answered_groupRead h mode thresholds r
  generalize s.groupRead g mode thresholds r = s' at hAnswered ⊢
  cases hAnswered with
  | goesOn _ _ => exact .inr ⟨rfl, rfl⟩
  | _ => exact .inl rfl

/-- No group is read twice in succession. -/
theorem reading?_groupRead_ne (h : s.reading? = some g) (mode : Mode)
    (thresholds : Mode.Thresholds) (r : Reading) :
    (s.groupRead g mode thresholds r).reading? ≠ some g := by
  rcases reading?_groupRead h mode thresholds r with hNone | ⟨rfl, hNext⟩
  · rw [hNone]
    rintro ⟨⟩
  · rw [hNext]
    rintro ⟨⟩

end Sampler

/-! ## Scenes -/

/-- A monitor, the cache, and the mode in force. -/
structure Scene (κ : Type) where
  /-- As whom the sampler reads. -/
  reader : κ
  moment : Moment κ
  mode : Mode
  thresholds : Mode.Thresholds
  watch : Watch
  /-- Whether a stop was called that has not returned. -/
  stopping : Bool

/-- What can happen to a monitor. -/
inductive Event (κ : Type) where
  | pass (duration : Millis)
  /-- Something that another reader does. -/
  | other (event : Sensor.Cache.Event κ)
  | enter (mode : Mode)
  | start
  | stop
  /-- A stop returns. -/
  | stopped
  /-- The sampler runs for the first time. -/
  | begin
  /-- The sampler notices a tick. -/
  | tick
  /-- It is the sampler's turn to look at a group. -/
  | look (g : Group)
  /-- A poll of the sampler succeeds. -/
  | succeed (g : Group) (values : Metric.Values)
  | fail (g : Group) (f : Sensor.Fault)
  | panic (g : Group)
  /-- The sampler ends. -/
  | finish

/-- Whether it is a call of the monitor, or its return. -/
def Event.isCall {κ : Type} : Event κ → Bool
  | .start | .stop | .stopped => true
  | _ => false

theorem Event.isCall_cases {κ : Type} (event : Event κ) :
    event = .start ∨ event = .stop ∨ event = .stopped ∨ event.isCall = false := by
  cases event <;> simp [isCall]

namespace Scene

variable {κ : Type}

/-- The time of a scene. -/
abbrev now (c : Scene κ) : Millis :=
  c.moment.now

/-- The sampler, while there is one. -/
abbrev sampler? (c : Scene κ) : Option Sampler :=
  c.watch.sampler?

/-! ## What an event does -/

/-- The reading of the sampler that ends, and how. -/
def answer? (c : Scene κ) : Event κ → Option (Group × Sampler.Reading)
  | .look g =>
    match (c.moment.cache.look g c.reader c.now).2 with
    | .hit values => some (g, .values values)
    | .miss => none
  | .succeed g values => some (g, .values values)
  | .fail g f => some (g, .fault f)
  | .panic g => some (g, .panicked)
  | _ => none

/-- What happens to the cache: a reader whose poll panics goes away, and so does one that ends. -/
def inCache? (c : Scene κ) : Event κ → Option (Sensor.Cache.Event κ)
  | .pass duration => some (.pass duration)
  | .other event => some event
  | .look g => some (.look c.reader g)
  | .succeed g values => some (.succeed c.reader g values)
  | .fail g _ => some (.fail c.reader g)
  | .panic g => some (.leave c.reader g)
  | .finish => c.watch.reading?.map fun g => .leave c.reader g
  | _ => none

/-- What becomes of the sampler. -/
def samplerAfter (c : Scene κ) (s : Sampler) : Event κ → Sampler
  | .begin => s.begin c.now
  | .tick => s.tick c.now
  | .finish => s.finish
  | event =>
    match c.answer? event with
    | some (g, r) => s.groupRead g c.mode c.thresholds r
    | none => s

/-- What becomes of the monitor. -/
def watchAfter (c : Scene κ) : Event κ → Watch
  | .start =>
    match c.watch.start c.now with
    | .ok started => started
    | .error _ => c.watch
  | .stop => c.watch.requestStop
  | .stopped => c.watch.finishStop c.now
  | event =>
    match c.sampler? with
    | some s => c.watch.withSampler (c.samplerAfter s event)
    | none => c.watch

/-- The group that the sampler goes on reading. -/
def keeps (c : Scene κ) (event : Event κ) : Option Group :=
  match event with
  | .finish => none
  | event => if (c.answer? event).isSome then none else c.watch.reading?

section Watches

variable {c : Scene κ} {event : Event κ} {g : Group} {r : Sampler.Reading} {s : Sampler}

/-- Apart from the calls, the monitor is changed by its sampler alone. -/
theorem watchAfter_of_sampler (hCall : event.isCall = false) (h : c.sampler? = some s) :
    c.watchAfter event = c.watch.withSampler (c.samplerAfter s event) := by
  cases event with
  | start | stop | stopped => cases hCall
  | _ => simp [watchAfter, h]

theorem sampler?_watchAfter (hCall : event.isCall = false) (h : c.sampler? = some s) :
    (c.watchAfter event).sampler? = some (c.samplerAfter s event) := by
  rw [watchAfter_of_sampler hCall h]
  exact Watch.sampler?_withSampler h

/-- A start that is refused leaves the monitor as it is. -/
theorem watchAfter_start (c : Scene κ) :
    c.watchAfter .start = (c.watch.start c.now).toOption.getD c.watch := by
  unfold watchAfter
  cases c.watch.start c.now <;> rfl

theorem watchAfter_of_no_sampler (hCall : event.isCall = false) (h : c.sampler? = none) :
    c.watchAfter event = c.watch := by
  cases event with
  | start | stop | stopped => cases hCall
  | _ => simp [watchAfter, h]

/-- What is neither a call nor the sampler's doing leaves the monitor as it is. -/
theorem watchAfter_of_idle (hCall : event.isCall = false)
    (hIdle : ∀ s, c.samplerAfter s event = s) : c.watchAfter event = c.watch := by
  cases hSampler : c.sampler? with
  | none => exact watchAfter_of_no_sampler hCall hSampler
  | some s => rw [watchAfter_of_sampler hCall hSampler, hIdle, Watch.withSampler_self hSampler]

theorem reading?_watchAfter (hCall : event.isCall = false) (h : c.sampler? = some s) :
    (c.watchAfter event).reading? = (c.samplerAfter s event).reading? := by
  exact Watch.reading?_of_sampler? (sampler?_watchAfter hCall h)

theorem samplerAfter_of_answer? (h : c.answer? event = some (g, r)) (s : Sampler) :
    c.samplerAfter s event = s.groupRead g c.mode c.thresholds r := by
  cases event with
  | look g' => simp only [samplerAfter, h]
  | succeed g' values => cases h; rfl
  | fail g' f => cases h; rfl
  | panic g' => cases h; rfl
  | _ => cases h

/-- The sampler never changes how often it samples, or whether it was told to end. -/
theorem samplerAfter_eq (c : Scene κ) (s : Sampler) (event : Event κ) :
    ∃ phase reads samples,
      c.samplerAfter s event = ⟨s.interval, phase, reads, samples, s.cancelled⟩ := by
  cases hAnswer : c.answer? event with
  | some answer =>
      rw [samplerAfter_of_answer? hAnswer]
      exact s.groupRead_eq c.mode c.thresholds answer.1 answer.2
  | none =>
      cases event with
      | tick =>
          show ∃ phase reads samples, s.tick c.now = _
          unfold Sampler.tick
          split
          · split <;> exact ⟨_, _, _, rfl⟩
          · exact ⟨_, _, _, rfl⟩
      | begin | finish => exact ⟨_, _, _, rfl⟩
      | look g =>
          simp only [samplerAfter, hAnswer]
          exact ⟨_, _, _, rfl⟩
      | succeed | fail | panic => cases hAnswer
      | _ => exact ⟨_, _, _, rfl⟩

@[simp]
theorem cancelled_samplerAfter : (c.samplerAfter s event).cancelled = s.cancelled := by
  obtain ⟨phase, reads, samples, hAfter⟩ := c.samplerAfter_eq s event
  rw [hAfter]

@[simp]
theorem interval_samplerAfter : (c.samplerAfter s event).interval = s.interval := by
  obtain ⟨phase, reads, samples, hAfter⟩ := c.samplerAfter_eq s event
  rw [hAfter]

theorem isCall_of_answer? (h : c.answer? event = some (g, r)) : event.isCall = false := by
  cases event with
  | start | stop | stopped => cases h
  | _ => rfl

theorem keeps_of_answer? (hAnswer : c.answer? event = some (g, r)) : c.keeps event = none := by
  cases event with
  | finish => rfl
  | _ => simp [keeps, hAnswer]

end Watches

variable [DecidableEq κ]

/-- The cache after that. -/
def momentAfter (c : Scene κ) (event : Event κ) : Moment κ :=
  match c.inCache? event with
  | some event => c.moment.step event
  | none => c.moment

/-- A sampler that has another group to read than before asks for it. -/
def ask (m : Moment κ) (reader : κ) (before after : Option Group) : Moment κ :=
  match after with
  | some g => if before = some g then m else m.step (.request reader g)
  | none => m

theorem ask_self (m : Moment κ) (reader : κ) (reading : Option Group) :
    ask m reader reading reading = m := by
  unfold ask
  split
  · next g hReading => rw [if_pos rfl]
  · rfl

/-- What an event does. -/
def step (c : Scene κ) (event : Event κ) : Scene κ where
  reader := c.reader
  moment := ask (c.momentAfter event) c.reader c.watch.reading? (c.watchAfter event).reading?
  mode :=
    match event with
    | .enter mode => mode
    | _ => c.mode
  thresholds := c.thresholds
  watch := c.watchAfter event
  stopping :=
    match event with
    | .stop => true
    | .stopped => false
    | _ => c.stopping

/-- What is not a call changes the monitor only where its sampler goes on. -/
theorem step_cases_of_not_call (c : Scene κ) {event : Event κ} (hCall : event.isCall = false) :
    (c.step event).stopping = c.stopping ∧
      (c.sampler? = none ∧ (c.step event).watch = c.watch ∨
        ∃ startedAt s, c.watch.life = .running startedAt (some s) ∧
          (c.step event).watch =
            { c.watch with life := .running startedAt (some (c.samplerAfter s event)) }) := by
  refine ⟨?_, ?_⟩
  · cases event with
    | start | stop | stopped => cases hCall
    | _ => rfl
  · cases hSampler : c.sampler? with
    | none => exact .inl ⟨rfl, watchAfter_of_no_sampler hCall hSampler⟩
    | some s =>
        obtain ⟨startedAt, hLife⟩ := Watch.sampler?_eq_some_iff.mp hSampler
        refine .inr ⟨startedAt, s, hLife, ?_⟩
        show c.watchAfter event = _
        rw [watchAfter_of_sampler hCall hSampler]
        simp [Watch.withSampler, hLife]

/-- Whether something can happen.  Time passes as far as the clock can count. -/
def Enabled (c : Scene κ) : Event κ → Prop
  | .pass duration => (c.now + duration) / 1000 < Millis.clockRange
  | .other event =>
    event.reader? ≠ none ∧ event.reader? ≠ some c.reader ∧ c.moment.Enabled event
  | .enter _ => True
  | .start => c.stopping = false
  | .stop => c.stopping = false
  | .stopped => c.stopping = true ∧ c.sampler?.all Sampler.isOver = true
  | .begin => c.sampler?.any Sampler.isStarting = true
  | .tick => c.sampler?.any (fun s => s.hasTick c.now) = true
  | .look g => c.moment.Enabled (.look c.reader g)
  | .succeed g values => c.moment.Enabled (.succeed c.reader g values)
  | .fail g _ => c.moment.Enabled (.fail c.reader g)
  | .panic g => c.moment.Enabled (.fail c.reader g)
  | .finish => c.sampler?.any Sampler.canFinish = true

section Enabled

variable {c : Scene κ} {event : Event κ} {g : Group} {r : Sampler.Reading}

theorem enabled_begin_iff :
    c.Enabled .begin ↔ ∃ s, c.sampler? = some s ∧ s.phase = .starting := by
  show c.sampler?.any Sampler.isStarting = true ↔ _
  rw [Option.any_eq_true]
  refine exists_congr fun s => and_congr_right fun _ => ?_
  unfold Sampler.isStarting
  cases s.phase <;> simp

theorem enabled_tick_iff :
    c.Enabled .tick ↔ ∃ s due, c.sampler? = some s ∧ s.phase = .waiting due ∧ due ≤ c.now ∧
      s.cancelled = false := by
  show c.sampler?.any (fun s => s.hasTick c.now) = true ↔ _
  rw [Option.any_eq_true]
  refine exists_congr fun s => ?_
  unfold Sampler.hasTick
  cases s.phase <;> simp

theorem enabled_finish_iff :
    c.Enabled .finish ↔ ∃ s, c.sampler? = some s ∧ s.canFinish = true :=
  Option.any_eq_true ..

theorem enabled_stopped_iff :
    c.Enabled .stopped ↔
      c.stopping = true ∧ ∀ s, c.sampler? = some s → s.isOver = true :=
  and_congr_right fun _ => Option.all_eq_true ..

/-- The sampler owned the slot of a reading that ends. -/
theorem owner_of_answer? (hEnabled : c.Enabled event) (hAnswer : c.answer? event = some (g, r)) :
    ∃ t, (c.moment.slot g).owner = some (c.reader, t) := by
  cases event with
  | look g' =>
      have hOwner := Slot.isGranted_iff.mp hEnabled
      simp only [answer?] at hAnswer
      split at hAnswer
      · cases hAnswer
        exact ⟨_, hOwner⟩
      · cases hAnswer
  | succeed g' values =>
      cases hAnswer
      exact ⟨_, Slot.isPolling_iff.mp hEnabled⟩
  | fail g' f =>
      cases hAnswer
      exact ⟨_, Slot.isPolling_iff.mp hEnabled⟩
  | panic g' =>
      cases hAnswer
      exact ⟨_, Slot.isPolling_iff.mp hEnabled⟩
  | _ => cases hAnswer

end Enabled

end Scene

/-! ## Histories -/

/-- An event, and the scene in which it happened. -/
structure Happening (κ : Type) where
  scene : Scene κ
  event : Event κ

variable {κ : Type} [DecidableEq κ]

/-- The scene right after that. -/
abbrev Happening.after (h : Happening κ) : Scene κ :=
  h.scene.step h.event

/-- What happened from one scene to another. -/
inductive History : Scene κ → List (Happening κ) → Scene κ → Prop
  | nil (c : Scene κ) : History c [] c
  | cons {c c' : Scene κ} {event : Event κ} {past : List (Happening κ)}
      (hEnabled : c.Enabled event) (rest : History (c.step event) past c') :
      History c (⟨c, event⟩ :: past) c'

section Histories

variable {c c' c'' : Scene κ} {h : Happening κ} {before past after : List (Happening κ)}

theorem history_nil_iff : History c [] c' ↔ c' = c := by
  constructor
  · intro hPast
    cases hPast
    rfl
  · rintro rfl
    exact .nil c'

theorem history_cons_iff :
    History c (h :: past) c' ↔
      h.scene = c ∧ c.Enabled h.event ∧ History (c.step h.event) past c' := by
  constructor
  · intro hPast
    cases hPast with
    | cons hEnabled rest => exact ⟨rfl, hEnabled, rest⟩
  · obtain ⟨scene, event⟩ := h
    rintro ⟨rfl, hEnabled, rest⟩
    exact .cons hEnabled rest

theorem history_append_iff :
    History c (before ++ after) c'' ↔ ∃ c', History c before c' ∧ History c' after c'' := by
  induction before generalizing c with
  | nil => simp [history_nil_iff]
  | cons h before ih =>
      rw [List.cons_append, history_cons_iff, ih]
      constructor
      · rintro ⟨hScene, hEnabled, c', hBefore, hAfter⟩
        exact ⟨c', history_cons_iff.mpr ⟨hScene, hEnabled, hBefore⟩, hAfter⟩
      · rintro ⟨c', hBefore, hAfter⟩
        obtain ⟨hScene, hEnabled, hBefore⟩ := history_cons_iff.mp hBefore
        exact ⟨hScene, hEnabled, c', hBefore, hAfter⟩

/-- A history cut at something that happened. -/
theorem History.cut (hPast : History c (before ++ h :: after) c') :
    History c before h.scene ∧ h.scene.Enabled h.event ∧ History h.after after c' := by
  obtain ⟨c₁, hBefore, hRest⟩ := history_append_iff.mp hPast
  obtain ⟨rfl, hEnabled, hAfter⟩ := history_cons_iff.mp hRest
  exact ⟨hBefore, hEnabled, hAfter⟩

/-- What every enabled event preserves holds at the end of a history that it holds at the start
of.  What happened is known to satisfy a condition. -/
theorem History.preserves {P : Scene κ → Prop} {C : Happening κ → Prop}
    (hPast : History c past c') (hCondition : ∀ h ∈ past, C h)
    (hStep : ∀ c event, c.Enabled event → C ⟨c, event⟩ → P c → P (c.step event)) (hStart : P c) :
    P c' := by
  induction hPast with
  | nil c => exact hStart
  | cons hEnabled rest ih =>
      refine ih (fun h hh => hCondition h (List.mem_cons_of_mem _ hh)) ?_
      exact hStep _ _ hEnabled (hCondition _ (List.mem_cons_self ..)) hStart

end Histories

/-! ## Given events -/

namespace Scene

instance (c : Scene κ) : (event : Event κ) → Decidable (c.Enabled event)
  | .pass _ => inferInstanceAs (Decidable (_ < _))
  | .other _ => inferInstanceAs (Decidable (_ ∧ _ ∧ _))
  | .enter _ => inferInstanceAs (Decidable True)
  | .start => inferInstanceAs (Decidable (_ = _))
  | .stop => inferInstanceAs (Decidable (_ = _))
  | .stopped => inferInstanceAs (Decidable (_ ∧ _))
  | .begin => inferInstanceAs (Decidable (_ = _))
  | .tick => inferInstanceAs (Decidable (_ = _))
  | .look g => inferInstanceAs (Decidable (c.moment.Enabled (.look c.reader g)))
  | .succeed g values => inferInstanceAs (Decidable (c.moment.Enabled (.succeed c.reader g values)))
  | .fail g _ => inferInstanceAs (Decidable (c.moment.Enabled (.fail c.reader g)))
  | .panic g => inferInstanceAs (Decidable (c.moment.Enabled (.fail c.reader g)))
  | .finish => inferInstanceAs (Decidable (_ = _))

/-- Each of some events can happen when its turn comes. -/
def AllEnabled (c : Scene κ) : List (Event κ) → Prop
  | [] => True
  | event :: events => c.Enabled event ∧ (c.step event).AllEnabled events

instance decidableAllEnabled (c : Scene κ) : (events : List (Event κ)) →
    Decidable (c.AllEnabled events)
  | [] => inferInstanceAs (Decidable True)
  | event :: events =>
    have := decidableAllEnabled (c.step event) events
    inferInstanceAs (Decidable (_ ∧ _))

/-- What happens when some events come one after another. -/
def happenings (c : Scene κ) : List (Event κ) → List (Happening κ)
  | [] => []
  | event :: events => ⟨c, event⟩ :: (c.step event).happenings events

theorem happenings_append (c : Scene κ) (events later : List (Event κ)) :
    c.happenings (events ++ later) =
      c.happenings events ++ (events.foldl step c).happenings later := by
  induction events generalizing c with
  | nil => rfl
  | cons event events ih => rw [List.cons_append, happenings, ih]; rfl

theorem event_mem_of_mem_happenings {c : Scene κ} {events : List (Event κ)} {h : Happening κ}
    (hh : h ∈ c.happenings events) : h.event ∈ events := by
  induction events generalizing c with
  | nil => cases hh
  | cons event events ih =>
      rcases List.mem_cons.mp hh with rfl | hRest
      · exact List.mem_cons_self ..
      · exact List.mem_cons_of_mem _ (ih hRest)

theorem history_happenings {c : Scene κ} {events : List (Event κ)} (h : c.AllEnabled events) :
    History c (c.happenings events) (events.foldl step c) := by
  induction events generalizing c with
  | nil => exact .nil c
  | cons event events ih => exact .cons h.1 (ih h.2)

end Scene

end SteadyTask.Monitor
