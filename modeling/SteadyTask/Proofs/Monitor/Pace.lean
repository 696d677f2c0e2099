import SteadyTask.Proofs.Monitor.Lifecycle

/-!
# The pace of a sampler

A tick that is noticed late shifts those that follow, and never brings one forward: whatever
readings take and however they end, each tick comes at least one interval after the one before it,
and the first one at least one interval after the start.  So there are no more samples than
intervals between start and stop.

Where no reading takes time, every tick is noticed when it is due and leaves a sample, there are
exactly as many samples as whole intervals before the stop, unless the stop comes at the very time
of a tick.
-/

namespace SteadyTask.Monitor

namespace Sampler

variable {s : Sampler} {start now : Millis} {ticks : Nat}

/-! ## No tick comes early -/

/-- After so many ticks the next one is not due before its time, and no tick has left more than one
sample. -/
def Paced (start : Millis) (ticks : Nat) (s : Sampler) : Prop :=
  match s.phase with
  | .starting => ticks = 0 ∧ s.samples.length = 0
  | .waiting due => start + (ticks + 1) * s.interval ≤ due ∧ s.samples.length ≤ ticks
  | .readingHost next | .readingAccelerator next _ =>
    start + (ticks + 1) * s.interval ≤ next ∧ s.samples.length + 1 ≤ ticks
  | .crashed => s.samples.length = 0
  | .ended => s.samples.length ≤ ticks

theorem Paced.length_le (h : s.Paced start ticks) : s.samples.length ≤ ticks := by
  unfold Paced at h
  split at h <;> omega

theorem Paced.finish (h : s.Paced start ticks) : s.finish.Paced start ticks :=
  h.length_le

theorem Paced.begin (h : s.Paced start ticks) (hPhase : s.phase = .starting)
    (hStart : start ≤ now) : (s.begin now).Paced start ticks := by
  unfold Paced at h
  rw [hPhase] at h
  obtain ⟨rfl, hNone⟩ := h
  unfold Sampler.begin
  by_cases hKeeps : canKeep s.interval now = true
  · simp only [hKeeps, if_true, Paced]
    refine ⟨?_, Nat.le_of_eq hNone⟩
    rw [Nat.zero_add, Nat.one_mul]
    exact Nat.add_le_add_right hStart _
  · simp only [hKeeps, Paced]
    exact hNone

theorem add_le_nextDue {interval due : Millis} (hDue : due ≤ now) :
    due + interval ≤ nextDue interval due now := by
  unfold nextDue
  split
  · exact Nat.add_le_add_right hDue _
  · exact Nat.le_refl _

theorem Paced.tick (h : s.Paced start ticks) {due : Millis} (hPhase : s.phase = .waiting due)
    (hDue : due ≤ now) : (s.tick now).Paced start (ticks + 1) := by
  unfold Paced at h
  rw [hPhase] at h
  obtain ⟨hTime, hSamples⟩ := h
  have hNext : due + s.interval ≤ nextDue s.interval due now := add_le_nextDue hDue
  simp only [Sampler.tick, hPhase, if_pos hDue, Paced]
  refine ⟨?_, Nat.succ_le_succ hSamples⟩
  calc start + (ticks + 1 + 1) * s.interval
      = start + (ticks + 1) * s.interval + s.interval := by ring
    _ ≤ due + s.interval := Nat.add_le_add_right hTime _
    _ ≤ nextDue s.interval due now := hNext

/-- The tick that is due comes at its time or later. -/
theorem Paced.le_due (h : s.Paced start ticks) {due : Millis} (hPhase : s.phase = .waiting due) :
    start + (ticks + 1) * s.interval ≤ due := by
  unfold Paced at h
  rw [hPhase] at h
  exact h.1

theorem Paced.answered {mode : Mode} {thresholds : Mode.Thresholds} {g : Sensor.Group}
    {r : Reading} {s' : Sampler} (h : s.Paced start ticks)
    (hAnswered : s.Answered mode thresholds g r s') : s'.Paced start ticks := by
  have hTick {next : Millis} (hPhase : s.phase = .readingHost next ∨
      ∃ host, s.phase = .readingAccelerator next host) :
      start + (ticks + 1) * s.interval ≤ next ∧ s.samples.length + 1 ≤ ticks := by
    unfold Paced at h
    rcases hPhase with hPhase | ⟨host, hPhase⟩ <;> rwa [hPhase] at h
  have hLost {next : Millis} (hBoth : start + (ticks + 1) * s.interval ≤ next ∧
      s.samples.length + 1 ≤ ticks) : ({ s with phase := .waiting next }).Paced start ticks :=
    ⟨hBoth.1, Nat.le_of_succ_le hBoth.2⟩
  have hRecord {next : Millis} (values : Metric.Values)
      (hBoth : start + (ticks + 1) * s.interval ≤ next ∧ s.samples.length + 1 ≤ ticks) :
      (s.record next values mode thresholds).Paced start ticks :=
    ⟨hBoth.1, by simpa [record] using hBoth.2⟩
  cases hAnswered with
  | goesOn hPhase _ => exact hTick (.inl hPhase)
  | hostAlone hPhase _ => exact hRecord _ (hTick (.inl hPhase))
  | hostFault hPhase => exact hLost (hTick (.inl hPhase))
  | hostPanic hPhase => exact hLost (hTick (.inl hPhase))
  | both hPhase => exact hRecord _ (hTick (.inr ⟨_, hPhase⟩))
  | unavailable hPhase => exact hRecord _ (hTick (.inr ⟨_, hPhase⟩))
  | otherFault hPhase _ => exact hRecord _ (hTick (.inr ⟨_, hPhase⟩))
  | acceleratorPanic hPhase => exact hLost (hTick (.inr ⟨_, hPhase⟩))

end Sampler

namespace Watch

variable {w : Watch} {start interval : Millis} {ticks : Nat}

/-- No tick of the sampler has come early, and no tick has left more than one sample. -/
def InPace (start interval : Millis) (ticks : Nat) (w : Watch) : Prop :=
  match w.life with
  | .idle => True
  | .running _ s? => ∀ s, s? = some s → s.interval = interval ∧ s.Paced start ticks
  | .stopped summary => summary.sampleCount ≤ ticks

theorem inPace_running_iff {startedAt : Millis} {s : Sampler} :
    ({ w with life := .running startedAt (some s) }).InPace start interval ticks ↔
      s.interval = interval ∧ s.Paced start ticks := by
  simp [InPace]

theorem InPace.requestStop (h : w.InPace start interval ticks) :
    w.requestStop.InPace start interval ticks := by
  unfold Watch.requestStop
  unfold InPace at h
  cases hLife : w.life with
  | idle => exact Nat.zero_le _
  | running startedAt s? =>
      rw [hLife] at h
      cases s? with
      | none => exact nofun
      | some s => exact inPace_running_iff.mpr (h s rfl)
  | stopped summary =>
      rw [hLife] at h
      simpa [InPace, hLife] using h

theorem InPace.finishStop (h : w.InPace start interval ticks) {now : Millis}
    (hOver : ∀ s, w.sampler? = some s → s.isOver = true) :
    (w.finishStop now).InPace start interval ticks := by
  cases hLife : w.life with
  | idle => simp [Watch.finishStop, hLife, InPace]
  | running startedAt s? =>
      have hSettled := w.life_finishStop now hLife fun s hs =>
        hOver s (sampler?_eq_some_iff.mpr ⟨startedAt, hs ▸ hLife⟩)
      rw [InPace, hSettled]
      rw [InPace, hLife] at h
      cases s? with
      | none => exact Nat.zero_le _
      | some s => exact Nat.le_trans s.length_result_le (h s rfl).2.length_le
  | stopped summary => simpa [Watch.finishStop, hLife] using h

end Watch

variable {κ : Type} [DecidableEq κ]

/-! ## Ticks -/

/-- How much time passes. -/
def Event.duration : Event κ → Millis
  | .pass duration => duration
  | _ => 0

/-- When the sampler noticed a tick, if that is what happened. -/
def Happening.tick? (h : Happening κ) : Option Millis :=
  match h.event with
  | .tick => some h.scene.now
  | _ => none

/-- When the sampler noticed its ticks, one after another. -/
def tickTimes (past : List (Happening κ)) : List Millis :=
  past.filterMap Happening.tick?

namespace Scene

variable {c c' : Scene κ} {event : Event κ} {past : List (Happening κ)} {start interval : Millis}
  {ticks : List Millis}

/-- Time passes when it passes, and at no other event. -/
theorem now_step (hEnabled : c.Enabled event) :
    (c.step event).now = c.now + event.duration := by
  have hAsk (m : Sensor.Cache.Moment κ) (reader : κ) (r r' : Option Sensor.Group) :
      (ask m reader r r').now = m.now := by
    unfold ask
    split
    · split <;> rfl
    · rfl
  show (ask _ _ _ _).now = _
  rw [hAsk]
  cases event with
  | other e =>
      obtain ⟨hReader, -⟩ := hEnabled
      cases e with
      | pass duration => exact absurd rfl hReader
      | _ => rfl
  | finish =>
      show (c.momentAfter .finish).now = c.now
      unfold momentAfter
      cases hLeaves : c.inCache? .finish with
      | none => rfl
      | some e =>
          obtain ⟨g, -, rfl⟩ := Option.map_eq_some_iff.mp hLeaves
          rfl
  | _ => rfl

theorem le_now_step (hEnabled : c.Enabled event) : c.now ≤ (c.step event).now := by
  rw [now_step hEnabled]
  exact Nat.le_add_right ..

/-- Of a monitor that was started at a time, no tick has come early. -/
structure InPace (start interval : Millis) (ticks : List Millis) (c : Scene κ) : Prop where
  began : start ≤ c.now
  kept : ∀ k t, ticks[k]? = some t → start + (k + 1) * interval ≤ t ∧ t ≤ c.now
  watch : c.watch.InPace start interval ticks.length

omit [DecidableEq κ] in
/-- The sampler moves in pace. -/
theorem Move.inPace {s s' : Sampler} (hMove : c.Move s event s') (hStart : start ≤ c.now)
    (hInterval : s.interval = interval) (h : s.Paced start ticks.length) :
    s'.Paced start (ticks ++ (Happening.mk c event).tick?.toList).length ∧
      ∀ t, (Happening.mk c event).tick? = some t →
        start + (ticks.length + 1) * interval ≤ t ∧ t = c.now := by
  subst hInterval
  have hOther (hEvent : event ≠ .tick) : (Happening.mk c event).tick? = none := by
    cases event with
    | tick => exact absurd rfl hEvent
    | _ => rfl
  cases hMove with
  | tick hPhase hDue _ =>
      have hTick := h.tick hPhase hDue
      simp only [Sampler.tick, hPhase, if_pos hDue] at hTick
      refine ⟨by simpa [Happening.tick?] using hTick, fun t ht => ?_⟩
      obtain rfl : c.now = t := Option.some.inj ht
      exact ⟨Nat.le_trans (h.le_due hPhase) hDue, rfl⟩
  | begin hPhase =>
      rw [hOther (by rintro ⟨⟩)]
      exact ⟨by simpa using h.begin hPhase hStart, by rintro t ⟨⟩⟩
  | answer hAnswer hAnswered =>
      rw [hOther (by rintro rfl; cases hAnswer)]
      exact ⟨by simpa using h.answered hAnswered, by rintro t ⟨⟩⟩
  | finish _ =>
      rw [hOther (by rintro ⟨⟩)]
      exact ⟨by simpa using h.finish, by rintro t ⟨⟩⟩
  | rest hTick _ =>
      rw [hOther hTick]
      exact ⟨by simpa using h, by rintro t ⟨⟩⟩

omit [DecidableEq κ] in
/-- Between the start and now there was an interval for each tick. -/
theorem InPace.length_mul_le (h : c.InPace start interval ticks) :
    ticks.length * interval ≤ c.now - start := by
  cases hTicks : ticks.length with
  | zero =>
      rw [Nat.zero_mul]
      exact Nat.zero_le _
  | succ n =>
      have hLess : n < ticks.length := by omega
      obtain ⟨hTime, hNow⟩ := h.kept n _ (List.getElem?_eq_getElem hLess)
      exact Nat.le_sub_of_add_le' (Nat.le_trans hTime hNow)

theorem InPace.step (h : c.InPace start interval ticks) (hBegun : c.Begun)
    (hEnabled : c.Enabled event) :
    (c.step event).InPace start interval (ticks ++ (Happening.mk c event).tick?.toList) := by
  have hLater := le_now_step hEnabled
  -- what has happened so far stays, and without a new tick the monitor is all there is to see
  have hQuiet (hNone : (Happening.mk c event).tick? = none)
      (hWatch : (c.step event).watch.InPace start interval ticks.length) :
      (c.step event).InPace start interval (ticks ++ (Happening.mk c event).tick?.toList) := by
    rw [hNone, Option.toList_none, List.append_nil]
    exact ⟨Nat.le_trans h.began hLater,
      fun k t hTick => ⟨(h.kept k t hTick).1, Nat.le_trans (h.kept k t hTick).2 hLater⟩, hWatch⟩
  rcases event.isCall_cases with rfl | rfl | rfl | hCall
  · refine hQuiet rfl ?_
    rw [(start_of_called hBegun.called).2]
    exact h.watch
  · exact hQuiet rfl h.watch.requestStop
  · exact hQuiet rfl (h.watch.finishStop (enabled_stopped_iff.mp hEnabled).2)
  · obtain ⟨-, ⟨hNone, hSame⟩ | ⟨startedAt, s, hLife, hAfter⟩⟩ := c.step_cases_of_not_call hCall
    · refine hQuiet ?_ (hSame ▸ h.watch)
      cases event with
      | tick =>
          obtain ⟨s, due, hSampler, -⟩ := enabled_tick_iff.mp hEnabled
          cases hNone.symm.trans hSampler
      | _ => rfl
    · have hSampler : c.sampler? = some s := Watch.sampler?_eq_some_iff.mpr ⟨startedAt, hLife⟩
      have hWatch := h.watch
      rw [Watch.InPace, hLife] at hWatch
      obtain ⟨hInterval, hPaced⟩ := hWatch s rfl
      obtain ⟨hPaced', hTick⟩ :=
        (hBegun.placed.move hEnabled hCall hSampler).inPace h.began hInterval hPaced
      refine ⟨Nat.le_trans h.began hLater, ?_, ?_⟩
      · intro k t ht
        rw [List.getElem?_append] at ht
        split at ht
        · exact ⟨(h.kept k t ht).1, Nat.le_trans (h.kept k t ht).2 hLater⟩
        · next hNew =>
            obtain ⟨hIndex, hLast⟩ :
                k - ticks.length = 0 ∧ (Happening.mk c event).tick? = some t := by
              cases hTick? : (Happening.mk c event).tick? with
              | none => simp [hTick?] at ht
              | some t' => simpa [hTick?, List.getElem?_singleton] using ht
            obtain rfl : k = ticks.length := Nat.le_antisymm (Nat.le_of_sub_eq_zero hIndex)
              (Nat.le_of_not_lt hNew)
            obtain ⟨hTime, rfl⟩ := hTick t hLast
            exact ⟨hTime, hLater⟩
      · rw [hAfter, Watch.inPace_running_iff]
        exact ⟨interval_samplerAfter.trans hInterval, hPaced'⟩

theorem InPace.of_history (h : c.InPace start interval ticks) (hBegun : c.Begun)
    (hPast : History c past c') :
    c'.InPace start interval (ticks ++ tickTimes past) := by
  induction hPast generalizing ticks with
  | nil c =>
      rw [tickTimes, List.filterMap_nil, List.append_nil]
      exact h
  | @cons c c' event past hEnabled rest ih =>
      have hRest := ih (h.step hBegun hEnabled) (hBegun.step hEnabled)
      have hTimes : tickTimes (⟨c, event⟩ :: past) =
          (Happening.mk c event).tick?.toList ++ tickTimes past := by
        rw [tickTimes, List.filterMap_cons, tickTimes]
        cases (Happening.mk c event).tick? <;> rfl
      rwa [hTimes, ← List.append_assoc]

/-! ## After a stop was called -/

/-- The sampler, if there still is one, was told to end. -/
structure Ending (c : Scene κ) : Prop where
  called : c.Called
  told : ∀ s, c.sampler? = some s → s.cancelled = true

theorem ending_of_stop (h : c.Uncalled ∨ c.Called) (hEnabled : c.Enabled .stop) :
    (c.step .stop).Ending :=
  have hCalled := called_of_beginsCall h hEnabled rfl
  ⟨hCalled, hCalled.told rfl⟩

theorem Ending.step (h : c.Ending) (hEnabled : c.Enabled event) : (c.step event).Ending := by
  refine ⟨h.called.step hEnabled, ?_⟩
  rcases event.isCall_cases with rfl | rfl | rfl | hCall
  · rw [(start_of_called h.called).2]
    exact h.told
  · exact (ending_of_stop (.inr h.called) hEnabled).told
  · intro s hSampler
    have hNone : (c.step .stopped).sampler? = none :=
      Watch.sampler?_finishStop _ (enabled_stopped_iff.mp hEnabled).2
    cases hNone.symm.trans hSampler
  · intro s hSampler
    obtain ⟨-, ⟨-, hSame⟩ | ⟨startedAt, s', hLife, hAfter⟩⟩ := c.step_cases_of_not_call hCall
    · exact h.told s (by rw [← hSampler, sampler?, sampler?, hSame])
    · obtain rfl : c.samplerAfter s' event = s := by
        simpa [sampler?, hAfter, Watch.sampler?] using hSampler
      rw [cancelled_samplerAfter]
      exact h.told s' (Watch.sampler?_eq_some_iff.mpr ⟨startedAt, hLife⟩)

/-- A sampler that was told to end notices no more ticks. -/
theorem Ending.tickTimes_eq_nil (h : c.Ending) (hPast : History c past c') :
    tickTimes past = [] := by
  induction hPast with
  | nil c => rfl
  | @cons c c' event past hEnabled rest ih =>
      have hNone : (Happening.mk c event).tick? = none := by
        cases event with
        | tick =>
            obtain ⟨s, due, hSampler, -, -, hLive⟩ := enabled_tick_iff.mp hEnabled
            cases hLive.symm.trans (h.told s hSampler)
        | _ => rfl
      rw [tickTimes, List.filterMap_cons, hNone]
      exact ih (h.step hEnabled)

end Scene

/-! ## Ticks that are noticed when they are due -/

namespace Sampler

/-- The sampler has run, and a time is not later than the tick that it waits for. -/
def isInTime (s : Sampler) (time : Millis) : Bool :=
  match s.phase with
  | .starting => false
  | .waiting due => time ≤ due
  | _ => true

/-- The reading does not cost the sample of its tick. -/
def Reading.spares (r : Reading) (g : Sensor.Group) : Bool :=
  match g, r with
  | .host, .values _ => true
  | .host, _ => false
  | .accelerator, .panicked => false
  | .accelerator, _ => true

/-- Each tick was noticed when it was due, and has left its sample; no time has passed in the course
of one. -/
def OnTime (start now : Millis) (s : Sampler) : Prop :=
  match s.phase with
  | .starting => s.samples = [] ∧ now = start
  | .waiting due => due = start + (s.samples.length + 1) * s.interval ∧
    start + s.samples.length * s.interval ≤ now ∧ now ≤ due
  | .readingHost next | .readingAccelerator next _ =>
    next = start + (s.samples.length + 2) * s.interval ∧
      now = start + (s.samples.length + 1) * s.interval
  | .crashed => s.samples = [] ∧ canKeep s.interval start = false
  | .ended => False

variable {s : Sampler} {start now : Millis}

theorem OnTime.begin (h : s.OnTime start now) (hPhase : s.phase = .starting) :
    (s.begin now).OnTime start now := by
  rw [OnTime, hPhase] at h
  obtain ⟨hNone, rfl⟩ := h
  unfold Sampler.begin
  by_cases hKeeps : canKeep s.interval now = true
  · simp only [hKeeps, if_true, OnTime, hNone, List.length_nil]
    refine ⟨by rw [Nat.zero_add, Nat.one_mul], ?_, Nat.le_add_right ..⟩
    rw [Nat.zero_mul]
    exact Nat.le_refl _
  · simp only [hKeeps, OnTime]
    exact ⟨hNone, trivial⟩

theorem OnTime.tick (h : s.OnTime start now) {due : Millis} (hPhase : s.phase = .waiting due)
    (hDue : due ≤ now) :
    ({ s with phase := .readingHost (nextDue s.interval due now) }).OnTime start now := by
  rw [OnTime, hPhase] at h
  obtain ⟨hTime, -, hInTime⟩ := h
  obtain rfl : now = due := Nat.le_antisymm hInTime hDue
  refine ⟨?_, hTime⟩
  have hPrompt : ¬ now > now + lateness := Nat.not_lt.mpr (Nat.le_add_right ..)
  show nextDue s.interval now now = _
  rw [nextDue, if_neg hPrompt]
  calc now + s.interval
      _ = start + (s.samples.length + 1) * s.interval + s.interval := by rw [← hTime]
      _ = start + (s.samples.length + 2) * s.interval := by ring

theorem OnTime.pass (h : s.OnTime start now) {duration : Millis}
    (hInTime : s.isInTime (now + duration) = true) (hReading : s.reading? = none) :
    s.OnTime start (now + duration) := by
  unfold OnTime at h ⊢
  unfold isInTime at hInTime
  unfold reading? at hReading
  cases hPhase : s.phase with
  | starting =>
      rw [hPhase] at hInTime
      cases hInTime
  | waiting due =>
      rw [hPhase] at h hInTime
      exact ⟨h.1, Nat.le_trans h.2.1 (Nat.le_add_right ..), of_decide_eq_true hInTime⟩
  | readingHost next | readingAccelerator next host =>
      rw [hPhase] at hReading
      cases hReading
  | crashed | ended => rwa [hPhase] at h

theorem OnTime.answered {mode : Mode} {thresholds : Mode.Thresholds} {g : Sensor.Group}
    {r : Reading} {s' : Sampler} (h : s.OnTime start now) (hSpares : r.spares g = true)
    (hAnswered : s.Answered mode thresholds g r s') : s'.OnTime start now := by
  have hTick {next : Millis} (hPhase : s.phase = .readingHost next ∨
      ∃ host, s.phase = .readingAccelerator next host) :
      next = start + (s.samples.length + 2) * s.interval ∧
        now = start + (s.samples.length + 1) * s.interval := by
    unfold OnTime at h
    rcases hPhase with hPhase | ⟨host, hPhase⟩ <;> rwa [hPhase] at h
  have hRecord {next : Millis} (values : Metric.Values)
      (hBoth : next = start + (s.samples.length + 2) * s.interval ∧
        now = start + (s.samples.length + 1) * s.interval) :
      (s.record next values mode thresholds).OnTime start now := by
    obtain ⟨hNext, hNow⟩ := hBoth
    simp only [record, OnTime, List.length_append, List.length_singleton]
    refine ⟨hNext, Nat.le_of_eq hNow.symm, ?_⟩
    rw [hNow, hNext]
    exact Nat.add_le_add_left (Nat.mul_le_mul_right _ (Nat.le_succ _)) _
  cases hAnswered with
  | goesOn hPhase _ => exact hTick (.inl hPhase)
  | hostAlone hPhase _ => exact hRecord _ (hTick (.inl hPhase))
  | hostFault hPhase => cases hSpares
  | hostPanic hPhase => cases hSpares
  | both hPhase => exact hRecord _ (hTick (.inr ⟨_, hPhase⟩))
  | unavailable hPhase => exact hRecord _ (hTick (.inr ⟨_, hPhase⟩))
  | otherFault hPhase _ => exact hRecord _ (hTick (.inr ⟨_, hPhase⟩))
  | acceleratorPanic hPhase => cases hSpares

/-- To end does not change the samples that count. -/
theorem result_finish (h : s.canFinish = true) : s.finish.result = s.result := by
  unfold canFinish at h
  unfold result
  cases hPhase : s.phase with
  | starting | crashed | ended =>
      rw [hPhase] at h
      cases h
  | _ => rfl

/-- Unless it is the start or the time of a tick, as many samples have been taken as there were
whole intervals. -/
theorem OnTime.length_eq (h : s.OnTime start now) (hStart : start ≤ now)
    (hClock : now = start ∨ now / 1000 < Millis.clockRange)
    (hBetween : ¬ s.interval ∣ now - start) :
    s.result.length = (now - start) / s.interval ∧ s.reading? = none ∧ s.isStarting = false := by
  have hLater : now ≠ start := by
    rintro rfl
    exact hBetween (by rw [Nat.sub_self]; exact Nat.dvd_zero _)
  unfold OnTime at h
  cases hPhase : s.phase with
  | starting =>
      rw [hPhase] at h
      exact absurd h.2 hLater
  | waiting due =>
      rw [hPhase] at h
      obtain ⟨rfl, hBegun, hInTime⟩ := h
      refine ⟨?_, by rw [reading?, hPhase], by rw [isStarting, hPhase]⟩
      have hLow : s.samples.length * s.interval ≤ now - start := Nat.le_sub_of_add_le' hBegun
      have hHigh : now - start < (s.samples.length + 1) * s.interval := by
        refine Nat.lt_of_le_of_ne (Nat.sub_le_iff_le_add'.mpr hInTime) fun hSame => ?_
        exact hBetween ⟨s.samples.length + 1, by rw [hSame, Nat.mul_comm]⟩
      rw [result, hPhase]
      exact (Nat.div_eq_of_lt_le hLow hHigh).symm
  | readingHost next | readingAccelerator next host =>
      -- time stands still in the course of a tick
      rw [hPhase] at h
      have hSpan : now - start = s.interval * (s.samples.length + 1) := by
        rw [h.2, Nat.add_sub_cancel_left, Nat.mul_comm]
      exact absurd ⟨_, hSpan⟩ hBetween
  | crashed =>
      rw [hPhase] at h
      obtain ⟨-, hKeeps⟩ := h
      refine ⟨?_, by rw [reading?, hPhase], by rw [isStarting, hPhase]⟩
      rw [result, hPhase]
      rcases Nat.eq_zero_or_pos s.interval with hZero | hPos
      · rw [hZero, Nat.div_zero]
        rfl
      · -- the first tick would come when the clock can no longer count
        have hClock := hClock.resolve_left hLater
        have hFar : Millis.clockRange ≤ (start + s.interval) / 1000 := by
          simpa [canKeep, Nat.pos_iff_ne_zero.mp hPos] using hKeeps
        have hBefore : now < start + s.interval := by
          by_contra hAfter
          have hMonotone := Nat.div_le_div_right (c := 1000) (Nat.le_of_not_lt hAfter)
          exact Nat.lt_irrefl _ (Nat.lt_of_lt_of_le hClock (Nat.le_trans hFar hMonotone))
        exact (Nat.div_eq_of_lt (Nat.sub_lt_left_of_lt_add hStart hBefore)).symm
  | ended =>
      rw [hPhase] at h
      exact h.elim

end Sampler

/-- While a duration passes nobody can go on: no slot has an owner, the sampler has begun, and it
notices a tick that comes due. -/
structure Scene.Calm (c : Scene κ) (duration : Millis) : Prop where
  free : ∀ g, (c.moment.slot g).owner = none
  inTime : ∀ s, c.sampler? = some s → s.isInTime (c.now + duration) = true

/-- No reading takes time and everybody who can go on does so before time passes; what the sampler
reads does not cost it a sample. -/
def Happening.Undisturbed (h : Happening κ) : Prop :=
  match h.event with
  | .pass duration => 0 < duration → h.scene.Calm duration
  | event => ∀ answer ∈ h.scene.answer? event, answer.2.spares answer.1 = true

instance (c : Scene κ) (duration : Millis) : Decidable (c.Calm duration) :=
  decidable_of_iff ((∀ g ∈ Sensor.Group.all, (c.moment.slot g).owner = none) ∧
    c.sampler?.all (fun s => s.isInTime (c.now + duration)) = true)
    ⟨fun h => ⟨fun g => h.1 g (by cases g <;> decide), (Option.all_eq_true ..).mp h.2⟩,
      fun h => ⟨fun g _ => h.free g, (Option.all_eq_true ..).mpr h.inTime⟩⟩

instance (h : Happening κ) : Decidable h.Undisturbed :=
  match h with
  | ⟨c, .pass duration⟩ => inferInstanceAs (Decidable (0 < duration → c.Calm duration))
  | ⟨c, .other e⟩ => inferInstanceAs (Decidable (∀ answer ∈ c.answer? (.other e), _))
  | ⟨c, .enter mode⟩ => inferInstanceAs (Decidable (∀ answer ∈ c.answer? (.enter mode), _))
  | ⟨c, .start⟩ => inferInstanceAs (Decidable (∀ answer ∈ c.answer? .start, _))
  | ⟨c, .stop⟩ => inferInstanceAs (Decidable (∀ answer ∈ c.answer? .stop, _))
  | ⟨c, .stopped⟩ => inferInstanceAs (Decidable (∀ answer ∈ c.answer? .stopped, _))
  | ⟨c, .begin⟩ => inferInstanceAs (Decidable (∀ answer ∈ c.answer? .begin, _))
  | ⟨c, .tick⟩ => inferInstanceAs (Decidable (∀ answer ∈ c.answer? .tick, _))
  | ⟨c, .look g⟩ => inferInstanceAs (Decidable (∀ answer ∈ c.answer? (.look g), _))
  | ⟨c, .succeed g values⟩ =>
    inferInstanceAs (Decidable (∀ answer ∈ c.answer? (.succeed g values), _))
  | ⟨c, .fail g f⟩ => inferInstanceAs (Decidable (∀ answer ∈ c.answer? (.fail g f), _))
  | ⟨c, .panic g⟩ => inferInstanceAs (Decidable (∀ answer ∈ c.answer? (.panic g), _))
  | ⟨c, .finish⟩ => inferInstanceAs (Decidable (∀ answer ∈ c.answer? .finish, _))

omit [DecidableEq κ] in
theorem Happening.Undisturbed.spares {h : Happening κ} (hUndisturbed : h.Undisturbed)
    {g : Sensor.Group} {r : Sampler.Reading} (hAnswer : h.scene.answer? h.event = some (g, r)) :
    r.spares g = true := by
  obtain ⟨scene, event⟩ := h
  cases event with
  | pass duration => cases hAnswer
  | _ => exact hUndisturbed (g, r) hAnswer

namespace Scene

variable {c c' : Scene κ} {event : Event κ} {past : List (Happening κ)} {start interval : Millis}

omit [DecidableEq κ] in
/-- Where no slot has an owner the sampler reads nothing. -/
theorem Placed.reading?_eq_none (h : c.Placed) (hFree : ∀ g, (c.moment.slot g).owner = none)
    {s : Sampler} (hSampler : c.sampler? = some s) : s.reading? = none := by
  rw [Option.eq_none_iff_forall_ne_some]
  intro g hg
  have hMem := (h.mem_line_iff g).mpr ((Watch.reading?_of_sampler? hSampler).trans hg)
  rw [(h.orderly g).line_eq_nil_iff.mpr (hFree g)] at hMem
  exact List.not_mem_nil hMem

/-- A monitor that was started at a time has noticed each tick when it was due. -/
structure OnTime (start interval : Millis) (c : Scene κ) : Prop where
  stopping : c.stopping = false
  live : ∃ s, c.watch.life = .running start (some s) ∧ s.cancelled = false ∧
    s.interval = interval ∧ s.OnTime start c.now
  clock : c.now = start ∨ c.now / 1000 < Millis.clockRange

theorem OnTime.step (h : c.OnTime start interval) (hBegun : c.Begun) (hEnabled : c.Enabled event)
    (hStop : event ≠ .stop)
    (hUndisturbed : (Happening.mk c event).Undisturbed) : (c.step event).OnTime start interval := by
  obtain ⟨s, hLife, hLive, hInterval, hOnTime⟩ := h.live
  have hSampler : c.sampler? = some s := Watch.sampler?_eq_some_iff.mpr ⟨start, hLife⟩
  have hNow := now_step hEnabled
  rcases hBegun.step_eq_or hEnabled h.stopping hStop with hSame | hCall
  · rwa [hSame]
  · have hMove := hBegun.placed.move hEnabled hCall hSampler
    obtain ⟨hStopping, ⟨hNone, -⟩ | ⟨startedAt, s', hLife', hAfter⟩⟩ :=
      c.step_cases_of_not_call hCall
    · cases hNone.symm.trans hSampler
    obtain ⟨rfl, rfl⟩ : start = startedAt ∧ s = s' := by
      cases hLife'.symm.trans hLife
      exact ⟨rfl, rfl⟩
    have hStays (hPasses : event.duration = 0)
        (hOnTime' : (c.samplerAfter s event).OnTime start c.now) :
        (c.step event).OnTime start interval := by
      rw [hPasses, Nat.add_zero] at hNow
      refine ⟨hStopping.trans h.stopping, ⟨_, by rw [hAfter], ?_, ?_, ?_⟩, ?_⟩
      · rw [cancelled_samplerAfter, hLive]
      · rw [interval_samplerAfter, hInterval]
      · rw [hNow]
        exact hOnTime'
      · rw [hNow]
        exact h.clock
    generalize c.samplerAfter s event = s' at hMove hAfter hStays
    cases hMove with
    | begin hPhase => exact hStays rfl (hOnTime.begin hPhase)
    | tick hPhase hDue _ => exact hStays rfl (hOnTime.tick hPhase hDue)
    | answer hAnswer hAnswered =>
        refine hStays ?_ (hOnTime.answered (hUndisturbed.spares hAnswer) hAnswered)
        cases event with
        | pass duration => cases hAnswer
        | _ => rfl
    | finish hFinish =>
        cases hLive.symm.trans (Sampler.cancelled_of_canFinish hFinish)
    | rest _ _ =>
        cases event with
        | pass duration =>
            rcases Nat.eq_zero_or_pos duration with rfl | hPos
            · exact hStays rfl hOnTime
            have hCalm : c.Calm duration := hUndisturbed hPos
            refine ⟨hStopping.trans h.stopping, ⟨s, by rw [hAfter], hLive, hInterval, ?_⟩, .inr ?_⟩
            · rw [hNow]
              exact hOnTime.pass (hCalm.inTime s hSampler)
                (hBegun.placed.reading?_eq_none hCalm.free hSampler)
            · rw [hNow]
              exact hEnabled
        | _ => exact hStays rfl hOnTime

theorem OnTime.of_history (h : c.OnTime start interval) (hBegun : c.Begun)
    (hPast : History c past c') (hStop : ∀ h ∈ past, h.event ≠ .stop)
    (hUndisturbed : ∀ h ∈ past, h.Undisturbed) : c'.OnTime start interval :=
  hBegun.preserves hPast (C := fun h => h.event ≠ .stop ∧ h.Undisturbed)
    (fun h hh => ⟨hStop h hh, hUndisturbed h hh⟩)
    (fun _ _ hBegun hEnabled hThis hOnTime => hOnTime.step hBegun hEnabled hThis.1 hThis.2) h

end Scene

/-! ## A sampler that rests -/

/-- The sampler was told to end between two ticks and has so many samples, or that is what it has
left. -/
def Watch.Rests (count : Nat) (w : Watch) : Prop :=
  match w.life with
  | .running _ (some s) =>
    s.cancelled = true ∧ s.reading? = none ∧ s.isStarting = false ∧ s.result.length = count
  | .stopped summary => summary.sampleCount = count
  | _ => False

namespace Scene

variable {c c' : Scene κ} {event : Event κ} {past : List (Happening κ)} {count : Nat}
  {start interval : Millis} {ticks : List Millis}

omit [DecidableEq κ] in
/-- A sampler that was told to end between two ticks does nothing but end. -/
theorem Move.rests {s s' : Sampler} (hMove : c.Move s event s') (hTold : s.cancelled = true)
    (hReading : s.reading? = none) (hBegun : s.isStarting = false) :
    s'.cancelled = true ∧ s'.reading? = none ∧ s'.isStarting = false ∧ s'.result = s.result := by
  cases hMove with
  | begin hPhase => simp [Sampler.isStarting, hPhase] at hBegun
  | tick _ _ hLive => cases hLive.symm.trans hTold
  | answer _ hAnswered => cases hReading.symm.trans hAnswered.reading?_eq
  | finish hFinish => exact ⟨hTold, rfl, rfl, Sampler.result_finish hFinish⟩
  | rest _ _ => exact ⟨hTold, hReading, hBegun, rfl⟩

theorem rests_step (h : c.watch.Rests count) (hBegun : c.Begun) (hEnabled : c.Enabled event) :
    (c.step event).watch.Rests count := by
  cases hLife : c.watch.life with
  | idle =>
      rw [Watch.Rests, hLife] at h
      exact h.elim
  | stopped summary => rwa [watch_step_of_stopped hLife]
  | running startedAt s? =>
      rw [Watch.Rests, hLife] at h
      cases s? with
      | none => exact h.elim
      | some s =>
          obtain ⟨hTold, hReading, hNotStarting, hCount⟩ := h
          have hSampler : c.sampler? = some s := Watch.sampler?_eq_some_iff.mpr ⟨startedAt, hLife⟩
          rcases event.isCall_cases with rfl | rfl | rfl | hCall
          · rw [(start_of_called hBegun.called).2, Watch.Rests, hLife]
            exact ⟨hTold, hReading, hNotStarting, hCount⟩
          · have hStop : (c.step .stop).watch.life = .running startedAt (some s.cancel) := by
              show c.watch.requestStop.life = _
              simp [Watch.requestStop, hLife]
            rw [Watch.Rests, hStop]
            exact ⟨rfl, hReading, hNotStarting, hCount⟩
          · have hSettled := Watch.life_finishStop c.now hLife fun s' hs =>
              (enabled_stopped_iff.mp hEnabled).2 s' (hs ▸ hSampler)
            show (c.watch.finishStop c.now).Rests count
            rw [Watch.Rests, hSettled]
            exact hCount
          · have hAfter : (c.step event).watch.life =
                .running startedAt (some (c.samplerAfter s event)) := by
              show (c.watchAfter event).life = _
              rw [watchAfter_of_sampler hCall hSampler, Watch.life_withSampler hLife]
            obtain ⟨hTold', hReading', hNotStarting', hResult⟩ :=
              (hBegun.placed.move hEnabled hCall hSampler).rests hTold hReading hNotStarting
            rw [Watch.Rests, hAfter]
            exact ⟨hTold', hReading', hNotStarting', by rw [hResult, hCount]⟩

theorem rests_of_history (h : c.watch.Rests count) (hBegun : c.Begun)
    (hPast : History c past c') : c'.watch.Rests count :=
  hBegun.preserves (P := fun c => c.watch.Rests count) (C := fun _ => True) hPast
    (fun _ _ => trivial) (fun _ _ hBegun hEnabled _ hRests => rests_step hRests hBegun hEnabled) h

/-! ## The start -/

variable {trace : String} {options : Options}

theorem Fresh.inPace_start (h : c.Fresh trace options) :
    (c.step .start).InPace c.now options.interval [] := by
  refine ⟨le_now_step h.stopping, nofun, ?_⟩
  show (c.watchAfter .start).InPace _ _ _
  simp only [watchAfter, h.watch, Watch.start, Watch.make]
  intro s hs
  split at hs
  · cases hs
    exact ⟨rfl, rfl, rfl⟩
  · cases hs

theorem Fresh.onTime_start (h : c.Fresh trace options) (hEnabled : options.enabled = true) :
    (c.step .start).OnTime c.now options.interval := by
  have hNow : (c.step .start).now = c.now := now_step h.stopping
  refine ⟨h.stopping, ⟨.make options.interval, ?_, rfl, rfl, ?_⟩, .inl hNow⟩
  · show (c.watchAfter .start).life = _
    simp [watchAfter, h.watch, Watch.start, Watch.make, hEnabled]
  · rw [hNow]
    exact ⟨rfl, rfl⟩

/-! ## The summary -/

variable {summary : Metric.Summary}

/-- A stop that returns after another one was called gives a summary. -/
theorem exists_summary_of_returned {after : List (Happening κ)} {h : Happening κ}
    (hCalled : c.Called) (hStop : c.Enabled .stop)
    (hAfter : History (c.step .stop) after c') (hh : h ∈ after)
    (hStopped : h.event = .stopped) :
    ∃ later summary, History (c.step .stop) later h.after ∧
      h.after.watch.life = .stopped summary := by
  obtain ⟨first, rest, rfl⟩ := List.append_of_mem hh
  obtain ⟨hFirst, hReturns, -⟩ := hAfter.cut
  obtain ⟨scene, event⟩ := h
  subst hStopped
  obtain ⟨summary, hLife⟩ := ((hCalled.step hStop).of_history hFirst).stopped_of_returned hReturns
  refine ⟨first ++ [⟨scene, .stopped⟩], summary, ?_, hLife⟩
  exact history_append_iff.mpr ⟨_, hFirst, .cons hReturns (.nil _)⟩

/-- From a stop on there are no more ticks, so no more samples than intervals before it. -/
theorem InPace.sampleCount_mul_le (h : c.InPace start interval ticks) (hBegun : c.Begun)
    (hStop : c.Enabled .stop) (hReturn : History (c.step .stop) past c')
    (hLife : c'.watch.life = .stopped summary) :
    summary.sampleCount * interval ≤ c.now - start := by
  have hEnding := ending_of_stop (.inr hBegun.called) hStop
  have hAfter := (h.step hBegun hStop).of_history (hBegun.step hStop) hReturn
  have hCount := hAfter.watch
  rw [Watch.InPace, hLife, hEnding.tickTimes_eq_nil hReturn] at hCount
  have hCount : summary.sampleCount ≤ ticks.length := by simpa [Happening.tick?] using hCount
  exact Nat.le_trans (Nat.mul_le_mul_right _ hCount) h.length_mul_le

/-- A stop apart from the ticks finds the sampler between two of them, with a sample of each. -/
theorem OnTime.sampleCount_eq (h : c.OnTime start interval) (hBegun : c.Begun)
    (hBegan : start ≤ c.now) (hStop : c.Enabled .stop) (hApart : ¬ interval ∣ c.now - start)
    (hReturn : History (c.step .stop) past c') (hLife : c'.watch.life = .stopped summary) :
    summary.sampleCount = (c.now - start) / interval := by
  obtain ⟨s, hRunning, -, hInterval, hSampler⟩ := h.live
  rw [← hInterval] at hApart ⊢
  obtain ⟨hResult, hReading, hNotStarting⟩ := hSampler.length_eq hBegan h.clock hApart
  have hAsked : (c.step .stop).watch.life = .running start (some s.cancel) := by
    show c.watch.requestStop.life = _
    simp [Watch.requestStop, hRunning]
  have hAtStop : (c.step .stop).watch.Rests ((c.now - start) / s.interval) := by
    rw [Watch.Rests, hAsked]
    exact ⟨rfl, hReading, hNotStarting, hResult⟩
  have hRests := rests_of_history hAtStop (hBegun.step hStop) hReturn
  rwa [Watch.Rests, hLife] at hRests

end Scene

open Scene

/-- Whatever the sensors do and whenever the monitor is stopped, its k-th tick comes no earlier than
k intervals after the start, and the samples that a stop returns times the interval are no longer
than the time from start to stop.  If no reading takes time, every reading of the host succeeds, no
reading of the accelerator panics, and the stop does not come at the time of a tick, there are as
many samples as whole intervals in that time. -/
theorem sampler_never_oversamples {trace : String} {options : Options} {c c' : Scene κ}
    {past : List (Happening κ)} (hFresh : c.Fresh trace options)
    (hPast : History (c.step .start) past c') :
    (∀ k t, (tickTimes past)[k]? = some t → c.now + (k + 1) * options.interval ≤ t) ∧
      ∀ (during : List (Happening κ)) stop (after : List (Happening κ)),
        past = during ++ stop :: after → stop.event = .stop → (∀ h ∈ during, h.event ≠ .stop) →
        ∀ h ∈ after, h.event = .stopped → ∃ summary, h.after.watch.summary? = some summary ∧
          summary.sampleCount * options.interval ≤ stop.scene.now - c.now ∧
          (options.enabled = true → (∀ h ∈ during, h.Undisturbed) →
            ¬ options.interval ∣ stop.scene.now - c.now →
            summary.sampleCount = (stop.scene.now - c.now) / options.interval) := by
  have hBegun := hFresh.begun_start
  have hPace := hFresh.inPace_start
  refine ⟨fun k t hTick => ?_, ?_⟩
  · exact ((hPace.of_history hBegun hPast).kept k t hTick).1
  · rintro during ⟨scene, event⟩ after rfl rfl hFirst h hh hStopped
    obtain ⟨hDuring, hStop, hAfter⟩ := hPast.cut
    have hBegunAtStop := hBegun.of_history hDuring
    have hPaceAtStop := hPace.of_history hBegun hDuring
    obtain ⟨later, summary, hReturn, hLife⟩ :=
      exists_summary_of_returned hBegunAtStop.called hStop hAfter hh hStopped
    refine ⟨summary, by simp [Watch.summary?, hLife], ?_, fun hEnabled hUndisturbed hApart => ?_⟩
    · exact hPaceAtStop.sampleCount_mul_le hBegunAtStop hStop hReturn hLife
    · have hOnTime := (hFresh.onTime_start hEnabled).of_history hBegun hDuring hFirst hUndisturbed
      exact hOnTime.sampleCount_eq hBegunAtStop hPaceAtStop.began hStop hApart hReturn hLife

/-- Two ticks, in the first of which the accelerator turns out to be unavailable. -/
def twoTicks : List (Event Nat) :=
  [.begin, .pass 5000, .tick, .look .host, .succeed .host [], .look .accelerator,
    .fail .accelerator (.unavailable ""), .pass 5000, .tick, .look .host, .pass 2000]

theorem two_samples_in_twelve_seconds :
    let c := (lone ⟨true, 5000⟩).step .start
    let past := c.happenings (twoTicks ++ [.stop, .finish, .stopped])
    c.AllEnabled (twoTicks ++ [.stop, .finish, .stopped]) ∧
      (∀ k t, (tickTimes past)[k]? = some t → (k + 1) * 5000 ≤ t) ∧
      ∀ h ∈ past, h.event = .stopped →
        ∃ summary, h.after.watch.summary? = some summary ∧ summary.sampleCount = 2 := by
  intro c past
  have hEnabled : c.AllEnabled (twoTicks ++ [.stop, .finish, .stopped]) := by decide
  obtain ⟨hTicks, hCount⟩ :=
    sampler_never_oversamples (fresh_lone ⟨true, 5000⟩) (history_happenings hEnabled)
  refine ⟨hEnabled, ?_, ?_⟩
  · intro k t hTick
    have hTime := hTicks k t hTick
    rwa [show (lone ⟨true, 5000⟩).now = 0 from rfl, Nat.zero_add] at hTime
  · intro h hh hStopped
    -- the stop comes after two ticks, and nothing disturbs them
    have hSplit : past = c.happenings twoTicks ++ (twoTicks.foldl step c).happenings
        [.stop, .finish, .stopped] := happenings_append ..
    have hNot (event : Event Nat) (hEvent : event ∉ twoTicks) :
        ∀ h ∈ c.happenings twoTicks, h.event ≠ event := by
      rintro h hh rfl
      exact hEvent (event_mem_of_mem_happenings hh)
    have hLast : h ∈ ((twoTicks.foldl step c).step .stop).happenings [.finish, .stopped] := by
      rw [hSplit] at hh
      rcases List.mem_append.mp hh with hDuring | hAfter
      · exact absurd hStopped (hNot .stopped (by simp [twoTicks]) h hDuring)
      · rcases List.mem_cons.mp hAfter with rfl | hLast
        · cases hStopped
        · exact hLast
    obtain ⟨summary, hSummary, -, hExact⟩ := hCount _ _ _ hSplit rfl
      (hNot .stop (by simp [twoTicks])) h hLast hStopped
    exact ⟨summary, hSummary, (hExact rfl (by decide) (by decide)).trans (by decide)⟩

end SteadyTask.Monitor
