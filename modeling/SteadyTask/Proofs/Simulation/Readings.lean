import SteadyTask.Proofs.Sensor.Lines
import SteadyTask.Proofs.Simulation.Background

/-!
# Readings in the simulated world

What a party of the world does to the cache is a history of the cache: when it begins a reading,
takes it as far as it goes, gives it up, or makes the cache forget a group.  All events of the
history are its own, a reading that it gets is one that the history gives, and with its reading over
it stands in the line of the group no more.  That the clock moves is a history too.

Which party acts when is left to the world, and so is whether a party that begins a reading has none
going.
-/

namespace SteadyTask.Simulation.World

open Sensor Sensor.Cache

/-- The cache of a world, at the time of the world. -/
def moment (w : World) : Moment Party :=
  ⟨w.cache, w.now⟩

section Moments

variable {w : World} {p : Party} {g : Group}

theorem cache_wake : (w.wake p).cache = w.cache := by
  unfold wake
  split
  · rfl
  · split <;> rfl

theorem now_wake : (w.wake p).now = w.now := by
  unfold wake
  split
  · rfl
  · split <;> rfl

@[simp]
theorem moment_wake : (w.wake p).moment = w.moment := by
  rw [moment, moment, cache_wake, now_wake]

@[simp]
theorem moment_setTimer {time : Millis} : (w.setTimer p time).moment = w.moment := rfl

@[simp]
theorem moment_handOn {cache : Cache Party} : (w.handOn g cache).moment = ⟨cache, w.now⟩ := by
  unfold handOn wakeOwner
  split
  · rw [moment_wake]
    rfl
  · rfl

end Moments

/-- A reading that polls has the slot for it. -/
def Fits (m : Moment Party) (p : Party) (r : PendingRead) : Prop :=
  ∀ ends late, r.phase = .polling ends late → (m.slot r.group).isPolling p = true

/-! ## Readings, event by event -/

/-- How the reading of a group by a party goes on, and its outcome if it is over then. -/
inductive Proceeds (p : Party) (g : Group) :
    Moment Party → Moment Party → Option ReadOutcome → Prop
  | waits (m : Moment Party) : Proceeds p g m m none
  | hit {m : Moment Party} {values : Metric.Values} (hEnabled : m.Enabled (.look p g))
      (hFound : (m.cache.look g p m.now).2 = .hit values) :
      Proceeds p g m (m.step (.look p g)) (some (.value values))
  | miss {m m' : Moment Party} {outcome? : Option ReadOutcome} (hEnabled : m.Enabled (.look p g))
      (hFound : (m.cache.look g p m.now).2 = .miss)
      (rest : Proceeds p g (m.step (.look p g)) m' outcome?) : Proceeds p g m m' outcome?
  | succeeds {m : Moment Party} (values : Metric.Values) (hEnabled : m.Enabled (.fail p g)) :
      Proceeds p g m (m.step (.succeed p g values)) (some (.value values))
  | fails {m : Moment Party} (f : Fault) (hEnabled : m.Enabled (.fail p g)) :
      Proceeds p g m (m.step (.fail p g)) (some (.error f))
  | panics {m : Moment Party} (panic : Panic) (hEnabled : m.Enabled (.fail p g)) :
      Proceeds p g m (m.step (.leave p g)) (some (.panicked panic))
  | givesUp (m : Moment Party) : Proceeds p g m (m.step (.leave p g)) (some .overdue)

/-- A reading that goes on as it should: one that is not over can go on later, and without a
deadline it is not given up. -/
structure Progresses (p : Party) (r : PendingRead) (m : Moment Party)
    (after : World × (ReadOutcome ⊕ PendingRead)) : Prop where
  proceeds : Proceeds p r.group m after.1.moment after.2.getLeft?
  pending : ∀ r', after.2 = .inr r' →
    r'.group = r.group ∧ r'.deadline = r.deadline ∧ Fits after.1.moment p r'
  unlimited : r.deadline = none → after.2.getLeft? ≠ some .overdue

section Readings

variable {w : World} {p : Party} {r : PendingRead}

theorem progresses_of_over {m : Moment Party} {after : World} {outcome : ReadOutcome}
    (h : Proceeds p r.group m after.moment (some outcome))
    (hUnlimited : r.deadline = none → outcome ≠ .overdue) :
    Progresses p r m (after, .inl outcome) := by
  refine ⟨h, ?_, fun hDeadline hSame => hUnlimited hDeadline (Option.some.inj hSame)⟩
  rintro r' ⟨⟩

theorem progresses_of_waiting {after : World} {r' : PendingRead} (hAfter : after.moment = w.moment)
    (hGroup : r'.group = r.group) (hDeadline : r'.deadline = r.deadline) (h : Fits w.moment p r') :
    Progresses p r w.moment (after, .inr r') := by
  refine ⟨?_, ?_, fun _ => by rintro ⟨⟩⟩
  · show Proceeds p r.group w.moment after.moment none
    rw [hAfter]
    exact .waits _
  · rintro _ ⟨⟩
    refine ⟨hGroup, hDeadline, ?_⟩
    show Fits after.moment p r'
    rwa [hAfter]

/-- A reading that cannot go on is given up, or waits. -/
theorem progresses_waitOrGiveUp {r' : PendingRead} (hGroup : r'.group = r.group)
    (hDeadline : r'.deadline = r.deadline) (h : Fits w.moment p r') :
    Progresses p r w.moment (w.waitOrGiveUp p r') := by
  by_cases hOverdue : (r'.deadline.any fun deadline => deadline ≤ w.now) = true
  · rw [waitOrGiveUp, if_pos hOverdue]
    refine progresses_of_over ?_ fun hNone => ?_
    · rw [moment_handOn, ← hGroup]
      exact .givesUp w.moment
    · rw [hDeadline, hNone] at hOverdue
      cases hOverdue
  · rw [waitOrGiveUp, if_neg hOverdue]
    dsimp only
    generalize (_ : List Millis).min? = time?
    cases time? with
    | some time => exact progresses_of_waiting moment_setTimer hGroup hDeadline h
    | none => exact progresses_of_waiting rfl hGroup hDeadline h

/-- A poll comes to its end, or goes on. -/
theorem progresses_settlePoll {ends : Millis} {late : Bool}
    (hPolling : (w.moment.slot r.group).isPolling p = true) :
    Progresses p r w.moment (w.settlePoll p r ends late) := by
  unfold settlePoll
  split
  · have hFits : Fits w.moment p { r with phase := .polling ends late } := fun _ _ _ => hPolling
    exact progresses_waitOrGiveUp rfl rfl hFits
  · split
    · refine progresses_of_over ?_ fun _ => by rintro ⟨⟩
      rw [moment_handOn]
      exact .fails _ hPolling
    · cases hAnswer : w.source.answer r.group with
      | values v =>
          simp only [hAnswer]
          refine progresses_of_over ?_ fun _ => by rintro ⟨⟩
          rw [moment_handOn]
          exact .succeeds v hPolling
      | fault f =>
          simp only [hAnswer]
          refine progresses_of_over ?_ fun _ => by rintro ⟨⟩
          rw [moment_handOn]
          exact .fails f hPolling
      | panic text =>
          simp only [hAnswer]
          refine progresses_of_over ?_ fun _ => by rintro ⟨⟩
          rw [moment_handOn]
          exact .panics _ hPolling

/-- A reading that has found nothing fresh goes on from there. -/
theorem progresses_of_miss {m : Moment Party} {polled : World}
    {after : World × (ReadOutcome ⊕ PendingRead)} (hEnabled : m.Enabled (.look p r.group))
    (hFound : (m.cache.look r.group p m.now).2 = .miss)
    (hPolled : polled.moment = m.step (.look p r.group)) (h : Progresses p r polled.moment after) :
    Progresses p r m after :=
  ⟨.miss hEnabled hFound (hPolled ▸ h.proceeds), h.pending, h.unlimited⟩

/-- A reading is taken as far as it goes. -/
theorem progresses_advanceRead (h : Fits w.moment p r) :
    Progresses p r w.moment (w.advanceRead p r) := by
  unfold advanceRead
  cases hPhase : r.phase with
  | polling ends late => exact progresses_settlePoll (w := w.clearTimer p) (h ends late hPhase)
  | queued =>
      dsimp only
      split
      · next hGranted =>
          cases hLook : (w.clearTimer p).cache.look r.group p (w.clearTimer p).now with
          | mk cache found =>
              have hStep : w.moment.step (.look p r.group) = ⟨cache, w.now⟩ :=
                congrArg (fun looked => (⟨looked.1, w.now⟩ : Moment Party)) hLook
              have hFound : (w.moment.cache.look r.group p w.moment.now).2 = found :=
                congrArg Prod.snd hLook
              cases found with
              | hit values =>
                  dsimp only
                  refine progresses_of_over ?_ fun _ => by rintro ⟨⟩
                  rw [moment_handOn]
                  exact hStep ▸ .hit hGranted hFound
              | miss =>
                  dsimp only
                  have hPoller : (Happening.mk w.moment (.look p r.group)).poller? r.group =
                      some p := by
                    simp [Happening.poller?, hFound]
                  have hOwner := owner_of_poller? hPoller
                  rw [hStep] at hOwner
                  refine progresses_of_miss hGranted hFound ?_ (progresses_settlePoll ?_)
                  · exact hStep.symm
                  · exact Slot.isPolling_iff.mpr hOwner
      · exact progresses_waitOrGiveUp (w := w.clearTimer p) rfl rfl h

end Readings

/-! ## Readings as histories -/

section Histories

variable {p : Party} {g : Group} {m m' : Moment Party} {outcome? : Option ReadOutcome}

/-- A reading is a history of events of its party, and what it gets is given by the history. -/
theorem Proceeds.exists_history (h : Proceeds p g m m' outcome?) :
    ∃ past, History m past m' ∧ (∀ e ∈ past, e.event.reader? = some p) ∧
      ∀ values, outcome? = some (.value values) → ∃ e ∈ past, e.reading? g = some values := by
  -- one event, after which the reading is over
  have hSingle {m : Moment Party} {outcome : ReadOutcome} (event : Event Party)
      (hReader : event.reader? = some p) (hEnabled : m.Enabled event)
      (hReading : ∀ values, outcome = .value values →
        (Happening.mk m event).reading? g = some values) :
      ∃ past, History m past (m.step event) ∧ (∀ e ∈ past, e.event.reader? = some p) ∧
        ∀ values, some outcome = some (.value values) → ∃ e ∈ past, e.reading? g = some values := by
    refine ⟨[⟨m, event⟩], .cons hEnabled (.nil _), by simpa using hReader, ?_⟩
    intro values hValues
    exact ⟨_, List.mem_singleton_self _, hReading values (Option.some.inj hValues)⟩
  induction h with
  | waits m => exact ⟨[], .nil m, by simp, by rintro _ ⟨⟩⟩
  | @hit m values hEnabled hFound =>
      refine hSingle (.look p g) rfl hEnabled ?_
      rintro _ ⟨⟩
      simp [Happening.reading?, hFound]
  | @miss m _ _ hEnabled _ _ ih =>
      obtain ⟨past, hPast, hOwn, hReading⟩ := ih
      refine ⟨⟨m, .look p g⟩ :: past, .cons hEnabled hPast, ?_, ?_⟩
      · exact List.forall_mem_cons.mpr ⟨rfl, hOwn⟩
      · intro values hValues
        obtain ⟨e, he, hGiven⟩ := hReading values hValues
        exact ⟨e, List.mem_cons_of_mem _ he, hGiven⟩
  | succeeds values hEnabled =>
      refine hSingle (.succeed p g values) rfl hEnabled ?_
      rintro _ ⟨⟩
      exact reading?_eq_some_iff.mpr (.inr ⟨p, rfl⟩)
  | fails f hEnabled => exact hSingle (.fail p g) rfl hEnabled (by rintro _ ⟨⟩)
  | panics _ _ => exact hSingle (.leave p g) rfl trivial (by rintro _ ⟨⟩)
  | givesUp m => exact hSingle (.leave p g) rfl trivial (by rintro _ ⟨⟩)

/-- What every event of a party about a group keeps is kept by its readings of the group. -/
theorem Proceeds.preserves {P : Moment Party → Prop} (h : Proceeds p g m m' outcome?)
    (hStep : ∀ m e, e.reader? = some p → e.group? = some g → m.Enabled e → P m → P (m.step e))
    (hStart : P m) : P m' := by
  induction h with
  | waits m => exact hStart
  | hit hEnabled _ => exact hStep _ (.look p g) rfl rfl hEnabled hStart
  | miss hEnabled _ _ ih => exact ih (hStep _ (.look p g) rfl rfl hEnabled hStart)
  | succeeds values hEnabled => exact hStep _ (.succeed p g values) rfl rfl hEnabled hStart
  | fails f hEnabled => exact hStep _ (.fail p g) rfl rfl hEnabled hStart
  | panics _ _ | givesUp _ => exact hStep _ (.leave p g) rfl rfl trivial hStart

/-- A reading leaves the lines in order. -/
theorem Proceeds.orderly (h : Proceeds p g m m' outcome?) (hOrderly : m.Orderly) : m'.Orderly :=
  h.preserves (fun _ _ _ _ hEnabled hBefore => orderly_step hBefore hEnabled) hOrderly

/-- A reading does nothing to the other group. -/
theorem Proceeds.slot_of_ne (h : Proceeds p g m m' outcome?) {g' : Group} (hOther : g ≠ g') :
    m'.slot g' = m.slot g' := by
  refine h.preserves (P := fun m' => m'.slot g' = m.slot g') ?_ rfl
  intro m₁ e _ hGroup _ hBefore
  rw [step_slot_of_ne, hBefore]
  rw [hGroup]
  exact fun hSame => hOther (Option.some.inj hSame)

/-- A reading does not disturb the poll of anybody else. -/
theorem Proceeds.isPolling (h : Proceeds p g m m' outcome?) {q : Party} (hOther : p ≠ q)
    {g' : Group} (hPolling : (m.slot g').isPolling q = true) :
    (m'.slot g').isPolling q = true := by
  refine h.preserves (P := fun m => (m.slot g').isPolling q = true) ?_ hPolling
  intro m₁ e hReader _ hEnabled hBefore
  refine isPolling_step_of_ne hEnabled ?_ hBefore
  rw [hReader]
  exact fun hSame => hOther (Option.some.inj hSame)

/-- With its reading of a group over, a party does not stand in the group's line. -/
theorem Proceeds.not_mem_line (h : Proceeds p g m m' outcome?) (hOrderly : m.Orderly)
    (hOver : outcome?.isSome = true) : p ∉ (m'.slot g).line := by
  induction h with
  | waits m => cases hOver
  | @hit m values hEnabled hFound =>
      obtain ⟨e, hEntry, hAge, rfl⟩ : ∃ e, (m.slot g).entry = some e ∧
          m.now - e.storedAt < m.cache.ttl ∧ e.values = values := by
        rw [← Slot.fresh?_eq_some_iff]
        rw [look_snd] at hFound
        revert hFound
        cases (m.slot g).fresh? m.cache.ttl m.now <;> simp
      have hFresh := Slot.fresh?_eq_some_iff.mpr ⟨e, hEntry, hAge, rfl⟩
      rw [step_slot rfl, slotAfter, hFresh]
      simp only [Slot.line_release]
      exact (hOrderly g).not_mem_waiting (Slot.isGranted_iff.mp hEnabled)
  | miss hEnabled _ _ ih => exact ih (orderly_step hOrderly hEnabled) hOver
  | succeeds values hEnabled | fails f hEnabled =>
      rw [step_slot rfl, slotAfter, Slot.line_release]
      exact (hOrderly g).not_mem_waiting (Slot.isPolling_iff.mp hEnabled)
  | panics _ _ | givesUp m =>
      rw [step_slot rfl, slotAfter, (hOrderly g).line_leave]
      exact fun hMem => by simp at hMem

end Histories

/-! ## What readings leave alone -/

section Spared

variable {w : World}

theorem reads_wake (p : Party) : (w.wake p).reads = w.reads := by
  unfold wake
  split
  · rfl
  · split <;> rfl

/-- Whatever else has changed, all timers are still ahead. -/
def KeepsAhead (w w' : World) : Prop :=
  (∀ timer ∈ w.timers, w.now < timer.2) → ∀ timer ∈ w'.timers, w'.now < timer.2

/-- The time, the mode, the monitors and the reflections stay as they are, and so does what samplers
and readers have going. -/
structure Spares (w w' : World) : Prop where
  now : w'.now = w.now
  controller : w'.controller = w.controller
  monitors : w'.monitors = w.monitors
  reads : w'.reads = w.reads
  readers : w'.readers = w.readers
  reflections : w'.reflections = w.reflections
  ahead : KeepsAhead w w'

theorem Spares.trans {w' w'' : World} (h : Spares w w') (h' : Spares w' w'') : Spares w w'' where
  now := h'.now.trans h.now
  controller := h'.controller.trans h.controller
  monitors := h'.monitors.trans h.monitors
  reads := h'.reads.trans h.reads
  readers := h'.readers.trans h.readers
  reflections := h'.reflections.trans h.reflections
  ahead hAhead := h'.ahead (h.ahead hAhead)

/-- Sensors and cache may change. -/
theorem spares_of_sensors (w : World) (source : Sensor.Source) (cache : Sensor.Cache Party) :
    Spares w { w with source := source, cache := cache } :=
  ⟨rfl, rfl, rfl, rfl, rfl, rfl, id⟩

theorem spares_clearTimer (w : World) (p : Party) : Spares w (w.clearTimer p) :=
  ⟨rfl, rfl, rfl, rfl, rfl, rfl, fun hAhead timer hTimer =>
    hAhead timer (List.mem_filter.mp hTimer).1⟩

theorem spares_setTimer (p : Party) {time : Millis} (hTime : w.now < time) :
    Spares w (w.setTimer p time) :=
  ⟨rfl, rfl, rfl, rfl, rfl, rfl, ahead_setTimer hTime⟩

theorem spares_handOn (w : World) (g : Group) (cache : Sensor.Cache Party) :
    Spares w (w.handOn g cache) := by
  have hBehind := behind_handOn (w := w) g cache
  refine ⟨hBehind.now, hBehind.controller, monitors_handOn g cache, ?_, hBehind.readers,
    hBehind.reflections, ?_⟩
  · unfold handOn wakeOwner
    split
    · exact reads_wake _
    · rfl
  · rw [KeepsAhead, hBehind.now]
    exact hBehind.ahead

/-- Whoever waits does so for a time that is still to come. -/
theorem spares_waitOrGiveUp (p : Party) {r : PendingRead}
    (hEnds : ∀ ends late, r.phase = .polling ends late → w.now < ends) :
    Spares w (w.waitOrGiveUp p r).1 := by
  unfold waitOrGiveUp
  dsimp only
  split
  · exact spares_handOn ..
  · next hInTime =>
      split
      · next time hTime =>
          refine spares_setTimer p ?_
          rcases List.mem_append.mp (List.min?_mem hTime) with hMem | hMem
          · cases hPhase : r.phase with
            | queued => simp [hPhase] at hMem
            | polling ends late =>
                obtain rfl : time = ends := by simpa [hPhase] using hMem
                exact hEnds _ _ hPhase
          · rw [Option.mem_toList.mp hMem] at hInTime
            simpa using hInTime
      · exact ⟨rfl, rfl, rfl, rfl, rfl, rfl, id⟩

theorem spares_settlePoll (w : World) (p : Party) (r : PendingRead) (ends : Millis) (late : Bool) :
    Spares w (w.settlePoll p r ends late).1 := by
  unfold settlePoll
  dsimp only
  split
  · next hEarly =>
      refine spares_waitOrGiveUp p ?_
      rintro _ _ ⟨⟩
      exact hEarly
  · split
    · exact spares_handOn ..
    · split <;> exact spares_handOn ..

theorem spares_advanceRead (w : World) (p : Party) (r : PendingRead) :
    Spares w (w.advanceRead p r).1 := by
  refine (spares_clearTimer w p).trans ?_
  unfold advanceRead
  dsimp only
  split
  · exact spares_settlePoll ..
  · next hPhase =>
      split
      · split
        · exact spares_handOn ..
        · exact (spares_of_sensors _ _ _).trans (spares_settlePoll _ p r _ _)
      · refine spares_waitOrGiveUp p ?_
        rw [hPhase]
        rintro _ _ ⟨⟩

theorem spares_beginRead (w : World) (p : Party) (g : Group) (deadline : Option Millis) :
    Spares w (w.beginRead p g deadline).1 :=
  (spares_of_sensors w w.source _).trans (spares_advanceRead _ p ⟨g, .queued, deadline⟩)

end Spared

/-! ## Other moves -/

section Moves

variable {w : World} {p : Party} {g : Group}

/-- A party makes the cache forget a group when it is its turn, and waits until then. -/
theorem forgetOrWait_cases {α : Type} (next : Activity α) :
    w.moment.Enabled (.drop p g) ∧ Spares w (w.forgetOrWait p g next).1 ∧
        (w.forgetOrWait p g next).1.moment = w.moment.step (.drop p g) ∧
        (w.forgetOrWait p g next).2 = .ready next ∨
      w.forgetOrWait p g next = (w, .forgetting g next) := by
  unfold forgetOrWait
  split
  · next hGranted => exact .inl ⟨hGranted, spares_handOn .., moment_handOn, rfl⟩
  · exact .inr rfl

theorem moment_setSamplerRead {m : Nat} {r : Option PendingRead} :
    (w.setSamplerRead m r).moment = w.moment := rfl

theorem samplerRead?_setSamplerRead {m : Nat} (r? : Option PendingRead) :
    (w.setSamplerRead m r?).samplerRead? m = r? := by
  have hOthers : (w.reads.filter fun read => read.1 ≠ m).lookup m = none := by
    rw [List.lookup_eq_none_iff]
    intro read hRead
    have hne : read.1 ≠ m := by simpa using (List.mem_filter.mp hRead).2
    simpa using hne.symm
  unfold samplerRead? setSamplerRead
  cases r? with
  | none => exact hOthers
  | some r => simp

/-- What one sampler has going is no concern of another. -/
theorem samplerRead?_setSamplerRead_of_ne {m m' : Nat} (hOther : m' ≠ m)
    (r? : Option PendingRead) :
    (w.setSamplerRead m r?).samplerRead? m' = w.samplerRead? m' := by
  have hOthers (reads : List (Nat × PendingRead)) :
      (reads.filter fun read => read.1 ≠ m).lookup m' = reads.lookup m' := by
    induction reads with
    | nil => rfl
    | cons read reads ih =>
        by_cases hRead : read.1 = m
        · have hSkip : (m' == read.1) = false := by simpa [hRead] using hOther
          rw [List.filter_cons_of_neg (by simpa using hRead), ih, List.lookup_cons, hSkip]
        · rw [List.filter_cons_of_pos (by simpa using hRead), List.lookup_cons, ih,
            List.lookup_cons]
  have hSkip : (m' == m) = false := by simpa using hOther
  unfold samplerRead? setSamplerRead
  cases r? with
  | none => exact hOthers w.reads
  | some r =>
      show List.lookup m' ((m, r) :: w.reads.filter _) = _
      rw [List.lookup_cons, hSkip]
      exact hOthers w.reads

/-- The clock moves forward. -/
theorem history_pass {m : Moment Party} {time : Millis} (h : m.now ≤ time) :
    History m [⟨m, .pass (time - m.now)⟩] ⟨m.cache, time⟩ := by
  have hTime : m.step (.pass (time - m.now)) = ⟨m.cache, time⟩ :=
    congrArg (Moment.mk m.cache) (Nat.add_sub_cancel' h)
  rw [← hTime]
  exact .cons trivial (.nil _)

end Moves

end SteadyTask.Simulation.World
