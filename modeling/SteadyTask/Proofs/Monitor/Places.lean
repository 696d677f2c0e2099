import SteadyTask.Proofs.Monitor.Histories

/-!
# Where a sampler stands

In every history of a monitor its sampler stands in the line of a group exactly while it reads that
group.  So what is answered is what it reads, and a sampler that is over stands nowhere.
-/

namespace SteadyTask.Monitor

open Sensor (Group Slot)

variable {κ : Type} [DecidableEq κ]

namespace Scene

variable {c : Scene κ} {event : Event κ} {g : Group} {r : Sampler.Reading}

/-- The sampler stands in the line of a group exactly while it reads that group. -/
structure Placed (c : Scene κ) : Prop where
  orderly : c.moment.Orderly
  mem_line_iff : ∀ g, c.reader ∈ (c.moment.slot g).line ↔ c.watch.reading? = some g

namespace Placed

/-- What is answered is what the sampler reads. -/
theorem reading?_of_answer? (h : c.Placed) (hEnabled : c.Enabled event)
    (hAnswer : c.answer? event = some (g, r)) :
    ∃ s, c.sampler? = some s ∧ s.reading? = some g := by
  obtain ⟨t, hOwner⟩ := owner_of_answer? hEnabled hAnswer
  have hMem : c.reader ∈ (c.moment.slot g).line := by
    rw [Slot.line_of_owner hOwner]
    exact List.mem_cons_self ..
  exact Option.bind_eq_some_iff.mp ((h.mem_line_iff g).mp hMem)

theorem enabled_inCache (hEnabled : c.Enabled event) {e : Sensor.Cache.Event κ}
    (h : c.inCache? event = some e) : c.moment.Enabled e := by
  cases event with
  | other e' =>
      cases h
      exact hEnabled.2.2
  | finish =>
      obtain ⟨g, -, rfl⟩ := Option.map_eq_some_iff.mp h
      exact trivial
  | pass | panic =>
      cases h
      exact trivial
  | look | succeed | fail =>
      cases h
      exact hEnabled
  | _ => cases h

theorem orderly_momentAfter (h : c.Placed) (hEnabled : c.Enabled event) :
    (c.momentAfter event).Orderly := by
  unfold momentAfter
  split
  · next e hCache => exact Sensor.Cache.orderly_step h.orderly (enabled_inCache hEnabled hCache)
  · exact h.orderly

/-- Whoever leaves the line of the group that he reads is in no line. -/
theorem not_mem_line_of_left (h : c.Placed) {e : Sensor.Cache.Event κ}
    (hReading : c.watch.reading? = some g) (hGroup : e.group? = some g)
    (hLeft : c.reader ∉ ((c.moment.step e).slot g).line) (g' : Group) :
    c.reader ∉ ((c.moment.step e).slot g').line := by
  by_cases hSame : g' = g
  · rw [hSame]
    exact hLeft
  · have hOther : e.group? ≠ some g' := by
      rw [hGroup]
      rintro ⟨⟩
      exact hSame rfl
    rw [Sensor.Cache.step_slot_of_ne hOther, h.mem_line_iff, hReading]
    rintro ⟨⟩
    exact hSame rfl

/-- When a reading ends the sampler leaves the line. -/
theorem not_mem_line_of_answer? (h : c.Placed) (hEnabled : c.Enabled event)
    (hAnswer : c.answer? event = some (g, r)) (g' : Group) :
    c.reader ∉ ((c.momentAfter event).slot g').line := by
  obtain ⟨s, hSampler, hReading⟩ := h.reading?_of_answer? hEnabled hAnswer
  have hReads : c.watch.reading? = some g := by
    rw [Watch.reading?_of_sampler? hSampler, hReading]
  obtain ⟨t, hOwner⟩ := owner_of_answer? hEnabled hAnswer
  have hWaiting := (h.orderly g).not_mem_waiting hOwner
  cases event with
  | look g₀ =>
      simp only [answer?, Sensor.Cache.look_snd] at hAnswer
      cases hFresh : (c.moment.slot g₀).fresh? c.moment.cache.ttl c.now with
      | none =>
          rw [hFresh] at hAnswer
          cases hAnswer
      | some values =>
          rw [hFresh] at hAnswer
          cases hAnswer
          refine h.not_mem_line_of_left hReads rfl ?_ g'
          rw [Sensor.Cache.step_slot rfl, Sensor.Cache.slotAfter, hFresh, Slot.line_release]
          exact hWaiting
  | succeed g₀ values =>
      cases hAnswer
      refine h.not_mem_line_of_left hReads rfl ?_ g'
      rw [Sensor.Cache.step_slot rfl, Sensor.Cache.slotAfter, Slot.line_release]
      exact hWaiting
  | fail g₀ f =>
      cases hAnswer
      refine h.not_mem_line_of_left hReads rfl ?_ g'
      rw [Sensor.Cache.step_slot rfl, Sensor.Cache.slotAfter, Slot.line_release]
      exact hWaiting
  | panic g₀ =>
      cases hAnswer
      refine h.not_mem_line_of_left hReads rfl ?_ g'
      rw [Sensor.Cache.step_slot rfl, Sensor.Cache.slotAfter, (h.orderly g).line_leave]
      simp
  | _ => cases hAnswer

/-- The sampler stays in the line of the group that it goes on reading, and leaves it otherwise. -/
theorem mem_line_momentAfter_iff (h : c.Placed) (hEnabled : c.Enabled event) (g : Group) :
    c.reader ∈ ((c.momentAfter event).slot g).line ↔ c.keeps event = some g := by
  cases hAnswer : c.answer? event with
  | some answer =>
      obtain ⟨g', r⟩ := answer
      rw [keeps_of_answer? hAnswer]
      exact iff_of_false (h.not_mem_line_of_answer? hEnabled hAnswer g) (by rintro ⟨⟩)
  | none =>
      cases event with
      | pass duration => exact h.mem_line_iff g
      | other e =>
          show c.reader ∈ ((c.moment.step e).slot g).line ↔ _
          rw [Sensor.Cache.mem_line_step_of_ne h.orderly hEnabled.2.2 hEnabled.2.1]
          exact h.mem_line_iff g
      | look g' =>
          -- nothing fresh was found, so the sampler polls and stays where it is
          have hFresh : (c.moment.slot g').fresh? c.moment.cache.ttl c.now = none := by
            simp only [answer?, Sensor.Cache.look_snd] at hAnswer
            cases hFresh : (c.moment.slot g').fresh? c.moment.cache.ttl c.now with
            | none => rfl
            | some values =>
                rw [hFresh] at hAnswer
                cases hAnswer
          have hKeeps : c.keeps (.look g') = c.watch.reading? := by simp [keeps, hAnswer]
          rw [hKeeps, ← h.mem_line_iff g]
          show c.reader ∈ ((c.moment.step (.look c.reader g')).slot g).line ↔ _
          by_cases hSame : g' = g
          · subst hSame
            have hOwner := Slot.isGranted_iff.mp hEnabled
            rw [Sensor.Cache.step_slot rfl, Sensor.Cache.slotAfter, hFresh,
              Slot.line_of_owner hOwner]
            exact Iff.rfl
          · rw [Sensor.Cache.step_slot_of_ne]
            rintro ⟨⟩
            exact hSame rfl
      | finish =>
          refine iff_of_false ?_ (by rintro ⟨⟩)
          show c.reader ∉ ((c.momentAfter .finish).slot g).line
          cases hReading : c.watch.reading? with
          | none =>
              simp only [momentAfter, inCache?, hReading, Option.map_none]
              rw [h.mem_line_iff, hReading]
              rintro ⟨⟩
          | some g' =>
              simp only [momentAfter, inCache?, hReading, Option.map_some]
              refine h.not_mem_line_of_left hReading rfl ?_ g
              rw [Sensor.Cache.step_slot rfl, Sensor.Cache.slotAfter, (h.orderly g').line_leave]
              simp
      | succeed | fail | panic => cases hAnswer
      | _ => exact h.mem_line_iff g

/-- The sampler goes on with what it reads, or has something else to read than before. -/
theorem reading?_watchAfter_cases (h : c.Placed) (hEnabled : c.Enabled event) :
    (c.watchAfter event).reading? = c.keeps event ∨
      c.keeps event = none ∧
        ∃ g, (c.watchAfter event).reading? = some g ∧ c.watch.reading? ≠ some g := by
  cases hAnswer : c.answer? event with
  | some answer =>
      obtain ⟨g, r⟩ := answer
      obtain ⟨s, hSampler, hReading⟩ := h.reading?_of_answer? hEnabled hAnswer
      rw [keeps_of_answer? hAnswer, reading?_watchAfter (isCall_of_answer? hAnswer) hSampler,
        samplerAfter_of_answer? hAnswer, Watch.reading?_of_sampler? hSampler, hReading]
      rcases Sampler.reading?_groupRead hReading c.mode c.thresholds r with hNone | ⟨rfl, hNext⟩
      · exact .inl hNone
      · exact .inr ⟨rfl, _, hNext, by rintro ⟨⟩⟩
  | none =>
      cases event with
      | start =>
          refine .inl ?_
          show (c.watchAfter .start).reading? = c.watch.reading?
          rw [watchAfter_start]
          cases hStart : c.watch.start c.now with
          | ok started =>
              obtain ⟨hBefore, hAfter⟩ := Watch.reading?_start hStart
              exact hAfter.trans hBefore.symm
          | error e => rfl
      | stop => exact .inl Watch.reading?_requestStop
      | stopped =>
          refine .inl ?_
          have hOver := (enabled_stopped_iff.mp hEnabled).2
          have hAfter := Watch.reading?_of_sampler?_none (Watch.sampler?_finishStop c.now hOver)
          show (c.watch.finishStop c.now).reading? = c.watch.reading?
          rw [hAfter]
          cases hSampler : c.watch.sampler? with
          | none => exact (Watch.reading?_of_sampler?_none hSampler).symm
          | some s =>
              rw [Watch.reading?_of_sampler? hSampler,
                Sampler.reading?_of_isOver (hOver s hSampler)]
      | begin =>
          obtain ⟨s, hSampler, hPhase⟩ := enabled_begin_iff.mp hEnabled
          refine .inl ?_
          rw [reading?_watchAfter rfl hSampler]
          show (s.begin c.now).reading? = c.watch.reading?
          rw [Sampler.reading?_begin, Watch.reading?_of_sampler? hSampler, Sampler.reading?, hPhase]
      | tick =>
          obtain ⟨s, due, hSampler, hPhase, hDue, -⟩ := enabled_tick_iff.mp hEnabled
          have hBefore : c.watch.reading? = none := by
            rw [Watch.reading?_of_sampler? hSampler, Sampler.reading?, hPhase]
          refine .inr ⟨hBefore, .host, ?_, by rw [hBefore]; rintro ⟨⟩⟩
          rw [reading?_watchAfter rfl hSampler]
          simp [samplerAfter, Sampler.tick, hPhase, hDue, Sampler.reading?]
      | finish =>
          obtain ⟨s, hSampler, -⟩ := enabled_finish_iff.mp hEnabled
          exact .inl (reading?_watchAfter rfl hSampler)
      | look g =>
          have hKeeps : c.keeps (.look g) = c.watch.reading? := by simp [keeps, hAnswer]
          rw [hKeeps, watchAfter_of_idle rfl fun s => by simp [samplerAfter, hAnswer]]
          exact .inl rfl
      | succeed | fail | panic => cases hAnswer
      | pass | other | enter => exact .inl (by rw [watchAfter_of_idle rfl fun s => rfl]; rfl)

theorem step (h : c.Placed) (hEnabled : c.Enabled event) : (c.step event).Placed := by
  have hOrderly := h.orderly_momentAfter hEnabled
  have hLine := h.mem_line_momentAfter_iff hEnabled
  have hKeeps : ∀ g, c.keeps event = some g → c.watch.reading? = some g := by
    intro g hg
    cases event with
    | finish => cases hg
    | _ =>
        simp only [keeps] at hg
        split at hg
        · cases hg
        · exact hg
  rcases h.reading?_watchAfter_cases hEnabled with hSame | ⟨hLeft, g', hNext, hOther⟩
  · have hAsk : (c.step event).moment = c.momentAfter event := by
      show ask _ _ _ _ = _
      unfold ask
      split
      · next g hAfter => rw [if_pos (hKeeps g (hSame ▸ hAfter))]
      · rfl
    refine ⟨hAsk ▸ hOrderly, fun g => ?_⟩
    rw [hAsk]
    show _ ↔ (c.watchAfter event).reading? = some g
    rw [hSame]
    exact hLine g
  · have hAsk : (c.step event).moment = (c.momentAfter event).step (.request c.reader g') := by
      show ask _ _ _ _ = _
      simp only [ask, hNext, if_neg hOther]
    have hNowhere (g : Group) : c.reader ∉ ((c.momentAfter event).slot g).line := by
      rw [hLine, hLeft]
      rintro ⟨⟩
    refine ⟨?_, fun g => ?_⟩
    · rw [hAsk]
      exact Sensor.Cache.orderly_step hOrderly (Sensor.Cache.enabled_request_iff.mpr (hNowhere g'))
    · rw [hAsk]
      show _ ↔ (c.watchAfter event).reading? = some g
      rw [hNext]
      by_cases hg : g' = g
      · subst hg
        rw [Sensor.Cache.step_slot rfl, Sensor.Cache.slotAfter, (hOrderly g').line_request]
        exact iff_of_true (List.mem_append_right _ (List.mem_singleton.mpr rfl)) rfl
      · rw [Sensor.Cache.step_slot_of_ne]
        · exact iff_of_false (hNowhere g) fun hSome => hg (Option.some.inj hSome)
        · exact fun hSome => hg (Option.some.inj hSome)

theorem of_history {c' : Scene κ} {past : List (Happening κ)} (h : c.Placed)
    (hPast : History c past c') : c'.Placed :=
  hPast.preserves (C := fun _ => True) (fun _ _ => trivial)
    (fun _ _ hEnabled _ hPlaced => hPlaced.step hEnabled) h

end Placed

/-! ## What the sampler does -/

/-- What becomes of the sampler in the course of an event. -/
inductive Move (c : Scene κ) (s : Sampler) : Event κ → Sampler → Prop
  | begin (hPhase : s.phase = .starting) : Move c s .begin (s.begin c.now)
  | tick {due : Millis} (hPhase : s.phase = .waiting due) (hDue : due ≤ c.now)
      (hLive : s.cancelled = false) :
      Move c s .tick { s with phase := .readingHost (nextDue s.interval due c.now) }
  | answer {event : Event κ} {g : Group} {r : Sampler.Reading} {s' : Sampler}
      (hAnswer : c.answer? event = some (g, r))
      (hAnswered : s.Answered c.mode c.thresholds g r s') : Move c s event s'
  | finish (hFinish : s.canFinish = true) : Move c s .finish s.finish
  /-- The event does not concern the sampler. -/
  | rest {event : Event κ} (hTick : event ≠ .tick) (hAnswer : c.answer? event = none) :
      Move c s event s

theorem Placed.move (h : c.Placed) (hEnabled : c.Enabled event) (hCall : event.isCall = false)
    {s : Sampler} (hSampler : c.sampler? = some s) : c.Move s event (c.samplerAfter s event) := by
  have hSame {s' : Sampler} (hs : c.sampler? = some s') : s' = s :=
    Option.some.inj (hs.symm.trans hSampler)
  cases hAnswer : c.answer? event with
  | some answer =>
      obtain ⟨g, r⟩ := answer
      obtain ⟨s', hs, hReading⟩ := h.reading?_of_answer? hEnabled hAnswer
      obtain rfl := hSame hs
      rw [samplerAfter_of_answer? hAnswer]
      exact .answer hAnswer (Sampler.answered_groupRead hReading ..)
  | none =>
      cases event with
      | start | stop | stopped => cases hCall
      | begin =>
          obtain ⟨s', hs, hPhase⟩ := enabled_begin_iff.mp hEnabled
          obtain rfl := hSame hs
          exact .begin hPhase
      | tick =>
          obtain ⟨s', due, hs, hPhase, hDue, hLive⟩ := enabled_tick_iff.mp hEnabled
          obtain rfl := hSame hs
          simp only [samplerAfter, Sampler.tick, hPhase, if_pos hDue]
          exact .tick hPhase hDue hLive
      | finish =>
          obtain ⟨s', hs, hFinish⟩ := enabled_finish_iff.mp hEnabled
          obtain rfl := hSame hs
          exact .finish hFinish
      | look g =>
          simp only [samplerAfter, hAnswer]
          exact .rest (by rintro ⟨⟩) hAnswer
      | succeed | fail | panic => cases hAnswer
      | pass | other | enter => exact .rest (by rintro ⟨⟩) hAnswer

end Scene

end SteadyTask.Monitor
