import SteadyTask.Proofs.Simulation.Seats
import SteadyTask.Proofs.Simulation.Waiting

/-!
# The cache of a simulated run

Whatever a world does in one turn is a history of its cache, and leaves everybody seated
(`Usable.turn`).  So what happens to the cache in the course of a run is a history, from the first
turn to the last, whatever the main activity asks for, and however samplers, concurrent readers and
reflections go on behind it (`exists_history_of_run`).  What holds of every history of a cache holds
of every simulated run.

What a run returns, and whether it does, is not said here.
-/

namespace SteadyTask.Simulation

open Activity (IsPlain)
open Sensor (Group)
open Sensor.Cache (History Moment orderly_unused slot_unused unused)

namespace World

variable {α : Type} {w w' : World} {stage stage' : Stage α}

/-- Everybody is seated, concurrent readers have their answers unless the main activity waits for
them, reflections wait for models alone, and all timers are ahead. -/
structure Usable (w : World) (stage : Stage α) : Prop where
  seated : Seated w.moment (w.pending? stage.pending?)
  answered : stage.gathers = false → ∀ reader ∈ w.readers, reader.pending? = none
  plain : ∀ reflection ∈ w.reflections, reflection.Only IsPlain
  ahead : ∀ timer ∈ w.timers, w.now < timer.2

/-- What has happened to the cache is a history, and the world can go on. -/
structure GoesWell (w : World) (after : World × Stage α) : Prop where
  history : ∃ past, History w.moment past after.1.moment
  usable : Usable after.1 after.2

namespace GoesWell

/-- Nothing has happened to the cache. -/
theorem of_usable (h : Usable w' stage) (hMoment : w'.moment = w.moment) :
    GoesWell w (w', stage) :=
  ⟨⟨[], hMoment ▸ .nil _⟩, h⟩

theorem trans {after : World × Stage α} (h : GoesWell w (w', stage)) (h' : GoesWell w' after) :
    GoesWell w after := by
  obtain ⟨before, hBefore⟩ := h.history
  obtain ⟨past, hPast⟩ := h'.history
  exact ⟨⟨before ++ past, Sensor.Cache.history_append_iff.mpr ⟨_, hBefore, hPast⟩⟩, h'.usable⟩

end GoesWell

/-- When the answers of all readers are there, no reading of theirs goes on. -/
theorem forall_answered_of_gathered? {outcomes : List ReadOutcome}
    (h : w.gathered? = some outcomes) : ∀ reader ∈ w.readers, reader.pending? = none := by
  unfold gathered? at h
  generalize w.readers = readers at h ⊢
  induction readers generalizing outcomes with
  | nil => simp
  | cons reader readers ih =>
      rw [List.mapM_cons] at h
      cases reader with
      | pending r => cases h
      | answered outcome =>
          obtain ⟨_, -, hOthers⟩ := Option.bind_eq_some_iff.mp h
          obtain ⟨rest, hRest, -⟩ := Option.bind_eq_some_iff.mp hOthers
          exact List.forall_mem_cons.mpr ⟨rfl, ih hRest⟩

namespace Usable

/-- The main activity gets somewhere else and the cache is left alone. -/
theorem aside (h : Usable w stage) (hAside : Aside w w')
    (hPending : stage'.pending? = stage.pending?) (hGathers : stage'.gathers = stage.gathers) :
    Usable w' stage' := by
  refine ⟨?_, ?_, ?_, hAside.ahead h.ahead⟩
  · rw [hAside.moment, hPending, pending?_congr hAside.reads hAside.readers]
    exact h.seated
  · rw [hGathers, hAside.readers]
    exact h.answered
  · rw [hAside.reflections]
    exact h.plain

/-- A step of the main activity that leaves the cache alone. -/
theorem goesAside (h : Usable w stage) (hAside : Aside w w')
    (hPending : stage'.pending? = stage.pending?) (hGathers : stage'.gathers = stage.gathers) :
    GoesWell w (w', stage') :=
  .of_usable (h.aside hAside hPending hGathers) hAside.moment

theorem refl (h : Usable w stage) : GoesWell w (w, stage) :=
  .of_usable h rfl

/-- Somebody has done something for a reading of his own. -/
theorem of_spares (h : Usable w stage) (hSpares : Spares w w')
    (hSeated : Seated w'.moment (w'.pending? stage'.pending?))
    (hGathers : stage'.gathers = stage.gathers) : Usable w' stage' := by
  refine ⟨hSeated, ?_, ?_, hSpares.ahead h.ahead⟩
  · rw [hGathers, hSpares.readers]
    exact h.answered
  · rw [hSpares.reflections]
    exact h.plain

/-! ## The main activity -/

/-- The main activity takes a reading as far as it goes. -/
theorem afterRead (h : Usable w stage) (hGathers : stage.gathers = false) {r : PendingRead}
    (hPending : stage.pending? = some r) (resume : ReadOutcome → Activity α) :
    GoesWell w (afterRead (w.advanceRead .main r) resume) := by
  have hReads := h.seated.advanceRead (p := .main) hPending
  cases hOut : w.advanceRead .main r with
  | mk after out =>
      rw [hOut] at hReads
      obtain ⟨hHistory, hSeated, hSpares⟩ := hReads
      rw [← pending?_main hSpares.reads hSpares.readers] at hSeated
      cases out with
      | inl outcome => exact ⟨hHistory, h.of_spares hSpares hSeated hGathers.symm⟩
      | inr r' => exact ⟨hHistory, h.of_spares hSpares hSeated hGathers.symm⟩

/-- The main activity asks for a group, to read it or to make the cache forget it. -/
theorem request (h : Usable w stage) (hNone : stage.pending? = none) (stage' : Stage α)
    (hGathers : stage'.gathers = stage.gathers) {g : Group} {deadline : Option Millis}
    (hPending : stage'.pending? = some ⟨g, .queued, deadline⟩) :
    GoesWell w ({ w with cache := w.cache.request g .main }, stage') := by
  let asked : World := { w with cache := w.cache.request g .main }
  obtain ⟨hEnabled, hSeated⟩ := h.seated.request (p := .main) hNone g deadline
  have hMain : asked.pending? stage'.pending? =
      Function.update (w.pending? stage.pending?) .main stage'.pending? := pending?_main rfl rfl _
  refine ⟨⟨_, .cons hEnabled (.nil _)⟩, h.of_spares (spares_of_sensors w w.source _) ?_ hGathers⟩
  show Seated asked.moment (asked.pending? stage'.pending?)
  rw [hMain, hPending]
  exact hSeated

theorem forgetOrWait {g : Group} {next : Activity α} (h : Usable w (.forgetting g next)) :
    GoesWell w (w.forgetOrWait .main g next) := by
  rcases forgetOrWait_cases (w := w) (p := .main) (g := g) next with
    ⟨hGranted, hSpares, hMoment, hNext⟩ | hWaits
  · have hSeated := h.seated.leaves (p := .main) rfl (e := .drop .main g) rfl rfl hGranted (by
      rw [Sensor.Cache.step_slot rfl, Sensor.Cache.slotAfter, Sensor.Slot.line_release]
      exact (h.seated.orderly g).not_mem_waiting (Sensor.Slot.isGranted_iff.mp hGranted))
    rw [← hMoment, ← pending?_main hSpares.reads hSpares.readers] at hSeated
    refine ⟨⟨[⟨w.moment, .drop .main g⟩], ?_⟩, h.of_spares hSpares ?_ ?_⟩
    · rw [hMoment]
      exact .cons hGranted (.nil _)
    · rw [hNext]
      exact hSeated
    · rw [hNext]
      rfl
  · rw [hWaits]
    exact h.refl

/-- A concurrent reader begins. -/
theorem addReader {resume : List ReadOutcome → Activity α} (h : Usable w (.gathering resume))
    (g : Group) : GoesWell w (w.addReader g, .gathering resume) := by
  have hNone : w.pending? none (.reader w.readers.length) = none := by simp [pending?]
  have hReads := h.seated.beginRead hNone g none
  unfold World.addReader
  dsimp only
  cases hOut : w.beginRead (.reader w.readers.length) g none with
  | mk after out =>
      rw [hOut] at hReads
      obtain ⟨hHistory, hSeated, hSpares⟩ := hReads
      have hPlain : ∀ reflection ∈ after.reflections, reflection.Only IsPlain := by
        rw [hSpares.reflections]
        exact h.plain
      have hAdded (reader : Reader) (hReader : reader.pending? = out.getRight?) :
          GoesWell w ({ after with readers := after.readers ++ [reader] },
            .gathering resume) := by
        refine ⟨hHistory, ?_, by rintro ⟨⟩, hPlain, hSpares.ahead h.ahead⟩
        rw [pending?_addReader, hReader, hSpares.readers,
          pending?_congr hSpares.reads hSpares.readers]
        exact hSeated
      cases out with
      | inl outcome => exact hAdded (.answered outcome) rfl
      | inr r => exact hAdded (.pending r) rfl

theorem addReaders {resume : List ReadOutcome → Activity α} (h : Usable w (.gathering resume))
    (groups : List Group) :
    GoesWell w (groups.foldl World.addReader w, .gathering resume) := by
  induction groups generalizing w with
  | nil => exact h.refl
  | cons g groups ih =>
      have hAdded := h.addReader g
      exact hAdded.trans (ih hAdded.usable)

/-- The main activity goes on once all concurrent readers have their answers. -/
theorem gatherOrWait {resume : List ReadOutcome → Activity α} (h : Usable w (.gathering resume)) :
    GoesWell w (match w.gathered? with
      | some outcomes => (w, .ready (resume outcomes))
      | none => (w, .gathering resume)) := by
  cases hAll : w.gathered? with
  | none => exact h.refl
  | some outcomes =>
      refine .of_usable ⟨h.seated, fun _ => ?_, h.plain, h.ahead⟩ rfl
      exact forall_answered_of_gathered? hAll

/-- The main activity begins concurrent readings. -/
theorem readAll {next : Activity α} (h : Usable w (.ready next)) (groups : List Group)
    (resume : List ReadOutcome → Activity α) :
    GoesWell w (w.begin .main (.readAll groups) resume) := by
  -- earlier readers have their answers, so nothing is lost with them
  let cleared : World := { w with readers := [] }
  have hPending : cleared.pending? none = w.pending? none := by
    funext p
    cases p with
    | reader index =>
        show none = (w.readers[index]?).bind Reader.pending?
        cases hReader : w.readers[index]? with
        | none => rfl
        | some reader => exact (h.answered rfl reader (List.mem_of_getElem? hReader)).symm
    | _ => rfl
  have hCleared : Usable cleared (.gathering resume) :=
    ⟨hPending ▸ h.seated, by rintro ⟨⟩, h.plain, h.ahead⟩
  have hStart : GoesWell w (cleared, .gathering resume) := .of_usable hCleared rfl
  have hAdded := hStart.trans (hCleared.addReaders groups)
  exact hAdded.trans hAdded.usable.gatherOrWait

/-- The main activity goes on once a monitor's summary is settled. -/
theorem stoppedOrWait (h : Usable w stage) (hNone : stage.pending? = none)
    (hGathers : stage.gathers = false) (m : Nat) (resume : Metric.Summary → Activity α) :
    GoesWell w (w.stoppedOrWait m resume) := by
  have hAside : Aside w (w.finishStop m).1 := ⟨rfl, rfl, rfl, rfl, id⟩
  unfold World.stoppedOrWait
  cases hStop : w.finishStop m with
  | mk after summary? =>
      rw [hStop] at hAside
      cases summary? with
      | none => exact h.goesAside hAside hNone.symm hGathers.symm
      | some summary => exact h.goesAside hAside hNone.symm hGathers.symm

/-- The main activity goes on once reflections are over. -/
theorem drainOrWait (h : Usable w stage) (hNone : stage.pending? = none)
    (hGathers : stage.gathers = false) (awaited : Reflection.Backlog) (next : Activity α) :
    GoesWell w (w.drainOrWait awaited next) := by
  unfold World.drainOrWait
  split
  · exact h.goesAside (.refl w) hNone.symm hGathers.symm
  · exact h.goesAside (.refl w) hNone.symm hGathers.symm

/-- A reflection begins. -/
theorem reflect {next : Activity α} (h : Usable w (.ready next)) (input : Reflection.Input)
    (resume : Unit → Activity α) : GoesWell w (w.begin .main (.reflect input) resume) := by
  let begun : World := { w with
    reflections := w.reflections ++ [Stage.ready
      (Reflection.generate w.plan.settings w.plan.client w.plan.start input)]
    backlog := w.backlog.join w.reflectionIsOver w.reflections.length }
  have hBegun : Usable begun (.ready (resume ())) := by
    refine ⟨h.seated, fun _ => h.answered rfl, ?_, h.ahead⟩
    intro reflection hReflection
    rcases List.mem_append.mp hReflection with hOld | hNew
    · exact h.plain reflection hOld
    · obtain rfl := List.mem_singleton.mp hNew
      exact only_plain_generate ..
  have hStart : GoesWell w (begun, .ready (resume ())) := .of_usable hBegun rfl
  exact hStart.trans (hBegun.goesAside (.wake begun (.reflection w.reflections.length)) rfl rfl)

/-- The main activity makes a request. -/
theorem begin {next : Activity α} (h : Usable w (.ready next)) (r : Request)
    (resume : r.Answer → Activity α) : GoesWell w (w.begin .main r resume) := by
  have hOwn (hPlain : IsPlain r) : GoesWell w (w.begin .main r resume) := by
    obtain ⟨hAside, answer, hNext⟩ := Aside.begin hPlain w .main resume
    cases hOut : w.begin .main r resume with
    | mk after stage =>
        rw [hOut] at hAside hNext
        obtain rfl | ⟨time, rfl⟩ := hNext
        · exact h.goesAside hAside rfl rfl
        · exact h.goesAside hAside rfl rfl
  cases r with
  | ask | consult | useTool | now | mode | pause => exact hOwn trivial
  | read g deadline =>
      have hAsked := h.request rfl (.reading ⟨g, .queued, deadline⟩ resume) rfl rfl
      exact hAsked.trans (hAsked.usable.afterRead rfl rfl resume)
  | readAll groups => exact h.readAll groups resume
  | forget g =>
      have hAsked := h.request rfl (.forgetting g (resume ())) rfl rfl
      exact hAsked.trans hAsked.usable.forgetOrWait
  | startMonitor =>
      have hAdded : Aside w (w.addMonitor "").1 := ⟨rfl, rfl, rfl, rfl, id⟩
      exact h.goesAside (hAdded.trans (.startMonitor _ _)) rfl rfl
  | stopMonitor m =>
      have hAsked : GoesWell w (w.requestStop m, .ready next) :=
        h.goesAside (.requestStop w m) rfl rfl
      exact hAsked.trans (hAsked.usable.stoppedOrWait rfl rfl m resume)
  | evaluate summary => exact h.goesAside ⟨rfl, rfl, rfl, rfl, id⟩ rfl rfl
  | reflect input => exact h.reflect input resume
  | awaitReflections =>
      let taken : World := { w with backlog := [] }
      have hTaken : GoesWell w (taken, .ready next) :=
        h.goesAside ⟨rfl, rfl, rfl, rfl, id⟩ rfl rfl
      exact hTaken.trans (hTaken.usable.drainOrWait rfl rfl w.backlog (resume ()))

/-- The main activity goes on as far as it can. -/
theorem resume (h : Usable w stage) : GoesWell w (w.resume .main stage) := by
  cases stage with
  | ready next =>
      cases next with
      | done a => exact h.goesAside (.refl w) rfl rfl
      | request r resume => exact h.begin r resume
  | asleep wakeAt next =>
      simp only [World.resume]
      split
      · exact h.goesAside (.refl w) rfl rfl
      · next hEarly =>
          exact h.goesAside (.of_spares (spares_setTimer _ (Nat.lt_of_not_le hEarly)) rfl) rfl rfl
  | reading r resume => exact h.afterRead rfl rfl resume
  | forgetting g next => exact h.forgetOrWait
  | gathering resume => exact h.gatherOrWait
  | stopping m resume => exact h.stoppedOrWait rfl rfl m resume
  | draining awaited next => exact h.drainOrWait rfl rfl awaited next
  | done a => exact h.refl

/-! ## Behind the main activity -/

/-- A concurrent reader goes on. -/
theorem runReader (h : Usable w stage) (index : Nat) : GoesWell w (w.runReader index, stage) := by
  unfold World.runReader
  cases hReader : w.readers[index]? with
  | none => exact h.refl
  | some reader =>
      cases reader with
      | answered outcome => exact h.refl
      | pending r =>
          have hPending : w.pending? stage.pending? (.reader index) = some r := by
            simp only [pending?, hReader]
            rfl
          have hLess : index < w.readers.length := (List.getElem?_eq_some_iff.mp hReader).1
          have hReads := h.seated.advanceRead (p := .reader index) hPending
          dsimp only
          cases hOut : w.advanceRead (.reader index) r with
          | mk after out =>
              rw [hOut] at hReads
              obtain ⟨hHistory, hSeated, hSpares⟩ := hReads
              have hSet (reader : Reader) (hOver : reader.pending? = out.getRight?) :
                  GoesWell w ({ after with readers := after.readers.set index reader }, stage) := by
                refine ⟨hHistory, ?_, ?_, ?_, hSpares.ahead h.ahead⟩
                · rw [pending?_setReader (hSpares.readers ▸ hLess), hOver,
                    pending?_congr hSpares.reads hSpares.readers]
                  exact hSeated
                · -- a reader that is not over has the main activity waiting for it
                  intro hGathers
                  cases h.answered hGathers _ (List.mem_of_getElem? hReader)
                · rw [hSpares.reflections]
                  exact h.plain
              cases out with
              | inl outcome =>
                  have hOver := hSet (.answered outcome) rfl
                  exact hOver.trans (hOver.usable.goesAside (.wake _ .main) rfl rfl)
              | inr r' => exact hSet (.pending r') rfl

/-- A reflection goes on. -/
theorem runReflection (h : Usable w stage) (index : Nat) :
    GoesWell w (w.runReflection index, stage) := by
  unfold World.runReflection
  cases hReflection : w.reflections[index]? with
  | none => exact h.refl
  | some reflection =>
      have hPlain := h.plain reflection (List.mem_of_getElem? hReflection)
      obtain ⟨hAside, hOnly⟩ := Aside.resume hPlain w (.reflection index)
      dsimp only
      cases hOut : w.resume (.reflection index) reflection with
      | mk after next =>
          rw [hOut] at hAside hOnly
          have hUsable : Usable after stage := h.aside hAside rfl rfl
          let replaced : World := { after with reflections := after.reflections.set index next }
          have hReplaced : GoesWell w (replaced, stage) := by
            refine .of_usable ⟨hUsable.seated, hUsable.answered, ?_, hUsable.ahead⟩ hAside.moment
            intro other hOther
            rcases List.mem_or_eq_of_mem_set hOther with hOld | rfl
            · exact hUsable.plain other hOld
            · exact hOnly
          have hBehind {later : World} (hLater : Aside replaced later) :
              GoesWell w (later, stage) :=
            hReplaced.trans (hReplaced.usable.goesAside hLater rfl rfl)
          cases next with
          | done generated =>
              let recorded : World := { replaced with records := replaced.records ++ [generated] }
              have hRecorded : Aside replaced recorded := ⟨rfl, rfl, rfl, rfl, id⟩
              exact hBehind (hRecorded.trans (.wake recorded .main))
          | ready next => exact hBehind ⟨rfl, rfl, rfl, rfl, id⟩
          | _ => exact hReplaced

/-- A sampler has its reading over, or goes on with it. -/
theorem setSamplerRead (h : Usable w stage) (hSpares : Spares w w')
    (hHistory : ∃ past, History w.moment past w'.moment) {m : Nat} {r? : Option PendingRead}
    (hSeated : Seated w'.moment
      (Function.update (w.pending? stage.pending?) (.sampler m) r?)) :
    GoesWell w (w'.setSamplerRead m r?, stage) := by
  rw [← pending?_congr hSpares.reads hSpares.readers, ← pending?_setSamplerRead] at hSeated
  refine ⟨hHistory, hSeated, ?_, ?_, hSpares.ahead h.ahead⟩
  · show stage.gathers = false → ∀ reader ∈ w'.readers, reader.pending? = none
    rw [hSpares.readers]
    exact h.answered
  · show ∀ reflection ∈ w'.reflections, reflection.Only IsPlain
    rw [hSpares.reflections]
    exact h.plain

/-- A sampler that is told to end gives up its reading. -/
theorem endSampler (h : Usable w stage) (m : Nat) (s : Monitor.Sampler) :
    GoesWell w (w.endSampler m s, stage) := by
  have hEnds {left : World} (hLeft : GoesWell w (left, stage)) :
      GoesWell w ((left.setSampler m s.finish).wake .main, stage) := by
    have hSet : Aside left (left.setSampler m s.finish) := ⟨rfl, rfl, rfl, rfl, id⟩
    exact hLeft.trans (hLeft.usable.goesAside (hSet.trans (.wake _ .main)) rfl rfl)
  have hCleared := spares_clearTimer w (.sampler m)
  have hSame : (w.clearTimer (.sampler m)).samplerRead? m = w.samplerRead? m := rfl
  unfold World.endSampler
  dsimp only
  rw [hSame]
  cases hRead : w.samplerRead? m with
  | none => exact hEnds (h.goesAside (.of_spares hCleared rfl) rfl rfl)
  | some r =>
      refine hEnds (h.setSamplerRead (hCleared.trans (spares_handOn ..)) ?_ ?_)
      · rw [moment_handOn]
        exact ⟨[⟨w.moment, .leave (.sampler m) r.group⟩], .cons trivial (.nil _)⟩
      · rw [moment_handOn]
        refine h.seated.leaves (p := .sampler m) (e := .leave (.sampler m) r.group) hRead rfl rfl
          trivial ?_
        rw [Sensor.Cache.step_slot rfl, Sensor.Cache.slotAfter,
          (h.seated.orderly r.group).line_leave]
        simp

/-- A sampler reads a group. -/
theorem sampleGroup (h : Usable w stage) (m : Nat) (s : Monitor.Sampler) (g : Group) :
    GoesWell w (w.sampleGroup m s g, stage) := by
  have hReads := h.seated.goOnReading m g
  rw [sampleGroup_eq]
  cases hOut : w.goOnReading m g with
  | mk after out =>
      rw [hOut] at hReads
      obtain ⟨hHistory, hSeated, hSpares⟩ := hReads
      have hRead := h.setSamplerRead hSpares hHistory hSeated
      cases out with
      | inl outcome => exact hRead.trans (hRead.usable.goesAside ⟨rfl, rfl, rfl, rfl, id⟩ rfl rfl)
      | inr r => exact hRead

/-- A sampler goes on. -/
theorem runSampler (h : Usable w stage) (m : Nat) : GoesWell w (w.runSampler m, stage) := by
  have hBehind {later : World} (hLater : Aside w later) : GoesWell w (later, stage) :=
    h.goesAside hLater rfl rfl
  have hSet (w : World) (s : Monitor.Sampler) : Aside w (w.setSampler m s) :=
    ⟨rfl, rfl, rfl, rfl, id⟩
  have hFront (w : World) : Aside w (w.keepInFront (.sampler m)) := ⟨rfl, rfl, rfl, rfl, id⟩
  unfold World.runSampler
  dsimp only
  split
  · exact h.refl
  · next s _ =>
      split
      · split
        · exact hBehind ((hSet w _).trans (.wake _ .main))
        · exact hBehind ((hSet w _).trans (hFront _))
      · next due _ =>
          split
          · exact h.endSampler m s
          · split
            · have hCleared := Aside.of_spares (spares_clearTimer w (.sampler m)) rfl
              exact hBehind (hCleared.trans ((hSet _ _).trans (hFront _)))
            · next hEarly =>
                exact hBehind (.of_spares (spares_setTimer _ (Nat.lt_of_not_le hEarly)) rfl)
      · split
        · exact h.endSampler m s
        · exact h.sampleGroup m s .host
      · split
        · exact h.endSampler m s
        · exact h.sampleGroup m s .accelerator
      · exact h.refl
      · exact h.refl

/-- Whoever is first in line goes on. -/
theorem runParty (h : Usable w stage) (p : Party) : GoesWell w (w.runParty p, stage) := by
  cases p with
  | main => exact h.refl
  | sampler m => exact h.runSampler m
  | reader index => exact h.runReader index
  | reflection index => exact h.runReflection index

/-- The clock moves to the next time that anyone waits for. -/
theorem moveTo (h : Usable w stage) {time : Millis} (hTime : w.nextTime? = some time) :
    GoesWell w (w.moveTo time, stage) := by
  obtain ⟨⟨p, hTimer⟩, -⟩ := nextTime?_eq_some_iff.mp hTime
  let moved : World :=
    { w with now := time, timers := w.timers.filter fun timer => time < timer.2 }
  have hMoved : GoesWell w (moved, stage) := by
    refine ⟨⟨_, history_pass (h.ahead _ hTimer).le⟩, h.seated.pass time, h.answered, h.plain, ?_⟩
    intro timer hTimer
    exact of_decide_eq_true (List.mem_filter.mp hTimer).2
  exact hMoved.trans (hMoved.usable.goesAside (.wakeAll moved _) rfl rfl)

/-! ## Turns and runs -/

/-- What a world does in one turn is a history of its cache. -/
theorem turn (h : Usable w stage) : GoesWell w (w.turn stage) := by
  have hAwake {w : World} (h : Usable w stage) :
      GoesWell w ({ w with mainWoken := false }.resume .main stage) := by
    have hForgotten : GoesWell w ({ w with mainWoken := false }, stage) :=
      h.goesAside ⟨rfl, rfl, rfl, rfl, id⟩ rfl rfl
    exact hForgotten.trans hForgotten.usable.resume
  by_cases hWaits : stage.Waits
  · cases hLine : w.line with
    | cons p rest =>
        have hTaken : GoesWell w ({ w with line := rest }, stage) :=
          h.goesAside ⟨rfl, rfl, rfl, rfl, id⟩ rfl rfl
        rw [turn_of_line hWaits hLine]
        exact hTaken.trans (hTaken.usable.runParty p)
    | nil =>
        cases hWoken : w.mainWoken with
        | true =>
            rw [turn_of_woken hWaits hLine hWoken]
            exact hAwake h
        | false =>
            cases hTime : w.nextTime? with
            | none =>
                rw [turn_of_none hWaits hLine hWoken hTime]
                exact h.refl
            | some time =>
                have hMoved := h.moveTo hTime
                rw [turn_of_time hWaits hLine hWoken hTime]
                split
                · exact hMoved.trans (hAwake hMoved.usable)
                · exact hMoved
  · cases stage with
    | ready next => exact hAwake h
    | done a => exact h.refl
    | _ => exact absurd trivial hWaits

/-- What a world does in the course of a run is a history of its cache. -/
theorem runWithin (h : Usable w stage) (steps : Nat) :
    ∃ stage' : Stage α, GoesWell w ((World.runWithin steps w stage).1, stage') := by
  -- by the turns of the run; that the world is usable is what each turn keeps
  induction steps generalizing w stage with
  | zero => exact ⟨stage, h.refl⟩
  | succ steps ih =>
      by_cases hDone : ∃ a, stage = .done a
      · obtain ⟨a, rfl⟩ := hDone
        exact ⟨.done a, h.refl⟩
      · push Not at hDone
        rw [runWithin_turn hDone]
        obtain ⟨stage', hRest⟩ := ih h.turn.usable
        exact ⟨stage', h.turn.trans hRest⟩

end Usable

theorem moment_of_cache {ttl pollLimit : Millis} (h : w.cache = .make ttl pollLimit) :
    w.moment = unused ttl pollLimit w.now :=
  congrArg (Moment.mk · w.now) h

/-- A world in which nobody has begun anything can be used. -/
theorem Fresh.usable (h : Fresh w) {ttl pollLimit : Millis} (hCache : w.cache = .make ttl pollLimit)
    (activity : Activity α) : Usable w (.ready activity) := by
  have hNobody : w.pending? none = fun _ => none := by
    funext p
    cases p with
    | sampler m => simp [pending?, samplerRead?, h.reads]
    | reader index => simp [pending?, h.readers]
    | _ => rfl
  refine ⟨?_, ?_, ?_, ?_⟩
  · show Seated w.moment (w.pending? none)
    rw [moment_of_cache hCache, hNobody]
    refine ⟨orderly_unused ttl pollLimit w.now, ?_, by rintro _ _ ⟨⟩⟩
    intro p g hMem
    rw [slot_unused] at hMem
    cases hMem
  · simp [h.readers]
  · simp [h.reflections]
  · simp [h.timers]

/-- However far a run has come, what has happened to the cache until then is a history of the cache,
from the beginning on. -/
theorem exists_history_of_run (hFresh : Fresh w) {ttl pollLimit : Millis}
    (hCache : w.cache = .make ttl pollLimit) (activity : Activity α) (steps : Nat) :
    ∃ past, History (unused ttl pollLimit w.now) past
      (runWithin steps w (.ready activity)).1.moment := by
  obtain ⟨stage, hRun⟩ := (hFresh.usable hCache activity).runWithin steps
  obtain ⟨past, hPast⟩ := hRun.history
  exact ⟨past, moment_of_cache hCache ▸ hPast⟩

end World

end SteadyTask.Simulation
