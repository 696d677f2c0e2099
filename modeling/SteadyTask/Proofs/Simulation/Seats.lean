import SteadyTask.Proofs.Simulation.Readings
import SteadyTask.Proofs.Simulation.Turns

/-!
# Who has what going in the cache

In a simulated run a party has at most one reading going, and it stands in the line of a group only
for that: the main activity while it waits for a reading or for its turn to make the cache forget
the group, a sampler and a concurrent reader for the reading that the world holds for them, and a
reflection never.  A party that polls has the slot (`Seated`).

What a party does for its own reading leaves that so, and so does whatever touches neither the cache
nor what anybody has going (`Aside`).
-/

namespace SteadyTask.Simulation

open Activity (IsPlain)
open Sensor Sensor.Cache

/-! ## Readings that go on -/

/-- What the main activity has going in the cache where it stands. -/
def Stage.pending? {α : Type} : Stage α → Option PendingRead
  | .reading r _ => some r
  | .forgetting g _ => some ⟨g, .queued, none⟩
  | _ => none

/-- Whether the main activity waits for concurrent readers. -/
def Stage.gathers {α : Type} : Stage α → Bool
  | .gathering _ => true
  | _ => false

/-- What an activity has left to do makes requests of some kind only, and it waits for nothing but a
time. -/
def Stage.Only {α : Type} (P : Request → Prop) : Stage α → Prop
  | .ready next => next.Only P
  | .asleep _ next => next.Only P
  | .done _ => True
  | _ => False

/-- The reading of a concurrent reader that is not over. -/
def Reader.pending? : Reader → Option PendingRead
  | .pending r => some r
  | .answered _ => none

namespace World

/-- What each party has going in the cache, when the main activity has this. -/
def pending? (w : World) (main? : Option PendingRead) : Party → Option PendingRead
  | .main => main?
  | .sampler m => w.samplerRead? m
  | .reader index => (w.readers[index]?).bind Reader.pending?
  | .reflection _ => none

section Pending

variable {w w' : World} {main? : Option PendingRead}

theorem pending?_congr (hReads : w'.reads = w.reads) (hReaders : w'.readers = w.readers) :
    w'.pending? main? = w.pending? main? := by
  funext p
  cases p with
  | main => rfl
  | sampler m => simp only [pending?, samplerRead?, hReads]
  | reader index => simp only [pending?, hReaders]
  | reflection index => rfl

/-- The main activity begins a reading or has it over. -/
theorem pending?_main (hReads : w'.reads = w.reads) (hReaders : w'.readers = w.readers)
    (r? : Option PendingRead) :
    w'.pending? r? = Function.update (w.pending? main?) .main r? := by
  rw [pending?_congr hReads hReaders]
  funext p
  cases p with
  | main => rfl
  | _ => rfl

/-- A sampler begins a reading or has it over. -/
theorem pending?_setSamplerRead (m : Nat) (r? : Option PendingRead) :
    (w.setSamplerRead m r?).pending? main? =
      Function.update (w.pending? main?) (.sampler m) r? := by
  funext p
  by_cases hSelf : p = .sampler m
  · subst hSelf
    rw [Function.update_self]
    exact samplerRead?_setSamplerRead r?
  · rw [Function.update_of_ne hSelf]
    cases p with
    | sampler m' =>
        have hOther : m' ≠ m := fun hSame => hSelf (hSame ▸ rfl)
        exact samplerRead?_setSamplerRead_of_ne hOther r?
    | _ => rfl

/-- A concurrent reader has its reading over, or goes on with it. -/
theorem pending?_setReader {index : Nat} (hLess : index < w.readers.length) (reader : Reader) :
    { w with readers := w.readers.set index reader }.pending? main? =
      Function.update (w.pending? main?) (.reader index) reader.pending? := by
  funext p
  by_cases hSelf : p = .reader index
  · subst hSelf
    simp [pending?, hLess]
  · rw [Function.update_of_ne hSelf]
    cases p with
    | reader other =>
        have hOther : index ≠ other := fun hSame => hSelf (hSame ▸ rfl)
        simp [pending?, List.getElem?_set_ne hOther]
    | _ => rfl

/-- A concurrent reader is added. -/
theorem pending?_addReader (reader : Reader) :
    { w with readers := w.readers ++ [reader] }.pending? main? =
      Function.update (w.pending? main?) (.reader w.readers.length) reader.pending? := by
  funext p
  by_cases hSelf : p = .reader w.readers.length
  · subst hSelf
    simp [pending?]
  · rw [Function.update_of_ne hSelf]
    cases p with
    | reader index =>
        have hOther : index ≠ w.readers.length := fun hSame => hSelf (hSame ▸ rfl)
        simp only [pending?, List.getElem?_append]
        split
        · rfl
        · next hBeyond =>
            rw [List.getElem?_eq_none (by simp; omega), List.getElem?_eq_none (by omega)]
    | _ => rfl

end Pending

/-! ## Places in line -/

/-- Nobody stands in the line of a group but for the reading of it that he has going, and whoever
polls has the slot. -/
structure Seated (m : Moment Party) (pending : Party → Option PendingRead) : Prop where
  orderly : m.Orderly
  inLine : ∀ p g, p ∈ (m.slot g).line → ∃ r, pending p = some r ∧ r.group = g
  fits : ∀ p r, pending p = some r → Fits m p r

/-- A party has begun a reading or gone on with one: what has happened to the cache is a history,
everybody is seated, and the rest is as it was. -/
structure ReadsOn (w : World) (pending : Party → Option PendingRead) (p : Party)
    (after : World × (ReadOutcome ⊕ PendingRead)) : Prop where
  history : ∃ past, History w.moment past after.1.moment
  seated : Seated after.1.moment (Function.update pending p after.2.getRight?)
  spares : Spares w after.1

namespace Seated

variable {m m' : Moment Party} {pending : Party → Option PendingRead} {p : Party} {g : Group}
  {r : PendingRead}

/-- What a party does alone concerns its own place. -/
theorem own (h : Seated m pending) {past : List (Happening Party)} (hPast : History m past m')
    (hOwn : ∀ e ∈ past, e.event.reader? = some p) {r? : Option PendingRead}
    (hLine : ∀ g, p ∈ (m'.slot g).line → ∃ r, r? = some r ∧ r.group = g)
    (hFits : ∀ r, r? = some r → Fits m' p r) : Seated m' (Function.update pending p r?) := by
  obtain ⟨hOrderly, hOthers, hPolling⟩ : m'.Orderly ∧
      (∀ q ≠ p, ∀ g, q ∈ (m'.slot g).line → q ∈ (m.slot g).line) ∧
      ∀ q ≠ p, ∀ g, (m.slot g).isPolling q = true → (m'.slot g).isPolling q = true := by
    refine hPast.preserves (P := fun m' => m'.Orderly ∧
      (∀ q ≠ p, ∀ g, q ∈ (m'.slot g).line → q ∈ (m.slot g).line) ∧
      ∀ q ≠ p, ∀ g, (m.slot g).isPolling q = true → (m'.slot g).isPolling q = true)
      (C := fun e => e.event.reader? = some p) hOwn ?_
      ⟨h.orderly, fun _ _ _ => id, fun _ _ _ => id⟩
    rintro m₁ e hEnabled hReader ⟨hOrderly, hOthers, hPolling⟩
    have hOther {q : Party} (hq : q ≠ p) : e.reader? ≠ some q := by
      rw [hReader]
      exact fun hSame => hq (Option.some.inj hSame).symm
    refine ⟨orderly_step hOrderly hEnabled, ?_, ?_⟩
    · intro q hq g hMem
      exact hOthers q hq g ((mem_line_step_of_ne hOrderly hEnabled (hOther hq) g).mp hMem)
    · intro q hq g hBefore
      exact isPolling_step_of_ne hEnabled (hOther hq) (hPolling q hq g hBefore)
  refine ⟨hOrderly, ?_, ?_⟩
  · intro q g hMem
    by_cases hq : q = p
    · subst hq
      rw [Function.update_self]
      exact hLine g hMem
    · rw [Function.update_of_ne hq]
      exact h.inLine q g (hOthers q hq g hMem)
  · intro q r hr
    by_cases hq : q = p
    · subst hq
      rw [Function.update_self] at hr
      exact hFits r hr
    · rw [Function.update_of_ne hq] at hr
      exact fun ends late hPhase => hPolling q hq _ (h.fits q r hr ends late hPhase)

/-- A party that has nothing going can ask for a group. -/
theorem request (h : Seated m pending) (hNone : pending p = none) (g : Group)
    (deadline : Option Millis) : m.Enabled (.request p g) ∧
      Seated (m.step (.request p g)) (Function.update pending p (some ⟨g, .queued, deadline⟩)) := by
  have hNowhere (g' : Group) : p ∉ (m.slot g').line := by
    intro hMem
    obtain ⟨r, hr, -⟩ := h.inLine p g' hMem
    cases hNone.symm.trans hr
  have hEnabled := enabled_request_iff.mpr (hNowhere g)
  refine ⟨hEnabled, h.own (.cons hEnabled (.nil _)) (by simp [Event.reader?]) ?_ ?_⟩
  · intro g' hMem
    by_cases hGroup : g = g'
    · exact ⟨_, rfl, hGroup⟩
    · have hAbout : (Event.request p g).group? ≠ some g' :=
        fun hSame => hGroup (Option.some.inj hSame)
      rw [step_slot_of_ne hAbout] at hMem
      exact absurd hMem (hNowhere g')
  · rintro _ ⟨⟩
    nofun

/-- A party stands nowhere but where it has its reading. -/
theorem group_eq (h : Seated m pending) (hPending : pending p = some r)
    (hMem : p ∈ (m.slot g).line) : r.group = g := by
  obtain ⟨r', hr', hGroup⟩ := h.inLine p g hMem
  obtain rfl := Option.some.inj (hPending.symm.trans hr')
  exact hGroup

/-- A reading that was begun is taken as far as it goes. -/
theorem advanceRead {w : World} (h : Seated w.moment pending) (hPending : pending p = some r) :
    ReadsOn w pending p (w.advanceRead p r) := by
  obtain ⟨hProceeds, hNext, -⟩ := progresses_advanceRead (h.fits p r hPending)
  obtain ⟨past, hPast, hOwn, -⟩ := hProceeds.exists_history
  refine ⟨⟨past, hPast⟩, h.own hPast hOwn ?_ ?_, spares_advanceRead w p r⟩
  · intro g hMem
    by_cases hGroup : r.group = g
    · subst hGroup
      cases hOut : (w.advanceRead p r).2 with
      | inl outcome =>
          exact absurd hMem (hProceeds.not_mem_line h.orderly (by rw [hOut]; rfl))
      | inr r' => exact ⟨r', rfl, (hNext r' hOut).1⟩
    · rw [hProceeds.slot_of_ne hGroup] at hMem
      exact absurd (h.group_eq hPending hMem) hGroup
  · intro r' hr'
    exact (hNext r' (Sum.getRight?_eq_some_iff.mp hr')).2.2

/-- A party that has nothing going begins a reading. -/
theorem beginRead {w : World} (h : Seated w.moment pending) (hNone : pending p = none) (g : Group)
    (deadline : Option Millis) : ReadsOn w pending p (w.beginRead p g deadline) := by
  let asked : World := { w with cache := w.cache.request g p }
  obtain ⟨hEnabled, hAsked⟩ := h.request hNone g deadline
  have hAsked' : Seated asked.moment
      (Function.update pending p (some ⟨g, .queued, deadline⟩)) := hAsked
  obtain ⟨⟨past, hPast⟩, hSeated, -⟩ := hAsked'.advanceRead (Function.update_self ..)
  rw [Function.update_idem] at hSeated
  exact ⟨⟨_, .cons hEnabled hPast⟩, hSeated, spares_beginRead w p g deadline⟩

/-- A sampler goes on with its reading, or begins one. -/
theorem goOnReading {w : World} {main? : Option PendingRead}
    (h : Seated w.moment (w.pending? main?)) (m : Nat) (g : Group) :
    ReadsOn w (w.pending? main?) (.sampler m) (w.goOnReading m g) := by
  unfold World.goOnReading
  split
  · next r hRead => exact h.advanceRead (p := .sampler m) hRead
  · next hNone => exact h.beginRead (p := .sampler m) hNone g none

/-- A party leaves its place. -/
theorem leaves (h : Seated m pending) (hPending : pending p = some r) {e : Event Party}
    (hReader : e.reader? = some p) (hGroup : e.group? = some r.group) (hEnabled : m.Enabled e)
    (hOut : p ∉ ((m.step e).slot r.group).line) :
    Seated (m.step e) (Function.update pending p none) := by
  refine h.own (.cons hEnabled (.nil _)) (by simpa using hReader) ?_ nofun
  intro g hMem
  by_cases hSame : r.group = g
  · subst hSame
    exact absurd hMem hOut
  · rw [step_slot_of_ne (hGroup ▸ fun hEq => hSame (Option.some.inj hEq))] at hMem
    exact absurd (h.group_eq hPending hMem) hSame

/-- Time passes. -/
theorem pass (h : Seated m pending) (time : Millis) : Seated ⟨m.cache, time⟩ pending :=
  ⟨h.orderly, h.inLine, h.fits⟩

end Seated

/-! ## What leaves the cache alone -/

/-- The cache, what samplers and readers have going, and the reflections stay as they are. -/
structure Aside (w w' : World) : Prop where
  moment : w'.moment = w.moment
  reads : w'.reads = w.reads
  readers : w'.readers = w.readers
  reflections : w'.reflections = w.reflections
  ahead : KeepsAhead w w'

namespace Aside

variable {w w' w'' : World}

theorem refl (w : World) : Aside w w :=
  ⟨rfl, rfl, rfl, rfl, id⟩

theorem trans (h : Aside w w') (h' : Aside w' w'') : Aside w w'' where
  moment := h'.moment.trans h.moment
  reads := h'.reads.trans h.reads
  readers := h'.readers.trans h.readers
  reflections := h'.reflections.trans h.reflections
  ahead hAhead := h'.ahead (h.ahead hAhead)

theorem of_spares (h : Spares w w') (hMoment : w'.moment = w.moment) : Aside w w' :=
  ⟨hMoment, h.reads, h.readers, h.reflections, h.ahead⟩

theorem wake (w : World) (p : Party) : Aside w (w.wake p) := by
  have hBehind := behind_wake (w := w) p
  refine ⟨moment_wake, reads_wake p, hBehind.readers, hBehind.reflections, ?_⟩
  rw [KeepsAhead, hBehind.now]
  exact hBehind.ahead

theorem wakeAll (w : World) (due : List (Party × Millis)) :
    Aside w (due.foldl (fun w timer => w.wake timer.1) w) := by
  induction due generalizing w with
  | nil => exact .refl w
  | cons timer due ih => exact (Aside.wake w timer.1).trans (ih _)

/-- A party waits for a time, or goes on at once. -/
theorem sleepThen {α : Type} (w : World) (p : Party) (duration : Millis) (next : Activity α) :
    Aside w (w.sleepThen p duration next).1 ∧
      ((w.sleepThen p duration next).2 = .ready next ∨
        ∃ time, (w.sleepThen p duration next).2 = .asleep time next) := by
  unfold World.sleepThen
  split
  · exact ⟨.refl w, .inl rfl⟩
  · next hSome =>
      exact ⟨.of_spares (spares_setTimer p (lt_after hSome)) rfl, .inr ⟨_, rfl⟩⟩

/-- A request that is answered without the cache lets a party go on, now or later. -/
theorem begin {α : Type} {r : Request} (hPlain : IsPlain r) (w : World) (p : Party)
    (resume : r.Answer → Activity α) :
    Aside w (w.begin p r resume).1 ∧ ∃ answer,
      ((w.begin p r resume).2 = .ready (resume answer) ∨
        ∃ time, (w.begin p r resume).2 = .asleep time (resume answer)) := by
  have hCall (hCall : r.isCall = true) : Aside w (w.begin p r resume).1 ∧ ∃ answer,
      ((w.begin p r resume).2 = .ready (resume answer) ∨
        ∃ time, (w.begin p r resume).2 = .asleep time (resume answer)) := by
    have hScripts := answerCall_withScripts w w hCall
    have hAside : Aside w (w.answerCall r hCall).1 := by
      rw [show w.answerCall r hCall = _ from hScripts]
      exact ⟨rfl, rfl, rfl, rfl, id⟩
    rw [begin_call p hCall]
    obtain ⟨hSleeps, hNext⟩ := Aside.sleepThen (w.answerCall r hCall).1 p
      (w.answerCall r hCall).2.1 (resume (w.answerCall r hCall).2.2)
    exact ⟨hAside.trans hSleeps, _, hNext⟩
  cases r with
  | ask | consult | useTool => exact hCall rfl
  | now => exact ⟨.refl w, _, .inl rfl⟩
  | mode => exact ⟨.refl w, _, .inl rfl⟩
  | pause duration =>
      obtain ⟨hSleeps, hNext⟩ := Aside.sleepThen w p duration (resume ())
      exact ⟨hSleeps, _, hNext⟩
  | _ => exact hPlain.elim

/-- A plain activity goes on without the cache, and stays plain. -/
theorem resume {α : Type} {stage : Stage α} (h : stage.Only IsPlain) (w : World) (p : Party) :
    Aside w (w.resume p stage).1 ∧ (w.resume p stage).2.Only IsPlain := by
  cases stage with
  | ready next =>
      cases next with
      | done a => exact ⟨.refl w, trivial⟩
      | request r resume =>
          obtain ⟨hAside, answer, hNext⟩ := Aside.begin h.1 w p resume
          refine ⟨hAside, ?_⟩
          show (w.begin p r resume).2.Only IsPlain
          rcases hNext with hNext | ⟨time, hNext⟩
          · rw [hNext]
            exact h.2 answer
          · rw [hNext]
            exact h.2 answer
  | asleep wakeAt next =>
      simp only [World.resume]
      split
      · exact ⟨.refl w, h⟩
      · next hEarly =>
          exact ⟨.of_spares (spares_setTimer p (Nat.lt_of_not_le hEarly)) rfl, h⟩
  | done a => exact ⟨.refl w, trivial⟩
  | _ => exact h.elim

theorem startMonitor (w : World) (m : Nat) : Aside w (w.startMonitor m).1 := by
  unfold World.startMonitor
  split
  · exact .refl w
  · split
    · exact .refl w
    · next started _ =>
        have hChanged : Aside w (w.modifyMonitor m fun _ => started) := ⟨rfl, rfl, rfl, rfl, id⟩
        dsimp only
        split
        · exact hChanged.trans (.wake _ _)
        · exact hChanged

theorem requestStop (w : World) (m : Nat) : Aside w (w.requestStop m) := by
  have hChanged : Aside w (w.modifyMonitor m Monitor.Watch.requestStop) :=
    ⟨rfl, rfl, rfl, rfl, id⟩
  unfold World.requestStop
  dsimp only
  split
  · split
    · exact hChanged
    · exact hChanged.trans (.wake _ _)
  · exact hChanged

end Aside

/-- A reflection asks a model and the clock, and nobody else. -/
theorem only_plain_generate (settings : Reflection.Settings) (client : String) (start : Timestamp)
    (input : Reflection.Input) :
    (Reflection.generate settings client start input).Only IsPlain := by
  have hTier (enabled : Bool) (prompt : String)
      (narrative : String → Except Reflection.TierFault Narrative.Fields) :
      (Reflection.tryTier enabled client prompt settings.limit narrative).Only IsPlain := by
    cases enabled with
    | false => exact trivial
    | true => exact ⟨trivial, fun _ => trivial⟩
  unfold Reflection.generate
  refine (hTier _ _ _).bind fun first => ?_
  cases first with
  | ok narrative => exact ⟨trivial, fun _ => trivial⟩
  | error fault =>
      refine (hTier _ _ _).bind fun second => ?_
      cases second with
      | ok narrative => exact ⟨trivial, fun _ => trivial⟩
      | error fault' => exact ⟨trivial, fun _ => trivial⟩

end World

end SteadyTask.Simulation
