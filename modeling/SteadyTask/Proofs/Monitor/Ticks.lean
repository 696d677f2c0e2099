import Mathlib.Data.List.ModifyLast
import SteadyTask.Proofs.Monitor.Lifecycle

/-!
# Ticks, one by one

A tick is what the sampler does from when it notices that a time has come until it notices the next
one: it asks for the host, and perhaps for the accelerator, and each of the two may answer or not.
Here the ticks are read off a history, without a look at the sampler, and compared with the samples
that it has.

No tick spoils another one, with one exception that is meant: after a tick in which the accelerator
was unavailable it is not asked for again.
-/

namespace SteadyTask.Monitor

open Sensor (Group Slot)

/-! ## A tick -/

/-- How the readings of a tick ended, as far as they did. -/
structure Tick where
  host : Option Sampler.Reading
  /-- Whether the sampler asked for the accelerator. -/
  asked : Bool
  accelerator : Option Sampler.Reading
  /-- The mode in force at the latest answer. -/
  mode : Mode

namespace Tick

/-- A tick in which nothing was read so far. -/
def noticed (mode : Mode) : Tick :=
  ⟨none, false, none, mode⟩

/-- A reading of the tick has ended. -/
def answer (t : Tick) (asked : Bool) (g : Group) (r : Sampler.Reading) (mode : Mode) : Tick :=
  match g with
  | .host => ⟨some r, asked, t.accelerator, mode⟩
  | .accelerator => ⟨t.host, asked, some r, mode⟩

/-- Whether the host gave its measurements. -/
def hasHost (t : Tick) : Bool :=
  match t.host with
  | some (.values _) => true
  | _ => false

/-- Whether the accelerator turned out to be unavailable. -/
def isUnavailable (t : Tick) : Bool :=
  match t.accelerator with
  | some (.fault (.unavailable _)) => true
  | _ => false

/-- Whether the accelerator cost the tick its sample. -/
def hasPanic (t : Tick) : Bool :=
  match t.accelerator with
  | some .panicked => true
  | _ => false

/-- Whether everything that was asked for was answered, and there was nothing more to ask for. -/
def isComplete (t : Tick) : Bool :=
  match t.host with
  | none => false
  | some (.values _) => !t.asked || t.accelerator.isSome
  | some _ => true

/-- The measurements of a tick: those of the host, and on top of them those of the accelerator. -/
def values? (t : Tick) : Option Metric.Values :=
  match t.host, t.asked, t.accelerator with
  | some (.values host), false, _ => some host
  | some (.values host), true, some (.values v) => some (host.merge v)
  | some (.values host), true, some (.fault _) => some host
  | _, _, _ => none

/-- The sample that a tick leaves. -/
def sample? (thresholds : Mode.Thresholds) (t : Tick) : Option Metric.Sample :=
  t.values?.map fun values => .record values t.mode (thresholds.forMode t.mode)

/-- A tick leaves a sample if it was completed, the host gave its measurements, and no panic came in
between. -/
theorem isSome_sample?_iff (thresholds : Mode.Thresholds) (t : Tick)
    (hAsked : t.asked = false → t.accelerator = none) :
    (t.sample? thresholds).isSome = true ↔
      t.isComplete = true ∧ t.hasHost = true ∧ t.hasPanic = false := by
  obtain ⟨host, asked, accelerator, mode⟩ := t
  rw [sample?, Option.isSome_map]
  cases host with
  | none => simp [values?, isComplete]
  | some r =>
      cases r with
      | values v =>
          cases asked with
          | false =>
              obtain rfl : accelerator = none := hAsked rfl
              simp [values?, isComplete, hasHost, hasPanic]
          | true =>
              cases accelerator with
              | none => simp [values?, isComplete]
              | some r => cases r <;> simp [values?, isComplete, hasHost, hasPanic]
      | _ => simp [values?, hasHost]

/-- What is in the sample of a tick. -/
theorem values_of_sample? {thresholds : Mode.Thresholds} {t : Tick} {sample : Metric.Sample}
    (hAsked : t.asked = false → t.accelerator = none) (h : t.sample? thresholds = some sample) :
    ∃ host, t.host = some (.values host) ∧ sample.values =
      match t.accelerator with
      | some (.values v) => host.merge v
      | _ => host := by
  obtain ⟨values, hValues, rfl⟩ := Option.map_eq_some_iff.mp h
  show ∃ host, t.host = some (.values host) ∧ values = _
  unfold values? at hValues
  split at hValues
  · next host accelerator hHost hNot =>
      cases hValues
      exact ⟨_, hHost, by rw [hAsked hNot]⟩
  · next hHost _ hAccelerator =>
      cases hValues
      exact ⟨_, hHost, by rw [hAccelerator]⟩
  · next hHost _ hAccelerator =>
      cases hValues
      exact ⟨_, hHost, by rw [hAccelerator]⟩
  · cases hValues

end Tick

/-! ## The ticks of a history -/

variable {κ : Type} [DecidableEq κ]

/-- Whether the sampler gets into the line of a group. -/
def Happening.asks (h : Happening κ) (g : Group) : Bool :=
  decide (h.scene.reader ∉ (h.scene.moment.slot g).line ∧
    h.scene.reader ∈ (h.after.moment.slot g).line)

/-- How often the sampler asked for a group. -/
def askCount (g : Group) (past : List (Happening κ)) : Nat :=
  past.countP (·.asks g)

theorem askCount_concat (g : Group) (past : List (Happening κ)) (h : Happening κ) :
    askCount g (past ++ [h]) = askCount g past + (h.asks g).toNat := by
  rw [askCount, List.countP_append, List.countP_singleton, askCount]
  cases h.asks g <;> rfl

/-- The tick in the course of which something happens. -/
def Tick.note (t : Tick) (h : Happening κ) : Tick :=
  let asked := t.asked || h.asks .accelerator
  match h.scene.answer? h.event with
  | some (g, r) => t.answer asked g r h.scene.mode
  | none => { t with asked := asked }

theorem Tick.asked_note (t : Tick) (h : Happening κ) :
    (t.note h).asked = (t.asked || h.asks .accelerator) := by
  unfold Tick.note
  split
  · unfold Tick.answer
    split <;> rfl
  · rfl

/-- The ticks after something happened.  It belongs to the latest of them. -/
def noteTick (ticks : List Tick) (h : Happening κ) : List Tick :=
  match h.event with
  | .tick => ticks ++ [.noticed h.scene.mode]
  | _ => ticks.modifyLast (·.note h)

/-- The ticks of a history. -/
def ticksOf (past : List (Happening κ)) : List Tick :=
  past.foldl noteTick []

theorem ticksOf_concat (past : List (Happening κ)) (h : Happening κ) :
    ticksOf (past ++ [h]) = noteTick (ticksOf past) h := by
  simp [ticksOf]

theorem noteTick_concat {h : Happening κ} (hTick : h.event ≠ .tick) (ticks : List Tick) (t : Tick) :
    noteTick (ticks ++ [t]) h = ticks ++ [t.note h] := by
  unfold noteTick
  split
  · next hEvent => exact absurd hEvent hTick
  · exact List.modifyLast_concat ..

/-- What is no concern of the sampler leaves the ticks as they are. -/
theorem noteTick_of_quiet {h : Happening κ} (hTick : h.event ≠ .tick)
    (hAnswer : h.scene.answer? h.event = none) (hAsks : h.asks .accelerator = false)
    (ticks : List Tick) : noteTick ticks h = ticks := by
  rcases List.eq_nil_or_concat ticks with rfl | ⟨earlier, t, rfl⟩
  · unfold noteTick
    split
    · next hEvent => exact absurd hEvent hTick
    · rfl
  · rw [List.concat_eq_append, noteTick_concat hTick]
    simp [Tick.note, hAnswer, hAsks]

/-! ## The latch -/

/-- The accelerator is asked for in those ticks in which the host gave its measurements, up to the
first in which it is unavailable; and it answers only where it was asked for. -/
def Latched (ticks : List Tick) : Prop :=
  ∀ (earlier : List Tick) t (later : List Tick), ticks = earlier ++ t :: later →
    (t.asked = true ↔ t.hasHost = true ∧ ∀ t' ∈ earlier, t'.isUnavailable = false) ∧
      (t.asked = false → t.accelerator = none)

theorem latched_nil : Latched [] := by
  intro earlier t later hTicks
  simp at hTicks

theorem latched_concat_iff {ticks : List Tick} {t : Tick} :
    Latched (ticks ++ [t]) ↔ Latched ticks ∧
      (t.asked = true ↔ t.hasHost = true ∧ ∀ t' ∈ ticks, t'.isUnavailable = false) ∧
        (t.asked = false → t.accelerator = none) := by
  constructor
  · intro h
    refine ⟨fun earlier t' later hTicks => ?_, h ticks t [] rfl⟩
    refine h earlier t' (later ++ [t]) ?_
    rw [hTicks, List.append_assoc, List.cons_append]
  · rintro ⟨hTicks, hLast⟩ earlier t' later hSplit
    rcases List.eq_nil_or_concat later with rfl | ⟨later, last, rfl⟩
    · obtain ⟨rfl, hSame⟩ := List.append_inj' hSplit rfl
      obtain rfl : t = t' := by simpa using hSame
      exact hLast
    · refine hTicks earlier t' later ?_
      rw [List.concat_eq_append, ← List.cons_append, ← List.append_assoc] at hSplit
      exact (List.append_inj' hSplit rfl).1

/-! ## What a sampler has to show -/

namespace Sampler

variable {s s' : Sampler} {ticks earlier : List Tick} {thresholds : Mode.Thresholds}

/-- The latest tick is where the sampler is, and those before it were completed. -/
def InCourse (ticks : List Tick) (s : Sampler) : Prop :=
  match s.phase with
  | .starting | .crashed => ticks = []
  | .waiting _ => ∀ t ∈ ticks, t.isComplete = true
  | .readingHost _ => ∃ earlier mode, ticks = earlier ++ [.noticed mode] ∧
    ∀ t ∈ earlier, t.isComplete = true
  | .readingAccelerator _ host => ∃ earlier mode,
    ticks = earlier ++ [⟨some (.values host), true, none, mode⟩] ∧
      ∀ t ∈ earlier, t.isComplete = true
  | .ended => ∀ t ∈ ticks.dropLast, t.isComplete = true

/-- The sampler has the samples of its ticks, and reads the accelerator until it is unavailable. -/
structure Shows (thresholds : Mode.Thresholds) (ticks : List Tick) (s : Sampler) : Prop where
  samples : s.samples = ticks.filterMap (Tick.sample? thresholds)
  reads : s.readsAccelerator = true ↔ ∀ t ∈ ticks, t.isUnavailable = false
  latched : Latched ticks
  course : s.InCourse ticks

theorem Shows.cancel (h : s.Shows thresholds ticks) : s.cancel.Shows thresholds ticks :=
  ⟨h.samples, h.reads, h.latched, h.course⟩

/-- Of the ticks only the latest may be unfinished. -/
theorem Shows.complete (h : s.Shows thresholds ticks) :
    ∀ t ∈ ticks.dropLast, t.isComplete = true := by
  have hCourse := h.course
  unfold InCourse at hCourse
  split at hCourse
  · rw [hCourse]
    nofun
  · rw [hCourse]
    nofun
  · exact fun t ht => hCourse t (List.mem_of_mem_dropLast ht)
  · obtain ⟨earlier, mode, rfl, hEarlier⟩ := hCourse
    rwa [List.dropLast_concat]
  · obtain ⟨earlier, mode, rfl, hEarlier⟩ := hCourse
    rwa [List.dropLast_concat]
  · exact hCourse

/-- A sampler that has crashed has no ticks, so all its samples count. -/
theorem Shows.result_eq (h : s.Shows thresholds ticks) :
    s.result = ticks.filterMap (Tick.sample? thresholds) := by
  rw [← h.samples]
  unfold result
  split
  · next hPhase =>
      have hCourse := h.course
      rw [InCourse, hPhase] at hCourse
      rw [h.samples, hCourse]
      rfl
  · rfl

theorem Shows.finish (h : s.Shows thresholds ticks) : s.finish.Shows thresholds ticks :=
  ⟨h.samples, h.reads, h.latched, h.complete⟩

theorem Shows.begin (h : s.Shows thresholds ticks) (hPhase : s.phase = .starting) (now : Millis) :
    (s.begin now).Shows thresholds ticks := by
  refine ⟨h.samples, h.reads, h.latched, ?_⟩
  have hCourse := h.course
  rw [InCourse, hPhase] at hCourse
  subst hCourse
  unfold InCourse Sampler.begin
  by_cases hKeeps : canKeep s.interval now = true
  · simp [hKeeps]
  · simp [hKeeps]

theorem Shows.tick (h : s.Shows thresholds ticks) {due : Millis} (hPhase : s.phase = .waiting due)
    (next : Millis) (mode : Mode) :
    ({ s with phase := .readingHost next }).Shows thresholds (ticks ++ [Tick.noticed mode]) := by
  have hCourse := h.course
  rw [InCourse, hPhase] at hCourse
  refine ⟨?_, ?_, ?_, ticks, mode, rfl, hCourse⟩
  · rw [List.filterMap_append, ← h.samples]
    exact (List.append_nil _).symm
  · rw [h.reads, List.forall_mem_append, List.forall_mem_singleton]
    exact (and_iff_left (show (Tick.noticed mode).isUnavailable = false from rfl)).symm
  · exact latched_concat_iff.mpr ⟨h.latched, by simp [Tick.hasHost, Tick.noticed], fun _ => rfl⟩

/-- The latest tick goes on, and had nothing to show so far. -/
theorem Shows.replace_latest {t t' : Tick} (h : s.Shows thresholds (earlier ++ [t]))
    (hNothing : t.sample? thresholds = none) (hAvailable : t.isUnavailable = false)
    (hAsked : t'.asked = true ↔ t'.hasHost = true ∧ s.readsAccelerator = true)
    (hAnswered : t'.asked = false → t'.accelerator = none)
    (hSamples : s'.samples = s.samples ++ (t'.sample? thresholds).toList)
    (hReads : s'.readsAccelerator = (s.readsAccelerator && !t'.isUnavailable))
    (hCourse : s'.InCourse (earlier ++ [t'])) : s'.Shows thresholds (earlier ++ [t']) := by
  have hBefore : s.readsAccelerator = true ↔ ∀ t ∈ earlier, t.isUnavailable = false := by
    rw [h.reads, List.forall_mem_append, List.forall_mem_singleton]
    exact and_iff_left hAvailable
  refine ⟨?_, ?_, ?_, hCourse⟩
  · rw [hSamples, h.samples, List.filterMap_append, List.filterMap_append]
    simp only [List.filterMap_cons, hNothing, List.filterMap_nil, List.append_nil]
    cases t'.sample? thresholds <;> rfl
  · rw [hReads, Bool.and_eq_true, hBefore, List.forall_mem_append, List.forall_mem_singleton,
      Bool.not_eq_true']
  · rw [hBefore] at hAsked
    exact latched_concat_iff.mpr ⟨(latched_concat_iff.mp h.latched).1, hAsked, hAnswered⟩

theorem inCourse_of_waiting {t : Tick} {next : Millis} (hPhase : s.phase = .waiting next)
    (hEarlier : ∀ t ∈ earlier, t.isComplete = true) (hComplete : t.isComplete = true) :
    s.InCourse (earlier ++ [t]) := by
  rw [InCourse, hPhase]
  exact List.forall_mem_append.mpr ⟨hEarlier, List.forall_mem_singleton.mpr hComplete⟩

/-- A sampler asks for the accelerator only as long as it reads that. -/
theorem Shows.reads_of_asked {t : Tick} (h : s.Shows thresholds (earlier ++ [t]))
    (hAsked : t.asked = true) (hAvailable : t.isUnavailable = false) :
    s.readsAccelerator = true := by
  obtain ⟨-, hLatest, -⟩ := latched_concat_iff.mp h.latched
  rw [h.reads, List.forall_mem_append, List.forall_mem_singleton]
  exact ⟨(hLatest.mp hAsked).2, hAvailable⟩

/-- Before the host has answered the accelerator is not asked for. -/
theorem Shows.asked_eq_false {t : Tick} {next : Millis} (h : s.Shows thresholds (earlier ++ [t]))
    (hPhase : s.phase = .readingHost next) : t.asked = false := by
  have hCourse := h.course
  rw [InCourse, hPhase] at hCourse
  obtain ⟨earlier', mode, hTicks, -⟩ := hCourse
  obtain ⟨-, hLatest⟩ := List.append_inj' hTicks rfl
  obtain rfl : t = .noticed mode := by simpa using hLatest
  rfl

theorem Answered.reading?_ne {mode : Mode} {g : Group} {r : Reading}
    (h : s.Answered mode thresholds g r s') (hNext : s'.reading? = some .accelerator) :
    s.reading? ≠ some .accelerator := by
  rw [h.reading?_eq]
  cases h with
  | goesOn => nofun
  | _ => cases hNext

/-- The answer of the host ends a tick, unless the accelerator is to be read. -/
theorem Shows.hostOver {mode : Mode} {r : Reading} {next : Millis} (h : s.Shows thresholds ticks)
    (hPhase : s.phase = .readingHost next) (hNext : s'.phase = .waiting next)
    (hReads : s'.readsAccelerator = s.readsAccelerator)
    (hOver : ¬ ((⟨some r, false, none, mode⟩ : Tick).hasHost = true ∧ s.readsAccelerator = true))
    (hSamples : s'.samples =
      s.samples ++ ((⟨some r, false, none, mode⟩ : Tick).sample? thresholds).toList) :
    ∃ earlier t, ticks = earlier ++ [t] ∧
      s'.Shows thresholds (earlier ++ [t.answer (t.asked || false) .host r mode]) := by
  have hCourse := h.course
  rw [InCourse, hPhase] at hCourse
  obtain ⟨earlier, mode', rfl, hEarlier⟩ := hCourse
  have hComplete : (⟨some r, false, none, mode⟩ : Tick).isComplete = true := by cases r <;> rfl
  refine ⟨earlier, _, rfl, h.replace_latest rfl rfl ?_ (fun _ => rfl) hSamples ?_ ?_⟩
  · exact iff_of_false nofun hOver
  · rw [hReads]
    exact (Bool.and_true _).symm
  · exact inCourse_of_waiting hNext hEarlier hComplete

/-- The answer of the accelerator ends a tick. -/
theorem Shows.acceleratorOver {mode : Mode} {r : Reading} {next : Millis} {host : Metric.Values}
    {asks : Bool} (h : s.Shows thresholds ticks) (hPhase : s.phase = .readingAccelerator next host)
    (hNext : s'.phase = .waiting next)
    (hReads : s'.readsAccelerator =
      (s.readsAccelerator && !(⟨some (.values host), true, some r, mode⟩ : Tick).isUnavailable))
    (hSamples : s'.samples = s.samples ++
      ((⟨some (.values host), true, some r, mode⟩ : Tick).sample? thresholds).toList) :
    ∃ earlier t, ticks = earlier ++ [t] ∧
      s'.Shows thresholds (earlier ++ [t.answer (t.asked || asks) .accelerator r mode]) := by
  have hCourse := h.course
  rw [InCourse, hPhase] at hCourse
  obtain ⟨earlier, mode', rfl, hEarlier⟩ := hCourse
  refine ⟨earlier, _, rfl, h.replace_latest rfl rfl ?_ nofun hSamples hReads ?_⟩
  · exact iff_of_true rfl ⟨rfl, h.reads_of_asked rfl rfl⟩
  · exact inCourse_of_waiting hNext hEarlier rfl

/-- A reading of the latest tick ends. -/
theorem Shows.answered {mode : Mode} {g : Group} {r : Reading} {asks : Bool}
    (h : s.Shows thresholds ticks) (hAnswered : s.Answered mode thresholds g r s')
    (hAsks : asks = true ↔ s'.reading? = some .accelerator) :
    ∃ earlier t, ticks = earlier ++ [t] ∧
      s'.Shows thresholds (earlier ++ [t.answer (t.asked || asks) g r mode]) := by
  have hSilent (hNot : s'.reading? ≠ some .accelerator) : asks = false :=
    Bool.eq_false_iff.mpr fun hAsk => hNot (hAsks.mp hAsk)
  cases hAnswered with
  | goesOn hPhase hReads =>
      have hCourse := h.course
      rw [InCourse, hPhase] at hCourse
      obtain ⟨earlier, mode', rfl, hEarlier⟩ := hCourse
      refine ⟨earlier, _, rfl, ?_⟩
      rw [hAsks.mpr rfl]
      exact h.replace_latest rfl rfl (iff_of_true rfl ⟨rfl, hReads⟩) nofun (List.append_nil _).symm
        (Bool.and_true _).symm ⟨earlier, mode, rfl, hEarlier⟩
  | hostAlone hPhase hReads =>
      rw [hSilent nofun]
      exact h.hostOver hPhase rfl rfl (by simp [hReads]) rfl
  | hostFault hPhase =>
      rw [hSilent nofun]
      exact h.hostOver hPhase rfl rfl (by simp [Tick.hasHost]) (List.append_nil _).symm
  | hostPanic hPhase =>
      rw [hSilent nofun]
      exact h.hostOver hPhase rfl rfl (by simp [Tick.hasHost]) (List.append_nil _).symm
  | both hPhase => exact h.acceleratorOver hPhase rfl (Bool.and_true _).symm rfl
  | unavailable hPhase => exact h.acceleratorOver hPhase rfl (Bool.and_false _).symm rfl
  | @otherFault next host f hPhase hOther =>
      refine h.acceleratorOver hPhase rfl ?_ rfl
      cases f with
      | unavailable text => exact absurd rfl (hOther text)
      | _ => exact (Bool.and_true _).symm
  | acceleratorPanic hPhase =>
      exact h.acceleratorOver hPhase rfl (Bool.and_true _).symm (List.append_nil _).symm

end Sampler

/-- The sampler has the samples of its ticks, and once the monitor is stopped the summary has
them. -/
def Watch.Shows (thresholds : Mode.Thresholds) (ticks : List Tick) (w : Watch) : Prop :=
  match w.life with
  | .idle => False
  | .running _ none => ticks = []
  | .running _ (some s) => s.Shows thresholds ticks
  | .stopped summary => Latched ticks ∧ (∀ t ∈ ticks.dropLast, t.isComplete = true) ∧
    ∃ duration, summary = .ofSamples (ticks.filterMap (Tick.sample? thresholds)) duration

namespace Watch

variable {w : Watch} {ticks : List Tick} {thresholds : Mode.Thresholds}

theorem Shows.latched (h : w.Shows thresholds ticks) :
    Latched ticks ∧ ∀ t ∈ ticks.dropLast, t.isComplete = true := by
  unfold Shows at h
  split at h
  · exact h.elim
  · subst h
    exact ⟨latched_nil, nofun⟩
  · exact ⟨Sampler.Shows.latched h, Sampler.Shows.complete h⟩
  · exact ⟨h.1, h.2.1⟩

theorem Shows.requestStop (h : w.Shows thresholds ticks) :
    w.requestStop.Shows thresholds ticks := by
  unfold Watch.requestStop
  unfold Shows at h
  cases hLife : w.life with
  | idle =>
      rw [hLife] at h
      exact h.elim
  | running startedAt s? =>
      rw [hLife] at h
      cases s? with
      | none => exact h
      | some s => exact Sampler.Shows.cancel h
  | stopped summary =>
      rw [hLife] at h
      rw [Shows, hLife]
      exact h

theorem Shows.finishStop (h : w.Shows thresholds ticks)
    (hOver : ∀ s, w.sampler? = some s → s.isOver = true) (now : Millis) :
    (w.finishStop now).Shows thresholds ticks := by
  have hLatched := h.latched
  cases hLife : w.life with
  | idle =>
      rw [Shows, hLife] at h
      exact h.elim
  | running startedAt s? =>
      have hSettled := w.life_finishStop now hLife fun s hs =>
        hOver s (sampler?_eq_some_iff.mpr ⟨startedAt, hs ▸ hLife⟩)
      rw [Shows, hLife] at h
      rw [Shows, hSettled]
      refine ⟨hLatched.1, hLatched.2, now - startedAt, ?_⟩
      cases s? with
      | none =>
          subst h
          rfl
      | some s => rw [Option.elim_some, Sampler.Shows.result_eq h]
  | stopped summary => simpa [Watch.finishStop, hLife] using h

end Watch

namespace Scene

variable {c c' : Scene κ} {event : Event κ} {past : List (Happening κ)} {s s' : Sampler}
  {ticks : List Tick} {thresholds : Mode.Thresholds}

/-- The sampler gets into the line of a group when it begins to read it. -/
theorem Placed.asks_iff (h : c.Placed) (hEnabled : c.Enabled event) (g : Group) :
    (Happening.mk c event).asks g = true ↔
      c.watch.reading? ≠ some g ∧ (c.step event).watch.reading? = some g := by
  rw [Happening.asks, decide_eq_true_iff]
  exact and_congr (not_congr (h.mem_line_iff g)) ((h.step hEnabled).mem_line_iff g)

/-- The sampler goes on, and has the samples of its ticks again. -/
theorem Move.shows (hMove : c.Move s event s') (h : s.Shows c.thresholds ticks)
    (hAsks : ∀ g, (Happening.mk c event).asks g = true ↔
      s.reading? ≠ some g ∧ s'.reading? = some g) :
    s'.Shows c.thresholds (noteTick ticks ⟨c, event⟩) := by
  have hSilent {g : Group} (hNot : s'.reading? ≠ some g) :
      (Happening.mk c event).asks g = false :=
    Bool.eq_false_iff.mpr fun hAsk => hNot ((hAsks g).mp hAsk).2
  cases hMove with
  | begin hPhase =>
      rw [noteTick_of_quiet (by rintro ⟨⟩) rfl (hSilent (by rw [Sampler.reading?_begin]; nofun))]
      exact h.begin hPhase c.now
  | tick hPhase _ _ => exact h.tick hPhase _ c.mode
  | finish _ =>
      rw [noteTick_of_quiet (by rintro ⟨⟩) rfl (hSilent nofun)]
      exact h.finish
  | rest hTick hAnswer =>
      rw [noteTick_of_quiet hTick hAnswer (Bool.eq_false_iff.mpr fun hAsk => ?_)]
      · exact h
      · exact ((hAsks _).mp hAsk).1 ((hAsks _).mp hAsk).2
  | answer hAnswer hAnswered =>
      have hTick : event ≠ .tick := by
        rintro rfl
        cases hAnswer
      obtain ⟨earlier, t, rfl, hShows⟩ := h.answered hAnswered ((hAsks .accelerator).trans
        (and_iff_right_of_imp hAnswered.reading?_ne))
      rw [noteTick_concat hTick, Tick.note]
      simpa only [hAnswer] using hShows

/-- The sampler asks for the host in each tick, and for the accelerator at most once in a tick. -/
theorem Move.counts (hMove : c.Move s event s') (h : s.Shows c.thresholds ticks)
    (hAsks : ∀ g, (Happening.mk c event).asks g = true ↔
      s.reading? ≠ some g ∧ s'.reading? = some g) :
    (noteTick ticks ⟨c, event⟩).length = ticks.length + ((Happening.mk c event).asks .host).toNat ∧
      (noteTick ticks ⟨c, event⟩).countP Tick.asked =
        ticks.countP Tick.asked + ((Happening.mk c event).asks .accelerator).toNat := by
  have hSilent {g : Group} (hNot : ¬ (s.reading? ≠ some g ∧ s'.reading? = some g)) :
      (Happening.mk c event).asks g = false :=
    Bool.eq_false_iff.mpr fun hAsk => hNot ((hAsks g).mp hAsk)
  have hQuiet (hTick : event ≠ .tick) (hAnswer : c.answer? event = none)
      (hNot : ∀ g, ¬ (s.reading? ≠ some g ∧ s'.reading? = some g)) :
      (noteTick ticks ⟨c, event⟩).length =
          ticks.length + ((Happening.mk c event).asks .host).toNat ∧
        (noteTick ticks ⟨c, event⟩).countP Tick.asked =
          ticks.countP Tick.asked + ((Happening.mk c event).asks .accelerator).toNat := by
    rw [noteTick_of_quiet hTick hAnswer (hSilent (hNot _)), hSilent (hNot .host),
      hSilent (hNot .accelerator)]
    exact ⟨rfl, rfl⟩
  cases hMove with
  | begin hPhase =>
      refine hQuiet (by rintro ⟨⟩) rfl fun g hBoth => ?_
      cases (Sampler.reading?_begin _).symm.trans hBoth.2
  | finish _ => exact hQuiet (by rintro ⟨⟩) rfl fun g hBoth => by cases hBoth.2
  | rest hTick hAnswer => exact hQuiet hTick hAnswer fun g hBoth => hBoth.1 hBoth.2
  | tick hPhase _ _ =>
      have hHost : (Happening.mk c .tick).asks .host = true :=
        (hAsks .host).mpr ⟨by rw [Sampler.reading?, hPhase]; rintro ⟨⟩, rfl⟩
      have hOther : (Happening.mk c .tick).asks .accelerator = false :=
        hSilent fun hBoth => by cases hBoth.2
      rw [hHost, hOther]
      simp [noteTick, Tick.noticed]
  | answer hAnswer hAnswered =>
      have hTick : event ≠ .tick := by
        rintro rfl
        cases hAnswer
      obtain ⟨earlier, t, rfl, -⟩ := h.answered hAnswered ((hAsks .accelerator).trans
        (and_iff_right_of_imp hAnswered.reading?_ne))
      have hHost : (Happening.mk c event).asks .host = false := hSilent fun hBoth => by
        cases hAnswered <;> cases hBoth.2
      have hOnce (hAsk : (Happening.mk c event).asks .accelerator = true) : t.asked = false := by
        have hNext := ((hAsks _).mp hAsk).2
        cases hAnswered with
        | goesOn hPhase _ => exact h.asked_eq_false hPhase
        | _ => cases hNext
      rw [noteTick_concat hTick, hHost]
      refine ⟨by simp, ?_⟩
      rw [List.countP_append, List.countP_append, List.countP_singleton, List.countP_singleton,
        Tick.asked_note]
      cases hAsk : (Happening.mk c event).asks .accelerator with
      | false => simp
      | true => simp [hOnce hAsk]

/-- What happens is the sampler's doing, or makes no difference to its ticks. -/
theorem Begun.move_or_quiet (h : c.Begun) (hEnabled : c.Enabled event) :
    (∃ startedAt s s', c.watch.life = .running startedAt (some s) ∧
      (c.step event).watch.life = .running startedAt (some s') ∧ c.Move s event s' ∧
      ∀ g, (Happening.mk c event).asks g = true ↔ s.reading? ≠ some g ∧ s'.reading? = some g) ∨
    event ≠ .tick ∧ c.answer? event = none ∧ (∀ g, (Happening.mk c event).asks g = false) ∧
      ((c.step event).watch = c.watch ∨ (c.step event).watch = c.watch.requestStop ∨
        (∀ s, c.sampler? = some s → s.isOver = true) ∧
          (c.step event).watch = c.watch.finishStop c.now) := by
  have hSilent (hSame : (c.step event).watch.reading? = none ∨
      (c.step event).watch.reading? = c.watch.reading?) (g : Group) :
      (Happening.mk c event).asks g = false := by
    refine Bool.eq_false_iff.mpr fun hAsk => ?_
    obtain ⟨hBefore, hAfter⟩ := (h.placed.asks_iff hEnabled g).mp hAsk
    rcases hSame with hNone | hSame
    · cases hNone.symm.trans hAfter
    · exact hBefore (hSame.symm.trans hAfter)
  rcases event.isCall_cases with rfl | rfl | rfl | hCall
  · have hSame : (c.step .start).watch = c.watch := by rw [(start_of_called h.called).2]
    exact .inr ⟨nofun, rfl, hSilent (.inr (by rw [hSame])), .inl hSame⟩
  · have hStop : (c.step .stop).watch = c.watch.requestStop := rfl
    exact .inr ⟨nofun, rfl, hSilent (.inr (by rw [hStop, Watch.reading?_requestStop])),
      .inr (.inl hStop)⟩
  · have hOver := (enabled_stopped_iff.mp hEnabled).2
    have hNone : (c.step .stopped).watch.reading? = none :=
      Watch.reading?_of_sampler?_none (Watch.sampler?_finishStop _ hOver)
    exact .inr ⟨nofun, rfl, hSilent (.inl hNone), .inr (.inr ⟨hOver, rfl⟩)⟩
  · obtain ⟨-, ⟨hNone, hSame⟩ | ⟨startedAt, s, hLife, hAfter⟩⟩ := c.step_cases_of_not_call hCall
    · refine .inr ⟨?_, ?_, hSilent (.inr (by rw [hSame])), .inl hSame⟩
      · rintro rfl
        obtain ⟨s, due, hSampler, -⟩ := enabled_tick_iff.mp hEnabled
        cases hNone.symm.trans hSampler
      · refine Option.eq_none_iff_forall_ne_some.mpr fun answer hAnswer => ?_
        obtain ⟨s, hSampler, -⟩ := h.placed.reading?_of_answer? hEnabled hAnswer
        cases hNone.symm.trans hSampler
    · have hSampler : c.sampler? = some s := Watch.sampler?_eq_some_iff.mpr ⟨startedAt, hLife⟩
      have hNext : (c.step event).watch.life =
          .running startedAt (some (c.samplerAfter s event)) := by
        rw [hAfter]
      have hSampler' := Watch.sampler?_eq_some_iff.mpr ⟨startedAt, hNext⟩
      refine .inl ⟨startedAt, s, _, hLife, hNext, h.placed.move hEnabled hCall hSampler,
        fun g => ?_⟩
      rw [h.placed.asks_iff hEnabled, Watch.reading?_of_sampler? hSampler,
        Watch.reading?_of_sampler? hSampler']

/-- What a history has left so far: the samples of its ticks, and no reading outside of them. -/
structure Shows (past : List (Happening κ)) (c : Scene κ) : Prop where
  watch : c.watch.Shows c.thresholds (ticksOf past)
  host : askCount .host past = (ticksOf past).length
  accelerator : askCount .accelerator past = (ticksOf past).countP Tick.asked

theorem Shows.step (h : c.Shows past) (hBegun : c.Begun) (hEnabled : c.Enabled event) :
    (c.step event).Shows (past ++ [⟨c, event⟩]) := by
  have hWatch := h.watch
  rcases hBegun.move_or_quiet hEnabled with
    ⟨startedAt, s, s', hLife, hLife', hMove, hAsks⟩ | ⟨hTick, hAnswer, hSilent, hCases⟩
  · rw [Watch.Shows, hLife] at hWatch
    obtain ⟨hHost, hAccelerator⟩ := hMove.counts hWatch hAsks
    refine ⟨?_, ?_, ?_⟩
    · rw [ticksOf_concat, Watch.Shows, hLife']
      exact hMove.shows hWatch hAsks
    · rw [askCount_concat, h.host, ticksOf_concat, hHost]
    · rw [askCount_concat, h.accelerator, ticksOf_concat, hAccelerator]
  · have hTicks : ticksOf (past ++ [⟨c, event⟩]) = ticksOf past := by
      rw [ticksOf_concat, noteTick_of_quiet hTick hAnswer (hSilent _)]
    refine ⟨?_, ?_, ?_⟩
    · rw [hTicks]
      rcases hCases with hSame | hStop | ⟨hOver, hStopped⟩
      · rw [hSame]
        exact hWatch
      · rw [hStop]
        exact hWatch.requestStop
      · rw [hStopped]
        exact hWatch.finishStop hOver c.now
    · rw [askCount_concat, hSilent, hTicks, h.host]
      rfl
    · rw [askCount_concat, hSilent, hTicks, h.accelerator]
      rfl

theorem Shows.of_history (h : c.Shows past) (hBegun : c.Begun) {later : List (Happening κ)}
    (hLater : History c later c') : c'.Shows (past ++ later) := by
  induction hLater generalizing past with
  | nil c => rwa [List.append_nil]
  | cons hEnabled rest ih =>
      have hRest := ih (h.step hBegun hEnabled) (hBegun.step hEnabled)
      rwa [List.append_assoc] at hRest

theorem Fresh.shows_start {trace : String} {options : Options} (h : c.Fresh trace options) :
    (c.step .start).Shows [] := by
  refine ⟨?_, rfl, rfl⟩
  show (c.watchAfter .start).Shows _ []
  simp only [watchAfter, h.watch, Watch.start, Watch.make, Watch.Shows]
  by_cases hEnabled : options.enabled = true
  · simp only [hEnabled, if_true]
    exact ⟨rfl, by simp [Sampler.make], latched_nil, rfl⟩
  · simp [hEnabled]

/-! ## The next tick -/

/-- No stop was called, and the sampler, if there is one, has not ended. -/
structure Going (c : Scene κ) : Prop where
  stopping : c.stopping = false
  live : ∃ startedAt s?, c.watch.life = .running startedAt s? ∧
    ∀ s, s? = some s → s.cancelled = false ∧ s.phase ≠ .ended

/-- The sampler waits for the tick that is due at a time. -/
structure Waits (due : Millis) (c : Scene κ) : Prop where
  stopping : c.stopping = false
  live : ∃ startedAt s, c.watch.life = .running startedAt (some s) ∧ s.phase = .waiting due ∧
    s.cancelled = false

omit [DecidableEq κ] in
/-- A sampler that was not told to end goes on. -/
theorem Move.live (hMove : c.Move s event s') (hLive : s.cancelled = false)
    (hPhase : s.phase ≠ .ended) : s'.phase ≠ .ended := by
  cases hMove with
  | begin _ =>
      show (s.begin c.now).phase ≠ .ended
      unfold Sampler.begin
      by_cases hKeeps : Sampler.canKeep s.interval c.now = true <;> simp [hKeeps]
  | tick _ _ _ => nofun
  | answer _ hAnswered => cases hAnswered <;> nofun
  | finish hFinish => cases hLive.symm.trans (Sampler.cancelled_of_canFinish hFinish)
  | rest _ _ => exact hPhase

theorem Going.step (h : c.Going) (hBegun : c.Begun) (hEnabled : c.Enabled event)
    (hStop : event ≠ .stop) : (c.step event).Going := by
  obtain ⟨startedAt, s?, hLife, hLive⟩ := h.live
  rcases hBegun.step_eq_or hEnabled h.stopping hStop with hSame | hCall
  · rwa [hSame]
  · obtain ⟨hStopping, ⟨hNone, hSame⟩ | ⟨startedAt', s, hLife', hAfter⟩⟩ :=
      c.step_cases_of_not_call hCall
    · exact ⟨hStopping.trans h.stopping, startedAt, s?, by rw [hSame, hLife], hLive⟩
    · have hSampler : c.sampler? = some s := Watch.sampler?_eq_some_iff.mpr ⟨startedAt', hLife'⟩
      obtain rfl : some s = s? := by
        cases hLife'.symm.trans hLife
        rfl
      obtain ⟨hTold, hPhase⟩ := hLive s rfl
      refine ⟨hStopping.trans h.stopping, startedAt', _, by rw [hAfter], ?_⟩
      rintro s' ⟨⟩
      exact ⟨cancelled_samplerAfter.trans hTold,
        (hBegun.placed.move hEnabled hCall hSampler).live hTold hPhase⟩

theorem Going.of_history (h : c.Going) (hBegun : c.Begun) (hPast : History c past c')
    (hStop : ∀ h ∈ past, h.event ≠ .stop) : c'.Going :=
  hBegun.preserves hPast hStop
    (fun _ _ hBegun hEnabled hStop hGoing => hGoing.step hBegun hEnabled hStop) h

theorem Fresh.going_start {trace : String} {options : Options} (h : c.Fresh trace options) :
    (c.step .start).Going := by
  refine ⟨h.stopping, c.now, if options.enabled then some (.make options.interval) else none,
    ?_, ?_⟩
  · show (c.watchAfter .start).life = _
    simp [watchAfter, h.watch, Watch.start, Watch.make]
  · intro s hs
    split at hs
    · cases hs
      exact ⟨rfl, by rintro ⟨⟩⟩
    · cases hs

omit [DecidableEq κ] in
/-- However its latest tick has come to an end, a sampler that goes on waits for the next one. -/
theorem Going.waits (h : c.Going) {ticks : List Tick} (hShows : c.watch.Shows thresholds ticks)
    (hTicks : ticks ≠ []) (hComplete : ∀ t ∈ ticks, t.isComplete = true) : ∃ due, c.Waits due := by
  obtain ⟨startedAt, s?, hLife, hLive⟩ := h.live
  rw [Watch.Shows, hLife] at hShows
  cases s? with
  | none => exact absurd hShows hTicks
  | some s =>
      obtain ⟨hTold, hNotEnded⟩ := hLive s rfl
      have hCourse := hShows.course
      unfold Sampler.InCourse at hCourse
      have hOpen {earlier : List Tick} {t : Tick} (hSplit : ticks = earlier ++ [t])
          (hNot : t.isComplete = false) : ∃ due, c.Waits due := by
        cases hNot.symm.trans (hComplete t (by simp [hSplit]))
      cases hPhase : s.phase with
      | waiting due => exact ⟨due, h.stopping, startedAt, s, hLife, hPhase, hTold⟩
      | starting | crashed =>
          rw [hPhase] at hCourse
          exact absurd hCourse hTicks
      | readingHost next | readingAccelerator next host =>
          rw [hPhase] at hCourse
          obtain ⟨earlier, mode, hSplit, -⟩ := hCourse
          exact hOpen hSplit rfl
      | ended => exact absurd hPhase hNotEnded

theorem Waits.step {due : Millis} (h : c.Waits due) (hBegun : c.Begun) (hEnabled : c.Enabled event)
    (hStop : event ≠ .stop) (hTick : event ≠ .tick) : (c.step event).Waits due := by
  obtain ⟨startedAt, s, hLife, hPhase, hTold⟩ := h.live
  have hSampler : c.sampler? = some s := Watch.sampler?_eq_some_iff.mpr ⟨startedAt, hLife⟩
  rcases hBegun.step_eq_or hEnabled h.stopping hStop with hSame | hCall
  · rwa [hSame]
  · have hAfter : (c.step event).watch.life =
        .running startedAt (some (c.samplerAfter s event)) := by
      show (c.watchAfter event).life = _
      rw [watchAfter_of_sampler hCall hSampler, Watch.life_withSampler hLife]
    have hMove := hBegun.placed.move hEnabled hCall hSampler
    refine ⟨(c.step_cases_of_not_call hCall).1.trans h.stopping, startedAt, _, hAfter, ?_,
      cancelled_samplerAfter.trans hTold⟩
    generalize c.samplerAfter s event = s' at hMove
    cases hMove with
    | begin hStarting => cases hPhase.symm.trans hStarting
    | tick _ _ _ => exact absurd rfl hTick
    | answer _ hAnswered =>
        have hReading := hAnswered.reading?_eq
        rw [Sampler.reading?, hPhase] at hReading
        cases hReading
    | finish hFinish => cases hTold.symm.trans (Sampler.cancelled_of_canFinish hFinish)
    | rest _ _ => exact hPhase

theorem Waits.of_history {due : Millis} (h : c.Waits due) (hBegun : c.Begun)
    (hPast : History c past c') (hQuiet : ∀ h ∈ past, h.event ≠ .stop ∧ h.event ≠ .tick) :
    c'.Waits due :=
  hBegun.preserves hPast hQuiet
    (fun _ _ hBegun hEnabled hQuiet hWaits => hWaits.step hBegun hEnabled hQuiet.1 hQuiet.2) h

theorem Waits.enabled_tick_iff {due : Millis} (h : c.Waits due) :
    c.Enabled .tick ↔ due ≤ c.now := by
  obtain ⟨startedAt, s, hLife, hPhase, hTold⟩ := h.live
  have hSampler : c.sampler? = some s := Watch.sampler?_eq_some_iff.mpr ⟨startedAt, hLife⟩
  rw [Scene.enabled_tick_iff]
  constructor
  · rintro ⟨s', due', hs, hPhase', hDue, -⟩
    obtain rfl := Option.some.inj (hs.symm.trans hSampler)
    cases hPhase'.symm.trans hPhase
    exact hDue
  · intro hDue
    exact ⟨s, due, hSampler, hPhase, hDue, hTold⟩

end Scene

open Scene

/-! ## A run -/

/-- What the ticks of a run have to do with its samples and its readings. -/
structure Isolation (thresholds : Mode.Thresholds) (past : List (Happening κ)) (c' : Scene κ) :
    Prop where
  /-- The sampler has the samples of its ticks, in their order. -/
  samples : ∀ s, c'.sampler? = some s →
    s.samples = (ticksOf past).filterMap (Tick.sample? thresholds)
  /-- And so has the summary, once the monitor is stopped. -/
  summary : ∀ summary, c'.watch.summary? = some summary → ∃ duration,
    summary = .ofSamples ((ticksOf past).filterMap (Tick.sample? thresholds)) duration
  /-- A tick leaves a sample if it was completed, the host gave its measurements, and the
  accelerator did not panic. -/
  recorded : ∀ t ∈ ticksOf past, (t.sample? thresholds).isSome = true ↔
    t.isComplete = true ∧ t.hasHost = true ∧ t.hasPanic = false
  /-- The sample has what the host gave, and what the accelerator gave if it did. -/
  contents : ∀ t ∈ ticksOf past, ∀ sample, t.sample? thresholds = some sample →
    ∃ host, t.host = some (.values host) ∧ sample.values =
      match t.accelerator with
      | some (.values v) => host.merge v
      | _ => host
  /-- The accelerator is asked for until it is unavailable. -/
  latched : Latched (ticksOf past)
  /-- Each tick asks for the host. -/
  host : askCount .host past = (ticksOf past).length
  /-- The accelerator is not asked for outside of the ticks. -/
  accelerator : askCount .accelerator past = (ticksOf past).countP Tick.asked
  /-- Only the latest tick may be unfinished. -/
  complete : ∀ t ∈ (ticksOf past).dropLast, t.isComplete = true
  /-- However the latest tick has ended, there is a time from which on the next one is noticed, as
  long as no stop is called. -/
  goesOn : ticksOf past ≠ [] → (∀ t ∈ ticksOf past, t.isComplete = true) →
    (∀ h ∈ past, h.event ≠ .stop) → ∃ due, ∀ (later : List (Happening κ)) c'',
      History c' later c'' → (∀ h ∈ later, h.event ≠ .stop ∧ h.event ≠ .tick) →
        (c''.Enabled .tick ↔ due ≤ c''.now)

/-- Whatever the readings of a run come to, and whenever it is stopped, its ticks do not spoil each
other. -/
theorem ticks_stand_alone {trace : String} {options : Options} {c c' : Scene κ}
    {past : List (Happening κ)} (hFresh : c.Fresh trace options)
    (hPast : History (c.step .start) past c') : Isolation c'.thresholds past c' := by
  have hBegun := hFresh.begun_start
  have hShows : c'.Shows past := hFresh.shows_start.of_history hBegun hPast
  have hWatch := hShows.watch
  obtain ⟨hLatched, hComplete⟩ := hWatch.latched
  have hAnswered (t : Tick) (ht : t ∈ ticksOf past) : t.asked = false → t.accelerator = none := by
    obtain ⟨earlier, later, hSplit⟩ := List.append_of_mem ht
    exact (hLatched earlier t later hSplit).2
  refine ⟨?_, ?_, ?_, ?_, hLatched, hShows.host, hShows.accelerator, hComplete, ?_⟩
  · intro s hSampler
    obtain ⟨startedAt, hLife⟩ := Watch.sampler?_eq_some_iff.mp hSampler
    rw [Watch.Shows, hLife] at hWatch
    exact hWatch.samples
  · intro summary hSummary
    obtain hLife : c'.watch.life = .stopped summary := by
      unfold Watch.summary? at hSummary
      split at hSummary
      · next hLife =>
          cases hSummary
          exact hLife
      · cases hSummary
    rw [Watch.Shows, hLife] at hWatch
    exact hWatch.2.2
  · exact fun t ht => t.isSome_sample?_iff _ (hAnswered t ht)
  · exact fun t ht sample hSample => Tick.values_of_sample? (hAnswered t ht) hSample
  · intro hTicks hAll hStop
    obtain ⟨due, hWaits⟩ :=
      (hFresh.going_start.of_history hBegun hPast hStop).waits hWatch hTicks hAll
    refine ⟨due, fun later c'' hLater hQuiet => ?_⟩
    exact (hWaits.of_history (hBegun.of_history hPast) hLater hQuiet).enabled_tick_iff

/-- Ticks that end in all kinds of ways: the host cannot be read, its poll panics, the accelerator
times out, its poll panics, it answers, and it is unavailable; and then one more. -/
def mixedTicks : List (Event Nat) :=
  [.begin, .pass 5000, .tick, .look .host, .fail .host (.unparsable ""),
    .pass 5000, .tick, .look .host, .panic .host,
    .pass 5000, .tick, .look .host, .succeed .host [], .look .accelerator,
    .fail .accelerator (.timedOut 2000),
    .pass 5000, .tick, .look .host, .look .accelerator, .panic .accelerator,
    .pass 5000, .tick, .look .host, .succeed .host [], .look .accelerator, .succeed .accelerator [],
    .pass 50000, .tick, .look .host, .succeed .host [], .look .accelerator,
    .fail .accelerator (.unavailable ""),
    .pass 5000, .tick, .look .host]

theorem four_samples_of_mixedTicks :
    let c := (lone ⟨true, 5000⟩).step .start
    let past := c.happenings mixedTicks
    c.AllEnabled mixedTicks ∧ askCount .accelerator past = 4 ∧
      ∀ s, (mixedTicks.foldl step c).sampler? = some s → s.samples.length = 4 := by
  intro c past
  have hEnabled : c.AllEnabled mixedTicks := by decide
  have hIsolation := ticks_stand_alone (fresh_lone ⟨true, 5000⟩) (history_happenings hEnabled)
  refine ⟨hEnabled, ?_, fun s hSampler => ?_⟩
  · rw [hIsolation.accelerator]
    decide +kernel
  · rw [hIsolation.samples s hSampler]
    decide +kernel

end SteadyTask.Monitor
