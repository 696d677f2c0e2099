import Mathlib.Data.List.Enum
import SteadyTask.Proofs.Metric.Values
import SteadyTask.Proofs.Mode.Steps

/-!
# Breaches

A violation is a known measurement above its ceiling, in the mode that was in force.  A summary has
exactly these, each once: in the order of the samples, and by name within a sample.  So a
measurement that is violated has an aggregate, and the controller takes the summary for a breach
exactly if some measurement was above its ceiling.

How values are rounded for the aggregates is not settled here.
-/

namespace SteadyTask.Mode

/-- A measurement has a ceiling. -/
inductive Ceilings.Limits (c : Ceilings) : String → Float → Prop
  | cpu : Limits c Metric.cpuPercent c.cpu
  | memory : Limits c Metric.memoryPercent c.memory
  | accelerator : Limits c Metric.acceleratorPercent c.accelerator

theorem Ceilings.of?_eq_some_iff {c : Ceilings} {metric : String} {ceiling : Float} :
    c.of? metric = some ceiling ↔ c.Limits metric ceiling := by
  constructor
  · intro h
    unfold of? at h
    split at h
    · next hMetric =>
        cases h
        exact hMetric ▸ .cpu
    · split at h
      · next hMetric =>
          cases h
          exact hMetric ▸ .memory
      · split at h
        · next hMetric =>
            cases h
            exact hMetric ▸ .accelerator
        · cases h
  · intro h
    cases h <;> rfl

/-- The controller takes a summary for a breach: in normal operation it goes on alert, on alert it
does not calm down, and degraded or in recovery it starts to count anew. -/
def Controller.TakesForBreach (c : Controller) (summary : Metric.Summary) : Prop :=
  match c.mode with
  | .normal => (c.evaluate summary).1.mode = .alert
  | .alert => (c.evaluate summary).1.mode ≠ .normal
  | .degraded | .recovery => c.evaluate summary = ({ c with clearStreak := 0 }, none)
  | .lockdown => False

namespace Controller

variable {c : Controller} {summary : Metric.Summary}

/-- A controller that goes on counting does not start anew. -/
theorem count_ne_anew {next : Controller} {t? : Option Transition}
    (h : (next, t?) = ({ c with clearStreak := 0 }, none)) : next.clearStreak = 0 ∧ t? = none := by
  obtain ⟨rfl, rfl⟩ := Prod.mk.inj h
  exact ⟨rfl, rfl⟩

/-- Only lockdown makes no difference between a breach and none. -/
theorem takesForBreach_iff (hMode : c.mode ≠ .lockdown) :
    c.TakesForBreach summary ↔ summary.isBreach = true := by
  unfold TakesForBreach
  cases hNow : c.mode with
  | lockdown => exact absurd hNow hMode
  | normal =>
      cases hBreach : summary.isBreach with
      | true =>
          rw [evaluate_normal_breach hNow hBreach]
          exact iff_of_true rfl rfl
      | false =>
          rw [evaluate_normal_clear hNow hBreach]
          exact iff_of_false (by simp [hNow]) Bool.false_ne_true
  | alert =>
      cases hBreach : summary.isBreach with
      | true =>
          refine iff_of_true ?_ rfl
          by_cases hFew : c.breachStreak + 1 < c.degradeAfter
          · rw [evaluate_alert_stay hNow hBreach hFew]
            show c.mode ≠ .normal
            rw [hNow]
            decide
          · rw [evaluate_alert_degrade hNow hBreach hFew]
            show Mode.degraded ≠ .normal
            decide
      | false =>
          rw [evaluate_alert_clear hNow hBreach]
          exact iff_of_false (fun hNot => hNot rfl) Bool.false_ne_true
  | degraded =>
      cases hBreach : summary.isBreach with
      | true => exact iff_of_true (evaluate_degraded_breach hNow hBreach) rfl
      | false =>
          refine iff_of_false (fun hSame => ?_) Bool.false_ne_true
          by_cases hFew : c.recoverAfter = 0 ∨ c.clearStreak + 1 < c.recoverAfter
          · rw [evaluate_degraded_stay hNow hBreach hFew] at hSame
            exact Nat.succ_ne_zero _ (count_ne_anew hSame).1
          · rw [evaluate_degraded_recover hNow hBreach hFew] at hSame
            cases (count_ne_anew hSame).2
  | recovery =>
      cases hBreach : summary.isBreach with
      | true => exact iff_of_true (evaluate_recovery_breach hNow hBreach) rfl
      | false =>
          refine iff_of_false (fun hSame => ?_) Bool.false_ne_true
          by_cases hFew : c.clearStreak + 1 < c.checks
          · rw [evaluate_recovery_stay hNow hBreach hFew] at hSame
            exact Nat.succ_ne_zero _ (count_ne_anew hSame).1
          · rw [evaluate_recovery_pass hNow hBreach hFew] at hSame
            cases (count_ne_anew hSame).2

end Controller

end SteadyTask.Mode

namespace SteadyTask.Metric

/-- What a sample is made of: measurements, and the mode in force with its ceilings. -/
structure Observation where
  values : Values
  mode : Mode
  ceilings : Mode.Ceilings
  sorted : values.Sorted

namespace Observation

/-- The sample of an observation. -/
def sample (o : Observation) : Sample :=
  .record o.values o.mode o.ceilings

/-- A measurement is above its ceiling, in the mode in force. -/
structure Exceeds (o : Observation) (v : Violation) : Prop where
  measured : o.values.get? v.metric = some v.value
  limited : o.ceilings.Limits v.metric v.ceiling
  above : v.value > v.ceiling
  mode_eq : v.mode = o.mode

variable {o : Observation} {v : Violation}

theorem judge_eq_some_iff {mode : Mode} {ceilings : Mode.Ceilings} {p : String × Float} :
    judge mode ceilings p = some v ↔
      p = (v.metric, v.value) ∧ ceilings.Limits v.metric v.ceiling ∧ v.value > v.ceiling ∧
        v.mode = mode := by
  unfold judge
  constructor
  · intro h
    split at h
    · cases h
    · next ceiling hCeiling =>
        split at h
        · next hAbove =>
            cases h
            exact ⟨rfl, Mode.Ceilings.of?_eq_some_iff.mp hCeiling, hAbove, rfl⟩
        · cases h
  · rintro ⟨rfl, hLimited, hAbove, rfl⟩
    rw [Mode.Ceilings.of?_eq_some_iff.mpr hLimited]
    exact if_pos hAbove

/-- The violations of a sample are the measurements above their ceilings. -/
theorem mem_violations_iff : v ∈ o.sample.violations ↔ o.Exceeds v := by
  show v ∈ o.values.filterMap (judge o.mode o.ceilings) ↔ _
  rw [List.mem_filterMap]
  constructor
  · rintro ⟨p, hp, hJudge⟩
    obtain ⟨rfl, hLimited, hAbove, hMode⟩ := judge_eq_some_iff.mp hJudge
    exact ⟨o.sorted.get?_eq_some_iff.mpr hp, hLimited, hAbove, hMode⟩
  · rintro ⟨hMeasured, hLimited, hAbove, hMode⟩
    exact ⟨_, o.sorted.get?_eq_some_iff.mp hMeasured,
      judge_eq_some_iff.mpr ⟨rfl, hLimited, hAbove, hMode⟩⟩

/-- They come by name. -/
theorem pairwise_violations (o : Observation) :
    o.sample.violations.Pairwise fun v w => v.metric < w.metric := by
  refine List.Pairwise.filterMap _ (fun p q hLess v hv w hw => ?_) o.sorted
  obtain ⟨rfl, -⟩ := judge_eq_some_iff.mp hv
  obtain ⟨rfl, -⟩ := judge_eq_some_iff.mp hw
  exact hLess

end Observation

/-! ## Summaries -/

theorem Aggregate.isEmpty_ofList {xs : List Float} : (Aggregate.ofList xs).isEmpty = true ↔ xs = [] := by
  cases xs with
  | nil => exact iff_of_true rfl rfl
  | cons x xs => exact iff_of_false Bool.false_ne_true (List.cons_ne_nil x xs)

variable {observations : List Observation} {v : Violation}

/-- Violations come in order: those of an earlier sample first, and by name within a sample. -/
def Precedes (p q : Nat × Violation) : Prop :=
  p.1 < q.1 ∨ p.1 = q.1 ∧ p.2.metric < q.2.metric

/-- The violations of all samples, each with the place of its sample. -/
def placedViolations (observations : List Observation) : List (Nat × Violation) :=
  observations.zipIdx.flatMap fun (o, place) => o.sample.violations.map fun v => (place, v)

theorem map_snd_placedViolations (observations : List Observation) :
    (placedViolations observations).map Prod.snd =
      (observations.map Observation.sample).flatMap Sample.violations := by
  have hPlace (o : Observation) (place : Nat) :
      (o.sample.violations.map fun v => (place, v)).map Prod.snd = o.sample.violations := by
    rw [List.map_map]
    exact List.map_id _
  rw [placedViolations, List.map_flatMap, List.flatMap_map]
  simp only [hPlace]
  conv_rhs => rw [← List.zipIdx_map_fst 0 observations, List.flatMap_map]

theorem mem_placedViolations_iff {place : Nat} :
    (place, v) ∈ placedViolations observations ↔
      ∃ o, observations[place]? = some o ∧ o.Exceeds v := by
  simp only [placedViolations, List.mem_flatMap, List.mem_map, Prod.exists, Prod.mk.injEq,
    List.mem_zipIdx_iff_getElem?]
  constructor
  · rintro ⟨o, place', hPlace, v', hv, rfl, rfl⟩
    exact ⟨o, hPlace, Observation.mem_violations_iff.mp hv⟩
  · rintro ⟨o, hPlace, hExceeds⟩
    exact ⟨o, place, hPlace, v, Observation.mem_violations_iff.mpr hExceeds, rfl, rfl⟩

theorem pairwise_placedViolations (observations : List Observation) :
    (placedViolations observations).Pairwise Precedes := by
  -- Within a sample names decide, and between two samples their places.
  rw [placedViolations, List.pairwise_flatMap]
  constructor
  · rintro ⟨o, place⟩ -
    rw [List.pairwise_map]
    exact o.pairwise_violations.imp fun hLess => .inr ⟨rfl, hLess⟩
  · have hPlaces : (observations.zipIdx.map Prod.snd).Pairwise (· < ·) := by
      rw [List.zipIdx_map_snd]
      exact List.pairwise_lt_range'
    refine (List.pairwise_map.mp hPlaces).imp ?_
    rintro ⟨o, place⟩ ⟨o', place'⟩ hLess p hp q hq
    obtain ⟨v, -, rfl⟩ := List.mem_map.mp hp
    obtain ⟨w, -, rfl⟩ := List.mem_map.mp hq
    exact .inl hLess

/-- A summary reports what some observations come to. -/
structure Summary.Reports (summary : Summary) (observations : List Observation) : Prop where
  count : summary.sampleCount = observations.length
  /-- The violations are the measurements above their ceilings, each once and in order. -/
  violations : ∃ placed : List (Nat × Violation), summary.violations = placed.map Prod.snd ∧
    placed.Pairwise Precedes ∧
    ∀ place v, (place, v) ∈ placed ↔ ∃ o, observations[place]? = some o ∧ o.Exceeds v
  /-- An aggregate is empty if no sample has its measurement. -/
  aggregates : ∀ metric a, (metric, a) ∈ summary.aggregates →
    (a.isEmpty = true ↔ ∀ o ∈ observations, o.values.get? metric = none)
  /-- A measurement that is violated has an aggregate. -/
  violated : ∀ v ∈ summary.violations, ∃ a, (v.metric, a) ∈ summary.aggregates ∧ a.isEmpty = false
  breach : summary.isBreach = true ↔ ∃ o ∈ observations, ∃ v, o.Exceeds v
  /-- The controller takes the summary for a breach if some measurement was above its ceiling. -/
  evaluated : ∀ c : Mode.Controller, c.mode ≠ .lockdown →
    (c.TakesForBreach summary ↔ ∃ o ∈ observations, ∃ v, o.Exceeds v)

theorem exists_mem_violations_iff :
    (∃ v, v ∈ (observations.map Observation.sample).flatMap Sample.violations) ↔
      ∃ o ∈ observations, ∃ v, o.Exceeds v := by
  simp only [List.mem_flatMap, List.mem_map]
  constructor
  · rintro ⟨v, _, ⟨o, ho, rfl⟩, hv⟩
    exact ⟨o, ho, v, Observation.mem_violations_iff.mp hv⟩
  · rintro ⟨o, ho, v, hExceeds⟩
    exact ⟨v, _, ⟨o, ho, rfl⟩, Observation.mem_violations_iff.mpr hExceeds⟩

/-- No values are taken of a measurement that no sample has. -/
theorem valuesOf_eq_nil_iff {metric : String} :
    Summary.valuesOf (observations.map Observation.sample) metric = [] ↔
      ∀ o ∈ observations, o.values.get? metric = none := by
  rw [Summary.valuesOf, List.filterMap_eq_nil_iff, List.forall_mem_map]
  exact Iff.rfl

/-- Every known measurement has its aggregate in a summary. -/
theorem exists_aggregate {c : Mode.Ceilings} {metric : String} {ceiling : Float}
    (h : c.Limits metric ceiling) (samples : List Sample) (duration : Millis) :
    (metric, Aggregate.ofList (Summary.valuesOf samples metric)) ∈
      (Summary.ofSamples samples duration).aggregates := by
  cases h with
  | cpu => exact .head _
  | memory => exact .tail _ (.head _)
  | accelerator => exact .tail _ (.tail _ (.head _))

/-- What is summed up of samples reports their observations. -/
theorem reports_ofSamples (observations : List Observation) (duration : Millis) :
    (Summary.ofSamples (observations.map Observation.sample) duration).Reports observations := by
  have hBreach : (Summary.ofSamples (observations.map Observation.sample) duration).isBreach = true ↔
      ∃ o ∈ observations, ∃ v, o.Exceeds v := by
    rw [← exists_mem_violations_iff, Summary.isBreach, Bool.not_eq_true',
      List.isEmpty_eq_false_iff_exists_mem]
    exact Iff.rfl
  refine ⟨List.length_map _, ⟨placedViolations observations, ?_, pairwise_placedViolations _,
    fun place v => mem_placedViolations_iff⟩, ?_, ?_, hBreach, ?_⟩
  · exact (map_snd_placedViolations observations).symm
  · intro metric a hAggregate
    have hOfList : a = .ofList (Summary.valuesOf (observations.map Observation.sample) metric) := by
      simp only [Summary.aggregates, Summary.ofSamples, List.mem_cons, Prod.mk.injEq,
        List.not_mem_nil, or_false] at hAggregate
      rcases hAggregate with ⟨rfl, rfl⟩ | ⟨rfl, rfl⟩ | ⟨rfl, rfl⟩
      all_goals rfl
    rw [hOfList, Aggregate.isEmpty_ofList, valuesOf_eq_nil_iff]
  · intro v hv
    obtain ⟨sample, hSample, hv⟩ := List.mem_flatMap.mp hv
    obtain ⟨o, ho, rfl⟩ := List.mem_map.mp hSample
    have hExceeds := Observation.mem_violations_iff.mp hv
    -- The sample that it was measured in has a value for the aggregate.
    refine ⟨_, exists_aggregate hExceeds.limited _ duration, Bool.eq_false_iff.mpr fun hEmpty => ?_⟩
    have hNone := valuesOf_eq_nil_iff.mp (Aggregate.isEmpty_ofList.mp hEmpty) o ho
    cases hNone.symm.trans hExceeds.measured
  · exact fun c hMode => (Mode.Controller.takesForBreach_iff hMode).trans hBreach

/-- A monitor without samples has nothing to report. -/
theorem reports_empty (seconds : Float) : (Summary.empty seconds).Reports [] := by
  have hBreach : (Summary.empty seconds).isBreach = true ↔
      ∃ o ∈ ([] : List Observation), ∃ v, o.Exceeds v :=
    iff_of_false Bool.false_ne_true (by rintro ⟨o, ⟨⟩, -⟩)
  refine ⟨rfl, ⟨[], rfl, .nil, fun place v => iff_of_false nofun (by rintro ⟨o, ⟨⟩, -⟩)⟩, ?_, nofun,
    hBreach, fun c hMode => (Mode.Controller.takesForBreach_iff hMode).trans hBreach⟩
  intro metric a hAggregate
  have hEmpty : a = .empty := by
    simp only [Summary.aggregates, Summary.empty, List.mem_cons, Prod.mk.injEq,
      List.not_mem_nil, or_false] at hAggregate
    rcases hAggregate with ⟨-, rfl⟩ | ⟨-, rfl⟩ | ⟨-, rfl⟩
    all_goals rfl
  rw [hEmpty]
  exact iff_of_true rfl nofun

end SteadyTask.Metric
