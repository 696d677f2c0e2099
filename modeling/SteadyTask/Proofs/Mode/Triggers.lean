import SteadyTask.Proofs.Metric.Comparison
import SteadyTask.Proofs.Mode.Steps

/-!
# What a breach leaves as triggers

A change for the worse names the measurements that were violated.  Its triggers are a summary of the
violations: each violated measurement once, in the order in which the measurements were first
violated, with the greatest of its values.  The summary is taken in one pass that keeps it complete
at every violation.

The order of the violations decides nothing but the order of the triggers.  Only where two greatest
values compare equal and are not the same, which happens with the two zeros alone, it decides which
of the two is named.

Values that are not numbers are left out here: where there are any, the values of a measurement
need not have a greatest one.
-/

namespace SteadyTask.Mode

open SteadyTask.Metric (Violation)

/-- All values are numbers. -/
def Numeric (violations : List Violation) : Prop :=
  ∀ v ∈ violations, v.value.isNaN = false

/-- Values that compare equal are the same; so it is where no measurement has both zeros. -/
def Distinguished (violations : List Violation) : Prop :=
  ∀ v ∈ violations, ∀ w ∈ violations, v.metric = w.metric → (v.value == w.value) = true →
    v.value = w.value

/-- The triggers summarise the violations. -/
structure Summarises (triggers : List Trigger) (violations : List Violation) : Prop where
  /-- The measurements are those violated, in the order of their first violation. -/
  metrics : triggers.map Trigger.metric = (violations.map Violation.metric).eraseDups
  once : (triggers.map Trigger.metric).Nodup
  attained : ∀ t ∈ triggers, ∃ v ∈ violations, v.metric = t.metric ∧ v.value = t.value
  greatest : ∀ t ∈ triggers, ∀ v ∈ violations, v.metric = t.metric → v.value ≤ t.value

/-! ## Entering a violation -/

section Raise

variable {metric : String} {value : Float} {triggers : List Trigger} {t : Trigger}

/-- A measurement that is new comes last; one that is not stays where it is. -/
theorem map_metric_raiseTrigger :
    (raiseTrigger metric value triggers).map Trigger.metric =
      if metric ∈ triggers.map Trigger.metric then triggers.map Trigger.metric
      else triggers.map Trigger.metric ++ [metric] := by
  induction triggers with
  | nil => rfl
  | cons u rest ih =>
      by_cases hMetric : u.metric = metric
      · simp only [raiseTrigger, hMetric, List.map_cons, List.mem_cons, true_or, if_true]
        split <;> simp only [hMetric]
      · have hOther : metric ≠ u.metric := Ne.symm hMetric
        simp only [raiseTrigger, if_neg hMetric, List.map_cons, ih, List.mem_cons, hOther, false_or]
        split <;> rfl

/-- A trigger after entering a violation stood there before and is not below the violation, or it
is the violation and stands above what stood there before. -/
theorem mem_raiseTrigger (hOnce : (triggers.map Trigger.metric).Nodup)
    (h : t ∈ raiseTrigger metric value triggers) :
    t ∈ triggers ∧ (t.metric = metric → ¬ t.value < value) ∨
      t = ⟨metric, value⟩ ∧ ∀ u ∈ triggers, u.metric = metric → u.value < value := by
  induction triggers with
  | nil => exact .inr ⟨List.mem_singleton.mp h, nofun⟩
  | cons u rest ih =>
      obtain ⟨hNew, hRest⟩ := List.nodup_cons.mp hOnce
      by_cases hMetric : u.metric = metric
      · -- the violation meets its measurement, which the rest does not name
        have hElse : ∀ w ∈ rest, w.metric ≠ metric := fun w hw hSame =>
          hNew (hMetric ▸ hSame ▸ List.mem_map_of_mem hw)
        rw [raiseTrigger, if_pos hMetric] at h
        rcases List.mem_cons.mp h with rfl | hOld
        · split
          · next hAbove =>
              refine .inr ⟨by rw [hMetric], fun w hw hSame => ?_⟩
              rcases List.mem_cons.mp hw with rfl | hw
              · exact hAbove
              · exact absurd hSame (hElse w hw)
          · next hBelow => exact .inl ⟨List.mem_cons_self, fun _ => hBelow⟩
        · exact .inl ⟨List.mem_cons_of_mem _ hOld, fun hSame => absurd hSame (hElse t hOld)⟩
      · rw [raiseTrigger, if_neg hMetric] at h
        rcases List.mem_cons.mp h with rfl | hOld
        · exact .inl ⟨List.mem_cons_self, fun hSame => absurd hSame hMetric⟩
        · rcases ih hRest hOld with ⟨hThere, hBelow⟩ | ⟨hSame, hAbove⟩
          · exact .inl ⟨List.mem_cons_of_mem _ hThere, hBelow⟩
          · refine .inr ⟨hSame, fun w hw hw' => ?_⟩
            rcases List.mem_cons.mp hw with rfl | hw
            · exact absurd hw' hMetric
            · exact hAbove w hw hw'

end Raise

/-! ## The pass over the violations -/

/-- Entering one more element among elements without repetitions. -/
theorem eraseDups_concat {α : Type} [DecidableEq α] (xs : List α) (x : α) :
    (xs ++ [x]).eraseDups = if x ∈ xs.eraseDups then xs.eraseDups else xs.eraseDups ++ [x] := by
  rw [List.eraseDups_append]
  by_cases h : x ∈ xs
  · simp [List.removeAll, h]
  · simp [List.removeAll, h, List.eraseDups_cons]

namespace Summarises

variable {triggers others : List Trigger} {violations reordered : List Violation}

theorem nil : Summarises [] [] :=
  ⟨rfl, List.nodup_nil, nofun, nofun⟩

theorem isNaN_eq_false (h : Summarises triggers violations) (hNumeric : Numeric violations)
    {t : Trigger} (ht : t ∈ triggers) : t.value.isNaN = false := by
  obtain ⟨v, hv, -, hValue⟩ := h.attained t ht
  rw [← hValue]
  exact hNumeric v hv

/-- Every violated measurement has its trigger. -/
theorem exists_trigger (h : Summarises triggers violations) {v : Violation}
    (hv : v ∈ violations) : ∃ t ∈ triggers, t.metric = v.metric := by
  have hMetric : v.metric ∈ triggers.map Trigger.metric := by
    rw [h.metrics, List.mem_eraseDups]
    exact List.mem_map_of_mem hv
  exact List.mem_map.mp hMetric

/-- One more violation is entered. -/
theorem raise (h : Summarises triggers violations) {v : Violation}
    (hNumeric : Numeric (violations ++ [v])) :
    Summarises (raiseTrigger v.metric v.value triggers) (violations ++ [v]) := by
  have hBefore : Numeric violations := fun w hw => hNumeric w (List.mem_append_left _ hw)
  have hNumber : v.value.isNaN = false :=
    hNumeric v (List.mem_append_right _ (List.mem_singleton_self v))
  constructor
  · rw [map_metric_raiseTrigger, h.metrics, List.map_append, List.map_singleton, eraseDups_concat]
  · rw [map_metric_raiseTrigger]
    split
    · exact h.once
    · next hNew => exact List.nodup_append.mpr ⟨h.once, List.nodup_singleton _, by grind⟩
  · intro t ht
    rcases mem_raiseTrigger h.once ht with ⟨hOld, -⟩ | ⟨rfl, -⟩
    · obtain ⟨w, hw, hSame⟩ := h.attained t hOld
      exact ⟨w, List.mem_append_left _ hw, hSame⟩
    · exact ⟨v, List.mem_append_right _ (List.mem_singleton_self v), rfl, rfl⟩
  · intro t ht w hw hSame
    rcases List.mem_append.mp hw with hw | hw
    · rcases mem_raiseTrigger h.once ht with ⟨hOld, -⟩ | ⟨rfl, hAbove⟩
      · exact h.greatest t hOld w hw hSame
      · -- the trigger that stood for the measurement is between the two
        obtain ⟨u, hu, hTrigger⟩ := h.exists_trigger hw
        exact Metric.number_le_of_le_of_lt (hBefore w hw) (h.isNaN_eq_false hBefore hu) hNumber
          (h.greatest u hu w hw hTrigger.symm) (hAbove u hu (hTrigger.trans hSame))
    · obtain rfl := List.mem_singleton.mp hw
      rcases mem_raiseTrigger h.once ht with ⟨hOld, hBelow⟩ | ⟨rfl, -⟩
      · exact Metric.number_le_of_not_lt (h.isNaN_eq_false hBefore hOld) hNumber
          (hBelow hSame.symm)
      · exact Metric.number_le_refl hNumber

/-- The triggers of a breach summarise its violations. -/
theorem breachTriggers (hNumeric : Numeric violations) :
    Summarises (Mode.breachTriggers violations) violations := by
  -- the summary of what has been passed is complete at every violation
  induction violations using List.reverseRecOn with
  | nil => exact nil
  | append_singleton passed v ih =>
      rw [Mode.breachTriggers, List.foldl_append]
      exact (ih fun w hw => hNumeric w (List.mem_append_left _ hw)).raise hNumeric

end Summarises

/-! ## Other orders -/

/-- The same measurement with values that compare equal. -/
def Trigger.Agrees (t u : Trigger) : Prop :=
  t.metric = u.metric ∧ (t.value == u.value) = true

/-- Each trigger agrees with one of the other list. -/
structure SamePairs (triggers others : List Trigger) : Prop where
  left : ∀ t ∈ triggers, ∃ u ∈ others, t.Agrees u
  right : ∀ u ∈ others, ∃ t ∈ triggers, u.Agrees t

namespace Summarises

variable {triggers others : List Trigger} {violations reordered : List Violation}

/-- A trigger agrees with that of any other order. -/
theorem exists_agrees (h : Summarises triggers violations) (h' : Summarises others reordered)
    (hNumeric : Numeric violations) (hPerm : violations.Perm reordered) {t : Trigger}
    (ht : t ∈ triggers) : ∃ u ∈ others, t.Agrees u := by
  obtain ⟨v, hv, hMetric, hValue⟩ := h.attained t ht
  obtain ⟨u, hu, hTrigger⟩ := h'.exists_trigger (hPerm.mem_iff.mp hv)
  obtain ⟨w, hw, hMetricW, hValueW⟩ := h'.attained u hu
  have hNumberT := h.isNaN_eq_false hNumeric ht
  have hNumberU : u.value.isNaN = false := hValueW ▸ hNumeric w (hPerm.mem_iff.mpr hw)
  -- either value is one of the violations, which the other is at least
  have hUp : t.value ≤ u.value :=
    hValue ▸ h'.greatest u hu v (hPerm.mem_iff.mp hv) hTrigger.symm
  have hDown : u.value ≤ t.value :=
    hValueW ▸ h.greatest t ht w (hPerm.mem_iff.mpr hw) (hMetricW.trans (hTrigger.trans hMetric))
  exact ⟨u, hu, hMetric.symm.trans hTrigger.symm,
    Metric.number_beq_of_le_of_le hNumberT hNumberU hUp hDown⟩

theorem samePairs (h : Summarises triggers violations) (h' : Summarises others reordered)
    (hNumeric : Numeric violations) (hPerm : violations.Perm reordered) :
    SamePairs triggers others where
  left _ := h.exists_agrees h' hNumeric hPerm
  right _ := h'.exists_agrees h (fun v hv => hNumeric v (hPerm.mem_iff.mpr hv)) hPerm.symm

/-- Where values that compare equal are the same, so are the triggers. -/
theorem mem_of_distinguished (h : Summarises triggers violations)
    (h' : Summarises others reordered) (hNumeric : Numeric violations)
    (hPerm : violations.Perm reordered) (hDistinguished : Distinguished violations) {t : Trigger}
    (ht : t ∈ triggers) : t ∈ others := by
  obtain ⟨u, hu, hMetric, hValue⟩ := h.exists_agrees h' hNumeric hPerm ht
  obtain ⟨v, hv, hMetricV, hValueV⟩ := h.attained t ht
  obtain ⟨w, hw, hMetricW, hValueW⟩ := h'.attained u hu
  have hSame : v.value = w.value :=
    hDistinguished v hv w (hPerm.mem_iff.mpr hw) (hMetricV.trans (hMetric.trans hMetricW.symm))
      (by rw [hValueV, hValueW, hValue])
  have hNamed : t.value = u.value := by rw [← hValueV, ← hValueW, hSame]
  have hEq : t = u := by
    cases t
    cases u
    exact (Trigger.mk.injEq ..).mpr ⟨hMetric, hNamed⟩
  rw [hEq]
  exact hu

theorem mem_iff_of_distinguished (h : Summarises triggers violations)
    (h' : Summarises others reordered) (hNumeric : Numeric violations)
    (hPerm : violations.Perm reordered) (hDistinguished : Distinguished violations)
    (t : Trigger) : t ∈ triggers ↔ t ∈ others :=
  ⟨h.mem_of_distinguished h' hNumeric hPerm hDistinguished,
    h'.mem_of_distinguished h (fun v hv => hNumeric v (hPerm.mem_iff.mpr hv)) hPerm.symm
      fun v hv w hw => hDistinguished v (hPerm.mem_iff.mpr hv) w (hPerm.mem_iff.mpr hw)⟩

end Summarises

/-! ## Changes for the worse -/

/-- A change that a breach makes. -/
def Transition.Worsens (t : Transition) : Prop :=
  t.source = .normal ∧ t.target = .alert ∨ t.source = .alert ∧ t.target = .degraded

namespace Controller

variable {c : Controller} {summary : Metric.Summary} {t : Transition}

/-- A controller that makes things worse is in normal operation or on alert. -/
theorem mode_of_worsens (hAnswer : (c.evaluate summary).2 = some t) (hWorse : t.Worsens) :
    c.mode = .normal ∨ c.mode = .alert := by
  obtain ⟨breaches, clears, hStay | ⟨t', hChange, hSource, -⟩⟩ := c.evaluate_cases summary
  · rw [hStay] at hAnswer
    cases hAnswer
  · rw [hChange] at hAnswer
    obtain rfl := Option.some.inj hAnswer
    rw [← hSource]
    exact hWorse.imp And.left And.left

/-- An evaluation that makes things worse would do so with any other breach, and would differ in
nothing but the triggers. -/
theorem evaluate_of_worsens (hAnswer : (c.evaluate summary).2 = some t) (hWorse : t.Worsens) :
    ∃ counted : Controller, ∀ breach : Metric.Summary, breach.isBreach = summary.isBreach →
      c.evaluate breach =
        (counted.enter { t with triggers := breachTriggers breach.violations },
          some { t with triggers := breachTriggers breach.violations }) := by
  rcases mode_of_worsens hAnswer hWorse with hMode | hMode <;>
    cases hBreach : summary.isBreach
  · rw [evaluate_normal_clear hMode hBreach] at hAnswer
    cases hAnswer
  · rw [evaluate_normal_breach hMode hBreach] at hAnswer
    cases hAnswer
    exact ⟨_, fun breach hOther => evaluate_normal_breach hMode hOther⟩
  · rw [evaluate_alert_clear hMode hBreach] at hAnswer
    cases hAnswer
    rcases hWorse with ⟨hSource, -⟩ | ⟨-, hTarget⟩
    · cases hSource
    · cases hTarget
  · by_cases hFew : c.breachStreak + 1 < c.degradeAfter
    · rw [evaluate_alert_stay hMode hBreach hFew] at hAnswer
      cases hAnswer
    · rw [evaluate_alert_degrade hMode hBreach hFew] at hAnswer
      cases hAnswer
      exact ⟨_, fun breach hOther => evaluate_alert_degrade hMode hOther hFew⟩

theorem isBreach_eq_of_perm {reordered : Metric.Summary}
    (h : reordered.violations.Perm summary.violations) :
    reordered.isBreach = summary.isBreach := by
  rw [Metric.Summary.isBreach, Metric.Summary.isBreach, h.isEmpty_eq]

/-- A change for the worse records a summary of the violations, in which their order does not
count. -/
theorem breach_triggers_summarise (hNumeric : Numeric summary.violations)
    (hAnswer : (c.evaluate summary).2 = some t) (hWorse : t.Worsens) :
    Summarises t.triggers summary.violations ∧
      (c.evaluate summary).1.status.triggers = t.triggers ∧
      (c.evaluate summary).1.history.getLast? = some t ∧
      ∀ reordered : Metric.Summary, reordered.violations.Perm summary.violations →
        ∃ t' : Transition, (c.evaluate reordered).2 = some t' ∧
          t'.source = t.source ∧ t'.target = t.target ∧
          SamePairs t'.triggers t.triggers ∧
          (Distinguished summary.violations → ∀ u, u ∈ t'.triggers ↔ u ∈ t.triggers) := by
  obtain ⟨counted, hEvaluate⟩ := evaluate_of_worsens hAnswer hWorse
  have hStep := hEvaluate summary rfl
  have hTransition : { t with triggers := breachTriggers summary.violations } = t := by
    rw [hStep] at hAnswer
    exact Option.some.inj hAnswer
  have hTriggers : t.triggers = breachTriggers summary.violations := by rw [← hTransition]
  have hSummary : Summarises t.triggers summary.violations := by
    rw [hTriggers]
    exact .breachTriggers hNumeric
  rw [hStep, hTransition]
  refine ⟨hSummary, rfl, List.getLast?_concat, fun reordered hPerm => ?_⟩
  have hNumeric' : Numeric reordered.violations := fun v hv => hNumeric v (hPerm.mem_iff.mp hv)
  have hReordered := Summarises.breachTriggers hNumeric'
  refine ⟨_, congrArg Prod.snd (hEvaluate reordered (isBreach_eq_of_perm hPerm)), rfl, rfl,
    hReordered.samePairs hSummary hNumeric' hPerm, fun hDistinguished u => ?_⟩
  exact (hSummary.mem_iff_of_distinguished hReordered hNumeric hPerm.symm hDistinguished u).symm

/-- Four violations of two measurements. -/
def overheated : Metric.Summary :=
  { Metric.Summary.empty 1.0 with
    violations := [⟨"cpu_percent", 91.5, 90.0, .normal⟩, ⟨"memory_percent", 97.0, 90.0, .normal⟩,
      ⟨"cpu_percent", 98.5, 90.0, .normal⟩, ⟨"cpu_percent", 95.0, 90.0, .normal⟩] }

theorem overheated_alert_summarises :
    Numeric overheated.violations ∧
      ((make ⟨3, 3, 1, .default⟩).evaluate overheated).2 =
        some ⟨.normal, .alert, "threshold breach",
          [⟨"cpu_percent", 98.5⟩, ⟨"memory_percent", 97.0⟩]⟩ ∧
      Summarises [⟨"cpu_percent", 98.5⟩, ⟨"memory_percent", 97.0⟩] overheated.violations := by
  have hNumeric : Numeric overheated.violations := by
    unfold Numeric
    decide
  have hAnswer : ((make ⟨3, 3, 1, .default⟩).evaluate overheated).2 =
      some ⟨.normal, .alert, "threshold breach",
        [⟨"cpu_percent", 98.5⟩, ⟨"memory_percent", 97.0⟩]⟩ := rfl
  exact ⟨hNumeric, hAnswer, (breach_triggers_summarise hNumeric hAnswer (.inl ⟨rfl, rfl⟩)).1⟩

end Controller

end SteadyTask.Mode
