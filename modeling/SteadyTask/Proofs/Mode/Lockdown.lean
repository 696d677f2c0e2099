import SteadyTask.Proofs.Mode.Publication

/-!
# Out of lockdown

In lockdown evaluations and signals leave the controller exactly as it is, so nothing but a trigger
leads out, and it leads into recovery.  Whenever a run gets from lockdown to normal operation, it
contains a trigger that was issued in lockdown and after it, without any further lockdown, a phase
of recovery that ends with the evaluation that passes the self-checks: that one and enough others
right before it were clear.  What was counted before the lockdown does not shorten this phase.
-/

namespace SteadyTask.Mode.Controller

/-! ## In lockdown -/

section Locked

variable {c : Controller}

theorem perform_lockdown (hMode : c.mode = .lockdown) {operation : Operation}
    (hQuiet : ∀ reason, operation ≠ .triggerRecovery reason) : c.perform operation = (c, none) := by
  cases operation with
  | evaluate summary => exact evaluate_lockdown hMode
  | signalCritical reason triggers => exact signalCritical_lockdown hMode reason triggers
  | triggerRecovery reason => exact absurd rfl (hQuiet reason)

/-- Without a trigger lockdown is kept, with everything in it. -/
theorem run_lockdown (hMode : c.mode = .lockdown) {quiet : List Operation}
    (hQuiet : ∀ operation ∈ quiet, ∀ reason, operation ≠ .triggerRecovery reason) :
    c.run quiet = c := by
  induction quiet with
  | nil => rfl
  | cons operation rest ih =>
      show ((c.perform operation).1).run rest = c
      rw [perform_lockdown hMode (hQuiet operation (List.mem_cons_self ..))]
      exact ih fun other hOther => hQuiet other (List.mem_cons_of_mem _ hOther)

/-- A trigger in lockdown starts recovery. -/
theorem perform_triggerRecovery_lockdown (hMode : c.mode = .lockdown) (reason : String) :
    c.perform (.triggerRecovery reason) =
      (c.enter ⟨.lockdown, .recovery, reason, []⟩, some ⟨.lockdown, .recovery, reason, []⟩) := by
  rw [perform_triggerRecovery_of_canChange (canChange_recovery_iff.mpr (.inr hMode)), hMode]

end Locked

/-! ## Self-checks -/

/-- The summaries that operations evaluate. -/
def evaluated : List Operation → List Metric.Summary
  | [] => []
  | .evaluate summary :: rest => summary :: evaluated rest
  | _ :: rest => evaluated rest

/-- The last of some summaries, as many as a number says, are clear. -/
def EndClear (checks : Nat) (summaries : List Metric.Summary) : Prop :=
  ∃ earlier passing, summaries = earlier ++ passing ∧ checks ≤ passing.length ∧
    ∀ summary ∈ passing, summary.violations = []

/-- In recovery, after some summaries were evaluated there, these operations keep recovery and the
next evaluation ends it; that one and those right before it were clear, as many as it takes. -/
structure PassesChecks (checks : Nat) (d : Controller) (checked : List Metric.Summary)
    (checking : List Operation) (summary : Metric.Summary) : Prop where
  recovering : ∀ earlier, earlier <+: checking → (d.run earlier).mode = .recovery
  clear : EndClear checks (checked ++ (evaluated checking ++ [summary]))
  passed : ((d.run checking).evaluate summary).2.map (fun t => (t.source, t.target)) =
    some (.recovery, .normal)

theorem checks_perform (c : Controller) (operation : Operation) :
    (c.perform operation).1.checks = c.checks := by
  obtain ⟨breaches, clears, hStep | ⟨t, hStep, -, -⟩⟩ := c.perform_cases operation
  · rw [hStep]
    rfl
  · rw [hStep]
    rfl

section Recovering

variable {checks : Nat} {d : Controller} {checked : List Metric.Summary}

/-- One more operation in recovery belongs to the phase. -/
theorem PassesChecks.cons {operation : Operation} {checking : List Operation}
    {summary : Metric.Summary} (hMode : d.mode = .recovery)
    (h : PassesChecks checks (d.perform operation).1 (checked ++ evaluated [operation]) checking
      summary) :
    PassesChecks checks d checked (operation :: checking) summary := by
  refine ⟨?_, ?_, h.passed⟩
  · intro earlier hPrefix
    rcases List.prefix_cons_iff.mp hPrefix with rfl | ⟨others, rfl, hOthers⟩
    · exact hMode
    · exact h.recovering others hOthers
  · have hClear := h.clear
    rw [List.append_assoc, ← List.append_assoc (evaluated [operation])] at hClear
    cases operation <;> exact hClear

/-- The counter counts the clear summaries at the end of what was evaluated in recovery. -/
def Counts (d : Controller) (checked : List Metric.Summary) : Prop :=
  ∃ earlier passing, checked = earlier ++ passing ∧ passing.length = d.clearStreak ∧
    ∀ summary ∈ passing, summary.violations = []

theorem counts_breach {summary : Metric.Summary} :
    Counts { d with clearStreak := 0 } (checked ++ [summary]) :=
  ⟨checked ++ [summary], [], (List.append_nil _).symm, rfl, List.forall_mem_nil _⟩

theorem violations_eq_nil {summary : Metric.Summary} (hBreach : summary.isBreach = false) :
    summary.violations = [] := by
  simpa [Metric.Summary.isBreach] using hBreach

theorem Counts.clear (h : Counts d checked) {summary : Metric.Summary}
    (hBreach : summary.isBreach = false) :
    Counts { d with clearStreak := d.clearStreak + 1 } (checked ++ [summary]) := by
  obtain ⟨earlier, passing, rfl, hLength, hClear⟩ := h
  refine ⟨earlier, passing ++ [summary], List.append_assoc .., ?_, ?_⟩
  · rw [List.length_append, hLength]
    rfl
  · intro s hs
    rcases List.mem_append.mp hs with hs | hs
    · exact hClear s hs
    · rw [List.mem_singleton.mp hs]
      exact violations_eq_nil hBreach

/-- A clear evaluation that the counter was waiting for passes the checks. -/
theorem passesChecks_of_pass (hMode : d.mode = .recovery) (h : Counts d checked)
    {summary : Metric.Summary} (hBreach : summary.isBreach = false)
    (hMany : ¬ d.clearStreak + 1 < d.checks) : PassesChecks d.checks d checked [] summary := by
  refine ⟨?_, ?_, ?_⟩
  · intro earlier hPrefix
    rw [List.prefix_nil.mp hPrefix]
    exact hMode
  · obtain ⟨earlier, passing, hSplit, hLength, hClear⟩ := h.clear hBreach
    refine ⟨earlier, passing, hSplit, ?_, hClear⟩
    rw [hLength]
    exact Nat.le_of_not_lt hMany
  · show (d.evaluate summary).2.map _ = _
    rw [evaluate_recovery_pass hMode hBreach hMany]
    rfl

/-- A run that gets from recovery to normal operation passes the checks, or it gets into lockdown
first. -/
theorem passes_or_locks (hChecks : d.checks = checks) (hMode : d.mode = .recovery)
    (h : Counts d checked) {later : List Operation} (hNormal : (d.run later).mode = .normal) :
    (∃ checking summary rest, later = checking ++ .evaluate summary :: rest ∧
        PassesChecks checks d checked checking summary) ∨
      ∃ before rest, later = before ++ rest ∧ (d.run before).mode = .lockdown := by
  induction later generalizing d checked with
  | nil =>
      rw [show (d.run []).mode = d.mode from rfl, hMode] at hNormal
      cases hNormal
  | cons operation later ih =>
      -- an operation that keeps recovery is put in front of what comes next
      have hStay (hNext : (d.perform operation).1.mode = .recovery)
          (hCounts : Counts (d.perform operation).1 (checked ++ evaluated [operation])) :
          (∃ checking summary rest, operation :: later = checking ++ .evaluate summary :: rest ∧
              PassesChecks checks d checked checking summary) ∨
            ∃ before rest, operation :: later = before ++ rest ∧
              (d.run before).mode = .lockdown := by
        rcases ih ((checks_perform d operation).trans hChecks) hNext hCounts hNormal with
          ⟨checking, summary, rest, rfl, hPasses⟩ | ⟨before, rest, rfl, hLocked⟩
        · exact .inl ⟨operation :: checking, summary, rest, rfl, hPasses.cons hMode⟩
        · exact .inr ⟨operation :: before, rest, rfl, hLocked⟩
      cases operation with
      | evaluate summary =>
          cases hBreach : summary.isBreach with
          | true =>
              have hStep : d.perform (.evaluate summary) = ({ d with clearStreak := 0 }, none) :=
                evaluate_recovery_breach hMode hBreach
              rw [hStep] at hStay
              exact hStay hMode counts_breach
          | false =>
              by_cases hFew : d.clearStreak + 1 < d.checks
              · have hStep : d.perform (.evaluate summary) =
                    ({ d with clearStreak := d.clearStreak + 1 }, none) :=
                  evaluate_recovery_stay hMode hBreach hFew
                rw [hStep] at hStay
                exact hStay hMode (h.clear hBreach)
              · exact .inl ⟨[], summary, later, rfl,
                  hChecks ▸ passesChecks_of_pass hMode h hBreach hFew⟩
      | signalCritical reason triggers =>
          have hNotLocked : d.mode ≠ .lockdown := by
            rw [hMode]
            nofun
          refine .inr ⟨[.signalCritical reason triggers], later, rfl, ?_⟩
          show (d.signalCritical reason triggers).1.mode = .lockdown
          rw [signalCritical_of_ne hNotLocked]
          rfl
      | triggerRecovery reason =>
          have hStep : d.perform (.triggerRecovery reason) = (d, none) :=
            perform_triggerRecovery_refused (by rw [hMode]; rfl) reason
          rw [hStep] at hStay
          refine hStay hMode ?_
          rw [show checked ++ evaluated [.triggerRecovery reason] = checked from
            List.append_nil _]
          exact h

end Recovering

/-! ## From lockdown to normal operation -/

theorem checks_run (c : Controller) (operations : List Operation) :
    (c.run operations).checks = c.checks := by
  induction operations generalizing c with
  | nil => rfl
  | cons operation rest ih => exact (ih _).trans (checks_perform c operation)

/-- Some operations hold a trigger that is issued in lockdown and answered, and after it, without
another lockdown, the phase of recovery that ends in normal operation. -/
def ThroughChecks (checks : Nat) (c : Controller) (later : List Operation) : Prop :=
  ∃ waiting reason checking summary rest,
    later = waiting ++ .triggerRecovery reason :: (checking ++ .evaluate summary :: rest) ∧
      (c.run waiting).mode = .lockdown ∧
      ((c.run waiting).perform (.triggerRecovery reason)).2 =
        some ⟨.lockdown, .recovery, reason, []⟩ ∧
      PassesChecks checks ((c.run waiting).perform (.triggerRecovery reason)).1 [] checking summary

/-- What comes before the trigger may be any operations that end in lockdown again. -/
theorem ThroughChecks.prepend {checks : Nat} {c : Controller} {before later : List Operation}
    (h : ThroughChecks checks (c.run before) later) : ThroughChecks checks c (before ++ later) := by
  obtain ⟨waiting, reason, checking, summary, rest, rfl, hLocked, hAnswer, hPasses⟩ := h
  rw [← run_append] at hLocked hAnswer hPasses
  exact ⟨before ++ waiting, reason, checking, summary, rest, (List.append_assoc ..).symm, hLocked,
    hAnswer, hPasses⟩

/-- A run that gets from lockdown to normal operation goes through the checks: it does after the
last lockdown in it. -/
theorem throughChecks_of_normal {checks : Nat} {c : Controller} (hChecks : c.checks = checks)
    (hMode : c.mode = .lockdown) :
    ∀ {later : List Operation}, (c.run later).mode = .normal → ThroughChecks checks c later
  | [], hNormal => by
      rw [show (c.run []).mode = c.mode from rfl, hMode] at hNormal
      cases hNormal
  | operation :: later, hNormal => by
      by_cases hQuiet : ∀ reason, operation ≠ .triggerRecovery reason
      · have hKept : c.run [operation] = c := congrArg Prod.fst (perform_lockdown hMode hQuiet)
        rw [show operation :: later = [operation] ++ later from rfl] at hNormal ⊢
        rw [run_append, hKept] at hNormal
        refine ThroughChecks.prepend ?_
        rw [hKept]
        exact throughChecks_of_normal hChecks hMode hNormal
      · push Not at hQuiet
        obtain ⟨reason, rfl⟩ := hQuiet
        have hStep := perform_triggerRecovery_lockdown hMode reason
        have hNext : (c.perform (.triggerRecovery reason)).1.mode = .recovery := by
          rw [hStep]
          rfl
        have hNone : Counts (c.perform (.triggerRecovery reason)).1 [] := by
          rw [hStep]
          exact ⟨[], [], rfl, rfl, List.forall_mem_nil _⟩
        have hSame : (c.perform (.triggerRecovery reason)).1.checks = checks :=
          (checks_perform c _).trans hChecks
        rcases passes_or_locks hSame hNext hNone hNormal with
          ⟨checking, summary, rest, rfl, hPasses⟩ | ⟨before, rest, rfl, hLocked⟩
        · exact ⟨[], reason, checking, summary, rest, rfl, hMode, congrArg Prod.snd hStep, hPasses⟩
        · -- the run is in lockdown again, and fewer operations are left
          have hAgain : (c.run (.triggerRecovery reason :: before)).mode = .lockdown := hLocked
          have hRest : ThroughChecks checks (c.run (.triggerRecovery reason :: before)) rest := by
            refine throughChecks_of_normal ((checks_run c _).trans hChecks) hAgain ?_
            rw [← run_append]
            exact hNormal
          exact hRest.prepend
termination_by later => later.length

/-- From lockdown only a trigger leads out, into recovery; and from there only the self-checks lead
to normal operation, all of them done after the last lockdown. -/
theorem lockdown_left_through_checks (settings : Settings) (operations : List Operation)
    (hLocked : ((make settings).run operations).mode = .lockdown) :
    let c := (make settings).run operations
    (∀ quiet : List Operation,
      (∀ operation ∈ quiet, ∀ reason, operation ≠ .triggerRecovery reason) →
        c.run quiet = c ∧
          ∀ reason, ((c.run quiet).perform (.triggerRecovery reason)).1.mode = .recovery ∧
            ((c.run quiet).perform (.triggerRecovery reason)).2 =
              some ⟨.lockdown, .recovery, reason, []⟩) ∧
      ∀ later, (c.run later).mode = .normal →
        ThroughChecks (max 1 settings.recoveryChecks) c later := by
  intro c
  constructor
  · intro quiet hQuiet
    have hKept : c.run quiet = c := run_lockdown hLocked hQuiet
    refine ⟨hKept, fun reason => ?_⟩
    rw [hKept, perform_triggerRecovery_lockdown hLocked reason]
    exact ⟨rfl, rfl⟩
  · intro later hNormal
    refine throughChecks_of_normal ?_ hLocked hNormal
    rw [Nat.max_comm, checks_run]
    rfl

/-- An intrusion during the self-checks starts them anew: the check that came before it does not
count. -/
theorem self_checks_start_anew :
    let c := (make ⟨2, 3, 2, .default⟩).run [.signalCritical "intrusion" []]
    let calm : Operation := .evaluate (.empty 1.0)
    let checked := [.triggerRecovery "operator", calm, .signalCritical "intrusion" [], calm]
    let again := [.triggerRecovery "operator", calm, calm]
    c.mode = .lockdown ∧ c.run checked ≠ c ∧ (c.run (checked ++ again)).mode = .normal ∧
      ThroughChecks 2 c (checked ++ again) := by
  intro c calm checked again
  have hLocked : c.mode = .lockdown := rfl
  have hNormal : (c.run (checked ++ again)).mode = .normal := rfl
  have hHistory : (c.run checked).history.length ≠ c.history.length := by decide
  have hThrough := (lockdown_left_through_checks ⟨2, 3, 2, .default⟩
    [.signalCritical "intrusion" []] hLocked).2 (checked ++ again) hNormal
  exact ⟨hLocked, fun hSame => hHistory (by rw [hSame]), hNormal, hThrough⟩

end SteadyTask.Mode.Controller
