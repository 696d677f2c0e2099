import SteadyTask.Proofs.Task.Calls
import SteadyTask.Proofs.Task.Interleaving

/-!
# The gate of a task

The governance is asked about an operation once, when its first attempt is about to begin.  So in
every order of steps, whatever other tasks and operators do to the mode meanwhile, each attempt of a
tool or of the delegate belongs to an operation that was permitted in the mode at that moment; and
the retries rely on it.  During a pause the mode can change to one that forbids the operation, and
the next attempt begins all the same.

An attempt begins at the moment at which the task was last answered, in the mode of that moment.
-/

namespace SteadyTask.Task.System

open Activity (Exchange Reaches)

variable {x : Executor}

/-! ## Retries are not asked about -/

/-- Whatever the controller is made to do during a pause, the attempt after the pause begins. -/
theorem exists_attempt_after_operation {c : Mode.Controller} {trace request : String}
    {exchanges : List Exchange} {delay : Millis} {operation : Mode.Operation}
    (hCalm : ∀ e ∈ exchanges, Calm c e)
    (hBegins : Marked.Begins (x.markedExecute trace request)
      (exchanges ++ [⟨.pause delay, ()⟩]) operation)
    (change : Mode.Controller.Operation) :
    ∃ rest, Reachable x c ⟨(c.perform change).1, [⟨trace, request,
      exchanges.map (Moment.mk · c.mode) ++
        [⟨⟨.pause delay, ()⟩, (c.perform change).1.mode⟩], rest⟩]⟩ := by
  obtain ⟨rest, hReaches⟩ := hBegins.reaches
  rw [Executor.erase_markedExecute] at hReaches
  -- the task gets as far as its pause while nothing else happens
  obtain ⟨paused, hBefore, hPause⟩ := Activity.reaches_append_iff.mp hReaches
  obtain ⟨resume, rfl, -⟩ := Activity.reaches_cons_iff.mp hPause
  refine ⟨resume (), ?_⟩
  have hStart : Reachable x c ⟨c, [⟨trace, request, [], x.execute trace request⟩]⟩ :=
    .single (.start c [] trace request)
  have hWaiting := hStart.trans (steps_of_reaches [] hCalm hBefore)
  -- then the controller is operated, and only then the pause is over
  have hChanged := hWaiting.tail (.operate c _ change)
  exact hChanged.tail
    (Step.answer (c.perform change).1 [] [] trace request _ (r := .pause delay) () trivial)

/-- An executor that hands every request on to its delegate. -/
def handingOn : Executor where
  router := .installed
  delegate := "delegate"
  registry := []
  governance := .byMode
  recovery := .make 500 30000 ⟨30000, 2⟩ ⟨60000, 2⟩

/-- A task whose delegate could not be reached. -/
def unreached : List Exchange :=
  [⟨.startMonitor, (0 : Nat)⟩, ⟨.consult 60000, Outcome.value (.modelDelegate "hello")⟩,
    ⟨.mode, Mode.normal⟩,
    ⟨.ask "delegate" [.user "hello"] (some 60000), Outcome.error (.connection "reset")⟩]

theorem begins_after_unreached :
    Marked.Begins (handingOn.markedExecute "trace" "hello") (unreached ++ [⟨.pause 500, ()⟩])
      .modelDelegate := by
  refine Executor.begins_markedExecute_iff.mpr ⟨(0 : Nat), _, rfl, ?_⟩
  refine Executor.begins_markedWork_iff.mpr
    ⟨[⟨.consult 60000, Outcome.value (.modelDelegate "hello")⟩], .modelDelegate "hello", _, rfl,
      ?_, ?_⟩
  · rw [retry, retryFrom_eq]
    exact .request _ (.done _)
  · refine Marked.Begins.request (r := .mode) Mode.normal ?_
    show Marked.Begins (markedRetryFrom handingOn.recovery .model .modelDelegate
      (handingOn.delegateOnce "hello") 0) _ _
    rw [markedRetryFrom_eq]
    refine .past (.request _ (Marked.Begins.request (r := .pause 500) () ?_))
    rw [markedRetryFrom_eq]
    exact .here _ _

theorem calm_unreached {c : Mode.Controller} (h : c.mode = .normal) :
    ∀ e ∈ unreached, Calm c e := by
  intro e he
  simp only [unreached, List.mem_cons, List.not_mem_nil, or_false] at he
  rcases he with rfl | rfl | rfl | rfl
  · exact ⟨trivial, rfl⟩
  · exact ⟨trivial, rfl⟩
  · exact ⟨h.symm, rfl⟩
  · exact ⟨trivial, rfl⟩

/-! ## Behind the gate -/

/-- Before this moment of a task its operation was permitted, in the mode in which the first attempt
began; after that only attempts and pauses came, and the last was a pause. -/
structure BehindGate (x : Executor) (t : Underway) (before : List Moment)
    (operation : Mode.Operation) (opening : List Moment) (gate : Moment) (waits : List Moment) :
    Prop where
  split : before = opening ++ gate :: waits
  unasked : ∀ m ∈ opening, m.exchange.request ≠ .mode
  answered : gate.exchange = ⟨.mode, gate.mode⟩
  begun : Marked.Begins (x.markedExecute t.trace t.request)
    ((opening ++ [gate]).map Moment.exchange) operation
  permitted : x.governance.permits gate.mode operation = true
  notAskedAgain : ∀ m ∈ waits, m.exchange.request ≠ .mode
  afterPause : AfterPause (waits.map Moment.exchange)

theorem permits_of_rule {g : Mode.Governance} {mode : Mode} {operation : Mode.Operation}
    (h : g.rule mode operation = .ok true) : g.permits mode operation = true := by
  rw [Mode.Governance.permits, h]

theorem modes_of_byMode {mode : Mode} {operation : Mode.Operation}
    (h : Mode.Governance.byMode.permits mode operation = true) :
    mode ≠ .lockdown ∧ (operation = .modelDelegate → mode ≠ .degraded) := by
  cases mode <;> cases operation <;> first | exact ⟨by decide, by decide⟩ | cases h

/-- Every attempt of a tool or of the delegate begins behind the gate of its task. -/
theorem calls_begin_behind_gate {c : Mode.Controller} {s : System} (h : Reachable x c s)
    {t : Underway} (ht : t ∈ s.tasks) {before after : List Moment}
    (hPast : t.past = before ++ after) {operation : Mode.Operation}
    (hBegins : Marked.Begins (x.markedExecute t.trace t.request)
      (before.map Moment.exchange) operation) :
    ∃ opening gate waits, BehindGate x t before operation opening gate waits ∧
      (x.governance = .byMode →
        gate.mode ≠ .lockdown ∧ (operation = .modelDelegate → gate.mode ≠ .degraded)) := by
  obtain ⟨opening, mode, waits, hSplit, hGated⟩ := Executor.gated_markedExecute hBegins
  obtain ⟨openingMoments, others, rfl, rfl, hOthers⟩ := List.map_eq_append_iff.mp hSplit
  obtain ⟨gate, waitMoments, rfl, hGate, rfl⟩ := List.map_eq_cons_iff.mp hOthers
  -- the mode was answered as it was at that moment
  have hMember : gate ∈ t.past := by simp [hPast]
  have hAnswered := (genuine_of_reachable h t ht).modes gate hMember (by rw [hGate])
  obtain rfl : gate.mode = mode := by
    rw [hGate] at hAnswered
    cases hAnswered
    rfl
  have hPermits := permits_of_rule hGated.permitted
  refine ⟨openingMoments, gate, waitMoments,
    ⟨rfl, ?_, hGate, ?_, hPermits, ?_, hGated.afterPause⟩, ?_⟩
  · exact fun m hm => hGated.unasked _ (List.mem_map_of_mem hm)
  · rw [List.map_append, List.map_singleton, hGate]
    exact hGated.begun
  · exact fun m hm => (hGated.calling _ (List.mem_map_of_mem hm)).ne_mode
  · intro hByMode
    rw [hByMode] at hPermits
    exact modes_of_byMode hPermits

/-- The attempt that begins in lockdown is behind its gate nevertheless. -/
theorem attempt_in_lockdown_behind_gate :
    ∃ (t : Underway) (before opening waits : List Moment) (gate : Moment),
      BehindGate handingOn t before .modelDelegate opening gate waits ∧
        gate.mode ≠ .lockdown ∧ before.getLast?.map Moment.mode = some .lockdown := by
  obtain ⟨rest, hReachable⟩ := exists_attempt_after_operation
    (calm_unreached (c := .make default) rfl) begins_after_unreached
    (.signalCritical "intrusion" [])
  obtain ⟨opening, gate, waits, hBehind, hModes⟩ := calls_begin_behind_gate hReachable
    (List.mem_singleton_self _) (List.append_nil _).symm begins_after_unreached
  exact ⟨_, _, opening, waits, gate, hBehind, (hModes rfl).1, rfl⟩

/-- An attempt can begin in a mode in which the governance forbids it. -/
theorem attempt_begins_in_lockdown :
    ¬ ∀ (x : Executor) (c : Mode.Controller) (s : System), Reachable x c s →
      ∀ t ∈ s.tasks, ∀ (before after : List Moment) (last : Moment),
        t.past = before ++ last :: after → ∀ operation : Mode.Operation,
          Marked.Begins (x.markedExecute t.trace t.request)
            ((before ++ [last]).map Moment.exchange) operation →
          x.governance.permits last.mode operation = true := by
  intro hAlways
  obtain ⟨rest, hReachable⟩ := exists_attempt_after_operation
    (calm_unreached (c := .make default) rfl) begins_after_unreached
    (.signalCritical "intrusion" [])
  have hForbidden := hAlways _ _ _ hReachable _ (List.mem_singleton_self _) _ [] _ rfl _
    begins_after_unreached
  cases hForbidden

end SteadyTask.Task.System
