import SteadyTask.Proofs.Reflection.Tiers
import SteadyTask.Proofs.Task.Calls
import SteadyTask.Proofs.Task.Evaluations
import SteadyTask.Simulation.World

/-!
# Tasks that overlap, and their reflections

Any number of tasks run on one executor.  A task that returns leaves a reflection behind, which goes
on in the background until the sink was given its record and has come back.  Anybody may wait for
the reflections at any time: he takes the backlog, and returns once everything in it is over.

In one step a task is started or answered, a reflection goes on, or somebody begins to wait or
returns.  The order of the steps is left open and so are all answers: models may fail, hang until
they are cut off, or panic, reflections may end in any order, and the sink may refuse records.

In whatever order the steps come, every task that has returned has one reflection, and every
reflection gives one record, with the numbers of its task (`Office.Sound`).

That the sink panics is not among the answers.  Whoever gives up waiting is one who never returns.
-/

namespace SteadyTask.Task

open Reflection (Backlog Entry Generated Input Measured)
open Simulation (ReflectionPlan)

/-! ## Tasks and what they leave behind -/

/-- A task that was started, and what is left of it. -/
structure Started where
  trace : String
  request : String
  rest : Activity Context

/-- How far a reflection is. -/
inductive Progress where
  /-- It has this left to do until its record is there. -/
  | generating (rest : Activity Generated)
  /-- The sink was given the record and has not come back. -/
  | storing
  /-- It is over, and the sink has kept the record or refused it. -/
  | ended (refused : Bool)

/-- How a reflection goes on, and the record that it gives to the sink. -/
inductive Progress.Next : Progress → Option Entry → Progress → Prop
  | answer {r : Request} {resume : r.Answer → Activity Generated} (answer : r.Answer) :
      Next (.generating (.request r resume)) none (.generating (resume answer))
  | give (g : Generated) : Next (.generating (.done g)) (some g.entry) .storing
  | settle (refused : Bool) : Next .storing none (.ended refused)

/-- A reflection on a task. -/
structure Reflecting where
  task : Nat
  input : Input
  progress : Progress

/-- What the sink was given, and on which task. -/
structure Given where
  task : Nat
  entry : Entry

/-- Somebody who waits for reflections, or has returned from that. -/
structure Wait where
  awaited : Backlog
  returned : Bool

/-- An executor with its tasks, and what goes on behind them. -/
structure Office where
  tasks : List Started
  reflections : List Reflecting
  backlog : Backlog
  given : List Given
  waits : List Wait

namespace Office

/-- An executor that has not begun. -/
def idle : Office :=
  ⟨[], [], [], [], []⟩

/-- Whether a reflection is over. -/
def isOver (o : Office) (index : Nat) : Bool :=
  match o.reflections[index]? with
  | some ⟨_, _, .ended _⟩ => true
  | _ => false

/-- A task is started. -/
def start (o : Office) (t : Started) : Office :=
  { o with tasks := o.tasks ++ [t] }

/-- A task has this left to do. -/
def goOn (o : Office) (task : Nat) (t : Started) : Office :=
  { o with tasks := o.tasks.set task t }

/-- A reflection on a task as it begins. -/
def newReflection (plan : ReflectionPlan) (task : Nat) (input : Input) : Reflecting :=
  ⟨task, input, .generating (Reflection.generate plan.settings plan.client plan.start input)⟩

/-- What a request of a task leaves behind: a task that is handed over is reflected on. -/
def afterRequest (o : Office) (plan : ReflectionPlan) (task : Nat) : Request → Office
  | .reflect input =>
    { o with
      reflections := o.reflections ++ [newReflection plan task input]
      backlog := o.backlog.join o.isOver o.reflections.length }
  | _ => o

/-- A reflection gets so far, and gives a record to the sink. -/
def advance (o : Office) (index : Nat) (r : Reflecting) (record : Option Entry) : Office :=
  { o with
    reflections := o.reflections.set index r
    given := o.given ++ (record.map (Given.mk r.task)).toList }

/-- Somebody begins to wait for the reflections. -/
def wait (o : Office) : Office :=
  { o with backlog := [], waits := o.waits ++ [⟨o.backlog, false⟩] }

/-- Somebody who waits returns. -/
def leave (o : Office) (index : Nat) (awaited : Backlog) : Office :=
  { o with waits := o.waits.set index ⟨awaited, true⟩ }

/-- One step of an executor with its tasks and reflections. -/
inductive Step (x : Executor) (plan : ReflectionPlan) : Office → Office → Prop
  | start (o : Office) (trace request : String) :
      Step x plan o (o.start ⟨trace, request, x.execute trace request⟩)
  | answer (o : Office) {i : Nat} {trace request : String} {r : Request}
      {resume : r.Answer → Activity Context}
      (hTask : o.tasks[i]? = some ⟨trace, request, .request r resume⟩) (answer : r.Answer) :
      Step x plan o ((o.goOn i ⟨trace, request, resume answer⟩).afterRequest plan i r)
  | reflect (o : Office) {j i : Nat} {input : Input} {progress progress' : Progress}
      {record : Option Entry} (hReflection : o.reflections[j]? = some ⟨i, input, progress⟩)
      (hNext : progress.Next record progress') :
      Step x plan o (o.advance j ⟨i, input, progress'⟩ record)
  | wait (o : Office) : Step x plan o o.wait
  | leave (o : Office) {k : Nat} {awaited : Backlog} (hWait : o.waits[k]? = some ⟨awaited, false⟩)
      (hOver : awaited.isOver o.isOver = true) : Step x plan o (o.leave k awaited)

/-- What can come after something. -/
abbrev Steps (x : Executor) (plan : ReflectionPlan) : Office → Office → Prop :=
  Relation.ReflTransGen (Step x plan)

/-- What the sink was given on a task. -/
def recordsOf (o : Office) (i : Nat) : List Entry :=
  (o.given.filter fun g => g.task = i).map Given.entry

/-- The tasks that are reflected on, in the order in which they were handed over. -/
def subjects (o : Office) : List Nat :=
  o.reflections.map Reflecting.task

end Office

/-! ## Handing a task over -/

/-- Whatever is answered, the last request of a task and no other hands it over to reflection, and
the task returns the context that it hands over. -/
inductive HandsOver (trace request : String) : Activity Context → Prop
  | last (c : Context) (mode : Mode) (summary : Metric.Summary) :
      HandsOver trace request
        (.request (.reflect (.ofContext trace request c mode summary)) fun _ =>
          .done { c with summary := some summary })
  | earlier {r : Request} {resume : r.Answer → Activity Context}
      (hOther : ∀ input, r ≠ .reflect input)
      (hRest : ∀ answer, HandsOver trace request (resume answer)) :
      HandsOver trace request (.request r resume)

section HandsOver

variable {trace request : String}

theorem HandsOver.of_bind {α : Type} {x : Activity α} {f : α → Activity Context}
    (hx : x.Only fun r => ∀ input, r ≠ .reflect input) (hf : ∀ a, HandsOver trace request (f a)) :
    HandsOver trace request (x.bind f) := by
  induction x with
  | done a => exact hf a
  | request r resume ih => exact .earlier hx.1 fun answer => ih answer (hx.2 answer)

theorem ne_reflect_of_isWorking (r : Request) (h : Executor.IsWorking r) (input : Input) :
    r ≠ .reflect input := by
  rintro rfl
  rcases h with h | h
  · exact h
  · cases h

/-- Once the work is done the monitor stops, the mode is evaluated, and the task is handed over. -/
theorem handsOver_closing (monitor : Nat) (c : Context) :
    HandsOver trace request (Executor.closing trace request monitor c) := by
  show HandsOver trace request (.request (.stopMonitor monitor) _)
  refine .earlier (by rintro input ⟨⟩) fun summary => ?_
  show HandsOver trace request (.request (.evaluate summary) _)
  refine .earlier (by rintro input ⟨⟩) fun _ => ?_
  show HandsOver trace request (.request .mode _)
  refine .earlier (by rintro input ⟨⟩) fun mode => ?_
  exact .last c mode summary

theorem handsOver_execute (x : Executor) (trace request : String) :
    HandsOver trace request (x.execute trace request) := by
  have hWork := (Executor.only_work (x := x) request Context.start).mono ne_reflect_of_isWorking
  show HandsOver trace request (.request .startMonitor _)
  refine .earlier (by rintro input ⟨⟩) fun monitor => ?_
  show HandsOver trace request ((x.work request Context.start).bind _)
  exact .of_bind hWork fun worked => handsOver_closing monitor _

/-- An answer to the request in which a task is handed over ends it. -/
theorem HandsOver.answer {r : Request} {resume : r.Answer → Activity Context}
    (h : HandsOver trace request (.request r resume)) (answer : r.Answer) :
    (∃ c mode summary, r = .reflect (.ofContext trace request c mode summary) ∧
        resume answer = .done { c with summary := some summary }) ∨
      (∀ input, r ≠ .reflect input) ∧ HandsOver trace request (resume answer) := by
  cases h with
  | last c mode summary => exact .inl ⟨c, mode, summary, rfl, rfl⟩
  | earlier hOther hRest => exact .inr ⟨hOther, hRest answer⟩

end HandsOver

/-! ## What a reflection gives -/

/-- Whatever the model does, the record of a reflection has the numbers of its task. -/
theorem ensures_generate (settings : Reflection.Settings) (client : String) (start : Timestamp)
    (input : Input) :
    (Reflection.generate settings client start input).Ensures fun g => Measured input g.entry := by
  have hAny {β : Type} (x : Activity β) : x.Ensures fun _ => True :=
    Activity.ensures_of_forall (fun _ => trivial) x
  unfold Reflection.generate
  refine (hAny _).bind fun first _ => ?_
  cases first with
  | ok narrative => exact fun now => ⟨rfl, rfl, rfl, rfl⟩
  | error fault =>
      refine (hAny _).bind fun second _ => ?_
      cases second with
      | ok narrative => exact fun now => ⟨rfl, rfl, rfl, rfl⟩
      | error fault' => exact fun now => ⟨rfl, rfl, rfl, rfl⟩

/-- What the sink was given for a reflection on an input that is so far. -/
inductive HasGiven (input : Input) : Progress → List Entry → Prop
  | nothing {rest : Activity Generated} (h : rest.Ensures fun g => Measured input g.entry) :
      HasGiven input (.generating rest) []
  | storing {e : Entry} (h : Measured input e) : HasGiven input .storing [e]
  | ended {e : Entry} (refused : Bool) (h : Measured input e) :
      HasGiven input (.ended refused) [e]

theorem HasGiven.next {input : Input} {progress progress' : Progress} {record : Option Entry}
    {given : List Entry} (h : HasGiven input progress given)
    (hNext : progress.Next record progress') :
    HasGiven input progress' (given ++ record.toList) := by
  cases hNext with
  | answer answer =>
      cases h with
      | nothing h => exact .nothing (h answer)
  | give g =>
      cases h with
      | nothing h => exact .storing h
  | settle refused =>
      cases h with
      | storing h => exact .ended refused h

/-- Nothing is given twice. -/
theorem HasGiven.eq_nil_or {input : Input} {progress : Progress} {given : List Entry}
    (h : HasGiven input progress given) : given = [] ∨ ∃ e, given = [e] ∧ Measured input e := by
  cases h with
  | nothing _ => exact .inl rfl
  | storing h => exact .inr ⟨_, rfl, h⟩
  | ended _ h => exact .inr ⟨_, rfl, h⟩

/-- Something was given for what is over. -/
theorem HasGiven.of_ended {input : Input} {refused : Bool} {given : List Entry}
    (h : HasGiven input (.ended refused) given) : ∃ e, given = [e] ∧ Measured input e := by
  cases h with
  | ended _ h => exact ⟨_, rfl, h⟩

/-- A list keeps a property of its elements when one of them is replaced by one like it. -/
theorem map_set_of_getElem? {α β : Type} {f : α → β} {as : List α} {j : Nat} {a a' : α}
    (h : as[j]? = some a) (hSame : f a' = f a) : (as.set j a').map f = as.map f := by
  obtain ⟨hLess, rfl⟩ := List.getElem?_eq_some_iff.mp h
  refine List.ext_getElem? fun k => ?_
  by_cases hSelf : j = k
  · subst hSelf
    simp [hLess, hSame]
  · simp [List.getElem?_set_ne hSelf]

namespace Office

variable {x : Executor} {plan : ReflectionPlan} {o o' : Office}

theorem afterRequest_of_ne_reflect {r : Request} (h : ∀ input, r ≠ .reflect input) (i : Nat) :
    o.afterRequest plan i r = o := by
  cases r with
  | reflect input => exact absurd rfl (h input)
  | _ => rfl

theorem same_afterRequest (plan : ReflectionPlan) (i : Nat) (r : Request) :
    (o.afterRequest plan i r).tasks = o.tasks ∧ (o.afterRequest plan i r).given = o.given ∧
      (o.afterRequest plan i r).waits = o.waits := by
  cases r <;> exact ⟨rfl, rfl, rfl⟩

theorem recordsOf_advance (j : Nat) (r : Reflecting) (record : Option Entry) (i : Nat) :
    (o.advance j r record).recordsOf i =
      o.recordsOf i ++ if r.task = i then record.toList else [] := by
  cases record with
  | none => simp [advance, recordsOf]
  | some e => by_cases h : r.task = i <;> simp [advance, recordsOf, h]

theorem getElem?_advance_self {j : Nat} {r r' : Reflecting} {record : Option Entry}
    (h : o.reflections[j]? = some r) : (o.advance j r' record).reflections[j]? = some r' := by
  have hLess : j < o.reflections.length := (List.getElem?_eq_some_iff.mp h).1
  simp [advance, hLess]

theorem getElem?_advance_of_ne {j k : Nat} (h : j ≠ k) {r : Reflecting} {record : Option Entry} :
    (o.advance j r record).reflections[k]? = o.reflections[k]? := by
  simp [advance, List.getElem?_set_ne h]

theorem subjects_advance {j i : Nat} {input : Input} {progress : Progress}
    (h : o.reflections[j]? = some ⟨i, input, progress⟩) (progress' : Progress)
    (record : Option Entry) : (o.advance j ⟨i, input, progress'⟩ record).subjects = o.subjects := by
  exact map_set_of_getElem? h rfl

/-! ## Tasks that have returned -/

/-- A task has returned a context. -/
def Returned (o : Office) (i : Nat) (t : Started) (c : Context) : Prop :=
  o.tasks[i]? = some t ∧ t.rest = .done c

theorem Returned.start {i : Nat} {t : Started} {c : Context} (h : o.Returned i t c)
    (t' : Started) : (o.start t').Returned i t c := by
  obtain ⟨hTask, hDone⟩ := h
  have hLess : i < o.tasks.length := (List.getElem?_eq_some_iff.mp hTask).1
  refine ⟨?_, hDone⟩
  simp only [Office.start]
  rw [List.getElem?_append_left hLess, hTask]

/-- Only tasks that have not returned go on. -/
theorem Returned.goOn {i k : Nat} {t : Started} {c : Context} (h : o.Returned i t c)
    {trace request : String} {r : Request} {resume : r.Answer → Activity Context}
    (hTask : o.tasks[k]? = some ⟨trace, request, .request r resume⟩) (t' : Started) :
    (o.goOn k t').Returned i t c := by
  have hOther : k ≠ i := by
    rintro rfl
    obtain ⟨hSame, hDone⟩ := h
    obtain rfl := Option.some.inj (hSame.symm.trans hTask)
    cases hDone
  refine ⟨?_, h.2⟩
  simp only [Office.goOn]
  rw [List.getElem?_set_ne hOther, h.1]

/-! ## Tasks, reflections and records belong together -/

/-- A reflection is about a task and the context that it has returned. -/
def About (t : Started) (c : Context) (input : Input) : Prop :=
  ∃ mode summary, c.summary = some summary ∧
    input = .ofContext t.trace t.request c mode summary

/-- Every task that has returned has one reflection and no other task has any, and every
reflection has given at most one record of its task. -/
structure Sound (o : Office) : Prop where
  tasks : ∀ i t, o.tasks[i]? = some t →
    (∃ c, t.rest = .done c ∧ i ∈ o.subjects) ∨ HandsOver t.trace t.request t.rest
  once : o.subjects.Nodup
  about : ∀ r ∈ o.reflections, ∃ t c, o.Returned r.task t c ∧ About t c r.input
  given : ∀ r ∈ o.reflections, HasGiven r.input r.progress (o.recordsOf r.task)
  nothing : ∀ i, i ∉ o.subjects → o.recordsOf i = []

namespace Sound

theorem idle : Sound idle where
  tasks i t hTask := by simp [Office.idle] at hTask
  once := List.nodup_nil
  about r hr := (List.not_mem_nil hr).elim
  given r hr := (List.not_mem_nil hr).elim
  nothing _ _ := rfl

theorem start (h : Sound o) {t : Started} (hTask : HandsOver t.trace t.request t.rest) :
    Sound (o.start t) := by
  refine ⟨?_, h.once, ?_, h.given, h.nothing⟩
  · intro i t' ht
    simp only [Office.start] at ht
    by_cases hLess : i < o.tasks.length
    · rw [List.getElem?_append_left hLess] at ht
      exact h.tasks i t' ht
    · rw [List.getElem?_append_right (by omega)] at ht
      obtain rfl : t' = t := by simpa using List.mem_of_getElem? ht
      exact .inr hTask
  · intro r hr
    obtain ⟨t', c, hReturned, hAbout⟩ := h.about r hr
    exact ⟨t', c, hReturned.start t, hAbout⟩

section Answer

variable {i : Nat} {trace request : String} {r : Request} {resume : r.Answer → Activity Context}

/-- A task that is to go on has not returned. -/
theorem handsOver (h : Sound o)
    (hTask : o.tasks[i]? = some ⟨trace, request, .request r resume⟩) :
    HandsOver trace request (.request r resume) := by
  rcases h.tasks i _ hTask with ⟨c, hDone, -⟩ | hRest
  · cases hDone
  · exact hRest

theorem not_mem_subjects (h : Sound o)
    (hTask : o.tasks[i]? = some ⟨trace, request, .request r resume⟩) : i ∉ o.subjects := by
  intro hMem
  obtain ⟨reflection, hReflection, rfl⟩ := List.mem_map.mp hMem
  obtain ⟨t, c, ⟨hReturned, hDone⟩, -⟩ := h.about reflection hReflection
  obtain rfl := Option.some.inj (hReturned.symm.trans hTask)
  cases hDone

/-- The tasks after one of them went on. -/
theorem tasks_goOn (h : Sound o) {rest : Activity Context} (k : Nat) (t : Started)
    (ht : (o.goOn i ⟨trace, request, rest⟩).tasks[k]? = some t) :
    i = k ∧ t = ⟨trace, request, rest⟩ ∨
      (∃ c, t.rest = .done c ∧ k ∈ o.subjects) ∨ HandsOver t.trace t.request t.rest := by
  simp only [goOn, List.getElem?_set] at ht
  by_cases hSelf : i = k
  · refine .inl ⟨hSelf, ?_⟩
    rw [if_pos hSelf] at ht
    split at ht
    · exact (Option.some.inj ht).symm
    · cases ht
  · rw [if_neg hSelf] at ht
    exact .inr (h.tasks k t ht)

theorem goOn (h : Sound o) (hTask : o.tasks[i]? = some ⟨trace, request, .request r resume⟩)
    {rest : Activity Context} (hRest : HandsOver trace request rest) :
    Sound (o.goOn i ⟨trace, request, rest⟩) := by
  refine ⟨?_, h.once, ?_, h.given, h.nothing⟩
  · intro k t ht
    rcases h.tasks_goOn k t ht with ⟨-, rfl⟩ | hSame
    · exact .inr hRest
    · exact hSame
  · intro reflection hReflection
    obtain ⟨t, c, hReturned, hAbout⟩ := h.about reflection hReflection
    exact ⟨t, c, hReturned.goOn hTask _, hAbout⟩

/-- A task that returns gets its reflection, and nothing was given for it. -/
theorem handOver (h : Sound o) (plan : ReflectionPlan)
    (hTask : o.tasks[i]? = some ⟨trace, request, .request r resume⟩) {c : Context} {input : Input}
    (hAbout : About ⟨trace, request, .done c⟩ c input) :
    Sound ((o.goOn i ⟨trace, request, .done c⟩).afterRequest plan i (.reflect input)) := by
  have hNew := h.not_mem_subjects hTask
  have hSubjects : ((o.goOn i ⟨trace, request, .done c⟩).afterRequest plan i
      (.reflect input)).subjects = o.subjects ++ [i] := by
    simp [subjects, afterRequest, Office.goOn, newReflection]
  refine ⟨?_, ?_, ?_, ?_, ?_⟩
  · intro k t ht
    rw [hSubjects]
    rcases h.tasks_goOn k t ht with ⟨rfl, rfl⟩ | ⟨c', hDone, hMem⟩ | hRest
    · exact .inl ⟨c, rfl, by simp⟩
    · exact .inl ⟨c', hDone, List.mem_append_left _ hMem⟩
    · exact .inr hRest
  · rw [hSubjects, List.nodup_append]
    exact ⟨h.once, by simp, by rintro k hk _ hi rfl; exact hNew (List.mem_singleton.mp hi ▸ hk)⟩
  · intro reflection hReflection
    rcases List.mem_append.mp hReflection with hOld | hOwn
    · obtain ⟨t, c', hReturned, hOther⟩ := h.about reflection hOld
      exact ⟨t, c', hReturned.goOn hTask _, hOther⟩
    · obtain rfl := List.mem_singleton.mp hOwn
      have hLess : i < o.tasks.length := (List.getElem?_eq_some_iff.mp hTask).1
      refine ⟨⟨trace, request, .done c⟩, c, ⟨?_, rfl⟩, hAbout⟩
      simp [newReflection, afterRequest, Office.goOn, hLess]
  · intro reflection hReflection
    rcases List.mem_append.mp hReflection with hOld | hOwn
    · exact h.given reflection hOld
    · obtain rfl := List.mem_singleton.mp hOwn
      have hNothing := h.nothing i hNew
      show HasGiven input _ (o.recordsOf i)
      rw [hNothing]
      exact .nothing (ensures_generate ..)
  · intro k hk
    rw [hSubjects] at hk
    exact h.nothing k fun hMem => hk (List.mem_append_left _ hMem)

end Answer

/-- A reflection that goes on stays about its task, and gives what it has to give. -/
theorem advance (h : Sound o) {j i : Nat} {input : Input} {progress progress' : Progress}
    {record : Option Entry} (hReflection : o.reflections[j]? = some ⟨i, input, progress⟩)
    (hNext : progress.Next record progress') :
    Sound (o.advance j ⟨i, input, progress'⟩ record) := by
  have hSubjects := subjects_advance hReflection progress' record
  have hMem := List.mem_of_getElem? hReflection
  refine ⟨?_, ?_, ?_, ?_, ?_⟩
  · rw [hSubjects]
    exact h.tasks
  · rw [hSubjects]
    exact h.once
  · intro r hr
    rcases List.mem_or_eq_of_mem_set hr with hOld | rfl
    · exact h.about r hOld
    · exact h.about ⟨i, input, progress⟩ hMem
  · intro r hr
    obtain ⟨k, hk⟩ := List.mem_iff_getElem?.mp hr
    rw [recordsOf_advance]
    by_cases hSelf : j = k
    · subst hSelf
      rw [getElem?_advance_self hReflection] at hk
      cases hk
      rw [if_pos rfl]
      exact (h.given _ hMem).next hNext
    · rw [getElem?_advance_of_ne hSelf] at hk
      rw [if_neg, List.append_nil]
      · exact h.given r (List.mem_of_getElem? hk)
      · -- another reflection is about another task
        intro hSame
        have hLess : j < o.subjects.length := by
          simpa [subjects] using (List.getElem?_eq_some_iff.mp hReflection).1
        refine hSelf ((List.getElem?_inj hLess h.once).mp ?_)
        simp [subjects, hReflection, hk, ← hSame]
  · intro k hk
    rw [hSubjects] at hk
    rw [recordsOf_advance, h.nothing k hk, List.nil_append, if_neg]
    rintro rfl
    exact hk (List.mem_map.mpr ⟨_, hMem, rfl⟩)

theorem wait (h : Sound o) : Sound o.wait :=
  ⟨h.tasks, h.once, h.about, h.given, h.nothing⟩

theorem step (h : Sound o) (hStep : Step x plan o o') : Sound o' := by
  cases hStep with
  | start trace request => exact h.start (handsOver_execute x trace request)
  | answer hTask answer =>
      rcases (h.handsOver hTask).answer answer with ⟨c, mode, summary, rfl, hDone⟩ | ⟨hOther, hRest⟩
      · rw [hDone]
        exact h.handOver plan hTask ⟨mode, summary, rfl, rfl⟩
      · rw [afterRequest_of_ne_reflect hOther]
        exact h.goOn hTask hRest
  | reflect hReflection hNext => exact h.advance hReflection hNext
  | wait => exact h.wait
  | leave _ _ => exact ⟨h.tasks, h.once, h.about, h.given, h.nothing⟩

theorem steps (h : Sound o) (hSteps : Steps x plan o o') : Sound o' := by
  induction hSteps with
  | refl => exact h
  | tail _ hStep ih => exact ih.step hStep

end Sound

end Office

end SteadyTask.Task
