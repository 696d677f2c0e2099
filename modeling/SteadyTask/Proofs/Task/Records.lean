import SteadyTask.Proofs.Task.Office

/-!
# The records of tasks that overlap

The backlog loses a reflection only when that is over or when somebody waits for it.  So once he has
returned, the sink has exactly one record of each task that had returned when he came, except of
those whose reflections somebody awaits who came before him (`Office.one_record_unless_awaited`).
Whatever has happened, everybody who waits can return.

Those who came before matter: whoever comes while another one waits finds a backlog from which the
other one has taken everything, and can return at once, with no record in the sink
(`Office.second_wait_without_record`).  The same is left behind by somebody who gives up while he
waits: he is one who never returns.
-/

namespace SteadyTask.Task

open Activity (Exchange Reaches)
open Reflection (Backlog Entry Input Measured)
open Simulation (ReflectionPlan)

theorem getElem?_of_initial {α : Type} {as bs : List α} (hPrefix : as <+: bs) {j : Nat} {a : α}
    (h : as[j]? = some a) : bs[j]? = some a := by
  obtain ⟨later, rfl⟩ := hPrefix
  rw [List.getElem?_append_left (List.getElem?_eq_some_iff.mp h).1, h]

theorem forall_mem_take_succ {α : Type} {P : α → Prop} {as : List α} {n : Nat}
    (h : ∀ a ∈ as.take n, P a) (hNext : ∀ a, as[n]? = some a → P a) :
    ∀ a ∈ as.take (n + 1), P a := by
  intro a ha
  rw [List.take_add_one] at ha
  rcases List.mem_append.mp ha with ha | ha
  · exact h a ha
  · exact hNext a (Option.mem_toList.mp ha)

namespace Office

variable {x : Executor} {plan : ReflectionPlan} {o o' : Office}

/-! ## What stays -/

theorem map_awaited_leave {k : Nat} {awaited : Backlog}
    (h : o.waits[k]? = some ⟨awaited, false⟩) :
    (o.leave k awaited).waits.map Wait.awaited = o.waits.map Wait.awaited :=
  map_set_of_getElem? h rfl

theorem isOver_eq_true_iff {j : Nat} :
    o.isOver j = true ↔ ∃ i input refused, o.reflections[j]? = some ⟨i, input, .ended refused⟩ := by
  unfold isOver
  split
  · next i input refused hEnded => simp [hEnded]
  · next hOther =>
      refine iff_of_false nofun ?_
      rintro ⟨i, input, refused, hEnded⟩
      exact hOther i input refused hEnded

/-- What has come after something: what is over stays as it is, and the rest was added behind. -/
structure Follows (o o' : Office) : Prop where
  returned : ∀ i t c, o.Returned i t c → o'.Returned i t c
  subjects : o.subjects <+: o'.subjects
  isOver : ∀ j, o.isOver j = true → o'.isOver j = true
  waits : o.waits.map Wait.awaited <+: o'.waits.map Wait.awaited

namespace Follows

theorem refl (o : Office) : Follows o o :=
  ⟨fun _ _ _ h => h, List.prefix_refl _, fun _ h => h, List.prefix_refl _⟩

theorem trans {o₁ o₂ o₃ : Office} (h : Follows o₁ o₂) (h' : Follows o₂ o₃) : Follows o₁ o₃ :=
  ⟨fun i t c hDone => h'.returned i t c (h.returned i t c hDone), h.subjects.trans h'.subjects,
    fun j hOver => h'.isOver j (h.isOver j hOver), h.waits.trans h'.waits⟩

theorem afterRequest (o : Office) (plan : ReflectionPlan) (i : Nat) (r : Request) :
    Follows o (o.afterRequest plan i r) := by
  cases r with
  | reflect input =>
      refine ⟨fun _ _ _ h => h, ?_, ?_, List.prefix_refl _⟩
      · simp [Office.afterRequest, Office.subjects]
      · intro j hOver
        obtain ⟨k, input', refused, hEnded⟩ := isOver_eq_true_iff.mp hOver
        refine isOver_eq_true_iff.mpr ⟨k, input', refused, ?_⟩
        have hLess : j < o.reflections.length := (List.getElem?_eq_some_iff.mp hEnded).1
        simp only [Office.afterRequest]
        rw [List.getElem?_append_left hLess, hEnded]
  | _ => exact .refl o

/-- Nothing that is over goes on. -/
theorem advance {j i : Nat} {input : Input} {progress progress' : Progress} {record : Option Entry}
    (hReflection : o.reflections[j]? = some ⟨i, input, progress⟩)
    (hNext : progress.Next record progress') :
    Follows o (o.advance j ⟨i, input, progress'⟩ record) := by
  refine ⟨fun _ _ _ h => h, ?_, ?_, List.prefix_refl _⟩
  · rw [subjects_advance hReflection]
  · intro k hOver
    obtain ⟨i', input', refused, hEnded⟩ := isOver_eq_true_iff.mp hOver
    have hOther : j ≠ k := by
      rintro rfl
      cases hReflection.symm.trans hEnded
      cases hNext
    refine isOver_eq_true_iff.mpr ⟨i', input', refused, ?_⟩
    rw [getElem?_advance_of_ne hOther, hEnded]

theorem wait (o : Office) : Follows o o.wait :=
  ⟨fun _ _ _ h => h, List.prefix_refl _, fun _ h => h, by simp [Office.wait]⟩

theorem of_step (hStep : Step x plan o o') : Follows o o' := by
  cases hStep with
  | start trace request =>
      exact ⟨fun _ _ _ h => h.start _, List.prefix_refl _, fun _ h => h, List.prefix_refl _⟩
  | answer hTask answer =>
      refine .trans ?_ (.afterRequest _ plan _ _)
      exact ⟨fun _ _ _ h => h.goOn hTask _, List.prefix_refl _, fun _ h => h, List.prefix_refl _⟩
  | reflect hReflection hNext => exact .advance hReflection hNext
  | wait => exact .wait o
  | @leave k awaited hWait _ =>
      refine ⟨fun _ _ _ h => h, List.prefix_refl _, fun _ h => h, ?_⟩
      rw [map_awaited_leave hWait]

theorem of_steps (hSteps : Steps x plan o o') : Follows o o' := by
  induction hSteps with
  | refl => exact .refl o
  | tail _ hStep ih => exact ih.trans (.of_step hStep)

end Follows

/-! ## What is waited for -/

/-- Every reflection is over, in the backlog, or awaited by somebody, and whoever has returned was
right to do so. -/
structure Minded (o : Office) : Prop where
  outstanding : ∀ j < o.reflections.length,
    o.isOver j = true ∨ j ∈ o.backlog ∨ ∃ b ∈ o.waits.map Wait.awaited, j ∈ b
  backlog : ∀ j ∈ o.backlog, j < o.reflections.length
  awaited : ∀ b ∈ o.waits.map Wait.awaited, ∀ j ∈ b, j < o.reflections.length
  returned : ∀ w ∈ o.waits, w.returned = true → ∀ j ∈ w.awaited, o.isOver j = true

namespace Minded

theorem idle : Minded idle where
  outstanding j hj := (Nat.not_lt_zero j hj).elim
  backlog _ hj := (List.not_mem_nil hj).elim
  awaited _ hb := (List.not_mem_nil hb).elim
  returned _ hw := (List.not_mem_nil hw).elim

/-- What is over may be more than before. -/
theorem of_follows (h : Minded o) (hFollows : Follows o o')
    (hLength : o'.reflections.length = o.reflections.length) (hBacklog : o'.backlog = o.backlog)
    (hWaits : o'.waits = o.waits) : Minded o' := by
  refine ⟨?_, ?_, ?_, ?_⟩
  · intro j hj
    rw [hLength] at hj
    rw [hBacklog, hWaits]
    exact (h.outstanding j hj).imp_left (hFollows.isOver j)
  · rw [hBacklog, hLength]
    exact h.backlog
  · rw [hWaits, hLength]
    exact h.awaited
  · rw [hWaits]
    exact fun w hw hReturned j hj => hFollows.isOver j (h.returned w hw hReturned j hj)

/-- The backlog loses only what is over. -/
theorem afterRequest (h : Minded o) (plan : ReflectionPlan) (i : Nat) (r : Request) :
    Minded (o.afterRequest plan i r) := by
  have hFollows := Follows.afterRequest o plan i r
  cases r with
  | reflect input =>
      have hLength : (o.afterRequest plan i (.reflect input)).reflections.length =
          o.reflections.length + 1 := by simp [Office.afterRequest]
      refine ⟨?_, ?_, ?_, ?_⟩
      · intro j hj
        rw [hLength] at hj
        rcases Nat.lt_succ_iff_lt_or_eq.mp hj with hOld | rfl
        · by_cases hOver : o.isOver j = true
          · exact .inl (hFollows.isOver j hOver)
          · rcases h.outstanding j hOld with hOver' | hBacklog | hAwaited
            · exact absurd hOver' hOver
            · exact .inr (.inl (Backlog.mem_join.mpr (.inl ⟨hBacklog, by simpa using hOver⟩)))
            · exact .inr (.inr hAwaited)
        · exact .inr (.inl (Backlog.mem_join.mpr (.inr rfl)))
      · intro j hj
        rw [hLength]
        rcases Backlog.mem_join.mp hj with ⟨hOld, -⟩ | rfl
        · exact Nat.lt_succ_of_lt (h.backlog j hOld)
        · exact Nat.lt_succ_self _
      · intro b hb j hj
        rw [hLength]
        exact Nat.lt_succ_of_lt (h.awaited b hb j hj)
      · exact fun w hw hReturned j hj => hFollows.isOver j (h.returned w hw hReturned j hj)
  | _ => exact h

/-- What is taken from the backlog is awaited from then on. -/
theorem wait (h : Minded o) : Minded o.wait := by
  refine ⟨?_, nofun, ?_, ?_⟩
  · intro j hj
    rcases h.outstanding j hj with hOver | hBacklog | ⟨b, hb, hMem⟩
    · exact .inl hOver
    · exact .inr (.inr ⟨o.backlog, by simp [Office.wait], hBacklog⟩)
    · refine .inr (.inr ⟨b, ?_, hMem⟩)
      rw [Office.wait, List.map_append]
      exact List.mem_append_left _ hb
  · intro b hb j hj
    rw [Office.wait, List.map_append] at hb
    rcases List.mem_append.mp hb with hOld | hOwn
    · exact h.awaited b hOld j hj
    · obtain rfl := List.mem_singleton.mp hOwn
      exact h.backlog j hj
  · intro w hw hReturned
    rcases List.mem_append.mp hw with hOld | hOwn
    · exact h.returned w hOld hReturned
    · obtain rfl := List.mem_singleton.mp hOwn
      cases hReturned

theorem leave (h : Minded o) {k : Nat} {awaited : Backlog}
    (hWait : o.waits[k]? = some ⟨awaited, false⟩) (hOver : awaited.isOver o.isOver = true) :
    Minded (o.leave k awaited) := by
  have hSame := map_awaited_leave hWait
  refine ⟨?_, h.backlog, ?_, ?_⟩
  · rw [hSame]
    exact h.outstanding
  · rw [hSame]
    exact h.awaited
  · intro w hw hReturned
    rcases List.mem_or_eq_of_mem_set hw with hOld | rfl
    · exact h.returned w hOld hReturned
    · exact Backlog.isOver_iff.mp hOver

theorem step (h : Minded o) (hStep : Step x plan o o') : Minded o' := by
  cases hStep with
  | start trace request => exact ⟨h.outstanding, h.backlog, h.awaited, h.returned⟩
  | answer hTask answer =>
      refine .afterRequest ?_ plan _ _
      exact ⟨h.outstanding, h.backlog, h.awaited, h.returned⟩
  | reflect hReflection hNext =>
      exact h.of_follows (.advance hReflection hNext) (by simp [advance]) rfl rfl
  | wait => exact h.wait
  | leave hWait hOver => exact h.leave hWait hOver

theorem steps (h : Minded o) (hSteps : Steps x plan o o') : Minded o' := by
  induction hSteps with
  | refl => exact h
  | tail _ hStep ih => exact ih.step hStep

end Minded

/-! ## Going on -/

/-- Every request can be answered. -/
theorem nonempty_answer (r : Request) : Nonempty r.Answer := by
  cases r with
  | ask | consult | useTool | read => exact ⟨Outcome.overdue⟩
  | readAll => exact ⟨([] : List _)⟩
  | now | startMonitor => exact ⟨(0 : Nat)⟩
  | mode => exact ⟨Mode.normal⟩
  | stopMonitor => exact ⟨Metric.Summary.empty 0⟩
  | forget | pause | evaluate | reflect | awaitReflections => exact ⟨()⟩

/-- A reflection can go on until it is over, whatever else waits for that. -/
theorem exists_isOver (x : Executor) (plan : ReflectionPlan) {j : Nat}
    (hLess : j < o.reflections.length) :
    ∃ o', Steps x plan o o' ∧ o'.reflections.length = o.reflections.length ∧
      o'.waits = o.waits ∧ o'.isOver j = true := by
  have hSettle (o : Office) (i : Nat) (input : Input)
      (h : o.reflections[j]? = some ⟨i, input, .storing⟩) :
      ∃ o', Steps x plan o o' ∧ o'.reflections.length = o.reflections.length ∧
        o'.waits = o.waits ∧ o'.isOver j = true :=
    ⟨_, .single (.reflect o h (.settle false)), by simp [advance], rfl,
      isOver_eq_true_iff.mpr ⟨_, _, _, getElem?_advance_self h⟩⟩
  obtain ⟨⟨i, input, progress⟩, hReflection⟩ : ∃ r, o.reflections[j]? = some r :=
    ⟨_, List.getElem?_eq_getElem hLess⟩
  cases progress with
  | ended refused =>
      exact ⟨o, .refl, rfl, rfl, isOver_eq_true_iff.mpr ⟨_, _, _, hReflection⟩⟩
  | storing => exact hSettle o i input hReflection
  | generating rest =>
      -- along what the reflection has left to do
      induction rest generalizing o with
      | done g =>
          obtain ⟨o', hSteps, hLength, hWaits, hOver⟩ :=
            hSettle _ i input (getElem?_advance_self hReflection)
          exact ⟨o', .head (.reflect o hReflection (.give g)) hSteps,
            by simpa [advance] using hLength, hWaits, hOver⟩
      | request r resume ih =>
          obtain ⟨answer⟩ := nonempty_answer r
          have hStep : Step x plan o _ := .reflect o hReflection (.answer answer)
          obtain ⟨o', hSteps, hLength, hWaits, hOver⟩ :=
            ih answer (by simpa [advance] using hLess) (getElem?_advance_self hReflection)
          exact ⟨o', .head hStep hSteps, by simpa [advance] using hLength, hWaits, hOver⟩

theorem exists_all_isOver (x : Executor) (plan : ReflectionPlan) (o : Office) {n : Nat}
    (hLe : n ≤ o.reflections.length) :
    ∃ o', Steps x plan o o' ∧ o'.reflections.length = o.reflections.length ∧
      o'.waits = o.waits ∧ ∀ j < n, o'.isOver j = true := by
  induction n with
  | zero => exact ⟨o, .refl, rfl, rfl, fun j hj => (Nat.not_lt_zero j hj).elim⟩
  | succ n ih =>
      obtain ⟨o₁, hSteps, hLength, hWaits, hOver⟩ := ih (by omega)
      obtain ⟨o₂, hMore, hLength', hWaits', hOver'⟩ :=
        exists_isOver (o := o₁) x plan (j := n) (by omega)
      refine ⟨o₂, hSteps.trans hMore, by omega, hWaits'.trans hWaits, fun j hj => ?_⟩
      rcases Nat.lt_succ_iff_lt_or_eq.mp hj with hEarlier | rfl
      · exact (Follows.of_steps hMore).isOver j (hOver j hEarlier)
      · exact hOver'

/-- When everything that is awaited is over, those who wait can return one after another. -/
theorem exists_take_returned (x : Executor) (plan : ReflectionPlan) {o : Office}
    (hOver : ∀ b ∈ o.waits.map Wait.awaited, b.isOver o.isOver = true) (n : Nat) :
    ∃ o', Steps x plan o o' ∧ o'.reflections = o.reflections ∧
      o'.waits.map Wait.awaited = o.waits.map Wait.awaited ∧
      ∀ w ∈ o'.waits.take n, w.returned = true := by
  induction n with
  | zero => exact ⟨o, .refl, rfl, rfl, fun w hw => by simp at hw⟩
  | succ n ih =>
      obtain ⟨o', hSteps, hReflections, hWaits, hReturned⟩ := ih
      by_cases hWait : ∃ awaited, o'.waits[n]? = some ⟨awaited, false⟩
      · obtain ⟨awaited, hWait⟩ := hWait
        have hMem : awaited ∈ o.waits.map Wait.awaited := by
          rw [← hWaits]
          exact List.mem_map.mpr ⟨_, List.mem_of_getElem? hWait, rfl⟩
        have hSame : o'.isOver = o.isOver := by
          funext j
          rw [isOver, hReflections, isOver]
        have hStep : Step x plan o' (o'.leave n awaited) :=
          .leave o' hWait (by rw [hSame]; exact hOver awaited hMem)
        have hLess : n < o'.waits.length := (List.getElem?_eq_some_iff.mp hWait).1
        refine ⟨_, hSteps.tail hStep, hReflections, by rw [map_awaited_leave hWait, hWaits],
          forall_mem_take_succ ?_ ?_⟩
        · rw [leave, List.take_set_of_le (Nat.le_refl n)]
          exact hReturned
        · intro w hw
          rw [leave, List.getElem?_set_self hLess] at hw
          exact Option.some.inj hw ▸ rfl
      · refine ⟨o', hSteps, hReflections, hWaits, forall_mem_take_succ hReturned ?_⟩
        rintro ⟨awaited, returned⟩ hw
        cases returned with
        | true => rfl
        | false => exact absurd ⟨awaited, hw⟩ hWait

/-- Whatever has happened, everybody who waits can return. -/
theorem everybody_can_return (x : Executor) (plan : ReflectionPlan) (h : Minded o) :
    ∃ o', Steps x plan o o' ∧ ∀ w ∈ o'.waits, w.returned = true := by
  obtain ⟨o₁, hSteps, hLength, hWaits, hOver⟩ := exists_all_isOver x plan o (Nat.le_refl _)
  have hAwaited : ∀ b ∈ o₁.waits.map Wait.awaited, b.isOver o₁.isOver = true := by
    intro b hb
    rw [hWaits] at hb
    exact Backlog.isOver_iff.mpr fun j hj => hOver j (h.awaited b hb j hj)
  obtain ⟨o₂, hMore, -, hSame, hReturned⟩ :=
    exists_take_returned x plan hAwaited o₁.waits.length
  have hAll : o₂.waits.take o₁.waits.length = o₂.waits := by
    refine List.take_of_length_le (Nat.le_of_eq ?_)
    simpa using congrArg List.length hSame
  rw [hAll] at hReturned
  exact ⟨o₂, hSteps.trans hMore, hReturned⟩

/-- A task among others can make all exchanges that it can make. -/
theorem exists_of_reaches (plan : ReflectionPlan) {i : Nat} {trace request : String}
    {rest rest' : Activity Context} {exchanges : List Exchange}
    (hTask : o.tasks[i]? = some ⟨trace, request, rest⟩) (h : Reaches rest exchanges rest') :
    ∃ o', Steps x plan o o' ∧ o'.tasks = o.tasks.set i ⟨trace, request, rest'⟩ ∧
      o'.given = o.given ∧ o'.waits = o.waits := by
  induction h generalizing o with
  | refl rest =>
      refine ⟨o, .refl, ?_, rfl, rfl⟩
      obtain ⟨hLess, hSelf⟩ := List.getElem?_eq_some_iff.mp hTask
      rw [← hSelf, List.set_getElem_self]
  | @request r resume answer exchanges rest' h ih =>
      have hStep : Step x plan o _ := .answer o hTask answer
      have hLess : i < o.tasks.length := (List.getElem?_eq_some_iff.mp hTask).1
      obtain ⟨hTasks, hGiven, hWaits⟩ :=
        same_afterRequest (o := o.goOn i ⟨trace, request, resume answer⟩) plan i r
      obtain ⟨o', hSteps, hSet, hGiven', hWaits'⟩ :=
        ih (by rw [hTasks]; exact List.getElem?_set_self hLess)
      refine ⟨o', .head hStep hSteps, ?_, hGiven'.trans hGiven, hWaits'.trans hWaits⟩
      rw [hSet, hTasks]
      exact List.set_set ..

/-! ## One record of each task -/

/-- A record is about a task, and has the numbers of the context that the task has returned. -/
def IsRecordOf (t : Started) (c : Context) (e : Entry) : Prop :=
  ∃ summary, c.summary = some summary ∧ e.trace = t.trace ∧ e.state = c.state ∧
    e.durationSeconds = summary.durationSeconds ∧ e.metrics = summary.fields

theorem isRecordOf_of_measured {t : Started} {c : Context} {input : Input} {e : Entry}
    (hAbout : About t c input) (h : Measured input e) : IsRecordOf t c e := by
  obtain ⟨mode, summary, hSummary, rfl⟩ := hAbout
  exact ⟨summary, hSummary, h.trace, h.state, h.durationSeconds, h.metrics⟩

/-- The sink has at most one record of a task, and none of a task that has not returned. -/
theorem Sound.recordsOf (h : Sound o) (i : Nat) :
    o.recordsOf i = [] ∨
      ∃ t c e, o.Returned i t c ∧ o.recordsOf i = [e] ∧ IsRecordOf t c e := by
  by_cases hMem : i ∈ o.subjects
  · obtain ⟨r, hr, rfl⟩ := List.mem_map.mp hMem
    obtain ⟨t, c, hReturned, hAbout⟩ := h.about r hr
    rcases (h.given r hr).eq_nil_or with hNil | ⟨e, hOne, hMeasured⟩
    · exact .inl hNil
    · exact .inr ⟨t, c, e, hReturned, hOne, isRecordOf_of_measured hAbout hMeasured⟩
  · exact .inl (h.nothing i hMem)

/-- Once a reflection is over the sink has the record of its task. -/
theorem Sound.recordsOf_of_isOver (h : Sound o) {i j : Nat} {t : Started} {c : Context}
    (hReturned : o.Returned i t c) (hSubject : o.subjects[j]? = some i)
    (hOver : o.isOver j = true) : ∃ e, o.recordsOf i = [e] ∧ IsRecordOf t c e := by
  obtain ⟨i', input, refused, hEnded⟩ := isOver_eq_true_iff.mp hOver
  obtain rfl : i' = i := by simpa [subjects, hEnded] using hSubject
  have hMem := List.mem_of_getElem? hEnded
  obtain ⟨t', c', ⟨hTask, hDone⟩, hAbout⟩ := h.about _ hMem
  obtain rfl := Option.some.inj (hTask.symm.trans hReturned.1)
  cases hDone.symm.trans hReturned.2
  obtain ⟨e, hOne, hMeasured⟩ := (h.given _ hMem).of_ended
  exact ⟨e, hOne, isRecordOf_of_measured hAbout hMeasured⟩

/-- A task returns one context. -/
theorem Returned.unique {i : Nat} {t t' : Started} {c c' : Context} (h : o.Returned i t c)
    (h' : o.Returned i t' c') : t' = t ∧ c' = c := by
  obtain rfl := Option.some.inj (h'.1.symm.trans h.1)
  cases h'.2.symm.trans h.2
  exact ⟨rfl, rfl⟩

/-- What somebody takes from the backlog is what he awaits from then on. -/
theorem awaited_of_steps (hSteps : Steps x plan o.wait o') :
    (o'.waits.map Wait.awaited)[o.waits.length]? = some o.backlog := by
  obtain ⟨later, hWaits⟩ := (Follows.of_steps hSteps).waits
  rw [← hWaits]
  simp [Office.wait]

/-- What somebody has waited for who came right then and has returned. -/
theorem wait_of_steps (hSteps : Steps x plan o.wait o')
    (hReturned : (o'.waits.map Wait.returned)[o.waits.length]? = some true) :
    o'.waits[o.waits.length]? = some ⟨o.backlog, true⟩ := by
  obtain ⟨w, hWait, hSame⟩ := by simpa using awaited_of_steps hSteps
  obtain ⟨w', hWait', hDone⟩ := by simpa using hReturned
  obtain rfl := Option.some.inj (hWait'.symm.trans hWait)
  rw [hWait, ← hSame, ← hDone]

/-- What somebody awaits who has returned is over. -/
theorem Minded.isOver_of_returned (h : Minded o') {k j : Nat} {b : Backlog}
    (hWait : o'.waits[k]? = some ⟨b, true⟩) (hj : j ∈ b) : o'.isOver j = true :=
  h.returned _ (List.mem_of_getElem? hWait) rfl j hj

/-- Among the first who came to wait somebody has not returned, and what he awaits and is not over
is the reflection on a task. -/
def StillAwaited (o : Office) (first i : Nat) : Prop :=
  ∃ k < first, ∃ b j, o.waits[k]? = some ⟨b, false⟩ ∧ j ∈ b ∧ o.subjects[j]? = some i ∧
    o.isOver j = false

/-- Tasks overlap in any way on one executor, and somebody comes to wait for the reflections.  Once
he has returned, the sink has exactly one record of each task that had returned when he came, with
the numbers of the context that the task has returned, unless somebody who came before him still
waits for the reflection on it and it has not given a record.  So if those have returned as well
there is exactly one record.  Of any task there is at most one, and none of a task that has not
returned. -/
theorem one_record_unless_awaited (x : Executor) (plan : ReflectionPlan) {o o' : Office}
    (hOffice : Steps x plan idle o) (hSteps : Steps x plan o.wait o')
    (hReturned : (o'.waits.map Wait.returned)[o.waits.length]? = some true) :
    (∀ i t c, o.Returned i t c → (∃ e, o'.recordsOf i = [e] ∧ IsRecordOf t c e) ∨
        o'.recordsOf i = [] ∧ o'.StillAwaited o.waits.length i) ∧
      ((∀ w ∈ o'.waits.take o.waits.length, w.returned = true) →
        ∀ i t c, o.Returned i t c → ∃ e, o'.recordsOf i = [e] ∧ IsRecordOf t c e) ∧
      ∀ i, o'.recordsOf i = [] ∨
        ∃ t c e, o'.Returned i t c ∧ o'.recordsOf i = [e] ∧ IsRecordOf t c e := by
  have hSound := Sound.idle.steps hOffice
  have hMinded := Minded.idle.steps hOffice
  have hSound' : Sound o' := hSound.wait.steps hSteps
  have hMinded' : Minded o' := hMinded.wait.steps hSteps
  have hFollows : Follows o o' := (Follows.wait o).trans (.of_steps hSteps)
  have hRecords : ∀ i t c, o.Returned i t c →
      (∃ e, o'.recordsOf i = [e] ∧ IsRecordOf t c e) ∨
        o'.recordsOf i = [] ∧ o'.StillAwaited o.waits.length i := by
    intro i t c hDone
    have hDone' := hFollows.returned i t c hDone
    have hSubject : i ∈ o.subjects := by
      rcases hSound.tasks i t hDone.1 with ⟨-, -, hMem⟩ | hRest
      · exact hMem
      · rw [hDone.2] at hRest
        cases hRest
    obtain ⟨j, hj⟩ := List.mem_iff_getElem?.mp hSubject
    have hj' := getElem?_of_initial hFollows.subjects hj
    have hLess : j < o.reflections.length := by
      simpa [subjects] using (List.getElem?_eq_some_iff.mp hj).1
    by_cases hOver : o'.isOver j = true
    · exact .inl (hSound'.recordsOf_of_isOver hDone' hj' hOver)
    · -- it was not over before, and he has not waited for it: somebody else does
      have hAwaited : o'.StillAwaited o.waits.length i := by
        rcases hMinded.outstanding j hLess with hBefore | hBacklog | ⟨b, hb, hMem⟩
        · exact absurd (hFollows.isOver j hBefore) hOver
        · have hOwn := wait_of_steps hSteps hReturned
          exact absurd (hMinded'.isOver_of_returned hOwn hBacklog) hOver
        · obtain ⟨k, hk⟩ := List.mem_iff_getElem?.mp hb
          have hEarlier : k < o.waits.length := by
            simpa using (List.getElem?_eq_some_iff.mp hk).1
          obtain ⟨⟨b, returned⟩, hWait, rfl⟩ : ∃ w, o'.waits[k]? = some w ∧ w.awaited = b := by
            simpa using getElem?_of_initial hFollows.waits hk
          cases returned with
          | true => exact absurd (hMinded'.isOver_of_returned hWait hMem) hOver
          | false => exact ⟨k, hEarlier, b, j, hWait, hMem, hj', by simpa using hOver⟩
      rcases hSound'.recordsOf i with hNone | ⟨t', c', e, hReturned', hOne, hRecord⟩
      · exact .inr ⟨hNone, hAwaited⟩
      · obtain ⟨rfl, rfl⟩ := hDone'.unique hReturned'
        exact .inl ⟨e, hOne, hRecord⟩
  refine ⟨hRecords, ?_, hSound'.recordsOf⟩
  intro hEarlier i t c hDone
  rcases hRecords i t c hDone with hOne | ⟨-, k, hk, b, j, hWait, -⟩
  · exact hOne
  · have hMem := List.mem_of_getElem? (by rw [List.getElem?_take_of_lt hk, hWait])
    cases hEarlier _ hMem

/-- A task is started first and returns last; in between another one is started and panics.  Then
somebody waits for the reflections. -/
theorem records_of_overlapping_tasks :
    ∃ (o o' : Office) (completed panicked : Context),
      Steps System.askingOnce default idle o ∧ Steps System.askingOnce default o.wait o' ∧
        (o'.waits.map Wait.returned)[o.waits.length]? = some true ∧
        (∀ w ∈ o'.waits.take o.waits.length, w.returned = true) ∧
        o.tasks = [⟨"first", "hello", .done completed⟩, ⟨"second", "hello", .done panicked⟩] ∧
        completed.state = .completed ∧ panicked.state = .failed ∧
        (∃ e, o'.recordsOf 0 = [e] ∧ e.trace = "first" ∧ e.state = .completed) ∧
        ∃ e, o'.recordsOf 1 = [e] ∧ e.trace = "second" ∧ e.state = .failed := by
  -- the first task is answered by its router before the second one is started
  let opening : List Exchange := [⟨.startMonitor, (0 : Nat)⟩,
    ⟨.consult 60000, Outcome.value (.handleDirect "hi")⟩]
  let execute (trace : String) : Activity Context := System.askingOnce.execute trace "hello"
  obtain ⟨closing, completed, hCompletes, hCompleted⟩ : ∃ closing c,
      Reaches (execute "first") (opening ++ closing) (.done c) ∧ c.state = .completed :=
    ⟨_, _, Activity.reaches_done_iff.mpr (Executor.runs_execute_of_runs_work
      (System.runs_work_handleDirect "hi") "first" 0 (.empty 1.0) .lockdown), rfl⟩
  obtain ⟨exchanges, panicked, hPanics, hFailed⟩ : ∃ exchanges c,
      Reaches (execute "second") exchanges (.done c) ∧ c.state = .failed :=
    ⟨_, _, Activity.reaches_done_iff.mpr (Executor.runs_execute_of_runs_work
      (System.runs_work_panicked (.text "router")) "second" 0 (.empty 2.0) .normal), rfl⟩
  obtain ⟨middle, hOpening, hClosing⟩ := Activity.reaches_append_iff.mp hCompletes
  obtain ⟨o₁, hFirst, hSet₁, -⟩ := exists_of_reaches (x := System.askingOnce)
    (o := idle.start ⟨"first", "hello", execute "first"⟩) default (i := 0) rfl hOpening
  have hTasks₁ : o₁.tasks = [⟨"first", "hello", middle⟩] := hSet₁
  have hStarted : (o₁.start ⟨"second", "hello", execute "second"⟩).tasks =
      [⟨"first", "hello", middle⟩, ⟨"second", "hello", execute "second"⟩] := by
    rw [start, hTasks₁]
    rfl
  obtain ⟨o₂, hSecond, hSet₂, -⟩ := exists_of_reaches (x := System.askingOnce) default (i := 1)
    (by rw [hStarted]; rfl) hPanics
  have hTasks₂ : o₂.tasks = [⟨"first", "hello", middle⟩, ⟨"second", "hello", .done panicked⟩] := by
    rw [hSet₂, hStarted]
    rfl
  obtain ⟨o₃, hThird, hSet₃, -⟩ := exists_of_reaches (x := System.askingOnce) default (i := 0)
    (by rw [hTasks₂]; rfl) hClosing
  have hTasks₃ :
      o₃.tasks = [⟨"first", "hello", .done completed⟩, ⟨"second", "hello", .done panicked⟩] := by
    rw [hSet₃, hTasks₂]
    rfl
  have hOffice : Steps System.askingOnce default idle o₃ :=
    (((Relation.ReflTransGen.single (.start idle _ _)).trans hFirst).tail
      (.start o₁ _ _)).trans (hSecond.trans hThird)
  obtain ⟨o', hSteps, hAll⟩ :=
    everybody_can_return System.askingOnce default (Minded.idle.steps hOffice).wait
  have hReturned : (o'.waits.map Wait.returned)[o₃.waits.length]? = some true := by
    obtain ⟨w, hWait, -⟩ := by simpa using awaited_of_steps hSteps
    simpa [hWait] using hAll w (List.mem_of_getElem? hWait)
  have hEarlier : ∀ w ∈ o'.waits.take o₃.waits.length, w.returned = true :=
    fun w hw => hAll w (List.mem_of_mem_take hw)
  obtain ⟨-, hRecords, -⟩ :=
    one_record_unless_awaited System.askingOnce default hOffice hSteps hReturned
  obtain ⟨e, hOne, summary, -, hTrace, hState, -⟩ :=
    hRecords hEarlier 0 _ _ ⟨by rw [hTasks₃]; rfl, rfl⟩
  obtain ⟨e', hOne', summary', -, hTrace', hState', -⟩ :=
    hRecords hEarlier 1 _ _ ⟨by rw [hTasks₃]; rfl, rfl⟩
  exact ⟨o₃, o', completed, panicked, hOffice, hSteps, hReturned, hEarlier, hTasks₃, hCompleted,
    hFailed, ⟨e, hOne, hTrace, hState.trans hCompleted⟩, e', hOne', hTrace', hState'.trans hFailed⟩

/-- A task returns, somebody waits for its reflection, which hangs, and somebody else comes to wait:
he returns at once, and the sink has no record of the task. -/
theorem second_wait_without_record :
    ∃ (o o' : Office) (completed : Context),
      Steps System.askingOnce default idle o ∧ Steps System.askingOnce default o.wait o' ∧
        (o'.waits.map Wait.returned)[o.waits.length]? = some true ∧
        o.Returned 0 ⟨"first", "hello", .done completed⟩ completed ∧
        completed.state = .completed ∧ o'.recordsOf 0 = [] := by
  obtain ⟨exchanges, completed, hCompletes, hCompleted⟩ : ∃ exchanges c,
      Reaches (System.askingOnce.execute "first" "hello") exchanges (.done c) ∧
        c.state = .completed :=
    ⟨_, _, Activity.reaches_done_iff.mpr (Executor.runs_execute_of_runs_work
      (System.runs_work_handleDirect "hi") "first" 0 (.empty 1.0) .normal), rfl⟩
  obtain ⟨o, hSteps, hTasks, hGiven, hWaits⟩ := exists_of_reaches (x := System.askingOnce)
    (o := idle.start ⟨"first", "hello", System.askingOnce.execute "first" "hello"⟩) default
    (i := 0) rfl hCompletes
  have hNothing : o.given = [] := hGiven
  have hNobody : o.waits = [] := hWaits
  have hOffice : Steps System.askingOnce default idle o.wait :=
    ((Relation.ReflTransGen.single (.start idle _ _)).trans hSteps).tail (.wait o)
  -- the first of the two has taken the backlog
  have hSecond : o.wait.wait.waits[1]? = some ⟨[], false⟩ := by simp [wait, hNobody]
  have hLeaves : Steps System.askingOnce default o.wait.wait (o.wait.wait.leave 1 []) :=
    .single (.leave _ hSecond rfl)
  refine ⟨o.wait, _, completed, hOffice, hLeaves, ?_, ⟨?_, rfl⟩, hCompleted, ?_⟩
  · simp [wait, leave, hNobody]
  · show o.tasks[0]? = _
    rw [hTasks]
    rfl
  · simp [recordsOf, wait, leave, hNothing]

end Office

end SteadyTask.Task
