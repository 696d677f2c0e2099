import Mathlib.Tactic
import SteadyTask.Activity

/-!
# Runs of activities

The exchanges of a sequence are those of its first part followed by those of its second.  Whatever
the surroundings answer, and whatever their answers depend on, an activity that they answer runs to
its end: it is finite, so there is a run for every way to answer.

Which answers are possible is not restricted here, and neither is when they come.
-/

namespace SteadyTask

/-- The panic that an outcome is, if it is one. -/
def Outcome.panic? {ε α : Type} : Outcome ε α → Option Panic
  | .panicked p => some p
  | _ => none

namespace Activity

variable {α β : Type}

/-! ## Taking runs apart -/

theorem runs_done_iff {a b : α} {exchanges : List Exchange} :
    Runs (.done a) exchanges b ↔ exchanges = [] ∧ b = a := by
  constructor
  · intro h
    cases h
    exact ⟨rfl, rfl⟩
  · rintro ⟨rfl, rfl⟩
    exact .done _

theorem runs_request_iff {r : Request} {resume : r.Answer → Activity α}
    {exchanges : List Exchange} {b : α} :
    Runs (.request r resume) exchanges b ↔
      ∃ answer rest, exchanges = ⟨r, answer⟩ :: rest ∧ Runs (resume answer) rest b := by
  constructor
  · intro h
    cases h with
    | request answer rest => exact ⟨answer, _, rfl, rest⟩
  · rintro ⟨answer, rest, rfl, h⟩
    exact .request answer h

/-- What is returned depends on the exchanges alone. -/
theorem Runs.unique {x : Activity α} {exchanges : List Exchange} {a b : α}
    (ha : Runs x exchanges a) (hb : Runs x exchanges b) : a = b := by
  induction ha with
  | done a => exact (runs_done_iff.mp hb).2.symm
  | request answer _ ih =>
      obtain ⟨given, rest, hEq, hRest⟩ := runs_request_iff.mp hb
      cases hEq
      exact ih hRest

theorem runs_perform_iff {r : Request} {exchanges : List Exchange} {answer : r.Answer} :
    Runs (perform r) exchanges answer ↔ exchanges = [⟨r, answer⟩] := by
  rw [perform, runs_request_iff]
  constructor
  · rintro ⟨given, rest, rfl, h⟩
    obtain ⟨rfl, rfl⟩ := runs_done_iff.mp h
    rfl
  · rintro rfl
    exact ⟨answer, [], rfl, .done answer⟩

theorem Runs.bind {x : Activity α} {f : α → Activity β} {first second : List Exchange} {a : α}
    {b : β} (hx : Runs x first a) (hf : Runs (f a) second b) :
    Runs (x.bind f) (first ++ second) b := by
  induction hx with
  | done a => exact hf
  | request answer _ ih => exact .request answer (ih hf)

/-- A run of a sequence is a run of its first part and then one of its second. -/
theorem runs_bind_iff {x : Activity α} {f : α → Activity β} {exchanges : List Exchange} {b : β} :
    Runs (x.bind f) exchanges b ↔
      ∃ first a second, exchanges = first ++ second ∧ Runs x first a ∧ Runs (f a) second b := by
  constructor
  · intro h
    -- along the first part: its requests come first, and its end hands over
    induction x generalizing exchanges with
    | done a => exact ⟨[], a, exchanges, rfl, .done a, h⟩
    | request r resume ih =>
        obtain ⟨answer, rest, rfl, hRest⟩ := runs_request_iff.mp h
        obtain ⟨first, a, second, rfl, hFirst, hSecond⟩ := ih answer hRest
        exact ⟨⟨r, answer⟩ :: first, a, second, rfl, .request answer hFirst, hSecond⟩
  · rintro ⟨first, a, second, rfl, hFirst, hSecond⟩
    exact hFirst.bind hSecond

/-- A request that is made first is answered first. -/
theorem runs_perform_bind_iff {r : Request} {f : r.Answer → Activity β}
    {exchanges : List Exchange} {b : β} :
    Runs ((perform r).bind f) exchanges b ↔
      ∃ answer rest, exchanges = ⟨r, answer⟩ :: rest ∧ Runs (f answer) rest b :=
  runs_request_iff

/-! ## Parts of runs -/

/-- What is left of an activity after some exchanges. -/
inductive Reaches : Activity α → List Exchange → Activity α → Prop
  | refl (x : Activity α) : Reaches x [] x
  | request {r : Request} {resume : r.Answer → Activity α} (answer : r.Answer)
      {exchanges : List Exchange} {x : Activity α} (h : Reaches (resume answer) exchanges x) :
      Reaches (.request r resume) (⟨r, answer⟩ :: exchanges) x

theorem reaches_nil_iff {x y : Activity α} : Reaches x [] y ↔ y = x := by
  constructor
  · intro h
    cases h
    rfl
  · rintro rfl
    exact .refl _

theorem reaches_cons_iff {x y : Activity α} {e : Exchange} {exchanges : List Exchange} :
    Reaches x (e :: exchanges) y ↔
      ∃ resume, x = .request e.request resume ∧ Reaches (resume e.answer) exchanges y := by
  constructor
  · intro h
    cases h with
    | request answer h => exact ⟨_, rfl, h⟩
  · rintro ⟨resume, rfl, h⟩
    exact .request e.answer h

theorem reaches_append_iff {x z : Activity α} {first second : List Exchange} :
    Reaches x (first ++ second) z ↔ ∃ y, Reaches x first y ∧ Reaches y second z := by
  induction first generalizing x with
  | nil => simp [reaches_nil_iff]
  | cons e first ih =>
      rw [List.cons_append, reaches_cons_iff]
      constructor
      · rintro ⟨resume, rfl, h⟩
        obtain ⟨y, hFirst, hSecond⟩ := ih.mp h
        exact ⟨y, reaches_cons_iff.mpr ⟨resume, rfl, hFirst⟩, hSecond⟩
      · rintro ⟨y, hFirst, hSecond⟩
        obtain ⟨resume, rfl, hRest⟩ := reaches_cons_iff.mp hFirst
        exact ⟨resume, rfl, ih.mpr ⟨y, hRest, hSecond⟩⟩

/-- What was reached goes on with the next answer. -/
theorem Reaches.answer {x : Activity α} {exchanges : List Exchange} {r : Request}
    {resume : r.Answer → Activity α} (h : Reaches x exchanges (.request r resume))
    (answer : r.Answer) : Reaches x (exchanges ++ [⟨r, answer⟩]) (resume answer) :=
  reaches_append_iff.mpr ⟨_, h, .request answer (.refl _)⟩

/-- A run reaches its end. -/
theorem reaches_done_iff {x : Activity α} {exchanges : List Exchange} {a : α} :
    Reaches x exchanges (.done a) ↔ Runs x exchanges a := by
  constructor
  · generalize hRest : Activity.done a = rest
    intro h
    induction h with
    | refl =>
        subst hRest
        exact .done a
    | request answer _ ih => exact .request answer (ih hRest)
  · intro h
    induction h with
    | done a => exact .refl _
    | request answer _ ih => exact .request answer ih

/-! ## What is requested -/

/-- Whatever is answered, only requests of some kind are made. -/
def Only (P : Request → Prop) : Activity α → Prop
  | .done _ => True
  | .request r resume => P r ∧ ∀ answer, (resume answer).Only P

section Only

variable {P : Request → Prop}

theorem only_perform {r : Request} (h : P r) : (perform r).Only P :=
  ⟨h, fun _ => trivial⟩

theorem Only.mono {Q : Request → Prop} {x : Activity α} (hx : x.Only P)
    (h : ∀ r, P r → Q r) : x.Only Q := by
  induction x with
  | done a => exact trivial
  | request r resume ih => exact ⟨h r hx.1, fun answer => ih answer (hx.2 answer)⟩

theorem Only.bind {x : Activity α} {f : α → Activity β} (hx : x.Only P)
    (hf : ∀ a, (f a).Only P) : (x.bind f).Only P := by
  induction x with
  | done a => exact hf a
  | request r resume ih => exact ⟨hx.1, fun answer => ih answer (hx.2 answer)⟩

theorem Only.of_runs {x : Activity α} (hx : x.Only P) {exchanges : List Exchange} {a : α}
    (h : Runs x exchanges a) : ∀ e ∈ exchanges, P e.request := by
  induction h with
  | done a =>
      intro e he
      cases he
  | request answer _ ih =>
      intro e he
      rcases List.mem_cons.mp he with rfl | he
      · exact hx.1
      · exact ih (hx.2 answer) e he

end Only

/-! ## What is returned -/

/-- Whatever is answered, what is returned satisfies a condition. -/
def Ensures (P : α → Prop) : Activity α → Prop
  | .done a => P a
  | .request _ resume => ∀ answer, (resume answer).Ensures P

theorem ensures_of_forall {P : α → Prop} (h : ∀ a, P a) (x : Activity α) : x.Ensures P := by
  induction x with
  | done a => exact h a
  | request r resume ih => exact ih

theorem Ensures.bind {P : α → Prop} {Q : β → Prop} {x : Activity α} {f : α → Activity β}
    (hx : x.Ensures P) (hf : ∀ a, P a → (f a).Ensures Q) : (x.bind f).Ensures Q := by
  induction x with
  | done a => exact hf a hx
  | request r resume ih => exact fun answer => ih answer (hx answer)

/-! ## Surroundings -/

/-- How each request is answered, given the exchanges before it. -/
abbrev Surroundings := List Exchange → (r : Request) → r.Answer

/-- The answers are those of the surroundings, after some exchanges. -/
inductive AnsweredBy (s : Surroundings) : List Exchange → List Exchange → Prop
  | nil (before : List Exchange) : AnsweredBy s before []
  | cons {before : List Exchange} {r : Request} {rest : List Exchange}
      (h : AnsweredBy s (before ++ [⟨r, s before r⟩]) rest) :
      AnsweredBy s before (⟨r, s before r⟩ :: rest)

/-- Every surroundings bring an activity to its end. -/
theorem exists_runs (s : Surroundings) (x : Activity α) (before : List Exchange) :
    ∃ exchanges a, Runs x exchanges a ∧ AnsweredBy s before exchanges := by
  induction x generalizing before with
  | done a => exact ⟨[], a, .done a, .nil before⟩
  | request r resume ih =>
      obtain ⟨rest, a, hRest, hAnswered⟩ := ih (s before r) (before ++ [⟨r, s before r⟩])
      exact ⟨_, a, .request (s before r) hRest, .cons hAnswered⟩

end Activity

end SteadyTask
