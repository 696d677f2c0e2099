import SteadyTask.Mode.Governance
import SteadyTask.Proofs.Activity.Runs

/-!
# Marked activities

Where a call begins cannot be seen from the requests of an activity: a tool that answers by itself
makes none.  A marked activity says where the calls of an operation begin.  Without the marks it is
an activity, and a mark stands for no time: the call begins at the moment at which the request
before it was answered.

Marks are for statements about activities.  Nothing is executed with them.
-/

namespace SteadyTask

open Activity (Exchange)

/-- An activity that says where calls of an operation begin. -/
inductive Marked (α : Type) where
  | done (a : α)
  | request (r : Request) (resume : r.Answer → Marked α)
  | begin (operation : Mode.Operation) (rest : Marked α)

namespace Marked

variable {α β : Type}

/-- A marked activity followed by another. -/
def bind (x : Marked α) (f : α → Marked β) : Marked β :=
  match x with
  | .done a => f a
  | .request r resume => .request r fun answer => (resume answer).bind f
  | .begin operation rest => .begin operation (rest.bind f)

/-- An activity in which nothing is marked. -/
def plain : Activity α → Marked α
  | .done a => .done a
  | .request r resume => .request r fun answer => plain (resume answer)

/-- The activity without its marks. -/
def erase : Marked α → Activity α
  | .done a => .done a
  | .request r resume => .request r fun answer => (resume answer).erase
  | .begin _ rest => rest.erase

@[simp]
theorem erase_plain (x : Activity α) : (plain x).erase = x := by
  induction x with
  | done a => rfl
  | request r resume ih =>
      rw [plain, erase]
      congr 1
      funext answer
      exact ih answer

@[simp]
theorem erase_bind (x : Marked α) (f : α → Marked β) :
    (x.bind f).erase = x.erase.bind fun a => (f a).erase := by
  induction x with
  | done a => rfl
  | request r resume ih =>
      rw [bind, erase, erase, Activity.bind]
      congr 1
      funext answer
      exact ih answer
  | begin operation rest ih => exact ih

/-- After these exchanges a call of the operation begins. -/
inductive Begins : Marked α → List Exchange → Mode.Operation → Prop
  | here (operation : Mode.Operation) (rest : Marked α) :
      Begins (.begin operation rest) [] operation
  | past {other operation : Mode.Operation} {rest : Marked α} {exchanges : List Exchange}
      (h : Begins rest exchanges operation) : Begins (.begin other rest) exchanges operation
  | request {r : Request} {resume : r.Answer → Marked α} (answer : r.Answer)
      {exchanges : List Exchange} {operation : Mode.Operation}
      (h : Begins (resume answer) exchanges operation) :
      Begins (.request r resume) (⟨r, answer⟩ :: exchanges) operation

section Begins

variable {operation : Mode.Operation} {exchanges : List Exchange}

/-- A call begins only where the activity without its marks can get. -/
theorem Begins.reaches {x : Marked α} (h : Begins x exchanges operation) :
    ∃ y, Activity.Reaches x.erase exchanges y := by
  induction h with
  | here operation rest => exact ⟨_, .refl _⟩
  | past _ ih => exact ih
  | request answer _ ih =>
      obtain ⟨y, hy⟩ := ih
      exact ⟨y, .request answer hy⟩

theorem not_begins_done {a : α} : ¬ Begins (.done a) exchanges operation := nofun

theorem begins_request_iff {r : Request} {resume : r.Answer → Marked α} :
    Begins (.request r resume) exchanges operation ↔
      ∃ answer rest, exchanges = ⟨r, answer⟩ :: rest ∧
        Begins (resume answer) rest operation := by
  constructor
  · intro h
    cases h with
    | request answer h => exact ⟨answer, _, rfl, h⟩
  · rintro ⟨answer, rest, rfl, h⟩
    exact .request answer h

theorem begins_begin_iff {other : Mode.Operation} {rest : Marked α} :
    Begins (.begin other rest) exchanges operation ↔
      (exchanges = [] ∧ other = operation) ∨ Begins rest exchanges operation := by
  constructor
  · intro h
    cases h with
    | here => exact .inl ⟨rfl, rfl⟩
    | past h => exact .inr h
  · rintro (⟨rfl, rfl⟩ | h)
    · exact .here _ _
    · exact .past h

theorem not_begins_plain {x : Activity α} : ¬ Begins (plain x) exchanges operation := by
  induction x generalizing exchanges with
  | done a => exact not_begins_done
  | request r resume ih =>
      intro h
      obtain ⟨answer, rest, rfl, hRest⟩ := begins_request_iff.mp h
      exact ih answer hRest

/-- In a sequence a call begins in the first part, or in the second after a run of the first. -/
theorem begins_bind_iff {x : Marked α} {f : α → Marked β} :
    Begins (x.bind f) exchanges operation ↔
      Begins x exchanges operation ∨
        ∃ first a second, exchanges = first ++ second ∧ Activity.Runs x.erase first a ∧
          Begins (f a) second operation := by
  constructor
  · intro h
    -- along the first part, whose requests and marks come first
    induction x generalizing exchanges with
    | done a => exact .inr ⟨[], a, exchanges, rfl, .done a, h⟩
    | request r resume ih =>
        obtain ⟨answer, rest, rfl, hRest⟩ := begins_request_iff.mp h
        rcases ih answer hRest with hFirst | ⟨first, a, second, rfl, hFirst, hSecond⟩
        · exact .inl (.request answer hFirst)
        · exact .inr ⟨⟨r, answer⟩ :: first, a, second, rfl, .request answer hFirst, hSecond⟩
    | begin other rest ih =>
        rcases begins_begin_iff.mp h with ⟨rfl, rfl⟩ | hRest
        · exact .inl (.here _ _)
        · rcases ih hRest with hFirst | hSecond
          · exact .inl (.past hFirst)
          · exact .inr hSecond
  · rintro (h | ⟨first, a, second, rfl, hFirst, hSecond⟩)
    · induction h with
      | here => exact .here _ _
      | past _ ih => exact .past ih
      | request answer _ ih => exact .request answer ih
    · induction x generalizing first with
      | done b =>
          obtain ⟨rfl, rfl⟩ := Activity.runs_done_iff.mp hFirst
          exact hSecond
      | request r resume ih =>
          obtain ⟨answer, rest, rfl, hRest⟩ := Activity.runs_request_iff.mp hFirst
          exact .request answer (ih answer rest hRest)
      | begin other rest ih => exact .past (ih first hFirst)

/-- After an activity without marks, calls begin only in what follows it. -/
theorem begins_plain_bind_iff {x : Activity α} {f : α → Marked β} :
    Begins ((plain x).bind f) exchanges operation ↔
      ∃ first a second, exchanges = first ++ second ∧ Activity.Runs x first a ∧
        Begins (f a) second operation := by
  rw [begins_bind_iff, or_iff_right not_begins_plain, erase_plain]

end Begins

end Marked

end SteadyTask
