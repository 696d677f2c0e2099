/-!
# The backlog of reflections

Reflections go on in the background and are known by numbers.  The backlog holds those that nobody
has waited for.  A reflection joins it when it begins, and at that occasion those that are over are
dropped.  Whoever waits takes the whole backlog, and goes on once everything in it is over.
-/

namespace SteadyTask.Reflection

/-- The numbers of reflections that nobody has waited for. -/
abbrev Backlog := List Nat

namespace Backlog

/-- A reflection that begins joins; those that are over are dropped. -/
def join (b : Backlog) (isOver : Nat → Bool) (index : Nat) : Backlog :=
  b.filter (fun i => !isOver i) ++ [index]

/-- Whether everything in it is over. -/
def isOver (b : Backlog) (isOver : Nat → Bool) : Bool :=
  b.all isOver

theorem mem_join {b : Backlog} {isOver : Nat → Bool} {index i : Nat} :
    i ∈ b.join isOver index ↔ i ∈ b ∧ isOver i = false ∨ i = index := by
  simp [join]

theorem isOver_iff {b : Backlog} {isOver : Nat → Bool} :
    b.isOver isOver = true ↔ ∀ i ∈ b, isOver i = true :=
  List.all_eq_true

end Backlog

end SteadyTask.Reflection
