import SteadyTask.Proofs.Json.CrossedRecords

/-!
# What readers return

What holds of a record before its fields are read, and is kept by each of them, holds of the record
that is read, whatever the text; and a value that may be absent is never `null`, which is how its
absence is written.
-/

namespace SteadyTask.Json.Reader

variable {α β σ : Type}

/-- Whatever a reader takes satisfies a condition. -/
def Returns (read : Reader α) (Good : α → Prop) : Prop :=
  Meets (fun _ => True) read fun a _ => Good a

/-- What does not depend on the characters comes before what is taken. -/
theorem Meets.of_returns {read : Reader α} {Good : α → Prop} {p : Prop}
    (h : p → Returns read Good) : Meets (fun _ => p) read fun a _ => Good a :=
  fun cs a rest hp hRead => h hp cs a rest trivial hRead

namespace Returns

variable {Good : α → Prop}

theorem pure {a : α} (h : Good a) : Returns (pure a) Good :=
  Meets.pure fun _ _ => h

theorem throw {e : Fault} : Returns (throw e : Reader α) Good :=
  Meets.throw

theorem any {read : Reader α} : Returns read fun _ => True :=
  Meets.any

theorem bind {read : Reader β} {f : β → Reader α} {Between : β → Prop}
    (hRead : Returns read Between) (hNext : ∀ b, Between b → Returns (f b) Good) :
    Returns (read >>= f) Good :=
  Meets.bind hRead fun b => .of_returns (hNext b)

/-- What comes first does not matter. -/
theorem after {read : Reader β} {f : β → Reader α} (h : ∀ b, Returns (f b) Good) :
    Returns (read >>= f) Good :=
  any.bind fun b _ => h b

end Returns

/-! ## Records -/

theorem returns_fieldsWithin {read : String → σ → Reader σ} {Good : σ → Prop}
    (h : ∀ name acc, Good acc → Returns (read name acc) Good) (steps : Nat) (first : Bool)
    {acc : σ} (hAcc : Good acc) : Returns (fieldsWithin read steps first acc) Good := by
  induction steps generalizing first acc with
  | zero => exact .pure hAcc
  | succ steps ih =>
      refine .after fun next => ?_
      cases next with
      | none => exact .pure hAcc
      | some name => exact (h name acc hAcc).bind fun _ hNext => ih false hNext

section Record

variable {Good : σ → Prop} {shape : Shape σ}

theorem returns_positionalFields {depth : Nat} {fields : List (Field σ)}
    (h : ∀ field ∈ fields, ∀ depth acc, Good acc → Returns (field.read depth acc) Good)
    (index : Nat) (first : Bool) {acc : σ} (hAcc : Good acc) :
    Returns (positionalFields shape depth index fields first acc) Good := by
  induction fields generalizing index first acc with
  | nil => exact .pure hAcc
  | cons field fields ih =>
      have hFields := fun f hf => h f (List.mem_cons_of_mem _ hf)
      refine .after fun more => ?_
      -- where an item follows the field reads it, and where none follows its default stands
      split
      · exact (h field List.mem_cons_self depth acc hAcc).bind fun _ hNext =>
          ih hFields (index + 1) false hNext
      · split
        · exact ih hFields (index + 1) first hAcc
        · exact .throw

theorem returns_namedField {depth : Nat}
    (h : ∀ field ∈ shape.fields, ∀ depth acc, Good acc → Returns (field.read depth acc) Good)
    (name : String) {acc : List String × σ} (hAcc : Good acc.2) :
    Returns (namedField shape depth name acc) fun next => Good next.2 := by
  unfold namedField
  split
  · next field hFind =>
      split
      · exact .throw
      · refine .after fun _ => ?_
        exact (h field (List.mem_of_find?_eq_some hFind) depth acc.2 hAcc).bind
          fun _ hNext => .pure hNext
  · split
    · exact .throw
    · exact .after fun _ => .after fun _ => .pure hAcc

/-- What each field of a record keeps is kept by the record that is read. -/
theorem returns_record
    (h : ∀ field ∈ shape.fields, ∀ depth acc, Good acc → Returns (field.read depth acc) Good)
    (hStart : Good shape.start) (depth : Nat) : Returns (record shape depth) Good := by
  refine .after fun c => ?_
  split
  · exact .throw
  · exact .throw
  · refine .after fun _ => ?_
    exact (returns_positionalFields h 0 true hStart).bind fun _ hResult =>
      .after fun _ => .pure hResult
  · refine .after fun _ => ?_
    have hFields {depth : Nat} : Returns (fields (namedField shape depth) ([], shape.start))
        fun next => Good next.2 :=
      fun cs => returns_fieldsWithin (fun name acc => returns_namedField h name) (cs.length + 1)
        true hStart cs
    refine hFields.bind ?_
    rintro ⟨seen, result⟩ hResult
    simp only
    split
    · exact .throw
    · exact .after fun _ => .pure hResult
  · exact meets_wrongType _

/-- A record that is read from a whole text has what its fields keep. -/
theorem good_of_parseRecord (Good : σ → Prop)
    (h : ∀ field ∈ shape.fields, ∀ depth acc, Good acc → Returns (field.read depth acc) Good)
    (hStart : Good shape.start) {s : String} {result : σ}
    (hParse : parseRecord shape s = .ok result) : Good result := by
  obtain ⟨rest, hRead, -⟩ := exists_of_run_ok hParse
  exact returns_record h hStart maxDepth s.toList result rest trivial hRead

end Record

/-! ## Values that may be absent -/

theorem returns_scalar {c : Char} (hc : c ≠ 'n') : Returns (scalar c) (· ≠ .null) := by
  unfold scalar
  rw [if_neg hc]
  have hNumber (n : Number) : numberValue n ≠ .null := by
    cases n <;> nofun
  split
  · exact .after fun _ => .after fun _ => .pure nofun
  split
  · exact .after fun _ => .after fun _ => .pure nofun
  split
  · exact .after fun _ => .after fun _ => .pure nofun
  split
  · exact .after fun _ => .after fun n => .pure (hNumber n)
  split
  · exact .after fun n => .pure (hNumber n)
  · exact .throw

/-- The next token is not that of `null`. -/
def NotNull (cs : List Char) : Prop :=
  (cs.dropWhile isSpace).head? ≠ some 'n'

theorem meets_token_of_notNull : Meets NotNull token fun next _ => next ≠ some 'n' := by
  intro cs next rest hNot hRead
  cases hRead
  exact hNot

/-- A value whose token is not that of `null` is not `null`. -/
theorem meets_value_of_notNull (depth : Nat) :
    Meets NotNull (value depth) fun v _ => v ≠ .null := by
  cases depth with
  | zero =>
      refine meets_token_of_notNull.bind fun next => .of_returns fun hNext => ?_
      cases next with
      | none => exact .throw
      | some c =>
          have hc : c ≠ 'n' := fun h => hNext (congrArg some h)
          simp only
          split
          · exact .throw
          · exact returns_scalar hc
  | succ depth =>
      refine meets_token_of_notNull.bind fun next => .of_returns fun hNext => ?_
      cases next with
      | none => exact .throw
      | some c =>
          have hc : c ≠ 'n' := fun h => hNext (congrArg some h)
          simp only
          split
          · exact .after fun _ => .after fun _ => .after fun _ => .pure nofun
          split
          · exact .after fun _ => .after fun _ => .after fun _ => .pure nofun
          · exact returns_scalar hc

/-- A value that may be absent is not `null` where it is there. -/
theorem returns_optional_value (depth : Nat) :
    Returns (optional (value depth)) fun o => o ≠ some .null := by
  -- the token stays in place, so the reader of the value sees it again
  have hToken : Meets (fun _ => True) token fun next rest => next ≠ some 'n' → NotNull rest := by
    intro cs next rest _ hRead
    cases hRead
    rw [NotNull, List.dropWhile_idempotent]
    exact id
  refine hToken.bind fun next => ?_
  split
  · exact Meets.any.bind fun _ => Meets.any.bind fun _ => .pure fun _ _ => nofun
  · next hNext =>
      refine ((meets_value_of_notNull depth).weaken fun cs h => h hNext).bind fun v => ?_
      exact .pure fun _ hv hNull => hv (Option.some.inj hNull)

end SteadyTask.Json.Reader
