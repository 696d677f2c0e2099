import SteadyTask.Proofs.Json.Crossed

/-!
# Records read from inside quotes

Whatever a reader of records takes from a text that goes on inside quotes, no backtick is in it:
neither in the fields it reads, by name or by position, nor does a value that it passes over bring
it back to the right side.
-/

namespace SteadyTask.Json.Reader

variable {α σ : Type}

/-! ## Passing over values -/

section Numbers

variable {cs rest : List Char} {u : Unit}

theorem passExponent_takes (h : passExponent cs = .ok (u, rest)) : TakesNumeral cs rest := by
  simp only [passExponent] at h
  split at h
  · cases h
  · cases h
    exact (exponentSign_takes cs).trans (leadingDigits_takes _)

theorem passScale_takes (h : passScale cs = .ok (u, rest)) : TakesNumeral cs rest := by
  unfold passScale at h
  split at h
  · exact .cons (Or.inr (by decide)) (passExponent_takes h)
  · exact .cons (Or.inr (by decide)) (passExponent_takes h)
  · cases h
    exact .refl _

theorem passNumber_takes (h : passNumber cs = .ok (u, rest)) : TakesNumeral cs rest := by
  have hDigits := leadingDigits_takes cs
  simp only [passNumber] at h
  split at h
  · cases h
  · cases h
  · split at h
    · next hPoint =>
        rw [hPoint] at hDigits
        split at h
        · cases h
        · exact hDigits.trans
            (.cons (Or.inr (by decide)) ((leadingDigits_takes _).trans (passScale_takes h)))
    · exact hDigits.trans (passScale_takes h)

end Numbers

theorem meets_passNumber : Meets Within passNumber fun _ => Within :=
  fun _ _ _ hWithin hRead => hWithin.of_takes (passNumber_takes hRead)

theorem meets_passScalar (c : Char) :
    Meets (WithinAt (some c)) (passScalar c) fun _ => Within := by
  unfold passScalar
  split
  · next hc =>
      refine (meets_skip_of_eq hc (by decide) (by decide)).bind fun _ => ?_
      exact meets_word (by decide) (by decide)
  split
  · next hc =>
      refine (meets_skip_of_eq hc (by decide) (by decide)).bind fun _ => ?_
      exact meets_word (by decide) (by decide)
  split
  · next hc =>
      refine (meets_skip_of_eq hc (by decide) (by decide)).bind fun _ => ?_
      exact meets_word (by decide) (by decide)
  split
  · next hc =>
      rw [hc]
      exact meets_skip_quote.bind fun _ => meets_passQuoted
  split
  · next hc =>
      refine (meets_skip_of_eq hc (by decide) (by decide)).bind fun _ => ?_
      exact meets_passNumber
  split
  · exact meets_passNumber.weaken fun _ h => h.2
  · exact .throw

theorem meets_passName : Meets Within passName fun _ => Within := by
  refine meets_token.bind fun next => ?_
  cases next with
  | none => exact .throw
  | some c =>
      simp only
      split
      · next hQuote =>
          rw [hQuote]
          refine meets_skip_quote.bind fun _ => meets_passQuoted.bind fun _ => ?_
          refine meets_token.bind fun after => ?_
          cases after with
          | none => exact .throw
          | some d =>
              simp only
              split
              · next hColon => exact meets_skip_of_eq hColon (by decide) (by decide)
              · exact .throw
      · exact .throw

theorem meets_passFrame (frame : Frame) (opened : Bool) :
    Meets Within (passFrame frame opened) fun _ => Within := by
  have hName : Meets Within
      (if frame = .object then passName >>= fun _ => pure false else pure false)
      fun _ => Within := by
    split
    · exact meets_passName.bind fun _ => .pure fun _ h => h
    · exact .pure fun _ h => h
  refine meets_token.bind fun next => ?_
  split
  · exact .throw
  · exact .throw
  · exact (meets_skip (by decide) (by decide)).bind fun _ => .pure fun _ h => h
  · exact (meets_skip (by decide) (by decide)).bind fun _ => .pure fun _ h => h
  · split
    · exact hName.weaken fun _ hAt => hAt.2
    split
    · next hComma =>
        refine (meets_skip_of_eq hComma (by decide) (by decide)).bind fun _ => ?_
        exact hName
    · split
      · exact .throw
      · exact .throw

theorem meets_passWithin (steps : Nat) (passing : Passing) (frames : List Frame) :
    Meets Within (passWithin steps passing frames) fun _ => Within := by
  -- on the steps; the frames say only which bracket is awaited
  induction steps generalizing passing frames with
  | zero => exact .pure fun _ h => h
  | succ steps ih =>
      cases passing with
      | value =>
          refine meets_token.bind fun next => ?_
          cases next with
          | none => exact .throw
          | some c =>
              simp only
              split
              · next hc =>
                  refine (meets_skip_of_eq hc (by decide) (by decide)).bind fun _ => ?_
                  exact ih .opened _
              split
              · next hc =>
                  refine (meets_skip_of_eq hc (by decide) (by decide)).bind fun _ => ?_
                  exact ih .opened _
              · exact (meets_passScalar c).bind fun _ => ih .ended frames
      | opened =>
          cases frames with
          | nil => exact .pure fun _ h => h
          | cons frame frames =>
              refine (meets_passFrame frame true).bind fun closed => ?_
              split
              · exact ih .ended frames
              · exact ih .value (frame :: frames)
      | ended =>
          cases frames with
          | nil => exact .pure fun _ h => h
          | cons frame frames =>
              refine (meets_passFrame frame false).bind fun closed => ?_
              split
              · exact ih .ended frames
              · exact ih .value (frame :: frames)

theorem meets_passValue : Meets Within passValue fun _ => Within :=
  fun cs => meets_passWithin (2 * cs.length + 2) .value [] cs

/-! ## Records -/

theorem meets_needToken : Meets Within needToken fun c => WithinAt (some c) := by
  refine meets_token.bind fun next => ?_
  cases next with
  | none => exact .throw
  | some c => exact .pure fun _ h => h

/-- A value of another type than expected is never taken. -/
theorem meets_wrongType (expected : String) {before : List Char → Prop}
    {result : α → List Char → Prop} : Meets before (wrongType expected) result := by
  -- each branch ends in a fault, whatever was read before it
  refine Meets.any.bind fun next => ?_
  split
  · exact .throw
  · exact Meets.any.bind fun _ => Meets.any.bind fun _ => .throw
  · exact Meets.any.bind fun _ => Meets.any.bind fun _ => .throw
  · exact Meets.any.bind fun _ => Meets.any.bind fun _ => .throw
  · exact Meets.any.bind fun _ => Meets.any.bind fun _ => .throw
  · exact .throw
  · exact .throw
  · simp only
    split
    · exact Meets.any.bind fun _ => Meets.any.bind fun _ => .throw
    split
    · exact Meets.any.bind fun _ => .throw
    · exact .throw

/-- A text that is read from inside quotes has no backtick. -/
theorem meets_str : Meets Within str fun s rest => Unticked s ∧ Within rest := by
  refine meets_needToken.bind fun c => ?_
  split
  · next hQuote =>
      rw [hQuote]
      exact meets_skip_text
  · exact meets_wrongType _

theorem meets_optional {read : Reader α} {Good : α → Prop}
    (h : Meets Within read fun a rest => Good a ∧ Within rest) :
    Meets Within (optional read) fun o rest => (∀ a ∈ o, Good a) ∧ Within rest := by
  refine meets_token.bind fun next => ?_
  split
  · next hNull =>
      rw [hNull]
      refine (meets_skip (by decide) (by decide)).bind fun _ => ?_
      refine (meets_word (by decide) (by decide)).bind fun _ => ?_
      exact .pure fun _ hWithin => ⟨nofun, hWithin⟩
  · refine (h.weaken fun _ hAt => hAt.2).bind fun a => .of_and fun ha => .pure ?_
    intro cs hWithin
    refine ⟨?_, hWithin⟩
    intro b hb
    cases hb
    exact ha

section Record

variable (Good : σ → Prop) {shape : Shape σ}

theorem meets_positionalFields {depth : Nat} {fields : List (Field σ)}
    (h : ∀ field ∈ fields, ∀ depth acc, Good acc →
      Meets Within (field.read depth acc) fun next rest => Good next ∧ Within rest)
    (index : Nat) (first : Bool) {acc : σ} (hAcc : Good acc) :
    Meets Within (positionalFields shape depth index fields first acc)
      fun final rest => Good final ∧ Within rest := by
  induction fields generalizing index first acc with
  | nil => exact .pure fun _ hWithin => ⟨hAcc, hWithin⟩
  | cons field fields ih =>
      have hFields := fun f hf => h f (List.mem_cons_of_mem _ hf)
      refine (meets_nextItem first).bind fun more => ?_
      -- where an item follows the field reads it, and where none follows its default stands
      split
      · exact (h field List.mem_cons_self depth acc hAcc).bind fun next => .of_and fun hNext =>
          ih hFields (index + 1) false hNext
      · split
        · exact ih hFields (index + 1) first hAcc
        · exact .throw

theorem meets_namedField {depth : Nat} {name : String}
    (h : ∀ field ∈ shape.fields, ∀ depth acc, Good acc →
      Meets Within (field.read depth acc) fun next rest => Good next ∧ Within rest)
    {acc : List String × σ} (hAcc : Good acc.2) :
    Meets Within (namedField shape depth name acc)
      fun next rest => Good next.2 ∧ Within rest := by
  unfold namedField
  -- a field of the record is read once, any other is passed over
  split
  · next field hFind =>
      have hField : field ∈ shape.fields := List.mem_of_find?_eq_some hFind
      split
      · exact .throw
      · refine meets_colon.bind fun _ => ?_
        exact (h field hField depth acc.2 hAcc).bind fun next => .of_and fun hNext =>
          .pure fun _ hWithin => ⟨hNext, hWithin⟩
  · split
    · exact .throw
    · exact meets_colon.bind fun _ => meets_passValue.bind fun _ =>
        .pure fun _ hWithin => ⟨hAcc, hWithin⟩

/-- What every field of a record keeps is kept by the record that is read from inside quotes. -/
theorem meets_record
    (h : ∀ field ∈ shape.fields, ∀ depth acc, Good acc →
      Meets Within (field.read depth acc) fun next rest => Good next ∧ Within rest)
    (hStart : Good shape.start) (depth : Nat) :
    Meets Within (record shape depth) fun final rest => Good final ∧ Within rest := by
  refine meets_needToken.bind fun c => ?_
  split
  · exact .throw
  · exact .throw
  · refine (meets_skip (by decide) (by decide)).bind fun _ => ?_
    refine (meets_positionalFields Good h 0 true hStart).bind fun result => ?_
    refine .of_and fun hResult => ?_
    exact meets_closeList.bind fun _ => .pure fun _ hWithin => ⟨hResult, hWithin⟩
  · refine (meets_skip (by decide) (by decide)).bind fun _ => ?_
    have hNamed : ∀ depth name (acc : List String × σ), Unticked name → Good acc.2 →
        Meets Within (namedField shape depth name acc) fun next rest => Good next.2 ∧ Within rest :=
      fun depth name acc _ hAcc => meets_namedField Good h hAcc
    refine (meets_fields (fun acc => Good acc.2) (hNamed _) hStart).bind ?_
    rintro ⟨seen, result⟩
    refine .of_and fun hResult => ?_
    simp only
    split
    · exact .throw
    · exact meets_closeObject.bind fun _ => .pure fun _ hWithin => ⟨hResult, hWithin⟩
  · exact meets_wrongType _

end Record

end SteadyTask.Json.Reader
