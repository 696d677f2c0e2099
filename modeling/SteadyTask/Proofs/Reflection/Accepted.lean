import SteadyTask.Proofs.Narrative.NormalForms
import SteadyTask.Proofs.Reflection.TwoWays

/-!
# Accepted narratives

Whatever a model answers, a narrative that is accepted is in normal form, in either way of giving
it, although one way makes the texts normal before it checks them and the other one joins pieces
that were trimmed apart.  So the texts that a record takes over from the model are trimmed, not
empty and not too long, and no proposed change or impact spells a placeholder.
-/

namespace SteadyTask.Reflection

open Activity Narrative

variable {output : String} {f : Fields}

theorem normalForm_of_schemaNarrative (h : schemaNarrative output = .ok f) : f.NormalForm := by
  obtain ⟨json, fields, -, -, hValid, rfl⟩ := schemaNarrative_eq_ok_iff.mp h
  exact Fields.normalForm_iff.mpr ⟨hValid, fields.normalize_normalize⟩

/-- The texts that a record takes over from a model. -/
structure ProperTexts (e : Entry) : Prop where
  rationale : ∀ text ∈ e.rationale, Proper text
  proposedChange : ∀ change ∈ e.proposedChange,
    Proper change.description ∧ ¬ SpellsPlaceholder change.description ∧
      ProperOrAbsent change.impact

section Records

variable {settings : Settings} {first second : Callee CallError String} {e : Entry}

theorem Accepted.normalForm (h : Accepted settings first second f) : f.NormalForm := by
  cases h with
  | schema h =>
      obtain ⟨-, text, -, hHolds⟩ := h
      exact normalForm_of_schemaNarrative (schemaNarrative_eq_ok_iff.mpr hHolds)
  | labels _ h =>
      obtain ⟨-, text, -, hParse⟩ := h
      exact normalForm_of_parse hParse

theorem TierChain.properTexts (h : TierChain settings first second e) : ProperTexts e := by
  refine ⟨?_, ?_⟩
  · intro text hText
    obtain ⟨narrative, hAccepted, rfl⟩ := h.rationale text hText
    exact hAccepted.normalForm.rationale
  · intro change hChange
    obtain ⟨narrative, hAccepted, hDescription, hImpact⟩ := h.proposedChange change hChange
    have hNormal := hAccepted.normalForm
    obtain ⟨hProper, hWord⟩ := hNormal.proposedChange _ hDescription
    exact ⟨hProper, hWord, hImpact ▸ hNormal.impact⟩

end Records

/-- Making a narrative normal is done in one go and keeps it valid, valid and normal together are
what a normal form is, and every narrative that is accepted is in normal form, in whatever way it
comes; so are the texts of every record. -/
theorem accepted_narratives_normal :
    (∀ f : Fields, f.normalize.normalize = f.normalize ∧
      (f.validate = .ok () → f.normalize.validate = .ok ())) ∧
    (∀ f : Fields, f.NormalForm ↔ f.validate = .ok () ∧ f.normalize = f) ∧
    (∀ output f, schemaNarrative output = .ok f ∨ parse output = .ok f →
      f.validate = .ok () ∧ f.normalize = f ∧ f.NormalForm) ∧
    ∀ settings client start input now timed g,
      TimedRuns (generate settings client start input) now timed g → ProperTexts g.entry := by
  refine ⟨fun f => ⟨f.normalize_normalize, Fields.validate_normalize⟩,
    fun f => Fields.normalForm_iff, ?_, ?_⟩
  · intro output f hAccepted
    have hNormal : f.NormalForm :=
      hAccepted.elim normalForm_of_schemaNarrative normalForm_of_parse
    obtain ⟨hValid, hSame⟩ := Fields.normalForm_iff.mp hNormal
    exact ⟨hValid, hSame, hNormal⟩
  · intro settings client start input now timed g hRun
    obtain ⟨first, second, hReflects⟩ := exists_reflects hRun
    exact hReflects.tierChain.properTexts

/-- A narrative with blanks around its texts and a capital placeholder is valid, and is accepted in
normal form; a record is made of it when the model hangs first. -/
theorem blanks_and_placeholder_normal :
    (⟨" it was late ", some "N/A", none⟩ : Fields).validate = .ok () ∧
      (⟨"it was late", none, none⟩ : Fields).validate = .ok () ∧
      schemaNarrative "\x7b\"proposed_change\":\"N/A\",\"rationale\":\" it was late \"\x7d" =
        .ok ⟨"it was late", none, none⟩ ∧
      parse "**Reason**: it was\n\n late\nChange: NONE" = .ok ⟨"it was late", none, none⟩ ∧
      (⟨"it was late", none, none⟩ : Fields).NormalForm ∧
      ∃ timed g, TimedRuns (generate ⟨true, true, 1000⟩ "mirror" default default) 0 timed g ∧
        ProperTexts g.entry := by
  obtain ⟨hAll, -, hAccepted, hRecords⟩ := accepted_narratives_normal
  have hUnmarked : (⟨" it was late ", some "N/A", none⟩ : Fields).Unmarked := by
    intro place text hText
    cases place with
    | rationale =>
        cases hText
        exact Json.forall_mem_of_all (by decide)
    | change =>
        cases hText
        exact Json.forall_mem_of_all (by decide)
    | impact => cases hText
  have hCovers : (⟨" it was late ", some "N/A", none⟩ : Fields).Covers [.change, .rationale] :=
    ⟨by decide, fun place => by cases place <;> decide⟩
  have hSchema :
      schemaNarrative "\x7b\"proposed_change\":\"N/A\",\"rationale\":\" it was late \"\x7d" =
        .ok ⟨"it was late", none, none⟩ :=
    (schemaNarrative_object_iff hUnmarked hCovers).mpr ⟨by decide, by decide⟩
  have hParse : parse "**Reason**: it was\n\n late\nChange: NONE" =
      .ok ⟨"it was late", none, none⟩ := by
    decide
  obtain ⟨timed, g, hReflects⟩ := exists_reflection ⟨true, true, 1000⟩ "mirror" default default 0
    .hangs (.returns 40 "**Reason**: it was\n\n late\nChange: NONE")
  exact ⟨by decide, (hAll ⟨" it was late ", some "N/A", none⟩).2 (by decide), hSchema, hParse,
    (hAccepted _ _ (.inl hSchema)).2.2, timed, g, hReflects.timedRuns,
    hRecords _ _ _ _ _ _ _ hReflects.timedRuns⟩

end SteadyTask.Reflection
