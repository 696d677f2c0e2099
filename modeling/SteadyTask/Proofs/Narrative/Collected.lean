import SteadyTask.Proofs.Narrative.Matching
import SteadyTask.Proofs.Text.Blanks

/-!
# Sections that are collected

What a text holds for each of its sections, when each of its lines opens one of them and no two
lines open the same.  Nothing but the line of a section then reaches that section, in whatever order
the lines come.
-/

namespace SteadyTask.Narrative

variable {place : Section} {places : List Section} {content : Section → List Char}
  {cs line : List Char} {s : Sections} {f : Fields}

namespace Sections

@[simp]
theorem get_empty (place : Section) : Sections.empty.get place = none := by
  cases place <;> rfl

theorem get_add (s : Sections) (place place' : Section) (content : List Char) :
    (s.add place content).get place' =
      if place' = place then joined (s.get place) content else s.get place' := by
  cases place <;> cases place' <;> rfl

theorem joined_none (content : List Char) :
    joined none content = if content = [] then none else some content := by
  rw [joined]
  by_cases h : content = []
  · rw [if_pos h, if_pos (List.isEmpty_iff.mpr h)]
  · rw [if_neg h, if_neg (mt List.isEmpty_iff.mp h)]

end Sections

/-- A line is filed in a section, with some content, whatever was read before. -/
def Files (line : List Char) (place : Section) (content : List Char) : Prop :=
  ∀ p, readLine p line = ⟨some place, p.sections.add place content⟩

theorem Matches.files {word : LabelWord} {label rest : List Char}
    (h : Matches line word label rest) :
    Files line (sectionOf label) (cleanContent (contentOf rest)) :=
  h.readLine_eq

/-- Only the line of a section reaches it. -/
theorem get_foldl_readLine {lines : List (List Char)}
    (h : List.Forall₂ (fun place line => Files line place (content place)) places lines)
    (hNodup : places.Nodup) (p : Progress) :
    (lines.foldl readLine p).sections.get place =
      if place ∈ places then Sections.joined (p.sections.get place) (content place)
      else p.sections.get place := by
  -- By induction on the lines; the section of the first one has no line among the others.
  induction h generalizing p with
  | nil => simp
  | @cons first line places lines hLine _ ih =>
      obtain ⟨hFirst, hRest⟩ := List.nodup_cons.mp hNodup
      rw [List.foldl_cons, ih hRest, hLine p, Sections.get_add]
      by_cases hEq : place = first
      · subst hEq
        rw [if_neg hFirst, if_pos rfl, if_pos List.mem_cons_self]
      · simp only [List.mem_cons, hEq, false_or, if_false]

theorem get_collect
    (h : List.Forall₂ (fun place line => Files line place (content place)) places
      (Text.lineChars cs))
    (hNodup : places.Nodup) (place : Section) :
    (collect cs).get place =
      if place ∈ places then Sections.joined none (content place) else none := by
  rw [collect, get_foldl_readLine h hNodup, Sections.get_empty]

/-- The text of a narrative for each section. -/
def Fields.textOf (f : Fields) : Section → Option String
  | .rationale => some f.rationale
  | .change => f.proposedChange
  | .impact => f.impact

/-- Two narratives with the same texts are the same. -/
theorem Fields.eq_of_textOf {g : Fields} (h : ∀ place, f.textOf place = g.textOf place) : f = g := by
  have hRationale : f.rationale = g.rationale := Option.some.inj (h .rationale)
  have hChange : f.proposedChange = g.proposedChange := h .change
  have hImpact : f.impact = g.impact := h .impact
  cases f
  cases g
  simp_all

/-- Sections among which each text of a narrative has its own, in some order. -/
structure Fields.Covers (f : Fields) (places : List Section) : Prop where
  nodup : places.Nodup
  complete : ∀ place, (f.textOf place).isSome → place ∈ places

theorem Fields.Covers.textOf_eq_none (h : f.Covers places) (hPlace : place ∉ places) :
    f.textOf place = none := by
  rw [← Option.not_isSome_iff_eq_none]
  exact fun hSome => hPlace (h.complete place hSome)

/-- Sections that normalise as the texts of a narrative do make it normal, if it is valid then and
its rationale does not stand for an absent one. -/
theorem Sections.toFields_eq_ok_iff {g : Fields}
    (h : ∀ place, normalizeOptional ((s.get place).map String.ofList) =
      normalizeOptional (f.textOf place)) :
    s.toFields = .ok g ↔ isPlaceholder (Text.trim f.rationale) = false ∧
      f.normalize.validate = .ok () ∧ g = f.normalize := by
  have hRationale : normalizeOptional (s.rationale.map String.ofList) =
      normalizeOptional (some f.rationale) := h .rationale
  have hChange : normalizeOptional (s.change.map String.ofList) =
      normalizeOptional f.proposedChange := h .change
  have hImpact : normalizeOptional (s.impact.map String.ofList) =
      normalizeOptional f.impact := h .impact
  rw [Sections.toFields, hRationale, hChange, hImpact, normalizeOptional]
  cases hAbsent : isPlaceholder (Text.trim f.rationale) with
  | true => simp
  | false =>
      have hNormal : f.normalize = ⟨Text.trim f.rationale, normalizeOptional f.proposedChange,
          normalizeOptional f.impact⟩ :=
        rfl
      simp only [Bool.false_eq_true, if_false, ← hNormal]
      cases hValid : f.normalize.validate with
      | error cause => simp
      | ok => simp [eq_comm]

end SteadyTask.Narrative
