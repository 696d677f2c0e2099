import SteadyTask.Proofs.Json.Mentions
import SteadyTask.Proofs.Text.Blanks

/-!
# Inside and outside quotes

A scan over a JSON text keeps track of whether it stands outside quotes, inside quotes, or after a
backslash inside quotes.  Outside quotes the compact form of a value has neither a backtick nor a
backslash, so a fence can only be met inside quotes, and what follows the fence goes on there.
That stays true of what is cut out of it up to the next fence, and of that without its blanks.

The scan knows nothing about values.  What a reader does that starts on the wrong side is not
settled here.
-/

namespace SteadyTask.Json

/-- Where a scan over a text stands. -/
inductive Side where
  | outside
  | inside
  | escaped
  deriving Repr, DecidableEq

namespace Side

/-- The side after one more character; there is none after a backtick or a backslash outside
quotes. -/
def next : Side → Char → Option Side
  | .outside, c =>
    if c = '"' then some .inside
    else if c = backtick ∨ c = '\\' then none
    else some .outside
  | .inside, c =>
    if c = '"' then some .outside
    else if c = '\\' then some .escaped
    else some .inside
  | .escaped, _ => some .inside

/-- The side after some characters. -/
def after (side : Side) : List Char → Option Side
  | [] => some side
  | c :: cs => (side.next c).bind fun s => s.after cs

/-- The scan goes through. -/
def Passes (side : Side) (cs : List Char) : Prop :=
  (side.after cs).isSome = true

theorem after_append (side : Side) (cs more : List Char) :
    side.after (cs ++ more) = (side.after cs).bind fun s => s.after more := by
  induction cs generalizing side with
  | nil => rfl
  | cons c cs ih =>
      rw [List.cons_append, after, after]
      cases side.next c with
      | none => rfl
      | some s => exact ih s

theorem after_append_of_eq {side s : Side} {cs : List Char} (h : side.after cs = some s)
    (more : List Char) : side.after (cs ++ more) = s.after more := by
  rw [after_append, h]
  rfl

theorem Passes.of_prefix {side : Side} {front cs : List Char} (h : side.Passes cs)
    (hFront : front <+: cs) : side.Passes front := by
  obtain ⟨more, rfl⟩ := hFront
  rw [Passes, after_append] at h
  rw [Passes]
  -- a scan that has stopped does not go on
  cases hAfter : side.after front with
  | none =>
      rw [hAfter] at h
      cases h
  | some s => rfl

/-- A character that is plain keeps the scan where it is. -/
def IsPlain (c : Char) : Prop :=
  c ≠ '"' ∧ c ≠ '\\' ∧ c ≠ backtick

theorem next_inside {c : Char} (hQuote : c ≠ '"') (hBackslash : c ≠ '\\') :
    inside.next c = some inside := by
  rw [next, if_neg hQuote, if_neg hBackslash]

theorem next_outside {c : Char} (h : IsPlain c) : outside.next c = some outside := by
  obtain ⟨hQuote, hBackslash, hTick⟩ := h
  rw [next, if_neg hQuote, if_neg (by simp [hTick, hBackslash])]

theorem after_outside_of_plain {cs : List Char} (h : ∀ c ∈ cs, IsPlain c) :
    outside.after cs = some outside := by
  induction cs with
  | nil => rfl
  | cons c cs ih =>
      rw [after, next_outside (h c List.mem_cons_self)]
      exact ih fun d hd => h d (List.mem_cons_of_mem _ hd)

/-! ## The compact form of a value -/

theorem next_inside_hexDigit : ∀ n < 16, inside.next (hexDigit n) = some inside := by
  decide

/-- What is written for one character of a quoted text stays inside the quotes. -/
theorem after_escapeChar (c : Char) : inside.after (escapeChar c) = some inside := by
  unfold escapeChar
  split
  · rfl
  split
  · rfl
  split
  · rfl
  split
  · rfl
  split
  · rfl
  split
  · rfl
  split
  · rfl
  split
  · next hControl =>
      -- after the backslash anything passes, and the four digits are plain
      have hHigh := next_inside_hexDigit (c.toNat / 16) (by omega)
      have hLow := next_inside_hexDigit (c.toNat % 16) (by omega)
      change (inside.next (hexDigit (c.toNat / 16))).bind
        (fun s => (s.next (hexDigit (c.toNat % 16))).bind fun t => t.after []) = _
      rw [hHigh, Option.bind_some, hLow]
      rfl
  · next hQuote hBackslash _ _ _ _ _ _ =>
      rw [after, next_inside hQuote hBackslash]
      rfl

theorem after_flatMap_escapeChar (cs : List Char) :
    inside.after (cs.flatMap escapeChar) = some inside := by
  induction cs with
  | nil => rfl
  | cons c cs ih => rw [List.flatMap_cons, after_append_of_eq (after_escapeChar c), ih]

theorem after_quoteChars (cs : List Char) : outside.after (quoteChars cs) = some outside := by
  change inside.after (cs.flatMap escapeChar ++ ['"']) = _
  rw [after_append_of_eq (after_flatMap_escapeChar cs)]
  rfl

theorem isPlain_of_isNumeral {c : Char} (h : IsNumeral c) : IsPlain c := by
  refine ⟨?_, ?_, ?_⟩
  · rintro rfl
    exact absurd h (by decide : ¬ IsNumeral '"')
  · rintro rfl
    exact absurd h (by decide)
  · rintro rfl
    exact absurd h (by decide)

theorem after_numeral {cs : List Char} (h : TakesNumeral cs []) :
    outside.after cs = some outside := by
  obtain ⟨taken, rfl, hTaken⟩ := h
  rw [List.append_nil]
  exact after_outside_of_plain fun c hc => isPlain_of_isNumeral (hTaken c hc)

/-- Parts that each end outside quotes do so in sequence, with commas between them. -/
theorem after_flatMap_comma {α : Type} {write : α → List Char} {parts : List α}
    (h : ∀ a ∈ parts, outside.after (write a) = some outside) :
    outside.after (parts.flatMap fun a => ',' :: write a) = some outside := by
  induction parts with
  | nil => rfl
  | cons a parts ih =>
      have hPart : outside.after (',' :: write a) = some outside := h a List.mem_cons_self
      rw [List.flatMap_cons, after_append_of_eq hPart]
      exact ih fun b hb => h b (List.mem_cons_of_mem _ hb)

theorem after_fieldChars {f : String × Value}
    (h : outside.after (compactChars f.2) = some outside) :
    outside.after (fieldChars f) = some outside := by
  rw [fieldChars, after_append_of_eq (after_quoteChars _)]
  exact h

theorem after_obj {fields : List (String × Value)}
    (h : ∀ f ∈ fields, outside.after (compactChars f.2) = some outside) :
    outside.after (compactChars (.obj fields)) = some outside := by
  have hFields : outside.after (compactFields fields) = some outside := by
    cases fields with
    | nil => rfl
    | cons f fields =>
        rw [compactFields_cons, after_append_of_eq (after_fieldChars (h f List.mem_cons_self))]
        exact after_flatMap_comma fun g hg => after_fieldChars (h g (List.mem_cons_of_mem _ hg))
  change outside.after (compactFields fields ++ ['\x7d']) = _
  rw [after_append_of_eq hFields]
  rfl

/-- The compact form of a value ends outside quotes, and no backtick or backslash is met there. -/
theorem after_compactChars {depth : Nat} {v : Value} (h : Storable depth v) :
    outside.after (compactChars v) = some outside := by
  induction h with
  | null => rfl
  | bool b =>
      cases b with
      | true => rfl
      | false => rfl
  | int hLow hHigh => exact after_numeral (takes_of_int hLow hHigh)
  | float hBack => exact after_numeral hBack.takes
  | str s => exact after_quoteChars s.toList
  | @arr depth items _ ih =>
      have hItems : outside.after (compactItems items) = some outside := by
        cases items with
        | nil => rfl
        | cons v items =>
            rw [compactItems_cons, after_append_of_eq (ih v List.mem_cons_self)]
            exact after_flatMap_comma fun w hw => ih w (List.mem_cons_of_mem _ hw)
      change outside.after (compactItems items ++ [']']) = _
      rw [after_append_of_eq hItems]
      rfl
  | obj _ _ ih => exact after_obj ih

/-! ## What follows a fence -/

/-- A fence that a scan goes through is met inside quotes, and leaves it there. -/
theorem after_openFence {side s : Side} (h : side.after openFence = some s) : s = inside := by
  -- outside quotes the scan stops at the first backtick of the fence
  cases side with
  | outside =>
      have hNone : outside.after openFence = none := by decide
      rw [hNone] at h
      cases h
  | inside => exact (Option.some.inj h).symm
  | escaped => exact (Option.some.inj h).symm

/-- What follows a fence goes on inside quotes. -/
theorem Passes.after_fence {before rest : List Char}
    (h : outside.Passes (before ++ (openFence ++ rest))) : inside.Passes rest := by
  rw [Passes, after_append] at h
  cases hBefore : outside.after before with
  | none =>
      rw [hBefore] at h
      cases h
  | some side =>
      rw [hBefore, Option.bind_some, after_append] at h
      cases hFence : side.after openFence with
      | none =>
          rw [hFence] at h
          cases h
      | some s =>
          rw [hFence, after_openFence hFence] at h
          exact h

theorem Passes.of_cons {c : Char} {cs : List Char} (h : inside.Passes (c :: cs))
    (hQuote : c ≠ '"') (hBackslash : c ≠ '\\') : inside.Passes cs := by
  rw [Passes, after, next_inside hQuote hBackslash] at h
  exact h

/-- Characters inside quotes that neither end them nor escape anything can be dropped. -/
theorem Passes.dropWhile {test : Char → Bool} (hQuote : test '"' = false)
    (hBackslash : test '\\' = false) {cs : List Char} (h : inside.Passes cs) :
    inside.Passes (cs.dropWhile test) := by
  induction cs with
  | nil => exact h
  | cons c cs ih =>
      by_cases hc : test c = true
      · rw [List.dropWhile_cons_of_pos hc]
        refine ih (h.of_cons ?_ ?_)
        · rintro rfl
          rw [hQuote] at hc
          cases hc
        · rintro rfl
          rw [hBackslash] at hc
          cases hc
      · rw [List.dropWhile_cons_of_neg hc]
        exact h

theorem Passes.trimChars {cs : List Char} (h : inside.Passes cs) :
    inside.Passes (Text.trimChars cs) := by
  have hFront : inside.Passes (cs.dropWhile Text.isBlank) := h.dropWhile (by decide) (by decide)
  exact hFront.of_prefix (Text.isPrefix_dropEndWhile Text.isBlank _)

/-- The JSON that is taken out of a compact form which holds a fence starts inside quotes. -/
theorem Passes.embeddedChars {cs json : List Char} (h : outside.Passes cs)
    (hFence : openFence <:+: cs) (hJson : embeddedChars? cs = some json) : inside.Passes json := by
  unfold embeddedChars? at hJson
  -- the first fence was met inside quotes; cutting at the next fence and blanks keeps the side
  split at hJson
  · next before rest hSplit =>
      rw [Text.eq_append_of_splitFirst? hSplit] at h
      have hRest : inside.Passes rest := h.after_fence
      split at hJson
      · next front back hClose =>
          cases hJson
          refine Passes.trimChars (hRest.of_prefix ?_)
          rw [Text.eq_append_of_splitFirst? hClose]
          exact List.prefix_append _ _
      · cases hJson
        exact hRest.trimChars
  · next hNone => exact absurd hFence (Text.splitFirst?_eq_none_iff.mp hNone)

end Side

end SteadyTask.Json
