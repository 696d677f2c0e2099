import SteadyTask.Json.Embedded
import SteadyTask.Proofs.Json.RoundTrip
import SteadyTask.Proofs.Text.Occurrence

/-!
# Patterns in the compact form of a value

A pattern that starts with a backtick and has no character that is escaped or that separates the
parts of a value stands in the compact form of a value exactly if it stands in one of its texts.
The texts of a value are its strings and the names of its fields, at any depth.

Both fences are such patterns, so an answer in compact form holds a fence exactly if the value
itself mentions one.
-/

namespace SteadyTask.Json

/-- The character that fences are made of. -/
def backtick : Char := Char.ofNat 96

/-- A pattern stands in a string of a value or in the name of a field, at any depth. -/
inductive Value.Mentions (pattern : List Char) : Value → Prop
  | str {s : String} (h : pattern <:+: s.toList) : Mentions pattern (.str s)
  | item {items : List Value} {v : Value} (hMem : v ∈ items) (h : Mentions pattern v) :
      Mentions pattern (.arr items)
  | name {fields : List (String × Value)} {f : String × Value} (hMem : f ∈ fields)
      (h : pattern <:+: f.1.toList) : Mentions pattern (.obj fields)
  | field {fields : List (String × Value)} {f : String × Value} (hMem : f ∈ fields)
      (h : Mentions pattern f.2) : Mentions pattern (.obj fields)

namespace Value

variable {pattern : List Char}

theorem mentions_str {s : String} : (Value.str s).Mentions pattern ↔ pattern <:+: s.toList := by
  constructor
  · intro h
    cases h with
    | str h => exact h
  · exact .str

theorem mentions_arr {items : List Value} :
    (Value.arr items).Mentions pattern ↔ ∃ v ∈ items, v.Mentions pattern := by
  constructor
  · intro h
    cases h with
    | item hMem h => exact ⟨_, hMem, h⟩
  · rintro ⟨v, hMem, h⟩
    exact .item hMem h

theorem mentions_obj {fields : List (String × Value)} :
    (Value.obj fields).Mentions pattern ↔
      ∃ f ∈ fields, pattern <:+: f.1.toList ∨ f.2.Mentions pattern := by
  constructor
  · intro h
    cases h with
    | name hMem h => exact ⟨_, hMem, Or.inl h⟩
    | field hMem h => exact ⟨_, hMem, Or.inr h⟩
  · rintro ⟨f, hMem, h | h⟩
    · exact .name hMem h
    · exact .field hMem h

/-- What mentions a pattern mentions each part of it. -/
theorem Mentions.of_infix {part : List Char} {v : Value} (h : v.Mentions pattern)
    (hPart : part <:+: pattern) : v.Mentions part := by
  induction h with
  | str h => exact .str (hPart.trans h)
  | item hMem _ ih => exact .item hMem ih
  | name hMem h => exact .name hMem (hPart.trans h)
  | field hMem _ ih => exact .field hMem ih

end Value

/-- A pattern that starts with a backtick and is the same in a quoted text, and that nothing which
separates the parts of a value belongs to. -/
structure FenceLike (pattern : List Char) : Prop where
  head : pattern.head? = some backtick
  verbatim : ∀ c ∈ pattern, escapeChar c = [c]
  joined : ∀ c ∈ pattern, c ∉ [':', ',', '[', ']', '\x7b', '\x7d']

theorem forall_mem_of_all {letters : List Char} {P : Char → Prop} [DecidablePred P]
    (h : letters.all (fun c => P c) = true) : ∀ c ∈ letters, P c :=
  fun c hc => of_decide_eq_true (List.all_eq_true.mp h c hc)

theorem fenceLike_openFence : FenceLike openFence :=
  ⟨by decide, forall_mem_of_all (by decide), forall_mem_of_all (by decide)⟩

theorem fenceLike_backtick : FenceLike [backtick] :=
  ⟨by decide, forall_mem_of_all (by decide), forall_mem_of_all (by decide)⟩

namespace FenceLike

variable {pattern : List Char}

theorem eq_cons (h : FenceLike pattern) : ∃ more, pattern = backtick :: more :=
  List.head?_eq_some_iff.mp h.head

theorem not_infix_nil (h : FenceLike pattern) : ¬ pattern <:+: [] := by
  obtain ⟨more, rfl⟩ := h.eq_cons
  intro hNil
  cases List.infix_nil.mp hNil

theorem notMem (h : FenceLike pattern) {c : Char} (hc : c ∈ [':', ',', '[', ']', '\x7b', '\x7d']) :
    c ∉ pattern :=
  fun hMem => h.joined c hMem hc

theorem quote_notMem (h : FenceLike pattern) : '"' ∉ pattern :=
  fun hMem => absurd (h.verbatim _ hMem) (by decide)

/-- Characters without a backtick can be left out in front. -/
theorem infix_append_iff (h : FenceLike pattern) {front rest : List Char}
    (hFront : backtick ∉ front) : pattern <:+: front ++ rest ↔ pattern <:+: rest := by
  obtain ⟨more, rfl⟩ := h.eq_cons
  exact Text.infix_append_iff_of_notMem hFront

theorem not_infix (h : FenceLike pattern) {cs : List Char} (hCs : backtick ∉ cs) :
    ¬ pattern <:+: cs := by
  obtain ⟨more, rfl⟩ := h.eq_cons
  exact fun hInfix => hCs (hInfix.subset List.mem_cons_self)

theorem infix_cons_iff (h : FenceLike pattern) {c : Char} (hc : c ≠ backtick) {rest : List Char} :
    pattern <:+: c :: rest ↔ pattern <:+: rest := by
  have hFront : backtick ∉ [c] := by simpa using hc.symm
  exact h.infix_append_iff hFront

/-- A separator at the end can be left out. -/
theorem infix_append_singleton_iff (h : FenceLike pattern) {c : Char} (hc : c ∉ pattern)
    {cs : List Char} : pattern <:+: cs ++ [c] ↔ pattern <:+: cs := by
  rw [Text.infix_append_cons_iff hc]
  exact or_iff_left h.not_infix_nil

end FenceLike

/-! ## Quoted texts -/

theorem backtick_notMem_hexDigit : ∀ n < 16, backtick ≠ hexDigit n := by
  decide

/-- A character is written as itself, or as a backslash and what holds no backtick. -/
theorem escapeChar_cases (c : Char) :
    escapeChar c = [c] ∨ ∃ more, escapeChar c = '\\' :: more ∧ backtick ∉ more := by
  -- seven characters have an escape of their own; other control characters are written as digits
  unfold escapeChar
  split
  · exact Or.inr ⟨_, rfl, by decide⟩
  split
  · exact Or.inr ⟨_, rfl, by decide⟩
  split
  · exact Or.inr ⟨_, rfl, by decide⟩
  split
  · exact Or.inr ⟨_, rfl, by decide⟩
  split
  · exact Or.inr ⟨_, rfl, by decide⟩
  split
  · exact Or.inr ⟨_, rfl, by decide⟩
  split
  · exact Or.inr ⟨_, rfl, by decide⟩
  split
  · next hControl =>
      refine Or.inr ⟨_, rfl, ?_⟩
      have hHigh := backtick_notMem_hexDigit (c.toNat / 16) (by omega)
      have hLow := backtick_notMem_hexDigit (c.toNat % 16) (by omega)
      have hFront : backtick ∉ ['u', '0', '0'] := by decide
      simpa [hHigh, hLow] using hFront
  · exact Or.inl rfl

/-- What is the same in a quoted text comes first in it if it comes first in the text. -/
theorem prefix_flatMap_escapeChar_iff {pattern : List Char} (cs : List Char)
    (h : ∀ c ∈ pattern, escapeChar c = [c]) :
    pattern <+: cs.flatMap escapeChar ↔ pattern <+: cs := by
  induction pattern generalizing cs with
  | nil => simp
  | cons p pattern ih =>
      cases cs with
      | nil => rfl
      | cons c cs =>
          have hRest := ih cs fun d hd => h d (List.mem_cons_of_mem _ hd)
          rcases escapeChar_cases c with hSelf | ⟨more, hEscape, -⟩
          · rw [List.flatMap_cons, hSelf, List.singleton_append, List.cons_prefix_cons,
              List.cons_prefix_cons, hRest]
          · have hp : escapeChar p = [p] := h p List.mem_cons_self
            -- the pattern cannot begin with a character that is escaped, nor with its backslash
            have hLeft : p ≠ '\\' := by
              rintro rfl
              exact absurd hp (by decide)
            have hRight : p ≠ c := by
              rintro rfl
              rw [hp] at hEscape
              exact hLeft (List.head_eq_of_cons_eq hEscape)
            rw [List.flatMap_cons, hEscape, List.cons_append, List.cons_prefix_cons,
              List.cons_prefix_cons]
            simp [hLeft, hRight]

/-- A fence stands in what is written for a text exactly if it stands in the text. -/
theorem FenceLike.infix_flatMap_escapeChar_iff {pattern : List Char} (h : FenceLike pattern)
    {cs : List Char} : pattern <:+: cs.flatMap escapeChar ↔ pattern <:+: cs := by
  induction cs with
  | nil => rfl
  | cons c cs ih =>
      rcases escapeChar_cases c with hSelf | ⟨more, hEscape, hMore⟩
      · have hPrefix := prefix_flatMap_escapeChar_iff (c :: cs) h.verbatim
        rw [List.flatMap_cons, hSelf, List.singleton_append] at hPrefix ⊢
        rw [List.infix_cons_iff, List.infix_cons_iff, hPrefix, ih]
      · -- an escape holds no backtick, so no fence begins in it or reaches into it
        have hTick : c ≠ backtick := by
          rintro rfl
          exact absurd (List.head_eq_of_cons_eq hEscape) (by decide)
        have hFront : backtick ∉ '\\' :: more :=
          List.not_mem_cons_of_ne_of_not_mem (by decide) hMore
        rw [List.flatMap_cons, hEscape, h.infix_append_iff hFront, ih, h.infix_cons_iff hTick]

theorem FenceLike.infix_quoteChars_iff {pattern : List Char} (h : FenceLike pattern)
    {cs : List Char} : pattern <:+: quoteChars cs ↔ pattern <:+: cs := by
  rw [quoteChars, h.infix_cons_iff (by decide), h.infix_append_singleton_iff h.quote_notMem,
    h.infix_flatMap_escapeChar_iff]

/-! ## Whole values -/

/-- A text that is a number from end to end holds characters of a number only. -/
theorem takes_of_number {c : Char} {cs : List Char} {n : Number}
    (h : (c = '-' ∧ readNumber false cs = .ok (n, [])) ∨
      (Decimal.isDigit c = true ∧ readNumber true (c :: cs) = .ok (n, []))) :
    TakesNumeral (c :: cs) [] := by
  rcases h with ⟨rfl, hRead⟩ | ⟨-, hRead⟩
  · exact .cons (Or.inr (by decide)) (readNumber_takes hRead)
  · exact readNumber_takes hRead

theorem takes_of_int {n : Int} (hLow : -(Nat.pow 2 63 : Int) ≤ n) (hHigh : n ≤ (maxWord : Int)) :
    TakesNumeral (compactChars (.int n)) [] := by
  obtain ⟨c, cs, hText, hNumber⟩ := number_of_int hLow hHigh
  rw [compactChars, hText]
  exact takes_of_number hNumber

theorem ReadsBack.takes {x : Float} (h : ReadsBack x) :
    TakesNumeral (compactChars (.float x)) [] := by
  obtain ⟨c, cs, hText, hNumber⟩ := number_of_float h
  rw [compactChars, hText]
  exact takes_of_number hNumber

namespace FenceLike

variable {pattern : List Char}

/-- Commas hold no fence together. -/
theorem infix_append_flatMap_comma_iff (h : FenceLike pattern) {α : Type} {write : α → List Char}
    {front : List Char} {parts : List α} :
    pattern <:+: front ++ parts.flatMap (fun a => ',' :: write a) ↔
      pattern <:+: front ∨ ∃ a ∈ parts, pattern <:+: write a := by
  induction parts generalizing front with
  | nil => simp
  | cons a parts ih =>
      rw [List.flatMap_cons, List.cons_append, Text.infix_append_cons_iff (h.notMem (by decide)),
        ih, List.exists_mem_cons_iff]

theorem infix_compactItems_iff (h : FenceLike pattern) {items : List Value} :
    pattern <:+: compactItems items ↔ ∃ v ∈ items, pattern <:+: compactChars v := by
  cases items with
  | nil => simpa [compactItems] using h.not_infix_nil
  | cons v items =>
      rw [compactItems_cons, h.infix_append_flatMap_comma_iff, List.exists_mem_cons_iff]

theorem infix_fieldChars_iff (h : FenceLike pattern) {f : String × Value} :
    pattern <:+: fieldChars f ↔ pattern <:+: f.1.toList ∨ pattern <:+: compactChars f.2 := by
  rw [fieldChars, Text.infix_append_cons_iff (h.notMem (by decide)), h.infix_quoteChars_iff]

theorem infix_compactFields_iff (h : FenceLike pattern) {fields : List (String × Value)} :
    pattern <:+: compactFields fields ↔
      ∃ f ∈ fields, pattern <:+: f.1.toList ∨ pattern <:+: compactChars f.2 := by
  cases fields with
  | nil => simpa [compactFields] using h.not_infix_nil
  | cons f fields =>
      rw [compactFields_cons, h.infix_append_flatMap_comma_iff]
      simp only [h.infix_fieldChars_iff]
      rw [List.exists_mem_cons_iff]

/-- Whether a fence stands in the compact form of an object is decided by its fields, in whatever
order they come. -/
theorem infix_obj_iff (h : FenceLike pattern) {fields : List (String × Value)}
    (hFields : ∀ f ∈ fields, pattern <:+: compactChars f.2 ↔ f.2.Mentions pattern) :
    pattern <:+: compactChars (.obj fields) ↔ (Value.obj fields).Mentions pattern := by
  rw [compactChars, h.infix_cons_iff (by decide),
    h.infix_append_singleton_iff (h.notMem (by decide)), h.infix_compactFields_iff,
    Value.mentions_obj]
  exact exists_congr fun f => and_congr_right fun hMem => or_congr_right (hFields f hMem)

/-- A fence stands in the compact form of a value exactly if the value mentions it. -/
theorem infix_compactChars_iff (h : FenceLike pattern) {depth : Nat} {v : Value}
    (hStorable : Storable depth v) : pattern <:+: compactChars v ↔ v.Mentions pattern := by
  -- literals and numbers have no backtick; the rest is quoted or put together with separators
  induction hStorable with
  | null => exact iff_of_false (h.not_infix (by decide)) nofun
  | bool b =>
      cases b with
      | true => exact iff_of_false (h.not_infix (by decide)) nofun
      | false => exact iff_of_false (h.not_infix (by decide)) nofun
  | int hLow hHigh =>
      exact iff_of_false (h.not_infix ((takes_of_int hLow hHigh).notMem (by decide))) nofun
  | float hBack => exact iff_of_false (h.not_infix (hBack.takes.notMem (by decide))) nofun
  | str s => rw [compactChars, h.infix_quoteChars_iff, Value.mentions_str]
  | arr _ ih =>
      rw [compactChars, h.infix_cons_iff (by decide),
        h.infix_append_singleton_iff (h.notMem (by decide)), h.infix_compactItems_iff,
        Value.mentions_arr]
      exact exists_congr fun v => and_congr_right fun hMem => ih v hMem
  | obj _ _ ih => exact h.infix_obj_iff ih

end FenceLike

end SteadyTask.Json
