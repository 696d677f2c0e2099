import SteadyTask.Json.Record
import SteadyTask.Proofs.Json.Sides

/-!
# Reading from inside quotes

A reader that starts where the text is inside quotes takes the quote that ends them for one that
opens a text, and so on: between its tokens the text is inside quotes, and every text it reads
stands outside of them.  There the text has neither a backtick nor a backslash, so whatever such a
reader makes of the text, no backtick is in it.

The statements are of one form.  `Meets before read result` says that where `before` holds of the
characters and the reader takes something, `result` holds of what it took and of what it left.
Nothing is said about readers that fail.
-/

namespace SteadyTask.Json

/-- A text without a backtick. -/
def Unticked (s : String) : Prop :=
  ¬ [backtick] <:+: s.toList

namespace Reader

variable {α β : Type}

/-- What holds of the characters before a reader, and of the result and the rest after it. -/
def Meets (before : List Char → Prop) (read : Reader α) (result : α → List Char → Prop) : Prop :=
  ∀ cs a rest, before cs → read cs = .ok (a, rest) → result a rest

/-- The text goes on inside quotes. -/
def Within (cs : List Char) : Prop :=
  Side.inside.Passes cs

/-- The text goes on inside quotes, with a given token. -/
def WithinAt (next : Option Char) (cs : List Char) : Prop :=
  cs.head? = next ∧ Within cs

namespace Meets

variable {before : List Char → Prop} {result : α → List Char → Prop}

theorem pure {a : α} (h : ∀ cs, before cs → result a cs) : Meets before (pure a) result := by
  intro cs b rest hBefore hRead
  cases hRead
  exact h cs hBefore

theorem throw {e : Fault} : Meets before (throw e : Reader α) result := by
  intro cs b rest _ hRead
  cases hRead

theorem any {read : Reader α} : Meets before read fun _ _ => True :=
  fun _ _ _ _ _ => trivial

theorem bind {read : Reader β} {f : β → Reader α} {between : β → List Char → Prop}
    (hRead : Meets before read between) (hNext : ∀ b, Meets (between b) (f b) result) :
    Meets before (read >>= f) result := by
  intro cs a rest hBefore hBoth
  obtain ⟨b, left, hFirst, hSecond⟩ := exists_of_bind_ok hBoth
  exact hNext b left a rest (hRead cs b left hBefore hFirst) hSecond

theorem weaken {read : Reader α} {earlier : List Char → Prop} (h : Meets before read result)
    (hBefore : ∀ cs, earlier cs → before cs) : Meets earlier read result :=
  fun cs a rest hEarlier hRead => h cs a rest (hBefore cs hEarlier) hRead

/-- What does not depend on the characters is taken out of the condition. -/
theorem of_and {read : Reader α} {p : Prop} (h : p → Meets before read result) :
    Meets (fun cs => p ∧ before cs) read result :=
  fun cs a rest hBoth hRead => h hBoth.1 cs a rest hBoth.2 hRead

end Meets

theorem Within.of_cons {c : Char} {cs : List Char} (h : Within (c :: cs)) (hQuote : c ≠ '"')
    (hBackslash : c ≠ '\\') : Within cs :=
  Side.Passes.of_cons h hQuote hBackslash

/-! ## Tokens and words -/

theorem meets_token : Meets Within token WithinAt := by
  intro cs next rest hWithin hRead
  cases hRead
  exact ⟨rfl, hWithin.dropWhile (by decide) (by decide)⟩

/-- A character that neither ends the quotes nor escapes anything is dropped. -/
theorem meets_skip {c : Char} (hQuote : c ≠ '"') (hBackslash : c ≠ '\\') :
    Meets (WithinAt (some c)) skip fun _ => Within := by
  rintro cs _ rest ⟨hHead, hWithin⟩ hRead
  obtain ⟨more, rfl⟩ := List.head?_eq_some_iff.mp hHead
  cases hRead
  exact hWithin.of_cons hQuote hBackslash

theorem meets_skip_of_eq {c d : Char} (h : c = d) (hQuote : d ≠ '"') (hBackslash : d ≠ '\\') :
    Meets (WithinAt (some c)) skip fun _ => Within := by
  rw [h]
  exact meets_skip hQuote hBackslash

/-- The quote that ends the quotes is dropped. -/
theorem meets_skip_quote :
    Meets (WithinAt (some '"')) skip fun _ => Side.outside.Passes := by
  rintro cs _ rest ⟨hHead, hWithin⟩ hRead
  obtain ⟨more, rfl⟩ := List.head?_eq_some_iff.mp hHead
  cases hRead
  exact hWithin

theorem meets_word {letters : List Char} (hQuote : '"' ∉ letters) (hBackslash : '\\' ∉ letters) :
    Meets Within (word letters) fun _ => Within := by
  induction letters with
  | nil => exact .pure fun _ hWithin => hWithin
  | cons w letters ih =>
      intro cs _ rest hWithin hRead
      cases cs with
      | nil => cases hRead
      | cons c cs =>
          by_cases hc : c = w
          · simp only [word, if_pos hc] at hRead
            -- the letter is no quote and no backslash, so the text goes on inside quotes
            rw [hc] at hWithin
            have hRest : Within cs := hWithin.of_cons (List.ne_of_not_mem_cons hQuote).symm
              (List.ne_of_not_mem_cons hBackslash).symm
            exact ih (List.not_mem_of_not_mem_cons hQuote)
              (List.not_mem_of_not_mem_cons hBackslash) cs _ rest hRest hRead
          · simp only [word, if_neg hc] at hRead
            cases hRead

theorem Within.of_takes {cs rest : List Char} (h : Within cs) (hTakes : TakesNumeral cs rest) :
    Within rest := by
  obtain ⟨taken, rfl, hTaken⟩ := hTakes
  induction taken with
  | nil => exact h
  | cons c taken ih =>
      obtain ⟨hQuote, hBackslash, -⟩ := Side.isPlain_of_isNumeral (hTaken c List.mem_cons_self)
      exact ih (fun d hd => hTaken d (List.mem_cons_of_mem _ hd)) (h.of_cons hQuote hBackslash)

theorem meets_number (positive : Bool) :
    Meets Within (number positive) fun _ => Within := by
  intro cs n rest hWithin hRead
  exact hWithin.of_takes (readNumber_takes hRead)

/-! ## Texts -/

/-- Outside quotes a text is read as it stands, up to the quote that opens the next quotes. -/
theorem readText_outside {cs ds rest : List Char} (h : Side.outside.Passes cs)
    (hRead : readText cs = .ok (ds, rest)) : backtick ∉ ds ∧ Within rest := by
  -- outside quotes there is no backslash, so nothing is unescaped on the way
  induction cs generalizing ds with
  | nil =>
      rw [readText] at hRead
      cases hRead
  | cons c cs ih =>
      rw [readText] at hRead
      rw [Side.Passes, Side.after, Side.next] at h
      split at hRead
      · next hQuote =>
          rw [if_pos hQuote] at h
          cases hRead
          exact ⟨List.not_mem_nil, h⟩
      · next hQuote =>
          rw [if_neg hQuote] at h
          split at h
          · cases h
          · next hPlain =>
              rw [not_or] at hPlain
              rw [if_neg hPlain.2] at hRead
              split at hRead
              · cases hRead
              · cases hMore : readText cs with
                | error e =>
                    rw [hMore] at hRead
                    cases hRead
                | ok read =>
                    rw [hMore] at hRead
                    cases hRead
                    obtain ⟨hDs, hRest⟩ := ih h hMore
                    exact ⟨List.not_mem_cons_of_ne_of_not_mem (Ne.symm hPlain.1) hDs, hRest⟩

theorem meets_text :
    Meets Side.outside.Passes text fun s rest => Unticked s ∧ Within rest := by
  intro cs s rest hOutside hRead
  rw [text] at hRead
  cases hText : readText cs with
  | error e =>
      rw [hText] at hRead
      cases hRead
  | ok read =>
      rw [hText] at hRead
      cases hRead
      obtain ⟨hDs, hRest⟩ := readText_outside hOutside hText
      refine ⟨?_, hRest⟩
      rw [Unticked, String.toList_ofList]
      exact fenceLike_backtick.not_infix hDs

/-- Outside quotes a text is passed over up to the quote that opens the next quotes. -/
theorem passText_outside {cs rest : List Char} (h : Side.outside.Passes cs)
    (hRead : passText cs = .ok rest) : Within rest := by
  induction cs with
  | nil =>
      rw [passText] at hRead
      cases hRead
  | cons c cs ih =>
      rw [passText] at hRead
      rw [Side.Passes, Side.after, Side.next] at h
      split at hRead
      · next hQuote =>
          rw [if_pos hQuote] at h
          cases hRead
          exact h
      · next hQuote =>
          rw [if_neg hQuote] at h
          split at h
          · cases h
          · next hPlain =>
              rw [not_or] at hPlain
              rw [if_neg hPlain.2] at hRead
              split at hRead
              · cases hRead
              · exact ih h hRead

theorem meets_passQuoted : Meets Side.outside.Passes passQuoted fun _ => Within := by
  intro cs _ rest hOutside hRead
  rw [passQuoted] at hRead
  cases hText : passText cs with
  | error e =>
      rw [hText] at hRead
      cases hRead
  | ok left =>
      rw [hText] at hRead
      cases hRead
      exact passText_outside hOutside hText

/-! ## Arrays and objects -/

theorem meets_nextItem (first : Bool) : Meets Within (nextItem first) fun _ => Within := by
  refine meets_token.bind fun next => ?_
  cases next with
  | none => exact .throw
  | some c =>
      simp only
      split
      · exact .pure fun _ h => h.2
      split
      · exact .pure fun _ h => h.2
      split
      · next hComma =>
          refine (meets_skip_of_eq hComma (by decide) (by decide)).bind fun _ => ?_
          refine meets_token.bind fun after => ?_
          cases after with
          | none => exact .throw
          | some d =>
              simp only
              split
              · exact .throw
              · exact .pure fun _ h => h.2
      · exact .throw

theorem meets_closeList : Meets Within closeList fun _ => Within := by
  refine meets_token.bind fun next => ?_
  cases next with
  | none => exact .throw
  | some c =>
      simp only
      split
      · next hClose => exact meets_skip_of_eq hClose (by decide) (by decide)
      split
      · next hComma =>
          refine (meets_skip_of_eq hComma (by decide) (by decide)).bind fun _ => ?_
          refine meets_token.bind fun after => ?_
          split
          · exact .throw
          · exact .throw
      · exact .throw

/-- A text is read after the quote that ends the quotes. -/
theorem meets_skip_text :
    Meets (WithinAt (some '"')) (do skip; text) fun s rest => Unticked s ∧ Within rest :=
  meets_skip_quote.bind fun _ => meets_text

theorem meets_skip_name :
    Meets (WithinAt (some '"')) (do skip; return some (← text))
      fun name rest => (∀ s ∈ name, Unticked s) ∧ Within rest := by
  refine meets_skip_quote.bind fun _ => meets_text.bind fun s => .of_and fun hs => .pure ?_
  intro cs hWithin
  refine ⟨?_, hWithin⟩
  intro t ht
  cases ht
  exact hs

theorem meets_nextField (first : Bool) :
    Meets Within (nextField first) fun name rest => (∀ s ∈ name, Unticked s) ∧ Within rest := by
  refine meets_token.bind fun next => ?_
  cases next with
  | none => exact .throw
  | some c =>
      simp only
      split
      · exact .pure fun _ h => ⟨nofun, h.2⟩
      split
      · split
        · next hQuote =>
            rw [hQuote]
            exact meets_skip_name
        · exact .throw
      split
      · next hComma =>
          refine (meets_skip_of_eq hComma (by decide) (by decide)).bind fun _ => ?_
          refine meets_token.bind fun after => ?_
          cases after with
          | none => exact .throw
          | some d =>
              simp only
              split
              · next hQuote =>
                  rw [hQuote]
                  exact meets_skip_name
              split
              · exact .throw
              · exact .throw
      · exact .throw

theorem meets_colon : Meets Within colon fun _ => Within := by
  refine meets_token.bind fun next => ?_
  cases next with
  | none => exact .throw
  | some c =>
      simp only
      split
      · next hColon => exact meets_skip_of_eq hColon (by decide) (by decide)
      · exact .throw

theorem meets_closeObject : Meets Within closeObject fun _ => Within := by
  refine meets_token.bind fun next => ?_
  cases next with
  | none => exact .throw
  | some c =>
      simp only
      split
      · next hClose => exact meets_skip_of_eq hClose (by decide) (by decide)
      split
      · exact .throw
      · exact .throw

section Folding

variable {σ : Type} (Good : σ → Prop)

/-- What each item keeps is kept over all items of an array. -/
theorem meets_itemsWithin {read : σ → Reader σ}
    (h : ∀ acc, Good acc → Meets Within (read acc) fun next rest => Good next ∧ Within rest)
    (steps : Nat) (first : Bool) {acc : σ} (hAcc : Good acc) :
    Meets Within (itemsWithin read steps first acc) fun final rest => Good final ∧ Within rest := by
  -- on the steps that the reader allows itself
  induction steps generalizing first acc with
  | zero => exact .pure fun _ hWithin => ⟨hAcc, hWithin⟩
  | succ steps ih =>
      refine (meets_nextItem first).bind fun more => ?_
      split
      · exact (h acc hAcc).bind fun next => .of_and fun hNext => ih false hNext
      · exact .pure fun _ hWithin => ⟨hAcc, hWithin⟩

/-- What each field keeps is kept over all fields of an object. -/
theorem meets_fieldsWithin {read : String → σ → Reader σ}
    (h : ∀ name acc, Unticked name → Good acc →
      Meets Within (read name acc) fun next rest => Good next ∧ Within rest)
    (steps : Nat) (first : Bool) {acc : σ} (hAcc : Good acc) :
    Meets Within (fieldsWithin read steps first acc)
      fun final rest => Good final ∧ Within rest := by
  -- on the steps that the reader allows itself
  induction steps generalizing first acc with
  | zero => exact .pure fun _ hWithin => ⟨hAcc, hWithin⟩
  | succ steps ih =>
      refine (meets_nextField first).bind fun name => .of_and fun hName => ?_
      cases name with
      | none => exact .pure fun _ hWithin => ⟨hAcc, hWithin⟩
      | some name =>
          exact (h name acc (hName name rfl) hAcc).bind fun next => .of_and fun hNext =>
            ih false hNext

theorem meets_items {read : σ → Reader σ}
    (h : ∀ acc, Good acc → Meets Within (read acc) fun next rest => Good next ∧ Within rest)
    {acc : σ} (hAcc : Good acc) :
    Meets Within (items read acc) fun final rest => Good final ∧ Within rest :=
  fun cs => meets_itemsWithin Good h (cs.length + 1) true hAcc cs

theorem meets_fields {read : String → σ → Reader σ}
    (h : ∀ name acc, Unticked name → Good acc →
      Meets Within (read name acc) fun next rest => Good next ∧ Within rest)
    {acc : σ} (hAcc : Good acc) :
    Meets Within (fields read acc) fun final rest => Good final ∧ Within rest :=
  fun cs => meets_fieldsWithin Good h (cs.length + 1) true hAcc cs

end Folding

/-! ## Values -/

/-- A value without a backtick. -/
def UntickedValue (v : Value) : Prop :=
  ¬ v.Mentions [backtick]

theorem untickedValue_arr {items : List Value} (h : ∀ v ∈ items, UntickedValue v) :
    UntickedValue (.arr items) := by
  intro hMentions
  obtain ⟨v, hMem, hv⟩ := Value.mentions_arr.mp hMentions
  exact h v hMem hv

/-- Fields without a backtick in names or values. -/
def UntickedFields (fields : List (String × Value)) : Prop :=
  ∀ f ∈ fields, Unticked f.1 ∧ UntickedValue f.2

theorem untickedValue_obj {fields : List (String × Value)} (h : UntickedFields fields) :
    UntickedValue (.obj fields) := by
  intro hMentions
  obtain ⟨f, hMem, hName | hValue⟩ := Value.mentions_obj.mp hMentions
  · exact (h f hMem).1 hName
  · exact (h f hMem).2 hValue

theorem UntickedFields.setField {name : String} {v : Value} {fields : List (String × Value)}
    (hName : Unticked name) (hValue : UntickedValue v) (h : UntickedFields fields) :
    UntickedFields (setField name v fields) := by
  induction fields with
  | nil => exact List.forall_mem_singleton.mpr ⟨hName, hValue⟩
  | cons field fields ih =>
      obtain ⟨hField, hFields⟩ := List.forall_mem_cons.mp h
      -- the field replaces one of its name, goes in front, or goes further back
      rw [Json.setField]
      split
      · exact List.forall_mem_cons.mpr ⟨⟨hName, hValue⟩, hFields⟩
      split
      · exact List.forall_mem_cons.mpr ⟨⟨hName, hValue⟩, h⟩
      · exact List.forall_mem_cons.mpr ⟨hField, ih hFields⟩

theorem untickedValue_numberValue (n : Number) : UntickedValue (numberValue n) := by
  cases n with
  | whole n => nofun
  | real x => nofun

theorem meets_scalar (c : Char) :
    Meets (WithinAt (some c)) (scalar c) fun v rest => UntickedValue v ∧ Within rest := by
  unfold scalar
  split
  · next hc =>
      refine (meets_skip_of_eq hc (by decide) (by decide)).bind fun _ => ?_
      exact (meets_word (by decide) (by decide)).bind fun _ => .pure fun _ h => ⟨nofun, h⟩
  split
  · next hc =>
      refine (meets_skip_of_eq hc (by decide) (by decide)).bind fun _ => ?_
      exact (meets_word (by decide) (by decide)).bind fun _ => .pure fun _ h => ⟨nofun, h⟩
  split
  · next hc =>
      refine (meets_skip_of_eq hc (by decide) (by decide)).bind fun _ => ?_
      exact (meets_word (by decide) (by decide)).bind fun _ => .pure fun _ h => ⟨nofun, h⟩
  split
  · next hc =>
      rw [hc]
      refine meets_skip_quote.bind fun _ => meets_text.bind fun s => .of_and fun hs => ?_
      exact .pure fun _ h => ⟨fun hMentions => hs (Value.mentions_str.mp hMentions), h⟩
  split
  · next hc =>
      refine (meets_skip_of_eq hc (by decide) (by decide)).bind fun _ => ?_
      exact (meets_number false).bind fun n => .pure fun _ h => ⟨untickedValue_numberValue n, h⟩
  split
  · refine ((meets_number true).weaken fun _ h => h.2).bind fun n => ?_
    exact .pure fun _ h => ⟨untickedValue_numberValue n, h⟩
  · exact .throw

/-- A value that is read from inside quotes has no backtick. -/
theorem meets_value (depth : Nat) :
    Meets Within (value depth) fun v rest => UntickedValue v ∧ Within rest := by
  induction depth with
  | zero =>
      refine meets_token.bind fun next => ?_
      cases next with
      | none => exact .throw
      | some c =>
          simp only
          split
          · exact .throw
          · exact meets_scalar c
  | succ depth ih =>
      refine meets_token.bind fun next => ?_
      cases next with
      | none => exact .throw
      | some c =>
          simp only
          split
          · next hc =>
              refine (meets_skip_of_eq hc (by decide) (by decide)).bind fun _ => ?_
              have hItems := meets_items (fun acc => ∀ v ∈ acc, UntickedValue v)
                (fun acc hAcc => ih.bind fun v => .of_and fun hv => .pure fun _ h =>
                  ⟨List.forall_mem_cons.mpr ⟨hv, hAcc⟩, h⟩) (List.forall_mem_nil _)
              refine hItems.bind fun reversed => .of_and fun hReversed => ?_
              refine meets_closeList.bind fun _ => .pure fun _ h => ⟨untickedValue_arr ?_, h⟩
              exact fun v hv => hReversed v (List.mem_reverse.mp hv)
          split
          · next hc =>
              refine (meets_skip_of_eq hc (by decide) (by decide)).bind fun _ => ?_
              have hFields := meets_fields UntickedFields
                (fun name acc hName hAcc => meets_colon.bind fun _ => ih.bind fun v =>
                  .of_and fun hv => .pure fun _ h => ⟨hAcc.setField hName hv, h⟩)
                (List.forall_mem_nil _)
              refine hFields.bind fun sorted => .of_and fun hSorted => ?_
              exact meets_closeObject.bind fun _ => .pure fun _ h => ⟨untickedValue_obj hSorted, h⟩
          · exact meets_scalar c

end Reader

end SteadyTask.Json
