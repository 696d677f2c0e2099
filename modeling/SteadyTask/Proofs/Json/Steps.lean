import Mathlib.Tactic
import SteadyTask.Json.Record
import SteadyTask.Proofs.Json.Texts

/-!
# The steps of a JSON reader

Readers are built from a few steps in sequence.  This module says what a sequence does once its
first step is known, and what the smallest steps do on characters that are there: the next token,
a dropped character, the rest of a word, the next item of an array, the next field of an object.
The repetitions over items and fields take one item or field at a time; how many steps they are
given does not matter as long as they are enough.  Nothing here looks at a whole value.
-/

namespace SteadyTask.Json.Reader

variable {α β : Type}

/-- A sequence goes on with what its first step has read. -/
theorem bind_of_ok {x : Reader α} {f : α → Reader β} {cs rest : List Char} {a : α}
    (h : x cs = .ok (a, rest)) : (x >>= f) cs = f a rest := by
  change (x cs >>= fun read => f read.1 read.2) = _
  rw [h]
  rfl

/-- A sequence that succeeds has a first step that succeeds, and goes on from there. -/
theorem exists_of_bind_ok {x : Reader α} {f : α → Reader β} {cs rest : List Char} {b : β}
    (h : (x >>= f) cs = .ok (b, rest)) :
    ∃ a between, x cs = .ok (a, between) ∧ f a between = .ok (b, rest) := by
  change (x cs >>= fun read => f read.1 read.2) = _ at h
  cases hFirst : x cs with
  | error e =>
      rw [hFirst] at h
      cases h
  | ok read =>
      rw [hFirst] at h
      exact ⟨read.1, read.2, rfl, h⟩

theorem token_eq (cs : List Char) :
    token cs = .ok ((cs.dropWhile isSpace).head?, cs.dropWhile isSpace) := rfl

/-- A token that starts at once is seen and stays in place. -/
theorem token_cons {c : Char} (h : isSpace c = false) (rest : List Char) :
    token (c :: rest) = .ok (some c, c :: rest) := by
  rw [token_eq, List.dropWhile_cons_of_neg (by simp [h])]
  rfl

theorem skip_cons (c : Char) (rest : List Char) : skip (c :: rest) = .ok ((), rest) := rfl

theorem word_append (letters rest : List Char) :
    word letters (letters ++ rest) = .ok ((), rest) := by
  induction letters with
  | nil => rfl
  | cons c letters ih =>
      rw [List.cons_append, word]
      simpa using ih

/-! ## Arrays -/

theorem nextItem_close (first : Bool) (rest : List Char) :
    nextItem first (']' :: rest) = .ok (false, ']' :: rest) := by
  rw [nextItem, bind_of_ok (token_cons (by decide) rest)]
  rfl

theorem nextItem_first {c : Char} (hSpace : isSpace c = false) (hClose : c ≠ ']')
    (rest : List Char) : nextItem true (c :: rest) = .ok (true, c :: rest) := by
  rw [nextItem, bind_of_ok (token_cons hSpace rest)]
  simp only [if_neg hClose, if_true]
  rfl

theorem nextItem_comma {c : Char} (hSpace : isSpace c = false) (hClose : c ≠ ']')
    (rest : List Char) : nextItem false (',' :: c :: rest) = .ok (true, c :: rest) := by
  rw [nextItem, bind_of_ok (token_cons (by decide) _)]
  change (skip >>= fun _ => token >>= _) (',' :: c :: rest) = _
  rw [bind_of_ok (skip_cons ',' _), bind_of_ok (token_cons hSpace rest)]
  simp only [if_neg hClose]
  rfl

theorem closeList_cons (rest : List Char) : closeList (']' :: rest) = .ok ((), rest) := by
  rw [closeList, bind_of_ok (token_cons (by decide) rest)]
  rfl

theorem itemsWithin_close {read : α → Reader α} (steps : Nat) (first : Bool) (acc : α)
    (rest : List Char) :
    itemsWithin read (steps + 1) first acc (']' :: rest) = .ok (acc, ']' :: rest) := by
  rw [itemsWithin, bind_of_ok (nextItem_close first rest)]
  rfl

theorem itemsWithin_first {read : α → Reader α} {steps : Nat} {acc next : α} {c : Char}
    {more rest : List Char} (hSpace : isSpace c = false) (hClose : c ≠ ']')
    (hRead : read acc (c :: more) = .ok (next, rest)) :
    itemsWithin read (steps + 1) true acc (c :: more) =
      itemsWithin read steps false next rest := by
  rw [itemsWithin, bind_of_ok (nextItem_first hSpace hClose more), if_pos rfl, bind_of_ok hRead]

theorem itemsWithin_comma {read : α → Reader α} {steps : Nat} {acc next : α} {c : Char}
    {more rest : List Char} (hSpace : isSpace c = false) (hClose : c ≠ ']')
    (hRead : read acc (c :: more) = .ok (next, rest)) :
    itemsWithin read (steps + 1) false acc (',' :: c :: more) =
      itemsWithin read steps false next rest := by
  rw [itemsWithin, bind_of_ok (nextItem_comma hSpace hClose more), if_pos rfl, bind_of_ok hRead]

/-! ## Objects -/

theorem nextField_close (first : Bool) (rest : List Char) :
    nextField first ('\x7d' :: rest) = .ok (none, '\x7d' :: rest) := by
  rw [nextField, bind_of_ok (token_cons (by decide) rest)]
  rfl

/-- The name of a field, its quotes included, is read back. -/
theorem skip_text_quoted (name : String) (after : List Char) :
    (do skip; return some (← text) : Reader (Option String))
      (quoteChars name.toList ++ after) = .ok (some name, after) := by
  rw [quoteChars, List.cons_append, bind_of_ok (skip_cons '"' _), List.append_assoc,
    List.singleton_append, bind_of_ok (text_quoted name after)]
  rfl

theorem token_quoteChars (cs after : List Char) :
    token (quoteChars cs ++ after) = .ok (some '"', quoteChars cs ++ after) :=
  token_cons (by decide) _

theorem nextField_first (name : String) (after : List Char) :
    nextField true (quoteChars name.toList ++ after) = .ok (some name, after) := by
  rw [nextField, bind_of_ok (token_quoteChars _ after)]
  exact skip_text_quoted name after

theorem nextField_comma (name : String) (after : List Char) :
    nextField false (',' :: (quoteChars name.toList ++ after)) = .ok (some name, after) := by
  rw [nextField, bind_of_ok (token_cons (by decide) _)]
  change (skip >>= fun _ => token >>= _) (',' :: (quoteChars name.toList ++ after)) = _
  rw [bind_of_ok (skip_cons ',' _), bind_of_ok (token_quoteChars _ after)]
  exact skip_text_quoted name after

theorem colon_cons (rest : List Char) : colon (':' :: rest) = .ok ((), rest) := by
  rw [colon, bind_of_ok (token_cons (by decide) rest)]
  rfl

theorem closeObject_cons (rest : List Char) : closeObject ('\x7d' :: rest) = .ok ((), rest) := by
  rw [closeObject, bind_of_ok (token_cons (by decide) rest)]
  rfl

theorem fieldsWithin_close {read : String → α → Reader α} (steps : Nat) (first : Bool) (acc : α)
    (rest : List Char) :
    fieldsWithin read (steps + 1) first acc ('\x7d' :: rest) = .ok (acc, '\x7d' :: rest) := by
  rw [fieldsWithin, bind_of_ok (nextField_close first rest)]
  rfl

theorem fieldsWithin_first {read : String → α → Reader α} {steps : Nat} {acc next : α}
    {name : String} {after rest : List Char} (hRead : read name acc after = .ok (next, rest)) :
    fieldsWithin read (steps + 1) true acc (quoteChars name.toList ++ after) =
      fieldsWithin read steps false next rest := by
  rw [fieldsWithin, bind_of_ok (nextField_first name after)]
  exact bind_of_ok hRead

theorem fieldsWithin_comma {read : String → α → Reader α} {steps : Nat} {acc next : α}
    {name : String} {after rest : List Char} (hRead : read name acc after = .ok (next, rest)) :
    fieldsWithin read (steps + 1) false acc (',' :: (quoteChars name.toList ++ after)) =
      fieldsWithin read steps false next rest := by
  rw [fieldsWithin, bind_of_ok (nextField_comma name after)]
  exact bind_of_ok hRead

end SteadyTask.Json.Reader
