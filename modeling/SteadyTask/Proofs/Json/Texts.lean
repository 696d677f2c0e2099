import Mathlib.Tactic
import SteadyTask.Json.Printer
import SteadyTask.Json.Reader

/-!
# Quoted texts read back

Every character of a text is written either as itself or as an escape, and the reader of quoted
texts takes exactly what was written for one character at a time.  So a text is read back whatever
characters it holds: quotes, backslashes, control characters and line breaks included.
-/

namespace SteadyTask.Json

theorem hexValue?_hexDigit : ∀ n < 16, hexValue? (hexDigit n) = some n := by
  decide

/-- The four digits of a control character are read as its number. -/
theorem fourHexDigits_control {n : Nat} (h : n < 32) (rest : List Char) :
    fourHexDigits ('0' :: '0' :: hexDigit (n / 16) :: hexDigit (n % 16) :: rest) = .ok n := by
  have hZero : hexValue? '0' = some 0 := by decide
  simp only [fourHexDigits, hZero, hexValue?_hexDigit (n / 16) (by omega),
    hexValue?_hexDigit (n % 16) (by omega)]
  congr 1
  omega

/-- An escape stands for one character, after which the text goes on. -/
theorem readText_backslash {rest : List Char} {c : Char} {used : Nat}
    (h : readEscape rest = .ok (c, used)) :
    readText ('\\' :: rest) =
      (readText (rest.drop used)).map fun (ds, after) => (c :: ds, after) := by
  rw [readText, if_neg (by decide), if_pos rfl, h]

/-- An escape of one letter stands for one character. -/
theorem readText_letterEscape {letter c : Char} (h : ∀ cs, readEscape (letter :: cs) = .ok (c, 1))
    (cs : List Char) :
    readText ('\\' :: letter :: cs) = (readText cs).map fun (ds, after) => (c :: ds, after) :=
  readText_backslash (h cs)

theorem readEscape_control {c : Char} (h : c.toNat < 32) (rest : List Char) :
    readEscape ('u' :: '0' :: '0' :: hexDigit (c.toNat / 16) :: hexDigit (c.toNat % 16) :: rest) =
      .ok (c, 5) := by
  have hTrailing : isTrailing c.toNat = false := by
    simp [isTrailing]
    omega
  have hLeading : isLeading c.toNat = false := by
    simp [isLeading]
    omega
  simp [readEscape, readUnit, fourHexDigits_control h, hTrailing, hLeading, Except.map,
    Char.ofNat_toNat]

/-- What is written for one character is read as that character. -/
theorem readText_escapeChar (c : Char) (cs : List Char) :
    readText (escapeChar c ++ cs) =
      (readText cs).map fun (ds, after) => (c :: ds, after) := by
  unfold escapeChar
  split
  · next h =>
      subst h
      exact readText_letterEscape (fun _ => rfl) cs
  split
  · next h =>
      subst h
      exact readText_letterEscape (fun _ => rfl) cs
  split
  · next h =>
      subst h
      exact readText_letterEscape (fun _ => rfl) cs
  split
  · next h =>
      subst h
      exact readText_letterEscape (fun _ => rfl) cs
  split
  · next h =>
      subst h
      exact readText_letterEscape (fun _ => rfl) cs
  split
  · next h =>
      have hc : c = Char.ofNat 8 := by rw [← h, Char.ofNat_toNat]
      rw [hc]
      exact readText_letterEscape (fun _ => rfl) cs
  split
  · next h =>
      have hc : c = Char.ofNat 12 := by rw [← h, Char.ofNat_toNat]
      rw [hc]
      exact readText_letterEscape (fun _ => rfl) cs
  split
  · next h => exact readText_backslash (readEscape_control h cs)
  · next hQuote hBackslash _ _ _ _ _ hControl =>
      rw [List.singleton_append, readText, if_neg hQuote, if_neg hBackslash, if_neg hControl]

/-- A text is read up to the quote that closes it. -/
theorem readText_flatMap_escapeChar (cs rest : List Char) :
    readText (cs.flatMap escapeChar ++ '"' :: rest) = .ok (cs, rest) := by
  induction cs with
  | nil => rw [List.flatMap_nil, List.nil_append, readText, if_pos rfl]
  | cons c cs ih =>
      rw [List.flatMap_cons, List.append_assoc, readText_escapeChar, ih]
      rfl

namespace Reader

/-- A text whose opening quote is taken is read back, up to and with its closing quote. -/
theorem text_quoted (s : String) (rest : List Char) :
    text (s.toList.flatMap escapeChar ++ '"' :: rest) = .ok (s, rest) := by
  rw [text, readText_flatMap_escapeChar]
  simp [Except.map]

end Reader

end SteadyTask.Json
