/-!
# Blank characters

The characters that separate words and that trimming removes are those of the Unicode property
`White_Space`.  This module holds the property as a table of ranges, and what is cut along it:
trimming, words, and lines.  A line ends at a line feed; a carriage return just before that line
feed belongs to the line's end, one anywhere else is an ordinary character.
-/

namespace SteadyTask.Text

/-- Ranges, first and last included, of the characters with the property `White_Space`. -/
def blankRanges : List (Nat × Nat) :=
  [(0x09, 0x0D), (0x20, 0x20), (0x85, 0x85), (0xA0, 0xA0), (0x1680, 0x1680),
   (0x2000, 0x200A), (0x2028, 0x2029), (0x202F, 0x202F), (0x205F, 0x205F), (0x3000, 0x3000)]

/-- Whether a code point lies in one of some ranges. -/
def inRanges (ranges : List (Nat × Nat)) (code : Nat) : Bool :=
  ranges.any fun range => range.1 ≤ code && code ≤ range.2

/-- Whether a character is blank. -/
def isBlank (c : Char) : Bool :=
  inRanges blankRanges c.toNat

/-- Drops what satisfies a test from the end of a list. -/
def dropEndWhile {α : Type} (test : α → Bool) (xs : List α) : List α :=
  (xs.reverse.dropWhile test).reverse

/-- Drops what satisfies a test from both ends of a list. -/
def dropAround {α : Type} (test : α → Bool) (xs : List α) : List α :=
  dropEndWhile test (xs.dropWhile test)

/-- Characters without the blanks around them. -/
def trimChars (cs : List Char) : List Char :=
  dropAround isBlank cs

/-- A text without the blanks around it. -/
def trim (s : String) : String :=
  String.ofList (trimChars s.toList)

/-- Whether a text holds nothing but blanks. -/
def isAllBlank (s : String) : Bool :=
  s.toList.all isBlank

/-- Splits after every line feed; the line feed stays with the piece it ends. -/
def linePieces : List Char → List (List Char)
  | [] => []
  | c :: rest =>
    if c = '\n' then ['\n'] :: linePieces rest
    else
      match linePieces rest with
      | [] => [[c]]
      | piece :: pieces => (c :: piece) :: pieces

/-- A piece without its end of line, which is `\n` or `\r\n`. -/
def dropLineEnd (piece : List Char) : List Char :=
  match piece.reverse with
  | '\n' :: '\r' :: rest => rest.reverse
  | '\n' :: rest => rest.reverse
  | _ => piece

/-- The lines of a text, without their ends; an empty last line does not count. -/
def lineChars (cs : List Char) : List (List Char) :=
  (linePieces cs).map dropLineEnd

/-- The lines of a text. -/
def lines (s : String) : List String :=
  (lineChars s.toList).map String.ofList

/-- Splits characters into maximal runs without a blank. -/
def wordChars : List Char → List (List Char)
  | [] => []
  | c :: rest =>
    if isBlank c then wordChars rest
    else
      match rest with
      | [] => [[c]]
      | d :: _ =>
        if isBlank d then [c] :: wordChars rest
        else
          match wordChars rest with
          | [] => [[c]]
          | word :: words => (c :: word) :: words

/-- The words of a text: its maximal runs without a blank. -/
def words (s : String) : List String :=
  (wordChars s.toList).map String.ofList

end SteadyTask.Text
