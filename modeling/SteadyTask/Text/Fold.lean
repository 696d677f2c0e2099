/-!
# Letter case against ASCII words

Placeholders, providers, configuration keys and section labels are compared with words of ASCII
letters.  Lower-casing for such a comparison only has to be right where it can produce an ASCII
letter: that is at `A` to `Z` and at KELVIN SIGN, whose lower case is `k`.  Every other character
keeps its place in the text as something no ASCII word contains.

Caseless matching compares by simple case folding, which besides these joins LATIN SMALL LETTER
LONG S with `s`.
-/

namespace SteadyTask.Text

/-- Lower case of a character, as far as it is an ASCII letter. -/
def lowerChar (c : Char) : Char :=
  if 'A' ≤ c ∧ c ≤ 'Z' then Char.ofNat (c.toNat + 32)
  else if c.toNat = 0x212A then 'k'
  else c

/-- Lower case of a text, for comparison with words of ASCII letters. -/
def lower (s : String) : String :=
  String.ofList (s.toList.map lowerChar)

/-- Simple case folding of a character, as far as it is an ASCII letter. -/
def foldChar (c : Char) : Char :=
  if c.toNat = 0x17F then 's' else lowerChar c

end SteadyTask.Text
