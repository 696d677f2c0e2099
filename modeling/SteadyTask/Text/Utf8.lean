/-!
# Bytes as text

Bytes that are not UTF-8 do not stop the reading: every longest start of a character that breaks
off, and every byte that starts none, becomes one replacement character.
-/

namespace SteadyTask.Text

/-- The replacement character. -/
def replacement : Char := Char.ofNat 0xFFFD

/-- The bytes that may follow a first byte, one range for each place. -/
def continuations (first : Nat) : List (Nat × Nat) :=
  let tail := (0x80, 0xBF)
  if 0xC2 ≤ first ∧ first ≤ 0xDF then [tail]
  else if first = 0xE0 then [(0xA0, 0xBF), tail]
  else if first = 0xED then [(0x80, 0x9F), tail]
  else if 0xE1 ≤ first ∧ first ≤ 0xEF then [tail, tail]
  else if first = 0xF0 then [(0x90, 0xBF), tail, tail]
  else if 0xF1 ≤ first ∧ first ≤ 0xF3 then [tail, tail, tail]
  else if first = 0xF4 then [(0x80, 0x8F), tail, tail]
  else []

/-- Takes bytes that fit ranges, place by place: those taken, and whether all places were filled. -/
def takeFitting : List (Nat × Nat) → List Nat → List Nat × Bool
  | [], _ => ([], true)
  | _ :: _, [] => ([], false)
  | (low, high) :: ranges, b :: rest =>
    if low ≤ b ∧ b ≤ high then
      let (taken, complete) := takeFitting ranges rest
      (b :: taken, complete)
    else ([], false)

/-- The bits that a first byte contributes, by the number of bytes after it. -/
def firstBits (first count : Nat) : Nat :=
  match count with
  | 1 => first % 0x20
  | 2 => first % 0x10
  | _ => first % 0x08

/-- Decodes bytes. -/
def decodeChars (bytes : List Nat) : List Char :=
  match bytes with
  | [] => []
  | b :: rest =>
    if b < 0x80 then Char.ofNat b :: decodeChars rest
    else
      let ranges := continuations b
      let (taken, complete) := takeFitting ranges rest
      let c :=
        if ranges.isEmpty || !complete then replacement
        else Char.ofNat (taken.foldl (fun n t => n * 64 + t % 64) (firstBits b ranges.length))
      c :: decodeChars (rest.drop taken.length)
termination_by bytes.length
decreasing_by all_goals (simp only [List.length_drop, List.length_cons]; omega)

/-- Decodes bytes. -/
def decodeUtf8 (bytes : List Nat) : String :=
  String.ofList (decodeChars bytes)

end SteadyTask.Text
