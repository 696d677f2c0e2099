import SteadyTask.Decimal.Notation

/-!
# Time

All times and durations are whole milliseconds.  A point in time counts from the start of the
clock that measures it.
-/

namespace SteadyTask

/-- Milliseconds. -/
abbrev Millis := Nat

namespace Millis

/-- So many seconds. -/
def ofSeconds (seconds : Nat) : Millis :=
  1000 * seconds

/-- The longest duration there is: 64 bits of seconds, and just under one second more. -/
def longest : Millis :=
  Nat.pow 2 64 * 1000 - 1

/-- A wait that the clock cannot count up to is cut to thirty years. -/
def farAhead : Millis :=
  ofSeconds (86400 * 365 * 30)

/-- The largest number of seconds that the clock can count. -/
def clockRange : Nat := Nat.pow 2 63

/-- The point in time that lies a duration ahead, or far ahead if the clock cannot count to it. -/
def after (now duration : Millis) : Millis :=
  if (now + duration) / 1000 < clockRange then now + duration else now + farAhead

/-- A duration in messages: seconds with the places it has, milliseconds below one second. -/
def text (duration : Millis) : String :=
  let seconds := duration / 1000
  let rest := duration % 1000
  if seconds = 0 then
    if rest = 0 then "0ns" else toString rest ++ "ms"
  else if rest = 0 then toString seconds ++ "s"
  else
    let places := (toString (1000 + rest)).toList.drop 1
    let kept := (places.reverse.dropWhile (· = '0')).reverse
    toString seconds ++ "." ++ String.ofList kept ++ "s"

/-- A duration as a binary number of seconds: the whole seconds and the rest are converted each
on its own. -/
def toSeconds (duration : Millis) : Float :=
  Float.ofNat (duration / 1000) + Float.ofNat (duration % 1000 * 1000000) / 1000000000.0

end Millis

end SteadyTask
