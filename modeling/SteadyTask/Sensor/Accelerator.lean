import SteadyTask.Decimal.Reading
import SteadyTask.Metric.Summary
import SteadyTask.Sensor.Basic
import SteadyTask.Text.Blank
import SteadyTask.Text.Utf8

/-!
# The accelerator listing

The listing has one utilization per line, one line per device; the devices' mean counts.
-/

namespace SteadyTask.Sensor.Accelerator

/-- Reads the lines of a listing; the first that is no number decides the fault. -/
def readLines : List (List Char) → Except Fault (List Float)
  | [] => .ok []
  | line :: rest =>
    match Decimal.readFloat? line with
    | none =>
      .error (.unparsable ("nvidia-smi '" ++ String.ofList line ++ "': invalid float literal"))
    | some x => (readLines rest).map (x :: ·)

/-- The mean utilization of a listing. -/
def utilization (listing : String) : Except Fault Float :=
  let lines := ((Text.lineChars listing.toList).map Text.trimChars).filter fun l => !l.isEmpty
  match readLines lines with
  | .error e => .error e
  | .ok [] => .error (.unavailable "no accelerator reported")
  | .ok (x :: xs) => .ok (Metric.mean (x :: xs))

/-- What asking for the listing gave. -/
inductive Listing where
  /-- The program that lists the devices could not be started. -/
  | absent (reason : String)
  /-- It ended with an exit code and printed bytes. -/
  | printed (code : Nat) (bytes : List Nat)
  deriving Repr

/-- Reads the accelerator. -/
def poll : Listing → Except Fault Metric.Values
  | .absent reason => .error (.unavailable ("nvidia-smi: " ++ reason))
  | .printed code bytes =>
    if code ≠ 0 then .error (.unavailable ("nvidia-smi exited with exit status: " ++ toString code))
    else
      (utilization (Text.decodeUtf8 bytes)).map fun x =>
        Metric.Values.ofList [(Metric.acceleratorPercent, Metric.round2 x)]

end SteadyTask.Sensor.Accelerator
