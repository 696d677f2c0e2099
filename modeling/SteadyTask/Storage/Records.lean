import SteadyTask.Json.Reader
import SteadyTask.Json.Printer
import SteadyTask.Reflection.Entry
import SteadyTask.Storage.Folder
import SteadyTask.Text.Blank

/-!
# Stored records

Records of reflection are kept in a text file, one line of JSON for each, in the order in which
they were written.  JSON in compact form has no line breaks, so the lines of the file are the
records.  Blank lines do not count, and a file that is not there holds no records.
-/

namespace SteadyTask.Storage

/-- The line of a record. -/
def recordLine (e : Reflection.Entry) : String :=
  Json.compact e.toJson ++ "\n"

/-- Adds a record to a file, and tells whether that could be done. -/
def writeRecord (f : Folder) (p : Path) (e : Reflection.Entry) : Folder × Bool :=
  f.append p (recordLine e)

/-- The lines of a text that are not blank. -/
def recordLines (text : String) : List String :=
  (Text.lines text).filter fun line => !Text.isAllBlank line

/-- The records in lines; the first line that is no JSON decides the fault. -/
def parseRecords : List String → Except Json.Fault (List Json.Value)
  | [] => .ok []
  | line :: rest =>
    match Json.parse line with
    | .error e => .error e
    | .ok v => (parseRecords rest).map (v :: ·)

/-- Why records cannot be loaded. -/
inductive LoadFault where
  | unreadable
  | malformed (fault : Json.Fault)
  deriving Repr

/-- Loads all records of a file. -/
def loadRecords (f : Folder) (p : Path) : Except LoadFault (List Json.Value) :=
  match f.read p with
  | .error .missing => .ok []
  | .error .unfit => .error .unreadable
  | .ok text =>
    match parseRecords (recordLines text) with
    | .error e => .error (.malformed e)
    | .ok records => .ok records

end SteadyTask.Storage
