import Mathlib
import SteadyTask.Proofs.Json.Reread
import SteadyTask.Proofs.Storage.Appends
import SteadyTask.Proofs.Text.Blanks
import SteadyTask.Storage.Records

/-!
# Records and lines

A record is written as one line: its compact form has no line feed, whatever texts the record
holds.  So the lines of a file that are not blank are its records, one line for each, wherever
blank lines stand between them, and loading gives back what was written, record by record.

A loaded record has the names and texts of the written one.  Its fields are sorted by name, and its
binary numbers are what their texts are read as.
-/

namespace SteadyTask

namespace Reflection

/-! ## A record as it is loaded -/

/-- A numeric field as it is loaded. -/
def storedMetric (m : Metric.Field) : Json.Value :=
  .obj [("name", .str m.name), ("unit", .str m.measure.name), ("value", Json.rereadFloat m.value)]

namespace Entry

/-- A record as it is loaded. -/
def stored (e : Entry) : Json.Value :=
  .obj [("created_at", .str e.createdAt.text),
    ("duration_seconds", Json.rereadFloat e.durationSeconds), ("final_state", .str e.state.name),
    ("metrics", .ofList storedMetric e.metrics),
    ("proposed_change", .ofOption ProposedChange.toJson e.proposedChange),
    ("rationale", .ofText? e.rationale), ("tier", .str e.tier.name), ("trace_id", .str e.trace)]

/-- Every binary number of a record is read as some number if it is finite. -/
def LegibleNumbers (e : Entry) : Prop :=
  Json.Legible e.durationSeconds ∧ ∀ m ∈ e.metrics, Json.Legible m.value

end Entry

open Json (ReadsAs)

variable {depth : Nat}

theorem readsAs_ofText? (text : Option String) :
    ReadsAs depth (.ofText? text) (.ofText? text) := by
  cases text with
  | none => exact .null
  | some s => exact .str s

theorem readsAs_change (c : ProposedChange) : ReadsAs (depth + 1) c.toJson c.toJson := by
  have hFields : ∀ f ∈ [
      ("description", Json.Value.str c.description, Json.Value.str c.description),
      ("impact", .ofText? c.impact, .ofText? c.impact)], ReadsAs depth f.2.1 f.2.2 := by
    simp [ReadsAs.str, readsAs_ofText?]
  have hRead := ReadsAs.obj hFields
  simp only [List.map_cons, List.map_nil, Json.Value.ofFields, List.foldl_cons, List.foldl_nil,
    Json.setField, String.reduceEq, String.reduceLT, reduceIte] at hRead
  exact hRead

theorem readsAs_metricJson {m : Metric.Field} (h : Json.Legible m.value) :
    ReadsAs (depth + 1) (metricJson m) (storedMetric m) := by
  have hFields : ∀ f ∈ [("name", Json.Value.str m.name, Json.Value.str m.name),
      ("value", .float m.value, Json.rereadFloat m.value),
      ("unit", .str m.measure.name, .str m.measure.name)], ReadsAs depth f.2.1 f.2.2 := by
    simp [ReadsAs.str, h.readsAs]
  have hRead := ReadsAs.obj hFields
  simp only [List.map_cons, List.map_nil, Json.Value.ofFields, List.foldl_cons, List.foldl_nil,
    Json.setField, String.reduceEq, String.reduceLT, reduceIte] at hRead
  exact hRead

/-- What is read where a record was written. -/
theorem Entry.readsAs_toJson {e : Entry} (h : e.LegibleNumbers) :
    ReadsAs (depth + 3) e.toJson e.stored := by
  obtain ⟨hDuration, hMetrics⟩ := h
  have hItems : ∀ i ∈ e.metrics.map (fun m => (metricJson m, storedMetric m)),
      ReadsAs (depth + 1) i.1 i.2 :=
    List.forall_mem_map.mpr fun m hm => readsAs_metricJson (hMetrics m hm)
  have hArray : ReadsAs (depth + 2) (.ofList metricJson e.metrics)
      (.ofList storedMetric e.metrics) := by
    simpa [Function.comp_def, Json.Value.ofList] using ReadsAs.arr hItems
  have hChange : ReadsAs (depth + 2) (.ofOption ProposedChange.toJson e.proposedChange)
      (.ofOption ProposedChange.toJson e.proposedChange) := by
    cases e.proposedChange with
    | none => exact .null
    | some c => exact readsAs_change c
  have hFields : ∀ f ∈ [("trace_id", Json.Value.str e.trace, Json.Value.str e.trace),
      ("final_state", .str e.state.name, .str e.state.name),
      ("duration_seconds", .float e.durationSeconds, Json.rereadFloat e.durationSeconds),
      ("created_at", .str e.createdAt.text, .str e.createdAt.text),
      ("rationale", .ofText? e.rationale, .ofText? e.rationale),
      ("metrics", .ofList metricJson e.metrics, .ofList storedMetric e.metrics),
      ("proposed_change", .ofOption ProposedChange.toJson e.proposedChange,
        .ofOption ProposedChange.toJson e.proposedChange),
      ("tier", .str e.tier.name, .str e.tier.name)], ReadsAs (depth + 2) f.2.1 f.2.2 := by
    simp [ReadsAs.str, readsAs_ofText?, hDuration.readsAs, hArray, hChange]
  have hRead := ReadsAs.obj hFields
  simp only [List.map_cons, List.map_nil, Json.Value.ofFields, List.foldl_cons, List.foldl_nil,
    Json.setField, String.reduceEq, String.reduceLT, reduceIte] at hRead
  exact hRead

end Reflection

namespace Storage

open Reflection (Entry)

/-! ## The lines of a file -/

/-- A text made of the lines of some records, in their order, with any blank lines before, between
and after them. -/
inductive Framed : List Entry → List Char → Prop
  | done {tail : List Char} (hBlank : ∀ c ∈ tail, Text.isBlank c = true) : Framed [] tail
  | blank {es : List Entry} {line rest : List Char} (hBlank : ∀ c ∈ line, Text.isBlank c = true)
      (h : Framed es rest) : Framed es (line ++ '\n' :: rest)
  | record (e : Entry) {es : List Entry} {rest : List Char} (h : Framed es rest) :
      Framed (e :: es) ((recordLine e).toList ++ rest)

/-- The text that records are written as, without blank lines. -/
def recordText (es : List Entry) : String :=
  String.ofList (es.flatMap fun e => (recordLine e).toList)

theorem framed_recordText (es : List Entry) : Framed es (recordText es).toList := by
  rw [recordText, String.toList_ofList]
  induction es with
  | nil => exact .done (List.forall_mem_nil _)
  | cons e es ih => exact .record e ih

theorem recordText_cons (e : Entry) (es : List Entry) :
    recordText (e :: es) = recordLine e ++ recordText es := by
  simp [recordText, String.ofList_append]

/-- The line of a record is read as it was written. -/
theorem lineChars_recordLine (e : Entry) (rest : List Char) :
    Text.lineChars ((recordLine e).toList ++ rest) =
      Json.compactChars e.toJson :: Text.lineChars rest := by
  have hLine : (recordLine e).toList = Json.compactChars e.toJson ++ ['\n'] := by
    simp [recordLine, Json.compact]
  -- it ends with a brace, so that no carriage return is lost
  have hLast : (Json.compactChars e.toJson).getLast? = some '\x7d' := by
    rw [Entry.toJson, Json.compactChars, ← List.cons_append, List.getLast?_concat]
  rw [hLine, List.append_assoc]
  refine Text.lineChars_append_of_last (Json.lineFeed_notMem_compactChars _) ?_ rest
  rw [hLast]
  rintro c ⟨⟩
  decide

theorem not_blank_compactChars_toJson (e : Entry) :
    (Json.compactChars e.toJson).all Text.isBlank = false := by
  rw [Entry.toJson, Json.compactChars, List.all_cons]
  rfl

theorem filter_lineChars_of_blank {cs : List Char} (h : ∀ c ∈ cs, Text.isBlank c = true) :
    (Text.lineChars cs).filter (fun line => !line.all Text.isBlank) = [] := by
  refine List.filter_eq_nil_iff.mpr fun line hLine => ?_
  simpa using fun c hc => h c (Text.mem_of_mem_lineChars hLine hc)

theorem filter_lineChars_of_framed {es : List Entry} {cs : List Char} (h : Framed es cs) :
    (Text.lineChars cs).filter (fun line => !line.all Text.isBlank) =
      es.map fun e => Json.compactChars e.toJson := by
  induction h with
  | done hBlank => exact filter_lineChars_of_blank hBlank
  | @blank es line rest hBlank _ ih =>
      have hLine : ∀ c ∈ line ++ ['\n'], Text.isBlank c = true := by
        simpa [or_imp, forall_and] using ⟨hBlank, by decide⟩
      rw [Text.lineChars_append_lineFeed, List.filter_append, filter_lineChars_of_blank hLine, ih]
      rfl
  | @record e es rest _ ih =>
      rw [lineChars_recordLine, List.filter_cons, not_blank_compactChars_toJson, ih]
      rfl

/-- No record is split, merged or dropped where a text is cut into lines. -/
theorem recordLines_of_framed {es : List Entry} {text : String} (h : Framed es text.toList) :
    recordLines text = es.map fun e => Json.compact e.toJson := by
  have hBlank (line : List Char) :
      Text.isAllBlank (String.ofList line) = line.all Text.isBlank := by
    rw [Text.isAllBlank, String.toList_ofList]
  rw [recordLines, Text.lines, List.filter_map]
  simp only [Function.comp_def, hBlank, filter_lineChars_of_framed h, List.map_map]
  rfl

/-! ## Loading -/

theorem parseRecords_map {es : List Entry} (h : ∀ e ∈ es, e.LegibleNumbers) :
    parseRecords (es.map fun e => Json.compact e.toJson) = .ok (es.map Entry.stored) := by
  induction es with
  | nil => rfl
  | cons e es ih =>
      obtain ⟨hFirst, hRest⟩ := List.forall_mem_cons.mp h
      have hParse : Json.parse (Json.compact e.toJson) = .ok e.stored :=
        Json.parse_of_readsAs (Entry.readsAs_toJson hFirst)
      rw [List.map_cons, parseRecords, hParse, ih hRest]
      rfl

/-- A file that is made of the lines of records and of blank lines holds these records. -/
theorem loadRecords_of_framed {f : Folder} {p : Path} {text : String} {es : List Entry}
    (hNumbers : ∀ e ∈ es, e.LegibleNumbers) (hRead : f.read p = .ok text)
    (h : Framed es text.toList) : loadRecords f p = .ok (es.map Entry.stored) := by
  rw [loadRecords, hRead]
  simp only [recordLines_of_framed h, parseRecords_map hNumbers]

/-! ## Writing -/

/-- Writes records one after the other, and tells for each whether that could be done. -/
def writeRecords (f : Folder) (p : Path) : List Entry → Folder × List Bool
  | [] => (f, [])
  | e :: es =>
    let (next, done) := writeRecord f p e
    let (last, rest) := writeRecords next p es
    (last, done :: rest)

/-- Records that are written to a file stand behind what the file had. -/
theorem writeRecords_of_holds {f : Folder} {p : Path} {text : String} (h : f.Holds p text)
    (es : List Entry) :
    (writeRecords f p es).2 = es.map (fun _ => true) ∧
      (writeRecords f p es).1.Holds p (text ++ recordText es) := by
  induction es generalizing f text with
  | nil => simpa [writeRecords, recordText] using h
  | cons e es ih =>
      obtain ⟨hDone, hNext⟩ := h.append (recordLine e)
      obtain ⟨hRest, hLast⟩ := ih hNext
      rw [String.append_assoc, ← recordText_cons] at hLast
      refine ⟨?_, hLast⟩
      rw [writeRecords, List.map_cons]
      exact congrArg₂ List.cons hDone hRest

/-- Where a file was not there but can be made, every record can be written, and each is loaded,
once and in its place, with its names and texts unchanged.  The same records are loaded from any
file that is made of their lines and of blank lines. -/
theorem written_records_load {f : Folder} {p : Path} (es : List Entry)
    (hAbsent : f.text? (Place.ofNames p.names) = none) (hRoom : (f.append p "").2 = true)
    (hNumbers : ∀ e ∈ es, e.LegibleNumbers) :
    (writeRecords f p es).2 = es.map (fun _ => true) ∧
      loadRecords (writeRecords f p es).1 p = .ok (es.map Entry.stored) ∧
      ∀ (g : Folder) (q : Path) (text : String), g.read q = .ok text → Framed es text.toList →
        loadRecords g q = .ok (es.map Entry.stored) := by
  have hFramed : ∀ (g : Folder) (q : Path) (text : String), g.read q = .ok text →
      Framed es text.toList → loadRecords g q = .ok (es.map Entry.stored) :=
    fun g q text hRead h => loadRecords_of_framed hNumbers hRead h
  cases es with
  | nil =>
      refine ⟨rfl, ?_, hFramed⟩
      rw [writeRecords, loadRecords, Folder.read_of_absent hAbsent hRoom]
      rfl
  | cons e es =>
      obtain ⟨hDone, hFirst⟩ := Folder.holds_of_absent hAbsent hRoom (recordLine e)
      obtain ⟨hRest, hLast⟩ := writeRecords_of_holds hFirst es
      rw [← recordText_cons] at hLast
      refine ⟨?_, ?_, hFramed⟩
      · rw [writeRecords, List.map_cons]
        exact congrArg₂ List.cons hDone hRest
      · exact hFramed _ p _ hLast.read (framed_recordText (e :: es))

/-- A record with line breaks in its texts and with a number that is not finite. -/
def entryWithBreaks : Entry where
  trace := "first\nsecond"
  state := .failed
  durationSeconds := 1.5
  createdAt := ⟨0, 0⟩
  rationale := some "\r\n"
  metrics := [⟨"load", 0.0 / 0.0, .percent⟩]
  proposedChange := some ⟨"", none⟩
  tier := .minimal

theorem entryWithBreaks_legibleNumbers : entryWithBreaks.LegibleNumbers := by
  have hFinite : Json.Legible 1.5 := by
    intro text hText
    have hShown : Decimal.jsonText? 1.5 = some "1.5" := rfl
    cases hShown.symm.trans hText
    exact ⟨_, rfl⟩
  have hNotFinite : Json.Legible (0.0 / 0.0) := by
    intro text hText
    have hShown : Decimal.jsonText? (0.0 / 0.0) = none := rfl
    cases hShown.symm.trans hText
  refine ⟨hFinite, fun m hm => ?_⟩
  rw [List.mem_singleton.mp hm]
  exact hNotFinite

/-- Such a record, written twice to a file that has to be made together with its folder. -/
theorem entries_with_breaks_load :
    (writeRecords ⟨[], []⟩ ⟨"/a/b"⟩ [entryWithBreaks, entryWithBreaks]).2 = [true, true] ∧
      loadRecords (writeRecords ⟨[], []⟩ ⟨"/a/b"⟩ [entryWithBreaks, entryWithBreaks]).1
          ⟨"/a/b"⟩ =
        .ok [entryWithBreaks.stored, entryWithBreaks.stored] := by
  have hSplit : "/a/b".splitOn "/" = ["", "a", "b"] := by cbv
  have hNames : Path.names ⟨"/a/b"⟩ = ["a", "b"] := by
    rw [Path.names, hSplit]
    decide
  have hEnd : Path.endsAtFolder ⟨"/a/b"⟩ = false := by
    rw [Path.endsAtFolder, hSplit]
    decide
  have hFollowed : Path.canBeFollowed ⟨"/a/b"⟩ = true := by decide
  have hRoom : (Folder.append ⟨[], []⟩ ⟨"/a/b"⟩ "").2 = true := by
    simp only [Folder.append, Folder.filePlace?, Folder.follow, hNames, hEnd, hFollowed]
    decide
  have hNumbers : ∀ e ∈ [entryWithBreaks, entryWithBreaks], e.LegibleNumbers := by
    simp [entryWithBreaks_legibleNumbers]
  obtain ⟨hDone, hLoaded, -⟩ :=
    written_records_load [entryWithBreaks, entryWithBreaks] rfl hRoom hNumbers
  exact ⟨hDone, hLoaded⟩

end Storage

end SteadyTask
