import SteadyTask.Proofs.Activity.Timed
import SteadyTask.Reflection.Generate

/-!
# Tiers of reflection

Whatever the model does when it is asked, a reflection ends with a record.  Its narrative comes from
the first tier if that is switched on and the model answers it in time with a text that holds one;
otherwise from the second tier on the same terms; otherwise there is none.  A tier that is switched
off asks nothing, the second one asks only after the first has failed, and no tier asks twice, so
the time is bounded by the limits of the tiers that are switched on.  The numbers of the record are
those of the task.

What the faults on the way say is not part of this.
-/

namespace SteadyTask.Reflection

open Activity

/-! ## What a tier gives -/

/-- The model answers with a text, within a limit. -/
def AnswersInTime (limit : Millis) (model : Callee CallError String) (text : String) : Prop :=
  ∃ duration ≤ limit, model = .returns duration text

/-- A text holds a narrative by schema: the JSON inside it reads as one, and that is valid when it
is made normal. -/
def HoldsBySchema (text : String) (narrative : Narrative.Fields) : Prop :=
  ∃ json fields, Json.embedded? text = some json ∧
    Json.parseRecord Narrative.Fields.shape json = .ok fields ∧
    fields.normalize.validate = .ok () ∧ narrative = fields.normalize

/-- The first tier gives a narrative. -/
def BySchema (settings : Settings) (model : Callee CallError String)
    (narrative : Narrative.Fields) : Prop :=
  settings.schemaGuided = true ∧
    ∃ text, AnswersInTime settings.limit model text ∧ HoldsBySchema text narrative

/-- The second tier gives a narrative. -/
def ByLabels (settings : Settings) (model : Callee CallError String)
    (narrative : Narrative.Fields) : Prop :=
  settings.manualParse = true ∧
    ∃ text, AnswersInTime settings.limit model text ∧ Narrative.parse text = .ok narrative

/-- What comes of a tier, given what the model does when it is asked. -/
def tierResult (enabled : Bool) (limit : Millis) (model : Callee CallError String)
    (narrative : String → Except TierFault Narrative.Fields) :
    Except TierFault Narrative.Fields :=
  if enabled then (answerText (model.outcome limit)).bind narrative else .error .disabled

section Results

variable {limit : Millis} {model : Callee CallError String} {text : String}
  {narrative : Narrative.Fields} {settings : Settings}

theorem answerText_eq_ok_iff :
    answerText (model.outcome limit) = .ok text ↔ AnswersInTime limit model text := by
  unfold AnswersInTime
  cases model with
  | returns duration answer =>
      by_cases h : duration ≤ limit
      · simp [Callee.outcome, h, answerText]
      · simp [Callee.outcome, h, answerText]
  | fails duration e =>
      by_cases h : duration ≤ limit <;> simp [Callee.outcome, h, answerText]
  | panics duration p =>
      by_cases h : duration ≤ limit <;> simp [Callee.outcome, h, answerText]
  | hangs => simp [Callee.outcome, answerText]

theorem schemaNarrative_eq_ok_iff :
    schemaNarrative text = .ok narrative ↔ HoldsBySchema text narrative := by
  unfold schemaNarrative HoldsBySchema
  cases hJson : Json.embedded? text with
  | none => simp
  | some json =>
      cases hFields : Json.parseRecord Narrative.Fields.shape json with
      | error e => simp [hFields]
      | ok fields =>
          cases hValid : fields.normalize.validate with
          | error cause => simp [hFields, hValid]
          | ok _ => simp [hFields, hValid, eq_comm]

theorem labelNarrative_eq_ok_iff :
    labelNarrative text = .ok narrative ↔ Narrative.parse text = .ok narrative := by
  unfold labelNarrative
  cases Narrative.parse text <;> simp

theorem tierResult_eq_ok_iff {enabled : Bool}
    {read : String → Except TierFault Narrative.Fields} :
    tierResult enabled limit model read = .ok narrative ↔
      enabled = true ∧ ∃ text, AnswersInTime limit model text ∧ read text = .ok narrative := by
  unfold tierResult
  cases enabled with
  | false => simp
  | true =>
      simp only [if_true, true_and, ← answerText_eq_ok_iff]
      cases answerText (model.outcome limit) <;> simp [Except.bind]

theorem tierResult_schema_iff :
    tierResult settings.schemaGuided settings.limit model schemaNarrative = .ok narrative ↔
      BySchema settings model narrative := by
  simp only [tierResult_eq_ok_iff, schemaNarrative_eq_ok_iff, BySchema]

theorem tierResult_labels_iff :
    tierResult settings.manualParse settings.limit model labelNarrative = .ok narrative ↔
      ByLabels settings model narrative := by
  simp only [tierResult_eq_ok_iff, labelNarrative_eq_ok_iff, ByLabels]

end Results

/-! ## What a tier asks -/

/-- The exchange in which a tier asks the model. -/
def askFor (client prompt : String) (limit : Millis) (model : Callee CallError String) :
    TimedExchange :=
  ⟨⟨.ask client [.user prompt] (some limit), model.outcome limit⟩, model.span limit⟩

/-- The model is asked once under a condition, and not at all without it. -/
inductive AsksIf (condition : Prop) (client prompt : String) (limit : Millis)
    (model : Callee CallError String) : List TimedExchange → Prop
  | once (h : condition) : AsksIf condition client prompt limit model
      [askFor client prompt limit model]
  | never (h : ¬ condition) : AsksIf condition client prompt limit model []

section Asks

variable {client prompt : String} {limit start : Millis} {model : Callee CallError String}
  {timed : List TimedExchange}

theorem exists_asksIf (condition : Prop) (client prompt : String) (limit : Millis)
    (model : Callee CallError String) :
    ∃ timed, AsksIf condition client prompt limit model timed := by
  by_cases h : condition
  · exact ⟨_, .once h⟩
  · exact ⟨_, .never h⟩

theorem AsksIf.congr {p q : Prop} (hIff : p ↔ q) (h : AsksIf p client prompt limit model timed) :
    AsksIf q client prompt limit model timed := by
  cases h with
  | once h => exact .once (hIff.mp h)
  | never h => exact .never fun hq => h (hIff.mpr hq)

theorem AsksIf.elapsed_le {condition : Prop} [Decidable condition]
    (h : AsksIf condition client prompt limit model timed) :
    elapsed timed ≤ limit * if condition then 1 else 0 := by
  cases h with
  | once h =>
      rw [if_pos h, Nat.mul_one]
      exact model.span_le
  | never h =>
      rw [if_neg h]
      exact Nat.zero_le _

theorem timedRuns_tryTier_iff {enabled : Bool}
    {read : String → Except TierFault Narrative.Fields}
    {result : Except TierFault Narrative.Fields} :
    TimedRuns (tryTier enabled client prompt limit read) start timed result ↔
      ∃ model, AsksIf (enabled = true) client prompt limit model timed ∧
        result = tierResult enabled limit model read := by
  cases enabled with
  | false =>
      constructor
      · intro hRun
        obtain ⟨rfl, rfl⟩ := timedRuns_done_iff.mp hRun
        exact ⟨.hangs, .never nofun, rfl⟩
      · rintro ⟨model, hAsks, rfl⟩
        cases hAsks with
        | once h => cases h
        | never h => exact .done _ _
  | true =>
      constructor
      · intro hRun
        obtain ⟨answer, took, rest, rfl, hTakes, hRest⟩ := timedRuns_perform_bind_iff.mp hRun
        obtain ⟨rfl, rfl⟩ := timedRuns_done_iff.mp hRest
        obtain ⟨model, rfl, rfl⟩ := Callee.exists_of_cutAt hTakes
        exact ⟨model, .once rfl, rfl⟩
      · rintro ⟨model, hAsks, rfl⟩
        cases hAsks with
        | once h =>
            refine .request ?_ (.done _ _)
            exact model.cutAt_outcome
        | never h => exact absurd rfl h

end Asks

/-! ## The whole reflection -/

/-- What two tiers come to: the tier of the record, its narrative, and what went wrong before. -/
def chain (first second : Except TierFault Narrative.Fields) :
    Tier × Option Narrative.Fields × List TierFault :=
  match first, second with
  | .ok narrative, _ => (.schemaGuided, some narrative, [])
  | .error fault, .ok narrative => (.manualParse, some narrative, [fault])
  | .error fault, .error fault' => (.minimal, none, [fault, fault'])

/-- The record of what two tiers come to. -/
def recordOf (input : Input) (createdAt : Timestamp)
    (chosen : Tier × Option Narrative.Fields × List TierFault) : Generated :=
  ⟨entryOf input createdAt chosen.1 chosen.2.1, chosen.2.2⟩

/-- The clock is read when everything else is over, and that takes no time. -/
theorem timedRuns_now_iff {f : Millis → Generated} {now : Millis} {timed : List TimedExchange}
    {g : Generated} :
    TimedRuns ((perform .now).bind fun time => .done (f time)) now timed g ↔
      timed = [⟨⟨.now, now⟩, 0⟩] ∧ g = f now := by
  rw [timedRuns_perform_bind_iff]
  constructor
  · rintro ⟨time, took, rest, rfl, ⟨rfl, hTime⟩, hRest⟩
    obtain ⟨rfl, rfl⟩ := timedRuns_done_iff.mp hRest
    rw [hTime]
    exact ⟨rfl, rfl⟩
  · rintro ⟨rfl, rfl⟩
    exact ⟨now, 0, [], rfl, ⟨rfl, rfl⟩, .done _ _⟩

section Generate

variable {settings : Settings} {client : String} {start : Timestamp} {input : Input} {now : Millis}
  {timed : List TimedExchange} {g : Generated} {first second : Callee CallError String}

theorem not_bySchema_of_error {fault : TierFault}
    (h : tierResult settings.schemaGuided settings.limit first schemaNarrative = .error fault) :
    ¬ ∃ narrative, BySchema settings first narrative := by
  rintro ⟨narrative, hSchema⟩
  cases h.symm.trans (tierResult_schema_iff.mpr hSchema)

/-- A reflection asks the first tier, the second one if that gives nothing, and the time. -/
structure Reflects (settings : Settings) (client : String) (start : Timestamp) (input : Input)
    (now : Millis) (first second : Callee CallError String) (timed : List TimedExchange)
    (g : Generated) : Prop where
  asks : ∃ one two, timed = one ++ two ++ [⟨⟨.now, now + elapsed (one ++ two)⟩, 0⟩] ∧
    AsksIf (settings.schemaGuided = true) client (schemaPrompt (describe input)) settings.limit
      first one ∧
    AsksIf (settings.manualParse = true ∧ ¬ ∃ narrative, BySchema settings first narrative)
      client (labelPrompt (describe input)) settings.limit second two
  record : g = recordOf input (start.later (now + elapsed timed))
    (chain (tierResult settings.schemaGuided settings.limit first schemaNarrative)
      (tierResult settings.manualParse settings.limit second labelNarrative))

theorem exists_reflects
    (hRun : TimedRuns (generate settings client start input) now timed g) :
    ∃ first second, Reflects settings client start input now first second timed g := by
  obtain ⟨one, result, rest, rfl, hOne, hRest⟩ := timedRuns_bind_iff.mp hRun
  obtain ⟨first, hFirst, rfl⟩ := timedRuns_tryTier_iff.mp hOne
  cases hResult : tierResult settings.schemaGuided settings.limit first schemaNarrative with
  | ok narrative =>
      simp only [hResult] at hRest
      obtain ⟨rfl, rfl⟩ := timedRuns_now_iff.mp hRest
      have hSchema : ∃ narrative, BySchema settings first narrative :=
        ⟨narrative, tierResult_schema_iff.mp hResult⟩
      refine ⟨first, .hangs, ⟨one, [], by simp, hFirst, .never fun h => h.2 hSchema⟩, ?_⟩
      rw [hResult]
      simp [chain, recordOf]
  | error fault =>
      have hNone := not_bySchema_of_error hResult
      simp only [hResult] at hRest
      obtain ⟨two, result, last, rfl, hTwo, hLast⟩ := timedRuns_bind_iff.mp hRest
      obtain ⟨second, hSecond, rfl⟩ := timedRuns_tryTier_iff.mp hTwo
      have hAsks : AsksIf (settings.manualParse = true ∧
          ¬ ∃ narrative, BySchema settings first narrative) client (labelPrompt (describe input))
          settings.limit second two := hSecond.congr ⟨fun h => ⟨h, hNone⟩, And.left⟩
      refine ⟨first, second, ?_⟩
      cases hResult' : tierResult settings.manualParse settings.limit second labelNarrative with
      | ok narrative =>
          simp only [hResult'] at hLast
          obtain ⟨rfl, rfl⟩ := timedRuns_now_iff.mp hLast
          refine ⟨⟨one, two, by simp [Nat.add_assoc], hFirst, hAsks⟩, ?_⟩
          rw [hResult, hResult']
          simp [chain, recordOf, Nat.add_assoc]
      | error fault' =>
          simp only [hResult'] at hLast
          obtain ⟨rfl, rfl⟩ := timedRuns_now_iff.mp hLast
          refine ⟨⟨one, two, by simp [Nat.add_assoc], hFirst, hAsks⟩, ?_⟩
          rw [hResult, hResult']
          simp [chain, recordOf, Nat.add_assoc]

theorem Reflects.timedRuns (h : Reflects settings client start input now first second timed g) :
    TimedRuns (generate settings client start input) now timed g := by
  obtain ⟨⟨one, two, rfl, hFirst, hAsks⟩, rfl⟩ := h
  rw [List.append_assoc]
  refine (timedRuns_tryTier_iff.mpr ⟨first, hFirst, rfl⟩).bind ?_
  cases hResult : tierResult settings.schemaGuided settings.limit first schemaNarrative with
  | ok narrative =>
      cases hAsks with
      | once hBoth => exact absurd ⟨narrative, tierResult_schema_iff.mp hResult⟩ hBoth.2
      | never _ =>
          refine timedRuns_now_iff.mpr ⟨?_, ?_⟩
          · simp
          · simp [chain, recordOf]
  | error fault =>
      have hNone := not_bySchema_of_error hResult
      have hSecond : AsksIf (settings.manualParse = true) client (labelPrompt (describe input))
          settings.limit second two := hAsks.congr ⟨And.left, fun h => ⟨h, hNone⟩⟩
      refine (timedRuns_tryTier_iff.mpr ⟨second, hSecond, rfl⟩).bind ?_
      cases hResult' : tierResult settings.manualParse settings.limit second labelNarrative with
      | ok narrative =>
          refine timedRuns_now_iff.mpr ⟨?_, ?_⟩
          · simp [Nat.add_assoc]
          · simp [chain, recordOf, Nat.add_assoc]
      | error fault' =>
          refine timedRuns_now_iff.mpr ⟨?_, ?_⟩
          · simp [Nat.add_assoc]
          · simp [chain, recordOf, Nat.add_assoc]

/-- Whatever the model does, there is a reflection. -/
theorem exists_reflection (settings : Settings) (client : String) (start : Timestamp)
    (input : Input) (now : Millis) (first second : Callee CallError String) :
    ∃ timed g, Reflects settings client start input now first second timed g := by
  obtain ⟨one, hOne⟩ := exists_asksIf (settings.schemaGuided = true) client
    (schemaPrompt (describe input)) settings.limit first
  obtain ⟨two, hTwo⟩ := exists_asksIf
    (settings.manualParse = true ∧ ¬ ∃ narrative, BySchema settings first narrative) client
    (labelPrompt (describe input)) settings.limit second
  exact ⟨_, _, ⟨one, two, rfl, hOne, hTwo⟩, rfl⟩

/-! ## The chain of tiers -/

/-- A tier gives a narrative, and it is the one that the record is made with. -/
inductive Accepted (settings : Settings) (first second : Callee CallError String) :
    Narrative.Fields → Prop
  | schema {narrative : Narrative.Fields} (h : BySchema settings first narrative) :
      Accepted settings first second narrative
  | labels {narrative : Narrative.Fields} (hFirst : ¬ ∃ other, BySchema settings first other)
      (h : ByLabels settings second narrative) : Accepted settings first second narrative

/-- The record of a reflection, given what the model does when it is asked first and second. -/
structure TierChain (settings : Settings) (first second : Callee CallError String) (e : Entry) :
    Prop where
  schemaGuided_iff : e.tier = .schemaGuided ↔ ∃ narrative, BySchema settings first narrative
  manualParse_iff : e.tier = .manualParse ↔
    (¬ ∃ narrative, BySchema settings first narrative) ∧
      ∃ narrative, ByLabels settings second narrative
  minimal_iff : e.tier = .minimal ↔
    (¬ ∃ narrative, BySchema settings first narrative) ∧
      ¬ ∃ narrative, ByLabels settings second narrative
  /-- There is a rationale, unless the record holds numbers alone; it is the accepted one. -/
  rationale_iff : e.rationale.isSome = true ↔ e.tier ≠ .minimal
  rationale : ∀ text, e.rationale = some text →
    ∃ narrative, Accepted settings first second narrative ∧ narrative.rationale = text
  /-- A change is proposed only if the accepted narrative proposes it. -/
  proposedChange : ∀ change, e.proposedChange = some change →
    ∃ narrative, Accepted settings first second narrative ∧
      narrative.proposedChange = some change.description ∧ narrative.impact = change.impact

/-- The numbers of a record, and what it is about, are those of the task. -/
structure Measured (input : Input) (e : Entry) : Prop where
  trace : e.trace = input.trace
  state : e.state = input.state
  durationSeconds : e.durationSeconds = input.summary.durationSeconds
  metrics : e.metrics = input.summary.fields

/-- How many tiers are switched on. -/
def Settings.tiers (settings : Settings) : Nat :=
  (if settings.schemaGuided then 1 else 0) + if settings.manualParse then 1 else 0

/-- The time of the record is when the last answer came, so the tiers take all the time. -/
theorem Reflects.elapsed_le
    (h : Reflects settings client start input now first second timed g) :
    elapsed timed ≤ settings.limit * settings.tiers := by
  classical
  obtain ⟨one, two, rfl, hOne, hTwo⟩ := h.asks
  have hSecond : (if settings.manualParse = true ∧
      ¬ ∃ narrative, BySchema settings first narrative then 1 else 0) ≤
        if settings.manualParse = true then 1 else 0 := by
    split_ifs <;> simp_all
  simp only [elapsed_append, elapsed_cons, elapsed_nil, Nat.add_zero]
  rw [Settings.tiers, Nat.mul_add]
  exact Nat.add_le_add hOne.elapsed_le
    (Nat.le_trans hTwo.elapsed_le (Nat.mul_le_mul_left _ hSecond))

/-- A change in a record is that of its narrative. -/
theorem proposedChange_entryOf {createdAt : Timestamp} {tier : Tier}
    {narrative? : Option Narrative.Fields} {change : ProposedChange}
    (h : (entryOf input createdAt tier narrative?).proposedChange = some change) :
    ∃ narrative, narrative? = some narrative ∧
      narrative.proposedChange = some change.description ∧ narrative.impact = change.impact := by
  obtain ⟨narrative, rfl, hChange⟩ := Option.bind_eq_some_iff.mp h
  obtain ⟨text, hText, rfl⟩ := Option.map_eq_some_iff.mp hChange
  exact ⟨narrative, rfl, hText, rfl⟩

/-- The record of an accepted narrative holds its texts. -/
theorem texts_entryOf (input : Input) (createdAt : Timestamp) (tier : Tier)
    {narrative : Narrative.Fields} (h : Accepted settings first second narrative) :
    (∀ text, (entryOf input createdAt tier (some narrative)).rationale = some text →
      ∃ narrative, Accepted settings first second narrative ∧ narrative.rationale = text) ∧
    ∀ change, (entryOf input createdAt tier (some narrative)).proposedChange = some change →
      ∃ narrative, Accepted settings first second narrative ∧
        narrative.proposedChange = some change.description ∧
        narrative.impact = change.impact := by
  constructor
  · intro text hText
    exact ⟨narrative, h, Option.some.inj hText⟩
  · intro change hChange
    obtain ⟨accepted, hAccepted, hTexts⟩ := proposedChange_entryOf hChange
    obtain rfl := Option.some.inj hAccepted
    exact ⟨narrative, h, hTexts⟩

theorem Reflects.tierChain
    (h : Reflects settings client start input now first second timed g) :
    TierChain settings first second g.entry := by
  rw [h.record]
  cases hFirst : tierResult settings.schemaGuided settings.limit first schemaNarrative with
  | ok narrative =>
      have hSchema := tierResult_schema_iff.mp hFirst
      have hAccepted : Accepted settings first second narrative := .schema hSchema
      have hTexts := texts_entryOf input (start.later (now + elapsed timed)) .schemaGuided hAccepted
      exact ⟨iff_of_true rfl ⟨_, hSchema⟩, iff_of_false nofun fun h => h.1 ⟨_, hSchema⟩,
        iff_of_false nofun fun h => h.1 ⟨_, hSchema⟩, iff_of_true rfl nofun, hTexts.1, hTexts.2⟩
  | error fault =>
      have hNone := not_bySchema_of_error hFirst
      cases hSecond : tierResult settings.manualParse settings.limit second labelNarrative with
      | ok narrative =>
          have hLabels := tierResult_labels_iff.mp hSecond
          have hTexts := texts_entryOf input (start.later (now + elapsed timed)) .manualParse
            (.labels hNone hLabels)
          exact ⟨iff_of_false nofun hNone, iff_of_true rfl ⟨hNone, _, hLabels⟩,
            iff_of_false nofun fun h => h.2 ⟨_, hLabels⟩, iff_of_true rfl nofun, hTexts.1,
            hTexts.2⟩
      | error fault' =>
          have hNone' : ¬ ∃ narrative, ByLabels settings second narrative := by
            rintro ⟨narrative, hLabels⟩
            cases hSecond.symm.trans (tierResult_labels_iff.mpr hLabels)
          exact ⟨iff_of_false nofun hNone, iff_of_false nofun fun h => hNone' h.2,
            iff_of_true rfl ⟨hNone, hNone'⟩, iff_of_false nofun fun h => h rfl, nofun, nofun⟩

theorem Reflects.measured
    (h : Reflects settings client start input now first second timed g) :
    Measured input g.entry := by
  rw [h.record]
  exact ⟨rfl, rfl, rfl, rfl⟩

end Generate

/-- What a reflection asks, gives and takes, given what the model does when it is asked first and
second. -/
structure ThroughTiers (settings : Settings) (client : String) (input : Input) (now : Millis)
    (first second : Callee CallError String) (timed : List TimedExchange) (e : Entry) : Prop where
  asks : ∃ one two, timed = one ++ two ++ [⟨⟨.now, now + elapsed (one ++ two)⟩, 0⟩] ∧
    AsksIf (settings.schemaGuided = true) client (schemaPrompt (describe input)) settings.limit
      first one ∧
    AsksIf (settings.manualParse = true ∧ ¬ ∃ narrative, BySchema settings first narrative)
      client (labelPrompt (describe input)) settings.limit second two
  chain : TierChain settings first second e
  inTime : elapsed timed ≤ settings.limit * settings.tiers
  measured : Measured input e

theorem Reflects.throughTiers {settings : Settings} {client : String} {start : Timestamp}
    {input : Input} {now : Millis} {timed : List TimedExchange} {g : Generated}
    {first second : Callee CallError String}
    (h : Reflects settings client start input now first second timed g) :
    ThroughTiers settings client input now first second timed g.entry :=
  ⟨h.asks, h.tierChain, h.elapsed_le, h.measured⟩

/-- Whatever the model does when it is asked, a reflection goes through its tiers to a record, and
its numbers are the same whatever the model does. -/
theorem reflection_goes_through_tiers (settings : Settings) (client : String) (start : Timestamp)
    (input : Input) :
    (∀ now first second, ∃ timed g, TimedRuns (generate settings client start input) now timed g ∧
      ThroughTiers settings client input now first second timed g.entry) ∧
    (∀ now timed g, TimedRuns (generate settings client start input) now timed g →
      ∃ first second, ThroughTiers settings client input now first second timed g.entry) ∧
    ∀ now now' timed timed' g g', TimedRuns (generate settings client start input) now timed g →
      TimedRuns (generate settings client start input) now' timed' g' →
      g.entry.trace = g'.entry.trace ∧ g.entry.state = g'.entry.state ∧
        g.entry.durationSeconds = g'.entry.durationSeconds ∧
        g.entry.metrics = g'.entry.metrics := by
  refine ⟨?_, ?_, ?_⟩
  · intro now first second
    obtain ⟨timed, g, h⟩ := exists_reflection settings client start input now first second
    exact ⟨timed, g, h.timedRuns, h.throughTiers⟩
  · intro now timed g hRun
    obtain ⟨first, second, h⟩ := exists_reflects hRun
    exact ⟨first, second, h.throughTiers⟩
  · intro now now' timed timed' g g' hRun hRun'
    obtain ⟨_, _, h⟩ := exists_reflects hRun
    obtain ⟨_, _, h'⟩ := exists_reflects hRun'
    exact ⟨h.measured.trace.trans h'.measured.trace.symm,
      h.measured.state.trans h'.measured.state.symm,
      h.measured.durationSeconds.trans h'.measured.durationSeconds.symm,
      h.measured.metrics.trans h'.measured.metrics.symm⟩

/-- The model hangs when it is asked for JSON, and answers in labelled lines. -/
theorem labels_after_hanging :
    ∃ timed g, TimedRuns (generate ⟨true, true, 1000⟩ "mirror" default default) 0 timed g ∧
      (∃ first second, ThroughTiers ⟨true, true, 1000⟩ "mirror" default 0 first second timed
        g.entry) ∧
      g.entry.tier = .manualParse := by
  obtain ⟨hTo, hFrom, -⟩ :=
    reflection_goes_through_tiers ⟨true, true, 1000⟩ "mirror" default default
  obtain ⟨timed, g, hRun, hTiers⟩ := hTo 0 .hangs (.returns 40 "RATIONALE: ok")
  refine ⟨timed, g, hRun, hFrom 0 timed g hRun, hTiers.chain.manualParse_iff.mpr ⟨?_, ?_⟩⟩
  · rintro ⟨narrative, -, text, ⟨duration, -, hReturns⟩, -⟩
    cases hReturns
  · exact ⟨⟨"ok", none, none⟩, rfl, "RATIONALE: ok", ⟨40, by decide, rfl⟩, rfl⟩

end SteadyTask.Reflection
