import Mathlib.Tactic
import SteadyTask.Sensor.Cache

/-!
# Histories of the sensor cache

A history is what happened to a cache, one event after another, each with the moment in which it
happened.  Readers are any number of callers; which of them acts next, how long nothing happens, and
how polls end is left open, so a history can be any interleaving.  Readings and line are per group:
`step_slot` says what an event does to the slot of its group, and `step_slot_of_ne` that it does
nothing to the other one.  All that is said about runs is derived from these two.

A poll that panics and a reader that is cancelled are the same here: the reader leaves, and the slot
goes to the next in line.  The time limit of a poll does not occur: a poll may fail at any moment,
after its limit or before.
-/

namespace SteadyTask.Sensor

namespace Slot

variable {κ : Type} {s : Slot κ} {reader : κ}

@[simp]
theorem entry_request : (s.request reader).entry = s.entry := by
  unfold request
  split <;> rfl

@[simp]
theorem entry_release : s.release.entry = s.entry := by
  unfold release
  split <;> rfl

theorem owner_request_of_some {owner : κ × Tenure} (h : s.owner = some owner) :
    (s.request reader).owner = some owner := by
  simp [request, h]

/-- A reading is fresh if there is one and it is younger than the time to live. -/
theorem fresh?_eq_some_iff {ttl now : Millis} {values : Metric.Values} :
    s.fresh? ttl now = some values ↔
      ∃ e, s.entry = some e ∧ now - e.storedAt < ttl ∧ e.values = values := by
  unfold fresh?
  cases s.entry with
  | none => simp
  | some e => simp

theorem fresh?_eq_none_iff {ttl now : Millis} :
    s.fresh? ttl now = none ↔ ∀ e, s.entry = some e → ttl ≤ now - e.storedAt := by
  unfold fresh?
  cases s.entry with
  | none => simp
  | some e => simp

variable [DecidableEq κ]

@[simp]
theorem entry_leave : (s.leave reader).entry = s.entry := by
  unfold leave
  split
  · split
    · exact entry_release
    · rfl
  · rfl

/-- Whoever polls does so until he goes away. -/
theorem owner_leave_of_ne {other : κ} {t : Tenure} (h : s.owner = some (other, t))
    (hne : other ≠ reader) : (s.leave reader).owner = some (other, t) := by
  simp [leave, h, hne]

theorem isGranted_iff : s.isGranted reader = true ↔ s.owner = some (reader, .granted) := by
  simp [isGranted]

theorem isPolling_iff : s.isPolling reader = true ↔ s.owner = some (reader, .polling) := by
  simp [isPolling]

end Slot

namespace Cache

variable {κ : Type}

/-! ## What happens -/

/-- The group that an event is about. -/
def Event.group? : Event κ → Option Group
  | .pass _ => none
  | .request _ g => some g
  | .look _ g => some g
  | .succeed _ g _ => some g
  | .fail _ g => some g
  | .leave _ g => some g
  | .drop _ g => some g

/-- The poll that a reader has going ends: it succeeds or fails, or the reader goes away. -/
def Event.EndsPoll (reader : κ) (g : Group) : Event κ → Prop
  | .succeed r group _ => r = reader ∧ group = g
  | .fail r group => r = reader ∧ group = g
  | .leave r group => r = reader ∧ group = g
  | _ => False

/-- The slot of a group at a moment. -/
abbrev Moment.slot (m : Moment κ) (g : Group) : Slot κ :=
  m.cache.slots.get g

/-- An event, and the moment in which it happened. -/
structure Happening (κ : Type) where
  moment : Moment κ
  event : Event κ

namespace Happening

/-- The reader whose poll of the group begins: he looks and finds nothing fresh. -/
def poller? (h : Happening κ) (g : Group) : Option κ :=
  match h.event with
  | .look reader group =>
    if group = g then
      match (h.moment.cache.look g reader h.moment.now).2 with
      | .miss => some reader
      | .hit _ => none
    else none
  | _ => none

/-- The reading that a get of the group returns: a fresh one that is found, or one just polled. -/
def reading? (h : Happening κ) (g : Group) : Option Metric.Values :=
  match h.event with
  | .look reader group =>
    if group = g then
      match (h.moment.cache.look g reader h.moment.now).2 with
      | .miss => none
      | .hit values => some values
    else none
  | .succeed _ group values => if group = g then some values else none
  | _ => none

end Happening

/-- The readers whose polls of a group began, one after another. -/
def pollers (g : Group) (past : List (Happening κ)) : List κ :=
  past.filterMap fun h => h.poller? g

section Happenings

variable {c : Cache κ} {h : Happening κ} {g g' : Group} {reader : κ}

theorem look_snd {now : Millis} :
    (c.look g reader now).2 =
      match (c.slots.get g).fresh? c.ttl now with
      | some values => .hit values
      | none => .miss := by
  unfold look
  cases (c.slots.get g).fresh? c.ttl now <;> rfl

theorem poller?_eq_some_iff :
    h.poller? g = some reader ↔
      h.event = .look reader g ∧
        (h.moment.slot g).fresh? h.moment.cache.ttl h.moment.now = none := by
  obtain ⟨m, event⟩ := h
  cases event with
  | look r group =>
      simp only [Happening.poller?, look_snd]
      by_cases hg : group = g
      · subst hg
        cases (m.slot group).fresh? m.cache.ttl m.now <;> simp
      · simp [hg]
  | _ => simp [Happening.poller?]

theorem reading?_eq_some_iff {values : Metric.Values} :
    h.reading? g = some values ↔
      (∃ reader, h.event = .look reader g ∧
        (h.moment.slot g).fresh? h.moment.cache.ttl h.moment.now = some values) ∨
      ∃ reader, h.event = .succeed reader g values := by
  obtain ⟨m, event⟩ := h
  cases event with
  | look r group =>
      simp only [Happening.reading?, look_snd]
      by_cases hg : group = g
      · subst hg
        cases (m.slot group).fresh? m.cache.ttl m.now <;> simp
      · simp [hg]
  | succeed r group v =>
      by_cases hg : group = g <;> simp [Happening.reading?, hg]
  | _ => simp [Happening.reading?]

/-- Only a look begins a poll. -/
theorem poller?_eq_none (hLook : ∀ reader, h.event ≠ .look reader g) : h.poller? g = none := by
  rw [Option.eq_none_iff_forall_ne_some]
  exact fun reader hPoller => hLook reader (poller?_eq_some_iff.mp hPoller).1

theorem pollers_append {before after : List (Happening κ)} :
    pollers g (before ++ after) = pollers g before ++ pollers g after :=
  List.filterMap_append ..

theorem pollers_cons {past : List (Happening κ)} :
    pollers g (h :: past) = (h.poller? g).toList ++ pollers g past := by
  rw [pollers, List.filterMap_cons]
  cases h.poller? g <;> rfl

theorem slot_modifySlot {f : Slot κ → Slot κ} :
    (c.modifySlot g f).slots.get g = f (c.slots.get g) := by
  simp [modifySlot, PerGroup.modify]

theorem slot_modifySlot_of_ne {f : Slot κ → Slot κ} (hne : g ≠ g') :
    (c.modifySlot g' f).slots.get g = c.slots.get g := by
  simp [modifySlot, PerGroup.modify, hne]

end Happenings

variable [DecidableEq κ]

/-! ## What an event does -/

/-- What an event does to the slot of its group. -/
def slotAfter (ttl now : Millis) (s : Slot κ) : Event κ → Slot κ
  | .pass _ => s
  | .request reader _ => s.request reader
  | .look reader _ =>
    match s.fresh? ttl now with
    | some _ => s.release
    | none => { s with owner := some (reader, .polling) }
  | .succeed _ _ values => { s with entry := some ⟨values, now⟩ }.release
  | .fail _ _ => s.release
  | .leave reader _ => s.leave reader
  | .drop _ _ => { s with entry := none }.release

section Steps

variable {m : Moment κ} {event : Event κ} {g : Group}

/-- Whoever finds a fresh reading gives the slot up, and anyone else polls. -/
theorem slots_look {c : Cache κ} {reader : κ} {now : Millis} :
    (c.look g reader now).1.slots =
      (c.modifySlot g fun s => slotAfter c.ttl now s (.look reader g)).slots := by
  simp only [look, modifySlot, PerGroup.modify, slotAfter]
  cases (c.slots.get g).fresh? c.ttl now <;> rfl

theorem step_slot (h : event.group? = some g) :
    (m.step event).slot g = slotAfter m.cache.ttl m.now (m.slot g) event := by
  cases event with
  | pass duration => cases h
  | look reader g' =>
      cases h
      show (m.cache.look g reader m.now).1.slots.get g = _
      rw [slots_look, slot_modifySlot]
  | request _ _ => cases h; exact slot_modifySlot
  | succeed _ _ _ => cases h; exact slot_modifySlot
  | fail _ _ => cases h; exact slot_modifySlot
  | leave _ _ => cases h; exact slot_modifySlot
  | drop _ _ => cases h; exact slot_modifySlot

theorem step_slot_of_ne (h : event.group? ≠ some g) : (m.step event).slot g = m.slot g := by
  cases event with
  | pass duration => rfl
  | look reader g' =>
      show (m.cache.look g' reader m.now).1.slots.get g = _
      rw [slots_look, slot_modifySlot_of_ne fun hg => h (congrArg some hg.symm)]
  | request _ _ => exact slot_modifySlot_of_ne fun hg => h (congrArg some hg.symm)
  | succeed _ _ _ => exact slot_modifySlot_of_ne fun hg => h (congrArg some hg.symm)
  | fail _ _ => exact slot_modifySlot_of_ne fun hg => h (congrArg some hg.symm)
  | leave _ _ => exact slot_modifySlot_of_ne fun hg => h (congrArg some hg.symm)
  | drop _ _ => exact slot_modifySlot_of_ne fun hg => h (congrArg some hg.symm)

@[simp]
theorem step_ttl : (m.step event).cache.ttl = m.cache.ttl := by
  cases event with
  | look reader g =>
      simp only [Moment.step, look]
      split <;> rfl
  | _ => rfl

theorem le_step_now : m.now ≤ (m.step event).now := by
  cases event with
  | pass duration => exact Nat.le_add_right ..
  | _ => exact Nat.le_refl _

end Steps

/-! ## Histories -/

/-- What happened to a cache from one moment to another. -/
inductive History : Moment κ → List (Happening κ) → Moment κ → Prop
  | nil (m : Moment κ) : History m [] m
  | cons {m m' : Moment κ} {event : Event κ} {past : List (Happening κ)}
      (hEnabled : m.Enabled event) (rest : History (m.step event) past m') :
      History m (⟨m, event⟩ :: past) m'

section Histories

variable {m m' m'' : Moment κ} {h : Happening κ} {before past after : List (Happening κ)}
  {g : Group}

theorem history_nil_iff : History m [] m' ↔ m' = m := by
  constructor
  · intro hPast
    cases hPast
    rfl
  · rintro rfl
    exact .nil m'

theorem history_cons_iff :
    History m (h :: past) m' ↔
      h.moment = m ∧ m.Enabled h.event ∧ History (m.step h.event) past m' := by
  constructor
  · intro hPast
    cases hPast with
    | cons hEnabled rest => exact ⟨rfl, hEnabled, rest⟩
  · obtain ⟨moment, event⟩ := h
    rintro ⟨rfl, hEnabled, rest⟩
    exact .cons hEnabled rest

theorem history_append_iff :
    History m (before ++ after) m'' ↔ ∃ m', History m before m' ∧ History m' after m'' := by
  induction before generalizing m with
  | nil => simp [history_nil_iff]
  | cons h before ih =>
      rw [List.cons_append, history_cons_iff, ih]
      constructor
      · rintro ⟨hMoment, hEnabled, m', hBefore, hAfter⟩
        exact ⟨m', history_cons_iff.mpr ⟨hMoment, hEnabled, hBefore⟩, hAfter⟩
      · rintro ⟨m', hBefore, hAfter⟩
        obtain ⟨hMoment, hEnabled, hBefore⟩ := history_cons_iff.mp hBefore
        exact ⟨hMoment, hEnabled, m', hBefore, hAfter⟩

/-- A history cut at something that happened. -/
theorem History.cut (hPast : History m (before ++ h :: after) m') :
    History m before h.moment ∧ h.moment.Enabled h.event ∧
      History (h.moment.step h.event) after m' := by
  obtain ⟨m₁, hBefore, hRest⟩ := history_append_iff.mp hPast
  obtain ⟨rfl, hEnabled, hAfter⟩ := history_cons_iff.mp hRest
  exact ⟨hBefore, hEnabled, hAfter⟩

/-- What every enabled event preserves holds at the end of a history that it holds at the start
of.  What happened is known to satisfy a condition. -/
theorem History.preserves {P : Moment κ → Prop} {C : Happening κ → Prop}
    (hPast : History m past m') (hCondition : ∀ h ∈ past, C h)
    (hStep : ∀ m event, m.Enabled event → C ⟨m, event⟩ → P m → P (m.step event)) (hStart : P m) :
    P m' := by
  induction hPast with
  | nil m => exact hStart
  | cons hEnabled rest ih =>
      refine ih (fun h hh => hCondition h (List.mem_cons_of_mem _ hh)) ?_
      exact hStep _ _ hEnabled (hCondition _ (List.mem_cons_self ..)) hStart

theorem History.le_now (hPast : History m past m') : m.now ≤ m'.now := by
  refine hPast.preserves (P := fun m' => m.now ≤ m'.now) (C := fun _ => True)
    (fun _ _ => trivial) ?_ (Nat.le_refl _)
  exact fun _ _ _ _ hNow => Nat.le_trans hNow le_step_now

theorem History.ttl_eq (hPast : History m past m') : m'.cache.ttl = m.cache.ttl := by
  refine hPast.preserves (P := fun m' => m'.cache.ttl = m.cache.ttl) (C := fun _ => True)
    (fun _ _ => trivial) ?_ rfl
  exact fun _ _ _ _ hTtl => step_ttl.trans hTtl

/-- Of what happened before something, nothing happened at a later time. -/
theorem History.now_le_of_mem (hPast : History m (before ++ h :: after) m') :
    ∀ earlier ∈ before, earlier.moment.now ≤ h.moment.now := by
  intro earlier hEarlier
  obtain ⟨hBefore, -, -⟩ := hPast.cut
  obtain ⟨first, between, rfl⟩ := List.append_of_mem hEarlier
  obtain ⟨-, -, hBetween⟩ := hBefore.cut
  exact Nat.le_trans le_step_now hBetween.le_now

/-! ## What is stored -/

/-- A reading is stored by a poll that succeeds, removed by a drop, and changed by nothing else. -/
theorem entry_step_cases (event : Event κ) (g : Group) :
    (∃ reader values, event = .succeed reader g values ∧
      ((m.step event).slot g).entry = some ⟨values, m.now⟩) ∨
    (∃ reader, event = .drop reader g ∧ ((m.step event).slot g).entry = none) ∨
    ((∀ reader values, event ≠ .succeed reader g values) ∧ (∀ reader, event ≠ .drop reader g) ∧
      ((m.step event).slot g).entry = (m.slot g).entry) := by
  by_cases hGroup : event.group? = some g
  · rw [step_slot hGroup]
    cases event with
    | pass duration => cases hGroup
    | succeed reader g' values =>
        cases hGroup
        exact .inl ⟨reader, values, rfl, Slot.entry_release⟩
    | drop reader g' =>
        cases hGroup
        exact .inr (.inl ⟨reader, rfl, Slot.entry_release⟩)
    | look reader g' =>
        refine .inr (.inr ⟨nofun, nofun, ?_⟩)
        simp only [slotAfter]
        split
        · exact Slot.entry_release
        · rfl
    | request reader g' => exact .inr (.inr ⟨nofun, nofun, Slot.entry_request⟩)
    | fail reader g' => exact .inr (.inr ⟨nofun, nofun, Slot.entry_release⟩)
    | leave reader g' => exact .inr (.inr ⟨nofun, nofun, Slot.entry_leave⟩)
  · rw [step_slot_of_ne hGroup]
    refine .inr (.inr ⟨?_, ?_, rfl⟩)
    · rintro reader values rfl
      exact hGroup rfl
    · rintro reader rfl
      exact hGroup rfl

/-- A successful poll stores its reading. -/
theorem entry_of_succeed {reader : κ} {values : Metric.Values}
    (hEvent : h.event = .succeed reader g values) :
    ((h.moment.step h.event).slot g).entry = some ⟨values, h.moment.now⟩ := by
  rw [hEvent, step_slot rfl]
  exact Slot.entry_release

/-- No reading was stored later than now. -/
def Moment.StoredInTime (m : Moment κ) : Prop :=
  ∀ g e, (m.slot g).entry = some e → e.storedAt ≤ m.now

theorem storedInTime_step {event : Event κ} (h : m.StoredInTime) : (m.step event).StoredInTime := by
  intro g e he
  have hNow : m.now ≤ (m.step event).now := le_step_now
  rcases entry_step_cases event g with ⟨reader, values, rfl, hEntry⟩ | ⟨reader, rfl, hEntry⟩ |
    ⟨-, -, hEntry⟩
  · obtain rfl := Option.some.inj (hEntry.symm.trans he)
    exact hNow
  · rw [hEntry] at he
    cases he
  · exact Nat.le_trans (h g e (hEntry ▸ he)) hNow

theorem History.storedInTime (hPast : History m past m') (h : m.StoredInTime) :
    m'.StoredInTime :=
  hPast.preserves (C := fun _ => True) (fun _ _ => trivial)
    (fun _ _ _ _ hBefore => storedInTime_step hBefore) h

/-! ## While a reader polls -/

/-- A reader whose poll begins polls. -/
theorem owner_of_poller? {reader : κ} (hPoller : h.poller? g = some reader) :
    ((h.moment.step h.event).slot g).owner = some (reader, .polling) := by
  obtain ⟨hEvent, hFresh⟩ := poller?_eq_some_iff.mp hPoller
  rw [hEvent, step_slot rfl, slotAfter, hFresh]

/-- While a reader polls a group nobody else acts on it: he stays the owner, the reading stays as it
is, and no other poll begins. -/
theorem polling_step {event : Event κ} {reader : κ} (hEnabled : m.Enabled event)
    (hGoesOn : ¬ event.EndsPoll reader g) (hPolling : (m.slot g).owner = some (reader, .polling)) :
    ((m.step event).slot g).owner = some (reader, .polling) ∧
      ((m.step event).slot g).entry = (m.slot g).entry ∧
      (Happening.mk m event).poller? g = none := by
  -- only the owner can look, drop, or have a poll answered, and he has not looked before he polls
  have hIdle (r : κ) : (m.slot g).isGranted r = false := by simp [Slot.isGranted, hPolling]
  have hOther (r : κ) (hne : r ≠ reader) : (m.slot g).isPolling r = false := by
    simp [Slot.isPolling, hPolling, hne.symm]
  by_cases hGroup : event.group? = some g
  · rw [step_slot hGroup]
    cases event with
    | pass duration => cases hGroup
    | request r g' => exact ⟨Slot.owner_request_of_some hPolling, Slot.entry_request, rfl⟩
    | look r g' =>
        cases hGroup
        exact absurd hEnabled (by simp [Moment.Enabled, hIdle])
    | drop r g' =>
        cases hGroup
        exact absurd hEnabled (by simp [Moment.Enabled, hIdle])
    | succeed r g' values =>
        cases hGroup
        have hne : r ≠ reader := fun h => hGoesOn ⟨h, rfl⟩
        exact absurd hEnabled (by simp [Moment.Enabled, hOther r hne])
    | fail r g' =>
        cases hGroup
        have hne : r ≠ reader := fun h => hGoesOn ⟨h, rfl⟩
        exact absurd hEnabled (by simp [Moment.Enabled, hOther r hne])
    | leave r g' =>
        cases hGroup
        have hne : r ≠ reader := fun h => hGoesOn ⟨h, rfl⟩
        exact ⟨Slot.owner_leave_of_ne hPolling hne.symm, Slot.entry_leave, rfl⟩
  · rw [step_slot_of_ne hGroup]
    refine ⟨hPolling, rfl, poller?_eq_none ?_⟩
    rintro r rfl
    exact hGroup rfl

/-- The same over a history in which the poll does not end. -/
theorem History.polling {reader : κ} (hPast : History m past m')
    (hGoesOn : ∀ h ∈ past, ¬ h.event.EndsPoll reader g)
    (hPolling : (m.slot g).owner = some (reader, .polling)) :
    (m'.slot g).owner = some (reader, .polling) ∧ (m'.slot g).entry = (m.slot g).entry ∧
      pollers g past = [] := by
  induction hPast with
  | nil m => exact ⟨hPolling, rfl, rfl⟩
  | cons hEnabled rest ih =>
      obtain ⟨hOwner, hEntry, hPoller⟩ :=
        polling_step hEnabled (hGoesOn _ (List.mem_cons_self ..)) hPolling
      obtain ⟨hOwner, hEntry', hPollers⟩ :=
        ih (fun h hh => hGoesOn h (List.mem_cons_of_mem _ hh)) hOwner
      refine ⟨hOwner, hEntry'.trans hEntry, ?_⟩
      rw [pollers_cons, hPoller, hPollers]
      rfl

end Histories

/-! ## The start -/

/-- A cache that was never used. -/
def unused (ttl pollLimit now : Millis) : Moment κ :=
  ⟨.make ttl pollLimit, now⟩

omit [DecidableEq κ] in
theorem slot_unused {ttl pollLimit now : Millis} (g : Group) :
    (unused ttl pollLimit now : Moment κ).slot g = .empty := by
  cases g <;> rfl

omit [DecidableEq κ] in
theorem storedInTime_unused {ttl pollLimit now : Millis} :
    (unused ttl pollLimit now : Moment κ).StoredInTime := by
  intro g e he
  rw [slot_unused] at he
  cases he

/-! ## Given events -/

instance (m : Moment κ) : (event : Event κ) → Decidable (m.Enabled event)
  | .pass _ => inferInstanceAs (Decidable True)
  | .request _ _ => inferInstanceAs (Decidable (_ ∧ _))
  | .look _ _ => inferInstanceAs (Decidable (_ = true))
  | .succeed _ _ _ => inferInstanceAs (Decidable (_ = true))
  | .fail _ _ => inferInstanceAs (Decidable (_ = true))
  | .leave _ _ => inferInstanceAs (Decidable True)
  | .drop _ _ => inferInstanceAs (Decidable (_ = true))

/-- Each of some events can happen when its turn comes. -/
def AllEnabled (m : Moment κ) : List (Event κ) → Prop
  | [] => True
  | event :: events => m.Enabled event ∧ AllEnabled (m.step event) events

instance decidableAllEnabled (m : Moment κ) : (events : List (Event κ)) →
    Decidable (AllEnabled m events)
  | [] => inferInstanceAs (Decidable True)
  | event :: events =>
    have := decidableAllEnabled (m.step event) events
    inferInstanceAs (Decidable (_ ∧ _))

/-- What happens when some events come one after another. -/
def happenings (m : Moment κ) : List (Event κ) → List (Happening κ)
  | [] => []
  | event :: events => ⟨m, event⟩ :: happenings (m.step event) events

theorem history_happenings {m : Moment κ} {events : List (Event κ)} (h : AllEnabled m events) :
    History m (happenings m events) (events.foldl Moment.step m) := by
  induction events generalizing m with
  | nil => exact .nil m
  | cons event events ih => exact .cons h.1 (ih h.2)

end Cache

end SteadyTask.Sensor
