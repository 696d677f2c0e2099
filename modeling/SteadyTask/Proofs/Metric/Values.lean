import SteadyTask.Metric.Values

/-!
# Named measurements in order

Collections of measurements that are put together one by one stay sorted by name, so each name stands
in them once and finding it is the same as its being there.
-/

namespace SteadyTask.Metric.Values

variable {values more : Values} {name : String} {x : Float} {p : String × Float}

/-- The measurements are sorted by name, and each name stands there once. -/
def Sorted (values : Values) : Prop :=
  values.Pairwise fun p q => p.1 < q.1

instance (values : Values) : Decidable values.Sorted :=
  inferInstanceAs (Decidable (values.Pairwise fun p q => p.1 < q.1))

theorem eq_or_mem_of_mem_set (h : p ∈ values.set name x) : p = (name, x) ∨ p ∈ values := by
  induction values with
  | nil => exact .inl (List.mem_singleton.mp h)
  | cons first rest ih =>
      rw [set] at h
      split at h
      · rcases List.mem_cons.mp h with hHead | hRest
        · exact .inl hHead
        · exact .inr (List.mem_cons_of_mem _ hRest)
      · split at h
        · exact List.mem_cons.mp h
        · rcases List.mem_cons.mp h with hHead | hRest
          · exact .inr (hHead ▸ List.mem_cons_self)
          · exact (ih hRest).imp_right (List.mem_cons_of_mem _)

theorem Sorted.set (h : values.Sorted) (name : String) (x : Float) :
    (values.set name x).Sorted := by
  induction values with
  | nil => exact List.pairwise_singleton ..
  | cons first rest ih =>
      obtain ⟨hFirst, hRest⟩ := List.pairwise_cons.mp h
      rw [Values.set]
      split
      · next hName => exact List.pairwise_cons.mpr ⟨hName ▸ hFirst, hRest⟩
      · next hName =>
          split
          · next hLess =>
              refine List.pairwise_cons.mpr ⟨fun q hq => ?_, h⟩
              rcases List.mem_cons.mp hq with rfl | hq
              · exact hLess
              · exact String.lt_trans hLess (hFirst q hq)
          · next hLess =>
              have hGreater : first.1 < name := by
                refine String.not_le.mp fun hLe => hName ?_
                exact String.le_antisymm hLe (String.not_lt.mp hLess)
              refine List.pairwise_cons.mpr ⟨fun q hq => ?_, ih hRest⟩
              rcases eq_or_mem_of_mem_set hq with rfl | hq
              · exact hGreater
              · exact hFirst q hq

/-- What is put on top of a sorted collection leaves it sorted. -/
theorem Sorted.merge (h : values.Sorted) (more : Values) : (values.merge more).Sorted := by
  unfold Values.merge
  induction more generalizing values with
  | nil => exact h
  | cons first rest ih => exact ih (h.set first.1 first.2)

/-- A sorted collection has a measurement under a name exactly if it is found there. -/
theorem Sorted.get?_eq_some_iff (h : values.Sorted) :
    values.get? name = some x ↔ (name, x) ∈ values := by
  rw [get?, List.lookup_eq_some_iff]
  constructor
  · rintro ⟨before, after, rfl, -⟩
    simp
  · intro hMem
    obtain ⟨before, after, rfl⟩ := List.append_of_mem hMem
    refine ⟨before, after, rfl, fun q hq => ?_⟩
    have hLess : q.1 < name := (List.pairwise_append.mp h).2.2 q hq (name, x) List.mem_cons_self
    refine bne_iff_ne.mpr fun hEq => String.lt_irrefl name ?_
    rw [← hEq] at hLess
    exact hLess

end SteadyTask.Metric.Values
