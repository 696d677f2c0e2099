import Mathlib.Data.Prod.Lex
import Mathlib.Tactic

/-!
# How numbers compare

Numbers are compared by sign, then by exponent, then by mantissa; infinities come before and after
all else, and both zeros stand at one place.  So every number has a place in a linear order, and one
is less than, at most, or as great as another exactly if its place is.  Among numbers comparison is
therefore a total order, but for the two zeros, which it does not tell apart.

A value that is not a number stands in no order, and its place means nothing.
-/

namespace SteadyTask.Metric

open Float.Model

/-- Places of numbers, from left to right. -/
abbrev Place := ℤ ×ₗ ℤ ×ₗ ℤ

/-- The place of a number that is taken apart. -/
def placeOf : UnpackedFloat → Place
  | .infinity .negative => toLex (-2, toLex (0, 0))
  | .finite .negative mantissa exponent _ => toLex (-1, toLex (-exponent, -(mantissa : ℤ)))
  | .zero _ | .notANumber => toLex (0, toLex (0, 0))
  | .finite .positive mantissa exponent _ => toLex (1, toLex (exponent, (mantissa : ℤ)))
  | .infinity .positive => toLex (2, toLex (0, 0))

/-- The place of a number. -/
def place (x : Float) : Place :=
  placeOf x.toModel.unpack

theorem compare_neg (m n : ℤ) : compare (-m) (-n) = (compare m n).swap := by
  rw [← cmp_eq_compare, ← cmp_eq_compare, cmp_swap]
  exact StrictAnti.cmp_map_eq (fun _ _ => Int.neg_lt_neg) m n

theorem compare_natCast (m n : ℕ) : compare (m : ℤ) (n : ℤ) = compare m n := by
  rw [← cmp_eq_compare, ← cmp_eq_compare]
  exact Nat.strictMono_cast.cmp_map_eq m n

/-- Numbers compare as their places do. -/
theorem compare_unpacked {a b : UnpackedFloat} (ha : a.isNaN = false) (hb : b.isNaN = false) :
    a.compare b = some (compare (placeOf a) (placeOf b)) := by
  rcases a with (_ | _) | _ | (_ | _) | ⟨(_ | _), m, e, hm⟩ <;>
    rcases b with (_ | _) | _ | (_ | _) | ⟨(_ | _), n, f, hn⟩ <;>
    try first
      | rfl
      | exact absurd ha (by decide)
      | exact absurd hb (by decide)
  · -- of two negative numbers the greater magnitude stands further left
    change some ((compare e f).then (compare m n)).swap =
      some ((compare (-e) (-f)).then (compare (-(m : ℤ)) (-(n : ℤ))))
    rw [compare_neg, compare_neg, compare_natCast, Ordering.swap_then]
  · change some ((compare e f).then (compare m n)) =
      some ((compare e f).then (compare (m : ℤ) (n : ℤ)))
    rw [compare_natCast]

section Numbers

variable {x y z : Float}

theorem toModel_compare (hx : x.isNaN = false) (hy : y.isNaN = false) :
    x.toModel.unpack.compare y.toModel.unpack = some (compare (place x) (place y)) :=
  compare_unpacked hx hy

theorem lt_iff_place_lt (hx : x.isNaN = false) (hy : y.isNaN = false) :
    x < y ↔ place x < place y := by
  have h : x < y ↔ (x.toModel.unpack.compare y.toModel.unpack == some .lt) = true :=
    decide_eq_true_iff
  rw [h, toModel_compare hx hy, beq_iff_eq, Option.some_inj, compare_lt_iff_lt]

theorem le_iff_place_le (hx : x.isNaN = false) (hy : y.isNaN = false) :
    x ≤ y ↔ place x ≤ place y := by
  have h : x ≤ y ↔ (x.toModel.unpack.compare y.toModel.unpack).any Ordering.isLE = true :=
    decide_eq_true_iff
  rw [h, toModel_compare hx hy, Option.any_some, Ordering.isLE_iff_ne_gt]
  exact compare_le_iff_le

theorem beq_iff_place_eq (hx : x.isNaN = false) (hy : y.isNaN = false) :
    (x == y) = true ↔ place x = place y := by
  have h : (x == y) = (x.toModel.unpack.compare y.toModel.unpack == some .eq) := rfl
  rw [h, toModel_compare hx hy, beq_iff_eq, Option.some_inj, compare_eq_iff_eq]

theorem number_le_refl (hx : x.isNaN = false) : x ≤ x :=
  (le_iff_place_le hx hx).mpr (le_refl _)

theorem number_le_of_le_of_lt (hx : x.isNaN = false) (hy : y.isNaN = false)
    (hz : z.isNaN = false) (h : x ≤ y) (h' : y < z) : x ≤ z := by
  rw [le_iff_place_le hx hy] at h
  rw [lt_iff_place_lt hy hz] at h'
  exact (le_iff_place_le hx hz).mpr (h.trans h'.le)

theorem number_le_of_not_lt (hx : x.isNaN = false) (hy : y.isNaN = false) (h : ¬ x < y) :
    y ≤ x := by
  rw [lt_iff_place_lt hx hy, not_lt] at h
  exact (le_iff_place_le hy hx).mpr h

/-- Numbers that are at most each other compare equal. -/
theorem number_beq_of_le_of_le (hx : x.isNaN = false) (hy : y.isNaN = false) (h : x ≤ y)
    (h' : y ≤ x) : (x == y) = true := by
  rw [le_iff_place_le hx hy] at h
  rw [le_iff_place_le hy hx] at h'
  exact (beq_iff_place_eq hx hy).mpr (h.antisymm h')

end Numbers

end SteadyTask.Metric
