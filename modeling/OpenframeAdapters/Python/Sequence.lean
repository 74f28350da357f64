import Mathlib.Data.Int.Notation
import Mathlib.Data.Nat.Notation

/-!
# Python lists

The bounds of a slice count from the end of the list where they are negative, and are clipped
to the list.
-/

namespace OpenframeAdapters.Python

variable {α : Type}

/-- The bound `i` of a slice, in a list of length `n`. -/
def sliceBound (n : ℕ) (i : ℤ) : ℕ := if i < 0 then (n + i).toNat else i.toNat

/-- `xs[i:j]`. -/
def slice (xs : List α) (i j : ℤ) : List α :=
  (xs.take (sliceBound xs.length j)).drop (sliceBound xs.length i)

theorem sliceBound_natCast (n m : ℕ) : sliceBound n m = m := by
  rw [sliceBound, if_neg (Int.not_lt.mpr (Int.natCast_nonneg m)), Int.toNat_natCast]

/-- A slice within the list is what is left after dropping and taking. -/
theorem slice_natCast (xs : List α) (offset limit : ℕ) :
    slice xs offset (offset + limit) = (xs.drop offset).take limit := by
  have h := sliceBound_natCast xs.length (offset + limit)
  rw [Int.natCast_add] at h
  rw [slice, sliceBound_natCast, h, List.drop_take, Nat.add_sub_cancel_left]

/-- `xs[i:]`. -/
theorem slice_length (xs : List α) (i : ℕ) : slice xs i xs.length = xs.drop i := by
  rw [slice, sliceBound_natCast, sliceBound_natCast, List.take_length]

end OpenframeAdapters.Python
