import Mathlib.Data.Finmap
import Mathlib.Data.Finset.Sort

/-!
# Keyed stores

What a store of values under keys holds: a finite map, and the listing of its values in the order
of their keys.
-/

namespace OpenframeAdapters.Store

/-- A finite map. -/
abbrev Keyed (K V : Type) := Finmap fun _ : K => V

namespace Keyed

section Lookup

variable {K V : Type} [DecidableEq K] {k k' : K} {v : V} {m : Keyed K V}

theorem lookup_insert_eq :
    (m.insert k v).lookup k' = if k' = k then some v else m.lookup k' := by
  split_ifs with hk
  · rw [hk, Finmap.lookup_insert]
  · exact Finmap.lookup_insert_of_ne m hk

theorem lookup_erase_eq : (m.erase k).lookup k' = if k' = k then none else m.lookup k' := by
  split_ifs with hk
  · rw [hk, Finmap.lookup_erase]
  · exact Finmap.lookup_erase_ne hk

theorem erase_of_lookup (h : m.lookup k = none) : m.erase k = m := by
  refine Finmap.ext_lookup fun k' => ?_
  rw [lookup_erase_eq]
  split_ifs with hk
  · rw [hk, h]
  · rfl

/-- Nothing is left to erase. -/
theorem insert_of_lookup (h : m.lookup k = some v) : m.insert k v = m := by
  refine Finmap.ext_lookup fun k' => ?_
  rw [lookup_insert_eq]
  split_ifs with hk
  · rw [hk, h]
  · rfl

theorem erase_erase_self (m : Keyed K V) (k : K) : (m.erase k).erase k = m.erase k :=
  erase_of_lookup (Finmap.lookup_erase k m)

end Lookup

section InOrder

variable {K V : Type} [LinearOrder K]

/-- The keys in order. -/
abbrev sortedKeys (m : Keyed K V) : List K := m.keys.sort (· ≤ ·)

/-- The values in the order of their keys. -/
def inOrder (m : Keyed K V) : List V := m.sortedKeys.filterMap m.lookup

theorem length_inOrder (m : Keyed K V) : m.inOrder.length = m.keys.card := by
  rw [inOrder, List.length_filterMap_eq_countP, List.countP_eq_length.mpr, Finset.length_sort]
  intro k hk
  rw [Finset.mem_sort, Finmap.mem_keys] at hk
  exact Finmap.lookup_isSome.mpr hk

omit [LinearOrder K] in
/-- Where every element has a value, a page of the values is the values of a page. -/
theorem take_drop_filterMap {f : K → Option V} {l : List K} (h : ∀ x ∈ l, (f x).isSome = true)
    (n k : ℕ) : ((l.filterMap f).drop n).take k = ((l.drop n).take k).filterMap f := by
  induction l generalizing n k with
  | nil => simp
  | cons x l ih =>
    obtain ⟨v, hv⟩ := Option.isSome_iff_exists.mp (h x (List.mem_cons_self ..))
    have ih := ih fun y hy => h y (List.mem_cons_of_mem _ hy)
    rw [List.filterMap_cons_some hv]
    cases n with
    | succ n => exact ih n k
    | zero =>
      cases k with
      | zero => rfl
      | succ k =>
        have hrest := ih 0 k
        rw [List.drop_zero, List.drop_zero] at hrest
        rw [List.drop_zero, List.drop_zero, List.take_succ_cons, List.take_succ_cons,
          List.filterMap_cons_some hv, hrest]

theorem take_drop_inOrder (m : Keyed K V) (n k : ℕ) :
    (m.inOrder.drop n).take k = (((m.keys.sort (· ≤ ·)).drop n).take k).filterMap m.lookup := by
  refine take_drop_filterMap (fun x hx => ?_) n k
  rw [Finset.mem_sort, Finmap.mem_keys] at hx
  exact Finmap.lookup_isSome.mpr hx

end InOrder

end Keyed

end OpenframeAdapters.Store
