import Mathlib.Data.List.Sort

/-!
# Ranks

Where the elements of a list stand once it is sorted. What is equal may come in any order, so that an
element has a range of places.

## The model

* `InPlace` — the element at a place could stand there if the list were sorted.

## What is proved

* `inPlace_of_sorted`, `eq_of_inPlace` — in a sorted list all elements are in place, and a place
  tells what stands there.
* `exists_sorted_slice_iff` — a slice is a slice of the sorted list, exactly where its elements are in
  place.
-/

namespace OpenframeAdapters.Store

open scoped List

variable {α τ : Type} [LinearOrder τ]

/-- There are no more elements before `t` than places before `p`, and enough that are not after
it. -/
def InPlace (times : List τ) (p : ℕ) (t : τ) : Prop :=
  times.countP (· < t) ≤ p ∧ p < times.countP (· ≤ t)

instance (times : List τ) (p : ℕ) (t : τ) : Decidable (InPlace times p t) :=
  inferInstanceAs (Decidable (_ ∧ _))

theorem InPlace.perm {times times' : List τ} {p : ℕ} {t : τ} (h : InPlace times p t)
    (hperm : times.Perm times') : InPlace times' p t := by
  obtain ⟨hbefore, hafter⟩ := h
  exact ⟨hperm.countP_eq _ ▸ hbefore, hperm.countP_eq _ ▸ hafter⟩

theorem inPlace_append {before after : List τ} {t : τ}
    (h : (before ++ t :: after).Pairwise (· ≤ ·)) :
    InPlace (before ++ t :: after) before.length t := by
  obtain ⟨-, htail, hbetween⟩ := List.pairwise_append.mp h
  constructor
  · -- Nothing from `t` on is smaller.
    have hnone : (t :: after).countP (· < t) = 0 := by
      refine List.countP_eq_zero.mpr fun t' ht' => ?_
      simp only [decide_eq_true_eq, not_lt]
      rcases List.mem_cons.mp ht' with rfl | ht'
      · exact le_rfl
      · exact List.rel_of_pairwise_cons htail ht'
    rw [List.countP_append, hnone, Nat.add_zero]
    exact List.countP_le_length
  · -- Nothing up to `t` is greater.
    have hall : before.countP (· ≤ t) = before.length :=
      List.countP_eq_length.mpr fun t' ht' =>
        decide_eq_true (hbetween t' ht' t (List.mem_cons_self ..))
    have hself : 0 < (t :: after).countP (· ≤ t) :=
      List.countP_pos_iff.mpr ⟨t, List.mem_cons_self .., by simp⟩
    rw [List.countP_append, hall]
    exact Nat.lt_add_of_pos_right hself

/-- In a sorted list, everything is in place. -/
theorem inPlace_of_sorted {times : List τ} (h : times.Pairwise (· ≤ ·)) {p : ℕ}
    (hp : p < times.length) : InPlace times p times[p] := by
  have hsplit : times.take p ++ times[p] :: times.drop (p + 1) = times := by
    rw [← List.drop_eq_getElem_cons hp, List.take_append_drop]
  have hplace := inPlace_append (hsplit.symm ▸ h)
  rwa [hsplit, List.length_take_of_le (Nat.le_of_lt hp)] at hplace

/-- A place in a sorted list tells what stands there. -/
theorem eq_of_inPlace {times : List τ} (h : times.Pairwise (· ≤ ·)) {p : ℕ}
    (hp : p < times.length) {t : τ} (ht : InPlace times p t) : times[p] = t := by
  obtain ⟨hbefore, hafter⟩ := inPlace_of_sorted h hp
  rcases lt_trichotomy times[p] t with hlt | heq | hgt
  · have hle : times.countP (· ≤ times[p]) ≤ times.countP (· < t) :=
      List.countP_mono_left fun t' _ ht' => by
        simp only [decide_eq_true_eq] at ht' ⊢
        exact lt_of_le_of_lt ht' hlt
    have := ht.1
    omega
  · exact heq
  · have hle : times.countP (· ≤ t) ≤ times.countP (· < times[p]) :=
      List.countP_mono_left fun t' _ ht' => by
        simp only [decide_eq_true_eq] at ht' ⊢
        exact lt_of_le_of_lt ht' hgt
    have := ht.2
    omega

/-- The elements of the slice are in place. -/
def SliceInPlace (f : α → τ) (xs : List α) (limit offset : ℕ) : Prop :=
  ∀ p, offset ≤ p → p < offset + limit → ∀ hp : p < xs.length, InPlace (xs.map f) p (f xs[p])

variable {f : α → τ} {xs : List α} {limit offset : ℕ}

/-- The slice of a sorted list is in place, wherever else its elements stand as well. -/
theorem sliceInPlace_of_sorted {seq : List α} (hperm : seq.Perm xs)
    (hsorted : seq.Pairwise fun x y => f x ≤ f y)
    (hslice : (seq.drop offset).take limit = (xs.drop offset).take limit) :
    SliceInPlace f xs limit offset := by
  intro p hoffset hlimit hp
  have hpseq : p < seq.length := hperm.length_eq ▸ hp
  have hpmap : p < (seq.map f).length := by rwa [List.length_map]
  have hplace := (inPlace_of_sorted (List.pairwise_map.mpr hsorted) hpmap).perm (hperm.map f)
  have heq : seq[p]? = xs[p]? := by
    have hget := congrArg (fun l => l[p - offset]?) hslice
    have hsmall : p - offset < limit := by omega
    simp only [List.getElem?_take, List.getElem?_drop, if_pos hsmall] at hget
    rwa [Nat.add_sub_cancel' hoffset] at hget
  rw [List.getElem?_eq_getElem hpseq, List.getElem?_eq_getElem hp] at heq
  rw [List.getElem_map, Option.some.inj heq] at hplace
  exact hplace

/-- What is in place has the times of the sorted list. -/
theorem slice_times (h : SliceInPlace f xs limit offset) {times : List τ}
    (hperm : times.Perm (xs.map f)) (hsorted : times.Pairwise (· ≤ ·)) :
    (times.drop offset).take limit = ((xs.drop offset).take limit).map f := by
  have hlength : times.length = xs.length := by rw [hperm.length_eq, List.length_map]
  refine List.ext_getElem (by simp [hlength]) fun i hi hi' => ?_
  simp only [List.length_take, List.length_drop, List.length_map] at hi hi'
  simp only [List.getElem_take, List.getElem_drop, List.getElem_map]
  exact eq_of_inPlace hsorted (by omega)
    ((h (offset + i) (by omega) (by omega) (by omega)).perm hperm.symm)

/-- A list, in the order of `f`. -/
theorem exists_sorted (f : α → τ) (l : List α) :
    ∃ l' : List α, l'.Perm l ∧ l'.Pairwise fun x y => f x ≤ f y := by
  have hpairwise : (l.mergeSort fun x y => decide (f x ≤ f y)).Pairwise
      fun x y => decide (f x ≤ f y) = true := by
    refine List.pairwise_mergeSort (fun x y z hxy hyz => ?_) (fun x y => ?_) l
    · exact decide_eq_true ((of_decide_eq_true hxy).trans (of_decide_eq_true hyz))
    · simpa using le_total (f x) (f y)
  exact ⟨_, List.mergeSort_perm _ _, hpairwise.imp fun hxy => of_decide_eq_true hxy⟩

/-- A list is what stands before a slice, the slice, and what stands after it. -/
theorem take_slice_drop (xs : List α) (limit offset : ℕ) :
    xs.take offset ++ ((xs.drop offset).take limit ++ xs.drop (offset + limit)) = xs := by
  rw [← List.drop_drop, List.take_append_drop, List.take_append_drop]

theorem rest_append_slice (xs : List α) (limit offset : ℕ) :
    ((xs.take offset ++ xs.drop (offset + limit)) ++ (xs.drop offset).take limit).Perm xs := by
  conv_rhs => rw [← take_slice_drop xs limit offset]
  rw [List.append_assoc]
  exact List.perm_append_comm.append_left _

/-- What is not on the slice, sorted, has the times that the sorted list has elsewhere. -/
theorem rest_times (h : SliceInPlace f xs limit offset) {times : List τ}
    (hperm : times.Perm (xs.map f)) (hsorted : times.Pairwise (· ≤ ·)) {others : List α}
    (hothers : others.Perm (xs.take offset ++ xs.drop (offset + limit)))
    (hothersSorted : others.Pairwise fun x y => f x ≤ f y) :
    others.map f = times.take offset ++ times.drop (offset + limit) := by
  have hsub : (times.take offset ++ times.drop (offset + limit)).Sublist times := by
    conv_rhs => rw [← take_slice_drop times limit offset]
    exact (List.Sublist.refl _).append (List.sublist_append_right _ _)
  refine List.Perm.eq_of_pairwise' (List.pairwise_map.mpr hothersSorted) (hsorted.sublist hsub) ?_
  refine (List.perm_append_right_iff (((xs.drop offset).take limit).map f)).mp ?_
  calc others.map f ++ ((xs.drop offset).take limit).map f
      = (others ++ (xs.drop offset).take limit).map f := List.map_append.symm
    _ ~ xs.map f := ((hothers.append_right _).trans (rest_append_slice xs limit offset)).map f
    _ ~ times := hperm.symm
    _ ~ (times.take offset ++ times.drop (offset + limit)) ++ (times.drop offset).take limit :=
      (rest_append_slice times limit offset).symm
    _ = _ := by rw [slice_times h hperm hsorted]

/-- What is in place is a slice of a sorted list. -/
theorem exists_sorted_slice (h : SliceInPlace f xs limit offset) :
    ∃ seq : List α, seq.Perm xs ∧ (seq.Pairwise fun x y => f x ≤ f y) ∧
      (seq.drop offset).take limit = (xs.drop offset).take limit := by
  by_cases hle : offset ≤ xs.length
  · obtain ⟨times, hperm, hsorted⟩ := exists_sorted id (xs.map f)
    obtain ⟨others, hothers, hothersSorted⟩ :=
      exists_sorted f (xs.take offset ++ xs.drop (offset + limit))
    have htimes := rest_times h hperm hsorted hothers hothersSorted
    have hlength : times.length = xs.length := by rw [hperm.length_eq, List.length_map]
    have hbefore : (times.take offset).length = offset :=
      List.length_take_of_le (hlength ▸ hle)
    have hothersLength : others.length = offset + (xs.length - (offset + limit)) := by
      rw [hothers.length_eq, List.length_append, List.length_take_of_le hle, List.length_drop]
    refine ⟨others.take offset ++ ((xs.drop offset).take limit ++ others.drop offset), ?_, ?_, ?_⟩
    · calc others.take offset ++ ((xs.drop offset).take limit ++ others.drop offset)
          ~ others.take offset ++ (others.drop offset ++ (xs.drop offset).take limit) :=
            List.perm_append_comm.append_left _
        _ = others ++ (xs.drop offset).take limit := by
            rw [← List.append_assoc, List.take_append_drop]
        _ ~ xs := (hothers.append_right _).trans (rest_append_slice xs limit offset)
    · refine List.pairwise_map.mp ?_
      rw [List.map_append, List.map_append, List.map_take, List.map_drop, htimes,
        List.take_left' hbefore, List.drop_left' hbefore, ← slice_times h hperm hsorted,
        take_slice_drop]
      exact hsorted
    · have hfront : (others.take offset).length = offset :=
        List.length_take_of_le (by omega)
      rw [List.drop_left' hfront]
      by_cases hfull : offset + limit ≤ xs.length
      · exact List.take_left' (by rw [List.length_take, List.length_drop]; omega)
      · have hnone : others.drop offset = [] := List.drop_eq_nil_of_le (by omega)
        rw [hnone, List.append_nil, List.take_take, Nat.min_self]
  · obtain ⟨seq, hperm, hsorted⟩ := exists_sorted f xs
    refine ⟨seq, hperm, hsorted, ?_⟩
    rw [List.drop_eq_nil_of_le (by rw [hperm.length_eq]; omega), List.drop_eq_nil_of_le (by omega)]

/-- **Slices of a sorted list** are those whose elements are in place. -/
theorem exists_sorted_slice_iff :
    (∃ seq : List α, seq.Perm xs ∧ (seq.Pairwise fun x y => f x ≤ f y) ∧
      (seq.drop offset).take limit = (xs.drop offset).take limit) ↔
      SliceInPlace f xs limit offset :=
  ⟨fun ⟨_, hperm, hsorted, hslice⟩ => sliceInPlace_of_sorted hperm hsorted hslice,
    exists_sorted_slice⟩

end OpenframeAdapters.Store
