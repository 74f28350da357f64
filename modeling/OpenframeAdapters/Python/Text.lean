import Mathlib.Data.List.Basic

/-!
# Python strings

`s.replace(old, new)` replaces every occurrence of `old`, from left to right. Where `old` is one
character, each character is replaced on its own.
-/

namespace OpenframeAdapters.Python

open String.Slice String.Slice.Pattern String.Slice.Pattern.Model

section Replace

variable {s : String.Slice} {c : Char} {new : String}

/-- What one step of the search adds. -/
def replaceStep (s : String.Slice) (new : String) (sofar : String) : SearchStep s → String
  | .matched .. => sofar ++ new.toSlice
  | .rejected start stop => sofar ++ s.slice! start stop

/-- A stretch that the search has rejected does not have the character. -/
theorem ne_of_rejected {start stop : s.Pos} {t₁ t₂ u : String} (hstart : start.Splits t₁ (u ++ t₂))
    (hstop : stop.Splits (t₁ ++ u) t₂)
    (hno : ∀ p, start ≤ p → p < stop → ¬ MatchesAt (String.singleton c) p) : c ∉ u.toList := by
  intro hc
  obtain ⟨a, b, hab⟩ := List.append_of_mem hc
  have hu : u = String.ofList a ++ (String.singleton c ++ String.ofList b) := by
    rw [← String.toList_inj, hab]
    simp
  have hcopy : s.copy = (t₁ ++ String.ofList a) ++ (String.singleton c ++ (String.ofList b ++ t₂)) := by
    rw [hstart.eq_append, hu]
    simp only [String.append_assoc]
  have hp := Pos.splits_ofEqAppend hcopy
  refine hno _ ?_ ?_ (ForwardStringSearcher.matchesAt_iff_splits.mpr ⟨_, _, hp⟩)
  · refine (hstart.le_iff_exists_eq_append hp).mpr ⟨String.ofList a, rfl, ?_⟩
    rw [hu]
    simp only [String.append_assoc]
  · refine (hp.lt_iff_exists_eq_append hstop).mpr
      ⟨String.singleton c ++ String.ofList b, by simp, ?_, ?_⟩
    · rw [hu]
      simp only [String.append_assoc]
    · simp only [String.append_assoc]

variable (new) in
/-- The steps of a search, from the place that it begins at. -/
theorem foldl_replaceStep {p : s.Pos} {steps : List (SearchStep s)}
    (h : IsValidSearchFrom (String.singleton c) p steps) {t₁ t₂ : String} (hp : p.Splits t₁ t₂)
    (sofar : String) : (steps.foldl (replaceStep s new) sofar).toList =
      sofar.toList ++ t₂.toList.flatMap fun d => if d = c then new.toList else [d] := by
  induction h generalizing t₁ t₂ sofar with
  | endPos =>
    obtain rfl := Pos.Splits.eq_right hp s.splits_endPos
    simp
  | matched hmatch _ ih =>
    obtain ⟨u₁, u₂, h₁, h₂⟩ := ForwardStringSearcher.isLongestMatchAt_iff_splits.mp hmatch
    obtain rfl := hp.eq_right h₁
    rw [List.foldl_cons, ih h₂]
    simp [replaceStep]
  | @mismatched steps start stop hlt hno _ ih =>
    have hstop := stop.splits
    obtain ⟨u, -, hleft, rfl⟩ := (hp.lt_iff_exists_eq_append hstop).mp hlt
    rw [hleft] at hstop
    have hslice : (s.slice! start stop).copy = u := by
      obtain ⟨hle, hslice⟩ := copy_slice_eq_iff_splits.mpr ⟨t₁, _, hp, hstop⟩
      rw [← slice_eq_slice! (h := hle), hslice]
    have hkeep : (u.toList.flatMap fun d => if d = c then new.toList else [d]) = u.toList := by
      have hne : ∀ d ∈ u.toList, d ≠ c := fun d hd heq => ne_of_rejected hp hstop hno (heq ▸ hd)
      rw [List.flatMap_congr fun d hd => if_neg (hne d hd), List.flatMap_singleton']
    have hstep : (replaceStep s new sofar (.rejected start stop)).toList =
        sofar.toList ++ u.toList := by
      rw [← hslice]
      simp [replaceStep]
    rw [List.foldl_cons, ih hstop, hstep, String.toList_append, List.flatMap_append, hkeep,
      List.append_assoc]

/-- **Replacement** of one character. -/
theorem toList_replace (s new : String) (c : Char) :
    (s.replace (String.singleton c) new).toList =
      s.toList.flatMap fun d => if d = c then new.toList else [d] := by
  have hne : String.singleton c ≠ "" := by simp
  have hmodel := ForwardStringSearcher.lawfulToForwardSearcherModel hne
  have hsteps := foldl_replaceStep new (hmodel.isValidSearchFrom_toList s.toSlice)
    (splits_startPos _) ""
  unfold String.replace String.Slice.replace
  rw [← Std.Iter.foldl_toList]
  refine Eq.trans (congrArg (fun f => (List.foldl f "" _).toList) ?_) (hsteps.trans ?_)
  · funext sofar step
    cases step <;> rfl
  · simp

end Replace

end OpenframeAdapters.Python
