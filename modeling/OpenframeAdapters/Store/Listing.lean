import OpenframeAdapters.Store.Keyed

/-!
# Listed stores

A store may hold its values as a list, each with a key of its own.

## The model

`Lists key l m` — the list has the values of a finite map, in some order.

## What is proved

* `Lists.filter_key` — what a search by the key finds.
* `Lists.append`, `Lists.remove`, `Lists.replace` — adding, removing and changing a value.
* `Lists.length`, `Lists.eq_inOrder` — the number of the values, and the values in the order of their
  keys.
-/

namespace OpenframeAdapters.Store

variable {K V : Type} {key : V → Option K} {l l' : List V} {m : Keyed K V} {k : K} {v : V}

section Lists

variable [DecidableEq K]

/-- The list has the values of the map. -/
structure Lists (key : V → Option K) (l : List V) (m : Keyed K V) : Prop where
  /-- All values have keys. -/
  keyed : ∀ v ∈ l, ∃ k, key v = some k
  /-- No two of them have the same. -/
  distinct : l.Pairwise fun v w => key v ≠ key w
  /-- They are the values of the map, under these keys. -/
  lookup : ∀ k v, m.lookup k = some v ↔ v ∈ l ∧ key v = some k

theorem Lists.nil : Lists key [] (∅ : Keyed K V) where
  keyed := by simp
  distinct := .nil
  lookup := by simp

theorem Lists.key_ne (h : Lists key l m) (hk : m.lookup k = none) (hv : v ∈ l) : key v ≠ some k := by
  intro hkey
  have hlookup := (h.lookup k v).mpr ⟨hv, hkey⟩
  rw [hk] at hlookup
  cases hlookup

/-- **Searching** by a key finds what is stored under it. -/
theorem Lists.filter_key (h : Lists key l m) (k : K) :
    l.filter (fun v => key v = some k) = (m.lookup k).toList := by
  have hall : ∀ v ∈ l.filter (fun v => key v = some k), v ∈ l ∧ key v = some k := by simp
  have hdistinct := h.distinct.sublist (List.filter_sublist (p := fun v => key v = some k))
  cases hm : m.lookup k with
  | none =>
    apply List.filter_eq_nil_iff.mpr
    intro v hv
    simpa using h.key_ne hm hv
  | some v =>
    have hv : v ∈ l.filter (fun v => key v = some k) := by simpa using (h.lookup k v).mp hm
    generalize l.filter (fun v => key v = some k) = found at hall hdistinct hv
    match found with
    | [] => cases hv
    | [w] => rw [List.mem_singleton.mp hv]; rfl
    | a :: b :: rest =>
      -- two values with the same key
      have ha := (hall a (by simp)).2
      have hb := (hall b (by simp)).2
      have hne := (List.pairwise_cons.mp hdistinct).1 b (by simp)
      exact absurd (ha.trans hb.symm) hne

/-- **Adding** a value under a new key. -/
theorem Lists.append (h : Lists key l m) (hk : m.lookup k = none) (hv : key v = some k) :
    Lists key (l ++ [v]) (m.insert k v) where
  keyed w hw := by
    rcases List.mem_append.mp hw with hw | hw
    · exact h.keyed w hw
    · rw [List.mem_singleton.mp hw]
      exact ⟨k, hv⟩
  distinct := by
    refine List.pairwise_append.mpr ⟨h.distinct, List.pairwise_singleton _ _, fun w hw v' hv' => ?_⟩
    rw [List.mem_singleton.mp hv', hv]
    exact h.key_ne hk hw
  lookup k' w := by
    rw [Keyed.lookup_insert_eq, List.mem_append, List.mem_singleton]
    by_cases hk' : k' = k
    · subst hk'
      rw [if_pos rfl]
      constructor
      · intro hw
        obtain rfl := Option.some.inj hw
        exact ⟨.inr rfl, hv⟩
      · rintro ⟨hw | rfl, hkey⟩
        · exact absurd hkey (h.key_ne hk hw)
        · rfl
    · rw [if_neg hk', h.lookup]
      constructor
      · rintro ⟨hw, hkey⟩
        exact ⟨.inl hw, hkey⟩
      · rintro ⟨hw | rfl, hkey⟩
        · exact ⟨hw, hkey⟩
        · exact absurd (Option.some.inj (hkey.symm.trans hv)) hk'

/-- **Removing** what is stored under a key. -/
theorem Lists.remove (h : Lists key l m) (k : K) :
    Lists key (l.filter fun v => key v ≠ some k) (m.erase k) where
  keyed v hv := h.keyed v (List.mem_of_mem_filter hv)
  distinct := h.distinct.sublist List.filter_sublist
  lookup k' v := by
    rw [Keyed.lookup_erase_eq, List.mem_filter]
    by_cases hk' : k' = k
    · subst hk'
      simp
    · rw [if_neg hk', h.lookup]
      constructor
      · rintro ⟨hv, hkey⟩
        simp [hv, hkey, hk']
      · rintro ⟨⟨hv, -⟩, hkey⟩
        exact ⟨hv, hkey⟩

/-- **Changing** what is stored under a key, without its key. -/
theorem Lists.replace (h : Lists key l m) (f : V → V) (hf : ∀ v, key v = some k → key (f v) = some k)
    (hk : m.lookup k = some v) :
    Lists key (l.map fun w => if key w = some k then f w else w) (m.insert k (f v)) := by
  have hkey : ∀ w, key (if key w = some k then f w else w) = key w := by
    intro w
    by_cases hw : key w = some k
    · rw [if_pos hw, hf w hw, hw]
    · rw [if_neg hw]
  refine ⟨fun w hw => ?_, ?_, fun k' w => ?_⟩
  · obtain ⟨w₀, hw₀, rfl⟩ := List.mem_map.mp hw
    rw [hkey]
    exact h.keyed w₀ hw₀
  · rw [List.pairwise_map]
    simpa only [hkey] using h.distinct
  · rw [Keyed.lookup_insert_eq, List.mem_map]
    by_cases hk' : k' = k
    · subst hk'
      obtain ⟨hv, hvkey⟩ := (h.lookup k' v).mp hk
      rw [if_pos rfl]
      constructor
      · intro hw
        obtain rfl := Option.some.inj hw
        exact ⟨⟨v, hv, if_pos hvkey⟩, hf v hvkey⟩
      · rintro ⟨⟨w, hw, rfl⟩, hwkey⟩
        rw [hkey] at hwkey
        have hsame : v = w := Option.some.inj (hk.symm.trans ((h.lookup k' w).mpr ⟨hw, hwkey⟩))
        rw [if_pos hwkey, hsame]
    · rw [if_neg hk', h.lookup]
      constructor
      · rintro ⟨hw, hwkey⟩
        refine ⟨⟨w, hw, if_neg ?_⟩, hwkey⟩
        rw [hwkey]
        simpa using hk'
      · rintro ⟨⟨w, hw, rfl⟩, hwkey⟩
        have hold := (hkey w).symm.trans hwkey
        have hne : key w ≠ some k := by
          rw [hold]
          simpa using hk'
        rw [if_neg hne]
        exact ⟨hw, hold⟩

/-- The keys of the list. -/
theorem Lists.mem_keys (h : Lists key l m) (k : K) : k ∈ l.filterMap key ↔ k ∈ m.keys := by
  rw [List.mem_filterMap, Finmap.mem_keys, ← Finmap.lookup_isSome, Option.isSome_iff_exists]
  exact exists_congr fun v => (h.lookup k v).symm

theorem Lists.nodup_keys (h : Lists key l m) : (l.filterMap key).Nodup := by
  refine List.Pairwise.filterMap key (fun v w hne a ha b hb => ?_) h.distinct
  rintro rfl
  exact hne (ha.trans hb.symm)

/-- **The number** of the values. -/
theorem Lists.length (h : Lists key l m) : l.length = m.keys.card := by
  have hkeys : (l.filterMap key).toFinset = m.keys := by
    ext k
    rw [List.mem_toFinset, h.mem_keys]
  have hall : (l.filterMap key).length = l.length := by
    rw [List.length_filterMap_eq_countP, List.countP_eq_length]
    intro v hv
    obtain ⟨k, hk⟩ := h.keyed v hv
    rw [hk, Option.isSome_some]
  rw [← hall, ← hkeys, List.toFinset_card_of_nodup h.nodup_keys]

/-- The order of the list makes no difference. -/
theorem Lists.perm (h : Lists key l m) (hl : l'.Perm l) : Lists key l' m where
  keyed v hv := h.keyed v (hl.mem_iff.mp hv)
  distinct := (hl.pairwise_iff fun hne => hne.symm).mpr h.distinct
  lookup k v := by rw [h.lookup, hl.mem_iff]

end Lists

/-- **In order**: a list that is sorted by its keys. -/
theorem Lists.eq_inOrder [LinearOrder K] (h : Lists key l m) (hl : l'.Perm l)
    (hsorted : l'.Pairwise fun v w => ∀ a b, key v = some a → key w = some b → a ≤ b) :
    l' = m.inOrder := by
  have hl' := h.perm hl
  have hkeys : l'.filterMap key = m.sortedKeys := by
    have hperm : (l'.filterMap key).Perm m.sortedKeys := by
      rw [List.perm_ext_iff_of_nodup hl'.nodup_keys (m.keys.sort_nodup _)]
      intro k
      rw [hl'.mem_keys, Finset.mem_sort]
    refine hperm.eq_of_pairwise' ?_ (Finset.pairwise_sort _ _)
    exact List.Pairwise.filterMap key (fun v w hle a ha b hb => hle a b ha hb) hsorted
  rw [Keyed.inOrder, ← hkeys, List.filterMap_filterMap]
  have hself : ∀ v ∈ l', (key v).bind m.lookup = some v := by
    intro v hv
    obtain ⟨k, hk⟩ := hl'.keyed v hv
    rw [hk, Option.bind_some]
    exact (hl'.lookup k v).mpr ⟨hv, hk⟩
  rw [List.filterMap_congr hself, List.filterMap_some]

end OpenframeAdapters.Store
