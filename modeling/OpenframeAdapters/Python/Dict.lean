import Mathlib.Data.List.Nodup

/-!
# Python dictionaries

A `dict` keeps its items in the order their keys were first inserted, and has no
key twice. Assigning to a key that is present changes its value in place. A dict
comprehension assigns its pairs one after the other, so a later pair wins.
-/

namespace OpenframeAdapters.Python

variable {κ ν : Type} [DecidableEq κ]

/-- `d[k] = v`, on the items of `d`. -/
def setItem (k : κ) (v : ν) : List (κ × ν) → List (κ × ν)
  | [] => [(k, v)]
  | (k', v') :: rest => if k' = k then (k, v) :: rest else (k', v') :: setItem k v rest

/-- Assignment adds the key at the end when it is new, and moves no other key. -/
theorem map_fst_setItem (k : κ) (v : ν) (items : List (κ × ν)) :
    (setItem k v items).map Prod.fst =
      if k ∈ items.map Prod.fst then items.map Prod.fst else items.map Prod.fst ++ [k] := by
  induction items with
  | nil => simp [setItem]
  | cons item rest ih =>
    obtain ⟨k', v'⟩ := item
    by_cases hk : k' = k
    · simp [setItem, hk]
    · simp only [setItem, hk, if_false, List.map_cons, ih, List.mem_cons, Ne.symm hk, false_or]
      split_ifs <;> rfl

theorem nodup_setItem {k : κ} {v : ν} {items : List (κ × ν)} (h : (items.map Prod.fst).Nodup) :
    ((setItem k v items).map Prod.fst).Nodup := by
  rw [map_fst_setItem]
  split_ifs with hk
  · exact h
  · rw [← List.concat_eq_append]
    exact h.concat hk

theorem lookup_cons (k k' : κ) (v : ν) (items : List (κ × ν)) :
    ((k', v) :: items).lookup k = if k = k' then some v else items.lookup k := by
  rw [List.lookup_cons]
  by_cases hk : k = k'
  · simp [hk]
  · simp [hk, beq_eq_false_iff_ne.mpr hk]

/-- A new key goes to the end. -/
theorem setItem_of_notMem {k : κ} {v : ν} {items : List (κ × ν)} (h : k ∉ items.map Prod.fst) :
    setItem k v items = items ++ [(k, v)] := by
  induction items with
  | nil => rfl
  | cons item rest ih =>
    rw [List.map_cons, List.mem_cons, not_or] at h
    rw [setItem, if_neg (Ne.symm h.1), ih h.2, List.cons_append]

/-- A key has its new value, and the other keys keep theirs. -/
theorem lookup_setItem (k k' : κ) (v : ν) (items : List (κ × ν)) :
    (setItem k v items).lookup k' = if k' = k then some v else items.lookup k' := by
  induction items with
  | nil => exact lookup_cons k' k v []
  | cons item rest ih =>
    obtain ⟨k₁, v₁⟩ := item
    rw [setItem]
    split_ifs with hk₁ hk hk
    · rw [lookup_cons, if_pos hk]
    · rw [lookup_cons, lookup_cons, if_neg hk, if_neg (hk₁ ▸ hk)]
    · rw [lookup_cons, ih, if_pos hk, if_neg (hk ▸ Ne.symm hk₁)]
    · rw [lookup_cons, lookup_cons, ih, if_neg hk]

/-- Assigning the value that a key has changes nothing. -/
theorem setItem_of_lookup {k : κ} {v : ν} {items : List (κ × ν)} (h : items.lookup k = some v) :
    setItem k v items = items := by
  induction items with
  | nil => cases h
  | cons item rest ih =>
    obtain ⟨k₁, v₁⟩ := item
    rw [lookup_cons] at h
    rw [setItem]
    split_ifs with hk
    · rw [if_pos hk.symm] at h
      rw [hk, Option.some.inj h]
    · rw [if_neg (Ne.symm hk)] at h
      rw [ih h]

/-- A `dict`. -/
structure Dict (κ ν : Type) where
  /-- `d.items()`. -/
  items : List (κ × ν)
  /-- No key occurs twice. -/
  nodup : (items.map Prod.fst).Nodup

namespace Dict

/-- `{}`. -/
def empty : Dict κ ν := ⟨[], List.nodup_nil⟩

/-- `d[k] = v`. -/
def set (d : Dict κ ν) (k : κ) (v : ν) : Dict κ ν := ⟨setItem k v d.items, nodup_setItem d.nodup⟩

/-- `{k: v for k, v in pairs}`. -/
def ofPairs (pairs : List (κ × ν)) : Dict κ ν := pairs.foldl (fun d p => d.set p.1 p.2) empty

/-- `d.get(k)`. -/
def get? (d : Dict κ ν) (k : κ) : Option ν := d.items.lookup k

/-- `{k: v for k, v in d.items() if p(k)}`. -/
def filter (d : Dict κ ν) (p : κ → Bool) : Dict κ ν :=
  ⟨d.items.filter fun item => p item.1, d.nodup.sublist (List.filter_sublist.map _)⟩

/-- `d.update(e)`. -/
def update (d e : Dict κ ν) : Dict κ ν := e.items.foldl (fun d item => d.set item.1 item.2) d

/-- `d.pop(k, None)`, what is left of `d`. -/
def erase (d : Dict κ ν) (k : κ) : Dict κ ν := d.filter (· ≠ k)

/-- `d == e`: the items are the same, in any order. -/
def Alike (d e : Dict κ ν) : Prop := ∀ k, d.get? k = e.get? k

omit [DecidableEq κ] in
theorem map_fst_map {ω : Type} (f : ν → ω) (items : List (κ × ν)) :
    (items.map fun item => (item.1, f item.2)).map Prod.fst = items.map Prod.fst := by
  rw [List.map_map]
  rfl

/-- `{k: f(v) for k, v in d.items()}`. -/
def map {ω : Type} (f : ν → ω) (d : Dict κ ν) : Dict κ ω :=
  ⟨d.items.map fun item => (item.1, f item.2), (map_fst_map f d.items).symm ▸ d.nodup⟩

section Lookup

variable {d e : Dict κ ν} {k k' : κ} {v : ν}

@[simp] theorem get?_empty : (empty : Dict κ ν).get? k = none := rfl

@[simp] theorem get?_set : (d.set k v).get? k' = if k' = k then some v else d.get? k' :=
  lookup_setItem k k' v d.items

/-- The item of a key. -/
theorem get?_eq_some_iff : d.get? k = some v ↔ (k, v) ∈ d.items := by
  obtain ⟨items, hnodup⟩ := d
  change items.lookup k = some v ↔ (k, v) ∈ items
  induction items with
  | nil => simp
  | cons item rest ih =>
    obtain ⟨k₁, v₁⟩ := item
    rw [List.map_cons, List.nodup_cons] at hnodup
    rw [lookup_cons, List.mem_cons]
    by_cases hk : k = k₁
    · have hrest : (k, v) ∉ rest := fun h =>
        hnodup.1 (List.mem_map.mpr ⟨(k, v), h, hk⟩)
      simp [hk, hk ▸ hrest, eq_comm]
    · simp [hk, ih hnodup.2]

/-- The keys that have a value are those of the items. -/
theorem get?_eq_none_iff : d.get? k = none ↔ k ∉ d.items.map Prod.fst := by
  rw [Option.eq_none_iff_forall_ne_some]
  simp only [ne_eq, get?_eq_some_iff, List.mem_map, Prod.exists, exists_and_right, exists_eq_right,
    not_exists]

@[simp] theorem get?_filter {p : κ → Bool} :
    (d.filter p).get? k = if p k = true then d.get? k else none := by
  refine Option.ext fun v => ?_
  rw [get?_eq_some_iff, filter, List.mem_filter, ← get?_eq_some_iff]
  by_cases hp : p k = true <;> simp [hp]

@[simp] theorem get?_erase : (d.erase k).get? k' = if k' = k then none else d.get? k' := by
  rw [erase, get?_filter]
  by_cases hk : k' = k <;> simp [hk]

theorem erase_eq_self (h : d.get? k = none) : d.erase k = d := by
  have hk := get?_eq_none_iff.mp h
  have hitems : (d.erase k).items = d.items := by
    refine List.filter_eq_self.mpr fun item hitem => ?_
    have hne : item.1 ≠ k := by
      rintro rfl
      exact hk (List.mem_map_of_mem hitem)
    exact decide_eq_true hne
  cases d
  simpa [erase, filter] using hitems

theorem get?_foldl_set (items : List (κ × ν)) (d : Dict κ ν) (k : κ) :
    (items.foldl (fun d item => d.set item.1 item.2) d).get? k =
      (items.reverse.lookup k).or (d.get? k) := by
  induction items generalizing d with
  | nil => rfl
  | cons item rest ih =>
    rw [List.foldl_cons, ih, get?_set, List.reverse_cons, List.lookup_append]
    rw [show [item] = (item.1, item.2) :: [] from rfl, lookup_cons]
    by_cases hk : k = item.1
    · cases rest.reverse.lookup k <;> simp [hk]
    · cases rest.reverse.lookup k <;> simp [hk]

/-- An update takes the values of the other dictionary where it has any. -/
@[simp] theorem get?_update : (d.update e).get? k = (e.get? k).or (d.get? k) := by
  have hreverse : ((e.items.reverse).map Prod.fst).Nodup := by
    rw [List.map_reverse, List.nodup_reverse]
    exact e.nodup
  have hlookup : e.items.reverse.lookup k = e.get? k := by
    refine Option.ext fun v => ?_
    have h := get?_eq_some_iff (d := ⟨e.items.reverse, hreverse⟩) (k := k) (v := v)
    rw [get?] at h
    rw [h, List.mem_reverse, get?_eq_some_iff]
  rw [update, get?_foldl_set, hlookup]

theorem get?_update_of_ne_none (h : e.get? k ≠ none) : (d.update e).get? k = e.get? k := by
  obtain ⟨v, hv⟩ := Option.ne_none_iff_exists'.mp h
  rw [get?_update, hv]
  rfl

theorem get?_update_of_none (h : e.get? k = none) : (d.update e).get? k = d.get? k := by
  rw [get?_update, h]
  rfl

theorem set_eq_self (h : d.get? k = some v) : d.set k v = d := by
  obtain ⟨items, hnodup⟩ := d
  exact Dict.mk.injEq .. ▸ setItem_of_lookup h

/-- An update with values that are there changes nothing. -/
theorem update_eq_self (h : ∀ k v, e.get? k = some v → d.get? k = some v) : d.update e = d := by
  have hitems : ∀ item ∈ e.items, d.get? item.1 = some item.2 := fun item hitem =>
    h item.1 item.2 (get?_eq_some_iff.mpr hitem)
  unfold update
  generalize e.items = items at hitems
  induction items with
  | nil => rfl
  | cons item rest ih =>
    obtain ⟨hitem, hrest⟩ := List.forall_mem_cons.mp hitems
    rw [List.foldl_cons, set_eq_self hitem]
    exact ih hrest

/-- Assigning new keys one after the other adds them in order. -/
theorem items_foldl_set {items : List (κ × ν)} {d : Dict κ ν}
    (h : (d.items.map Prod.fst ++ items.map Prod.fst).Nodup) :
    (items.foldl (fun d item => d.set item.1 item.2) d).items = d.items ++ items := by
  induction items generalizing d with
  | nil => rw [List.foldl_nil, List.append_nil]
  | cons item rest ih =>
    have hnew : item.1 ∉ d.items.map Prod.fst := by
      intro hmem
      exact (List.disjoint_of_nodup_append h) hmem (List.mem_cons_self ..)
    have hitems : (d.set item.1 item.2).items = d.items ++ [item] := setItem_of_notMem hnew
    rw [List.foldl_cons, ih, hitems, List.append_assoc, List.singleton_append]
    rwa [hitems, List.map_append, List.append_assoc]

/-- Of several pairs with a key, the last one wins. -/
theorem get?_ofPairs (pairs : List (κ × ν)) (k : κ) :
    (ofPairs pairs).get? k = pairs.reverse.lookup k :=
  (get?_foldl_set pairs empty k).trans (Option.or_none ..)

/-- Keys with a value that depends on the key alone. -/
theorem get?_ofPairs_map (keys : List κ) (f : κ → ν) (k : κ) :
    (ofPairs (keys.map fun key => (key, f key))).get? k = if k ∈ keys then some (f k) else none := by
  have hreverse : k ∈ keys ↔ k ∈ keys.reverse := List.mem_reverse.symm
  rw [get?_ofPairs, ← List.map_reverse]
  simp only [hreverse]
  induction keys.reverse with
  | nil => rfl
  | cons key rest ih =>
    rw [List.map_cons, lookup_cons, ih]
    by_cases hk : k = key <;> simp [hk]

theorem ofPairs_items (d : Dict κ ν) : ofPairs d.items = d := by
  have h := items_foldl_set (d := empty) d.nodup
  obtain ⟨items, hnodup⟩ := d
  unfold ofPairs
  generalize items.foldl (fun d item => d.set item.1 item.2) empty = e at h
  obtain ⟨items', hnodup'⟩ := e
  exact Dict.mk.injEq .. ▸ h

end Lookup

end Dict

/-- The values of the items are replaced one by one. -/
theorem lookup_map_snd {ω : Type} (f : ν → ω) (items : List (κ × ν)) (k : κ) :
    (items.map fun item => (item.1, f item.2)).lookup k = (items.lookup k).map f := by
  induction items with
  | nil => rfl
  | cons item rest ih =>
    rw [List.map_cons, List.lookup_cons, List.lookup_cons, ih]
    cases k == item.1 <;> rfl

end OpenframeAdapters.Python
