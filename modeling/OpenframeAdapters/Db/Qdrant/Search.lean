import OpenframeAdapters.Db.Merging
import OpenframeAdapters.Db.Qdrant.Concurrent
import OpenframeAdapters.Db.Qdrant.Refinement

/-!
# Searching a Qdrant collection

`search()` of `QdrantVectorStore`, among the other operations. What the collection finds for a query
vector is a parameter (`Index`).

## What is proved

* `refines_records` — the points of a collection are records, and a search shows what is found of them.
* `qdrant_searched` — so a search finds what is stored at the time, under any mapping of entities.
-/

namespace OpenframeAdapters.Db.Qdrant

open Python OpenframeAdapters.Core

open Store (Keyed)

variable {V T : Type} [LinearOrder V]

/-- A collection that is searched. -/
def searching (collection : String) (I : Index V (Point V) V) :
    Backend (commands V) PyExc (Points V)
  | m, .queryPoints _ name v k => fun r m' => m' = m ∧
    if name = collection ∧ 0 < k then
      ∃ ids, I.nearest m v k.toNat ids ∧ r = .ok (ids.filterMap m.lookup)
    else r = .error (unexpectedResponse 400)
  | m, q => fun r m' => answer collection q m = (r, m')

/-- What a request runs. -/
def asked (settings : QdrantSettings) (collection : String) (mapping : Mapping V T) :
    (q : ((operations V T).sum (searches V T)).Call) →
      Operation (driver V) (Option ℕ) (((operations V T).sum (searches V T)).Reply q)
  | .inl (.get id) => get settings collection mapping id
  | .inl (.list limit offset) => list settings collection mapping limit offset
  | .inl (.create entity) => create settings collection mapping entity
  | .inl (.update entity) => update settings collection mapping entity
  | .inl (.delete id) => delete settings collection mapping id
  | .inr q => search settings collection mapping q.1 q.2

/-- The store together with its collection. -/
def searchedStore (settings : QdrantSettings) (collection : String) (mapping : Mapping V T)
    (I : Index V (Point V) V) : Backend ((operations V T).sum (searches V T)) Raised (Points V) :=
  served (connected (searching collection I)) (asked settings collection mapping)

/-- Entities can be made points, a page has a place where it could be, and a search asks for
something. -/
def ValidAsked (mapping : Mapping V T) : ((operations V T).sum (searches V T)).Call → Prop
  | .inl (.get _) | .inl (.delete _) => True
  | .inl (.list limit offset) => 0 ≤ limit ∧ 0 ≤ offset ∧ 0 < limit + offset
  | .inl (.create entity) | .inl (.update entity) => IsPoint mapping entity
  | .inr q => 0 < q.2

section Records

variable [Inhabited V]

/-- The point of an entity that can be made one. -/
def Mapping.pointOf (mapping : Mapping V T) (entity : T) : Point V :=
  match mapping.entityToPoint entity with
  | .ok point => point
  | .error _ => ⟨default, default, none⟩

/-- The points are the records, and are replaced. -/
def records (mapping : Mapping V T) : Merging V T (Point V) where
  idOf entity := (mapping.idOf entity).getD default
  make := mapping.pointOf
  merge entity _ := mapping.pointOf entity
  shown _ := mapping.pointToEntity
  returned entity _ _ := entity
  taken := none

variable {settings : QdrantSettings} {collection : String} {mapping : Mapping V T}
  {I : Index V (Point V) V} {m : Points V}

omit [LinearOrder V] in
theorem IsPoint.eq {entity : T} (h : IsPoint mapping entity) :
    mapping.entityToPoint entity = .ok (mapping.pointOf entity) ∧
      mapping.idOf entity = some (mapping.pointOf entity).id ∧
      (records mapping).idOf entity = (mapping.pointOf entity).id := by
  obtain ⟨point, hpoint, hid⟩ := h
  have heq : mapping.pointOf entity = point := by rw [Mapping.pointOf, hpoint]
  rw [heq]
  refine ⟨hpoint, hid, ?_⟩
  change (mapping.idOf entity).getD default = point.id
  rw [hid, Option.getD_some]

omit [Inhabited V] in
/-- Calls of the repository, other than a search. -/
theorem wpIn_send {q : Command V} {Q : (commands V).Reply q → Points V → Prop}
    {E : Raised → Points V → Prop} (hq : ∀ client name v k, q ≠ .queryPoints client name v k)
    (h : Coro.Promised Q (fun exc m => E (.raw exc) m) (answer collection q m).2
      (answer collection q m).1) :
    (send q).wpIn (connected (searching collection I)).shared Q E m := by
  refine wpIn_command fun r m' hr => ?_
  have hanswer : answer collection q m = (r, m') := by
    cases q with
    | queryPoints => exact absurd rfl (hq _ _ _ _)
    | _ => exact hr
  rwa [hanswer] at h

omit [Inhabited V] in
theorem wpIn_get_point {id : V} {Q : Option T → Points V → Prop} {E : Raised → Points V → Prop}
    (hQ : Q ((m.lookup id).map mapping.pointToEntity) m) :
    (get settings collection mapping id).wpIn (connected (searching collection I)).shared Q E m := by
  unfold get
  refine Coro.wpIn_bind.mpr ((connects_connected _).wpIn_getClient rfl fun client => ?_)
  refine Coro.wpIn_bind.mpr (wpIn_tryExcept.mpr (wpIn_send nofun ?_))
  rw [answer_retrieve]
  cases hm : m.lookup id with
  | none => rwa [hm] at hQ
  | some point => rwa [hm] at hQ

theorem wpIn_upsert_point {entity : T} (hentity : IsPoint mapping entity) {operation : String}
    {Q : Unit → Points V → Prop} {E : Raised → Points V → Prop}
    (hQ : Q () (m.insert (mapping.pointOf entity).id (mapping.pointOf entity))) :
    (upsertPoint settings collection mapping entity operation).wpIn
      (connected (searching collection I)).shared Q E m := by
  unfold upsertPoint
  refine Coro.wpIn_bind.mpr ((connects_connected _).wpIn_getClient rfl fun client => ?_)
  rw [hentity.eq.1]
  refine Coro.wpIn_bind.mpr (wpIn_eval_ok.mpr (wpIn_tryExcept.mpr (wpIn_send nofun ?_)))
  rw [answer_upsert]
  exact hQ

theorem wpIn_list_points {limit offset : ℤ} (hlimit : 0 ≤ limit) (hoffset : 0 ≤ offset)
    (hpage : 0 < limit + offset) {Q : List T × ℤ → Points V → Prop} {E : Raised → Points V → Prop}
    (hQ : Q ((records mapping).show m ((m.sortedKeys.drop offset.toNat).take limit.toNat),
      (m.keys.card : ℤ)) m) :
    (list settings collection mapping limit offset).wpIn (connected (searching collection I)).shared
      Q E m := by
  obtain ⟨limit, rfl⟩ := Int.eq_ofNat_of_zero_le hlimit
  obtain ⟨offset, rfl⟩ := Int.eq_ofNat_of_zero_le hoffset
  unfold list
  refine Coro.wpIn_bind.mpr ((connects_connected _).wpIn_getClient rfl fun client => ?_)
  refine Coro.wpIn_bind.mpr (wpIn_tryExcept.mpr (Coro.wpIn_bind.mpr (wpIn_send nofun ?_)))
  rw [answer_scroll hpage]
  refine Coro.wpIn_bind.mpr (wpIn_send nofun ?_)
  rw [answer_count]
  -- the points that are dropped from those that have been fetched
  have hslice : slice (m.inOrder.take (((limit : ℤ) + offset).toNat)) offset
      (m.inOrder.take (((limit : ℤ) + offset).toNat)).length =
        ((m.sortedKeys.drop offset).take limit).filterMap m.lookup := by
    rw [slice_length, List.drop_take, ← Int.natCast_add, Int.toNat_natCast, Nat.add_sub_cancel,
      Keyed.take_drop_inOrder]
  have hshow : (((m.sortedKeys.drop offset).take limit).filterMap m.lookup).map mapping.pointToEntity =
      (records mapping).show m ((m.sortedKeys.drop offset).take limit) := List.map_filterMap ..
  rw [Int.toNat_natCast, Int.toNat_natCast, ← hshow, ← hslice] at hQ
  exact hQ

omit [Inhabited V] in
/-- What is found is what the collection has found. -/
theorem wpIn_search_points {v : V} {k : ℤ} (hk : 0 < k) {Q : List T → Points V → Prop}
    {E : Raised → Points V → Prop} (hQ : ∀ ids, I.nearest m v k.toNat ids →
      Q ((ids.filterMap m.lookup).map mapping.pointToEntity) m) :
    (search settings collection mapping v k).wpIn (connected (searching collection I)).shared Q E
      m := by
  unfold search
  refine Coro.wpIn_bind.mpr ((connects_connected _).wpIn_getClient rfl fun client => ?_)
  refine Coro.wpIn_bind.mpr (wpIn_tryExcept.mpr (wpIn_command fun r m' hr => ?_))
  obtain ⟨rfl, hr⟩ := hr
  rw [if_pos ⟨rfl, hk⟩] at hr
  obtain ⟨ids, hids, rfl⟩ := hr
  exact hQ ids hids

/-- **The points are the records**, and what is found is shown. -/
theorem refines_records : Refines (ValidAsked mapping) (searchedStore settings collection mapping I)
    ((records mapping).backend .sorted I) Eq := by
  refine refines_of_wpIn ?_
  rintro m _ (q | ⟨v, k⟩) rfl hq
  · cases q with
    | get id => exact wpIn_get_point ⟨m, rfl, rfl⟩
    | list limit offset => exact wpIn_list_points hq.1 hq.2.1 hq.2.2 ⟨m, rfl, rfl⟩
    | create entity =>
      refine Coro.wpIn_bind.mpr (wpIn_upsert_point hq ⟨_, ?_, rfl⟩)
      have hanswer : (records mapping).create entity m = _ := Merging.create_free rfl
      rw [hq.eq.2.2] at hanswer
      exact hanswer
    | update entity =>
      change (update settings collection mapping entity).wpIn _ _ _ m
      unfold update
      rw [hq.eq.2.1]
      refine Coro.wpIn_bind.mpr (wpIn_get_point ?_)
      cases hm : m.lookup (mapping.pointOf entity).id with
      | none =>
        have hanswer := Merging.update_none (M := records mapping) (O := .sorted) (hq.eq.2.2 ▸ hm)
        exact ⟨m, hanswer, rfl⟩
      | some point =>
        have hanswer := Merging.update_some (M := records mapping) (O := .sorted) (hq.eq.2.2 ▸ hm)
        rw [hq.eq.2.2] at hanswer
        exact Coro.wpIn_bind.mpr (wpIn_upsert_point hq ⟨_, hanswer, rfl⟩)
    | delete id =>
      refine Coro.wpIn_bind.mpr (wpIn_get_point ?_)
      cases hm : m.lookup id with
      | none => exact ⟨m, Merging.delete_none hm, rfl⟩
      | some point =>
        refine Coro.wpIn_bind.mpr ((connects_connected _).wpIn_getClient rfl fun client => ?_)
        refine Coro.wpIn_bind.mpr (wpIn_tryExcept.mpr (wpIn_send nofun ?_))
        rw [answer_delete]
        exact ⟨_, Merging.delete_some hm, rfl⟩
  · refine wpIn_search_points hq fun ids hids => ⟨m, ⟨rfl, ids, hids, ?_⟩, rfl⟩
    rw [List.map_filterMap]
    rfl

omit [Inhabited V] in
/-- Every request is answered. -/
theorem exists_searchedStore (b : Points V) (q : ((operations V T).sum (searches V T)).Call) :
    ∃ r b', searchedStore settings collection mapping I b q r b' := by
  refine Coro.exists_endsIn (exists_connected fun m q => ?_) (fun _ => ⟨none, trivial⟩)
    (asked settings collection mapping q) b
  cases q with
  | queryPoints client name v k =>
    by_cases h : name = collection ∧ 0 < k
    · obtain ⟨ids, hids⟩ := I.exists_nearest m v k.toNat
      exact ⟨_, m, rfl, by rw [if_pos h]; exact ⟨ids, hids, rfl⟩⟩
    · exact ⟨_, m, rfl, by rw [if_neg h]⟩
  | _ => exact ⟨_, _, rfl⟩

/-- **Searching**: among any other operations, `search()` finds points that are stored then, as they
are then, and no more than it is asked for; and every operation answers as a map of points would. -/
theorem qdrant_searched (settings : QdrantSettings) (collection : String) (mapping : Mapping V T)
    (I : Index V (Point V) V) : Searched (records mapping) .sorted I (ValidAsked mapping)
      (searchedStore settings collection mapping I) ∅ :=
  searched_of_refines refines_records rfl (fun _ => trivial) exists_searchedStore

end Records

/-! ### One entity -/

/-- It is created, found, changed and deleted. -/
def entitySearches : List ((operations ℕ (Dict String ℕ)).sum (searches ℕ (Dict String ℕ))).Call :=
  [.inl (.create entity), .inr (7, 1), .inl (.list 0 1), .inl (.update (entity.set "colour" 6)),
    .inr (7, 1), .inl (.delete 7), .inr (7, 1), .inl (.update entity)]

/-- A search finds the entity with the colour that it has then, and nothing after `delete()`. -/
theorem qdrant_searched_entity : ∃ m, Session (searchedStore qdrantLocal "items" baseMapping .exact) ∅
    [⟨.inl (.create entity), .ok entity⟩,
      ⟨.inr (7, 1), .ok [entity]⟩,
      ⟨.inl (.list 0 1), .ok ([], 1)⟩,
      ⟨.inl (.update (entity.set "colour" 6)), .ok (some (entity.set "colour" 6))⟩,
      ⟨.inr (7, 1), .ok [entity.set "colour" 6]⟩,
      ⟨.inl (.delete 7), .ok true⟩,
      ⟨.inr (7, 1), .ok []⟩,
      ⟨.inl (.update entity), .ok none⟩] m := by
  have hentity : ∀ colour, IsPoint baseMapping (entity.set "colour" colour) := fun colour => ⟨_, rfl, rfl⟩
  have hvalid : ∀ q ∈ entitySearches, ValidAsked baseMapping q := by
    simp [entitySearches, ValidAsked, hentity, show IsPoint baseMapping entity from hentity 5]
  exact (qdrant_searched qdrantLocal "items" baseMapping .exact).exists_run hvalid

end OpenframeAdapters.Db.Qdrant
