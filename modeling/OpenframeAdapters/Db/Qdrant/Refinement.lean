import OpenframeAdapters.Db.Operations
import OpenframeAdapters.Db.Qdrant.Server

/-!
# The Qdrant store is a map

`QdrantVectorStore` with the mapping of the base class, behind which is a collection that nobody else
uses.

## The model

* `IsEntity` — a dictionary with an id and a vector.
* `Holds` — the collection holds the points of these entities.
* `reference` — the map: `create()` replaces an entity. Dictionaries are the same if Python's `==` says
  so (`Dict.Alike`).

## What is proved

* `pointToEntity_alike` — an entity comes back as it was, whatever is in its payload.
* `refines` — every single answer could have been given by the map.
* `refines_map` — and so could every sequence of answers.
-/

namespace OpenframeAdapters.Db.Qdrant

open Python OpenframeAdapters.Core

open Store (Keyed)

variable {V : Type}

/-! ### Entities and points -/

/-- The dictionary has an id and a vector. -/
def IsEntity (data : Dict String V) : Prop :=
  (∃ id, data.get? "id" = some id) ∧ ∃ vector, data.get? "vector" = some vector

theorem getItem_eq_ok_iff {data : Dict String V} {k : String} {v : V} :
    getItem data k = .ok v ↔ data.get? k = some v := by
  unfold getItem
  cases data.get? k with
  | none => exact iff_of_false nofun nofun
  | some w => exact ⟨fun h => congrArg some (Except.ok.inj h), fun h => congrArg _ (Option.some.inj h)⟩

/-- The point of an entity. -/
theorem entityToPoint_eq {data : Dict String V} {id vector : V} (hid : data.get? "id" = some id)
    (hvector : data.get? "vector" = some vector) :
    entityToPoint data = .ok ⟨id, vector, some (data.filter fun k => k ∉ ["id", "vector"])⟩ := by
  rw [entityToPoint, getItem_eq_ok_iff.mpr hid, getItem_eq_ok_iff.mpr hvector]
  rfl

/-- **The codec**: an entity comes back as it was. -/
theorem pointToEntity_alike {data : Dict String V} (h : IsEntity data) :
    ∃ point, entityToPoint data = .ok point ∧ data.get? "id" = some point.id ∧
      (pointToEntity point).Alike data := by
  obtain ⟨⟨id, hid⟩, vector, hvector⟩ := h
  refine ⟨_, entityToPoint_eq hid hvector, hid, fun k => ?_⟩
  rw [pointToEntity, Dict.get?_update, Option.getD_some, Dict.get?_filter, Dict.get?_set,
    Dict.get?_set, Dict.get?_empty]
  by_cases hk : k = "id"
  · subst hk
    simp [hid]
  · by_cases hk' : k = "vector"
    · subst hk'
      simp [hvector]
    · simp [hk, hk']

/-! ### Requests -/

section Refines

variable [LinearOrder V] [Inhabited V]

/-- The map that the store is. An entity has an id. -/
def reference : Reference V (Dict String V) := ⟨fun data => (data.get? "id").getD default, none⟩

/-- The requests: entities have an id and a vector, and a page has a place where it could be. -/
def ValidRequest : Request V (Dict String V) → Prop
  | .get _ | .delete _ => True
  | .list limit offset => 0 ≤ limit ∧ 0 ≤ offset ∧ 0 < limit + offset
  | .create entity | .update entity => IsEntity entity

/-- What a request runs. -/
def serve (settings : QdrantSettings) (collection : String) :
    (q : Request V (Dict String V)) →
      Operation (driver V) (Option ℕ) ((operations V (Dict String V)).Reply q)
  | .get id => get settings collection baseMapping id
  | .list limit offset => list settings collection baseMapping limit offset
  | .create entity => create settings collection baseMapping entity
  | .update entity => update settings collection baseMapping entity
  | .delete id => delete settings collection baseMapping id

/-- The store together with its collection. -/
def store (settings : QdrantSettings) (collection : String) :
    Backend (operations V (Dict String V)) Raised (Points V) :=
  served (connected (Backend.of (answer collection))) (serve settings collection)

/-- A point is that of an entity. -/
def PointOf (entity : Dict String V) (point : Point V) : Prop :=
  IsEntity entity ∧ entityToPoint entity = .ok point

/-- The collection holds the points of these entities. -/
def Holds (b : Points V) (m : Keyed V (Dict String V)) : Prop :=
  ∀ id, Option.Rel PointOf (m.lookup id) (b.lookup id)

variable {settings : QdrantSettings} {collection : String} {b : Points V}
  {m : Keyed V (Dict String V)}

omit [LinearOrder V] [Inhabited V] in
theorem PointOf.alike {entity : Dict String V} {point : Point V} (h : PointOf entity point) :
    (pointToEntity point).Alike entity := by
  obtain ⟨point', hpoint', -, halike⟩ := pointToEntity_alike h.1
  obtain rfl : point = point' := Except.ok.inj (h.2.symm.trans hpoint')
  exact halike

omit [LinearOrder V] in
/-- An entity has a point, which has its id. -/
theorem exists_pointOf {entity : Dict String V} (h : IsEntity entity) :
    ∃ point, PointOf entity point ∧ entity.get? "id" = some point.id ∧
      reference.idOf entity = point.id := by
  obtain ⟨point, hpoint, hid, -⟩ := pointToEntity_alike h
  have hidOf : (entity.get? "id").getD default = point.id := by rw [hid, Option.getD_some]
  exact ⟨point, ⟨h, hpoint⟩, hid, hidOf⟩

omit [Inhabited V] in
theorem Holds.insert (h : Holds b m) {entity : Dict String V} {point : Point V}
    (hpoint : PointOf entity point) (id : V) :
    Holds (b.insert id point) (m.insert id entity) := by
  intro id'
  rw [Keyed.lookup_insert_eq, Keyed.lookup_insert_eq]
  split_ifs
  · exact .some hpoint
  · exact h id'

omit [Inhabited V] in
theorem Holds.erase (h : Holds b m) (id : V) : Holds (b.erase id) (m.erase id) := by
  intro id'
  rw [Keyed.lookup_erase_eq, Keyed.lookup_erase_eq]
  split_ifs
  · exact .none
  · exact h id'

omit [Inhabited V] in
theorem Holds.keys (h : Holds b m) : b.keys = m.keys := by
  refine Finset.ext fun id => ?_
  rw [Finmap.mem_keys, Finmap.mem_keys, ← Finmap.lookup_isSome, ← Finmap.lookup_isSome]
  have hid := h id
  revert hid
  generalize m.lookup id = e
  generalize b.lookup id = point
  rintro (- | -)
  · rfl
  · rfl

omit [Inhabited V] in
/-- The points of a page are those of the entities of the page. -/
theorem Holds.inOrder (h : Holds b m) : List.Forall₂ PointOf m.inOrder b.inOrder := by
  rw [Keyed.inOrder, Keyed.inOrder, Keyed.sortedKeys, Keyed.sortedKeys, h.keys]
  induction m.keys.sort (· ≤ ·) with
  | nil => exact .nil
  | cons id ids ih =>
    rw [List.filterMap_cons, List.filterMap_cons]
    have hid := h id
    revert hid
    generalize m.lookup id = e
    generalize b.lookup id = point
    rintro (hpoint | -)
    · exact .cons hpoint ih
    · exact ih

/-- What is asked of a request, when it returns. -/
def Agrees (m : Keyed V (Dict String V)) (q : Request V (Dict String V))
    (r : Except Raised ((operations V (Dict String V)).Reply q)) (b' : Points V) : Prop :=
  ∃ m', reference.upTo Dict.Alike m q r m' ∧ Holds b' m'

/-- The world of a request. -/
abbrev storeWorld (V : Type) [LinearOrder V] (collection : String) :
    World (driver V) PyExc (Option ℕ) (Points V) :=
  (connected (Backend.of (answer collection))).shared

variable {q : Request V (Dict String V)} {r : (operations V (Dict String V)).Reply q}

theorem agrees_of_eq {r : Except Raised ((operations V (Dict String V)).Reply q)}
    {m' : Keyed V (Dict String V)} {b' : Points V} (hm' : reference.answer q m = (r, m'))
    (hb' : Holds b' m') : Agrees m q r b' := ⟨m', ⟨r, hm', .inl rfl⟩, hb'⟩

theorem agrees_of_alike {r' : (operations V (Dict String V)).Reply q}
    (hm' : reference.answer q m = (.ok r', m)) (halike : q.Alike Dict.Alike r r') (hb : Holds b m) :
    Agrees m q (.ok r) b := ⟨m, ⟨.ok r', hm', .inr ⟨r, r', rfl, rfl, halike⟩⟩, hb⟩

omit [Inhabited V] in
/-- `get()` finds the entity that is stored. -/
theorem wpIn_get_rel {id : V} (hb : Holds b m) {Q : Option (Dict String V) → Points V → Prop}
    {E : Raised → Points V → Prop}
    (hQ : ∀ r, Option.Rel Dict.Alike r (m.lookup id) → Q r b) :
    (get settings collection baseMapping id).wpIn (storeWorld V collection) Q E b := by
  unfold get
  refine Coro.wpIn_bind.mpr ((connects_connected _).wpIn_getClient rfl fun client => ?_)
  refine Coro.wpIn_bind.mpr (wpIn_tryExcept.mpr (wpIn_command_of.mpr ?_))
  rw [answer_retrieve]
  refine hQ _ ?_
  have hid := hb id
  revert hid
  generalize m.lookup id = e
  generalize b.lookup id = point
  rintro (hpoint | -)
  · exact .some hpoint.alike
  · exact .none

omit [Inhabited V] in
/-- The point of an entity is put in. -/
theorem wpIn_upsertPoint_of {entity : Dict String V} {point : Point V} {operation : String}
    (hpoint : PointOf entity point) {Q : Unit → Points V → Prop} {E : Raised → Points V → Prop}
    (hQ : Q () (b.insert point.id point)) :
    (upsertPoint settings collection baseMapping entity operation).wpIn (storeWorld V collection) Q E
      b := by
  unfold upsertPoint
  refine Coro.wpIn_bind.mpr ((connects_connected _).wpIn_getClient rfl fun client => ?_)
  have heval : baseMapping.entityToPoint entity = .ok point := hpoint.2
  rw [heval]
  refine Coro.wpIn_bind.mpr (wpIn_eval_ok.mpr (wpIn_tryExcept.mpr (wpIn_command_of.mpr ?_)))
  rw [answer_upsert]
  exact hQ

theorem wpIn_list_agrees (hb : Holds b m) {limit offset : ℤ} (hlimit : 0 ≤ limit)
    (hoffset : 0 ≤ offset) (hpage : 0 < limit + offset) :
    (list settings collection baseMapping limit offset).wpIn (storeWorld V collection)
      (fun r => Agrees m (.list limit offset) (.ok r))
      (fun x => Agrees m (.list limit offset) (.error x)) b := by
  obtain ⟨limit, rfl⟩ := Int.eq_ofNat_of_zero_le hlimit
  obtain ⟨offset, rfl⟩ := Int.eq_ofNat_of_zero_le hoffset
  unfold list
  refine Coro.wpIn_bind.mpr ((connects_connected _).wpIn_getClient rfl fun client => ?_)
  refine Coro.wpIn_bind.mpr (wpIn_tryExcept.mpr (Coro.wpIn_bind.mpr (wpIn_command_of.mpr ?_)))
  rw [answer_scroll hpage]
  refine Coro.wpIn_bind.mpr (wpIn_command_of.mpr ?_)
  rw [answer_count]
  -- the points that are dropped from those that have been fetched
  have hslice : slice (b.inOrder.take (((limit : ℤ) + offset).toNat)) offset
      (b.inOrder.take (((limit : ℤ) + offset).toNat)).length =
        (b.inOrder.drop offset).take limit := by
    rw [slice_length, List.drop_take, ← Int.natCast_add, Int.toNat_natCast, Nat.add_sub_cancel]
  refine agrees_of_alike rfl ⟨?_, ?_⟩ hb
  · dsimp only
    rw [hslice, List.forall₂_map_left_iff]
    refine List.Forall₂.imp (fun point entity h => PointOf.alike h) (List.Forall₂.flip ?_)
    exact List.forall₂_take limit (List.forall₂_drop offset hb.inOrder)
  · dsimp only
    rw [hb.keys]

theorem reference_create (entity : Dict String V) : reference.answer (.create entity) m =
    (.ok entity, m.insert (reference.idOf entity) entity) := by
  change reference.create entity m = _
  unfold Reference.create
  cases m.lookup (reference.idOf entity) <;> rfl

theorem reference_update (entity : Dict String V) :
    reference.answer (.update entity) m = if (m.lookup (reference.idOf entity)).isSome
      then (.ok (some entity), m.insert (reference.idOf entity) entity) else (.ok none, m) := by
  unfold Reference.answer
  dsimp only
  cases m.lookup (reference.idOf entity) <;> rfl

theorem wpIn_update_agrees (hb : Holds b m) {entity : Dict String V} (hentity : IsEntity entity) :
    (update settings collection baseMapping entity).wpIn (storeWorld V collection)
      (fun r => Agrees m (.update entity) (.ok r))
      (fun x => Agrees m (.update entity) (.error x)) b := by
  obtain ⟨point, hpoint, hid, hidOf⟩ := exists_pointOf hentity
  have hanswer := reference_update (m := m) entity
  rw [hidOf] at hanswer
  have hid' : baseMapping.idOf entity = some point.id := hid
  unfold update
  rw [hid']
  refine Coro.wpIn_bind.mpr (wpIn_get_rel hb fun r hr => ?_)
  generalize m.lookup point.id = found at hr hanswer
  cases hr with
  | none => exact agrees_of_eq hanswer hb
  | some _ =>
    exact Coro.wpIn_bind.mpr (wpIn_upsertPoint_of hpoint
      (agrees_of_eq hanswer (hb.insert hpoint point.id)))

theorem wpIn_delete_agrees (hb : Holds b m) (id : V) :
    (delete settings collection (baseMapping (V := V)) id).wpIn (storeWorld V collection)
      (fun r => Agrees m (.delete id) (.ok r)) (fun x => Agrees m (.delete id) (.error x)) b := by
  have hanswer : reference.answer (.delete id) m = (.ok (m.lookup id).isSome, m.erase id) := rfl
  unfold delete
  refine Coro.wpIn_bind.mpr (wpIn_get_rel hb fun r hr => ?_)
  generalize hm : m.lookup id = found at hr hanswer
  cases hr with
  | none =>
    rw [Keyed.erase_of_lookup hm] at hanswer
    exact agrees_of_eq hanswer hb
  | some _ =>
    refine Coro.wpIn_bind.mpr ((connects_connected _).wpIn_getClient rfl fun client => ?_)
    refine Coro.wpIn_bind.mpr (wpIn_tryExcept.mpr (wpIn_command_of.mpr ?_))
    rw [answer_delete]
    exact agrees_of_eq hanswer (hb.erase id)

/-- **Every answer** could have been given by the map. -/
theorem refines : Refines ValidRequest (store settings collection)
    (reference (V := V).upTo Dict.Alike) Holds := by
  refine refines_of_wpIn fun b m q hb hq => ?_
  cases q with
  | get id => exact wpIn_get_rel hb fun r hr => agrees_of_alike rfl hr hb
  | list limit offset => exact wpIn_list_agrees hb hq.1 hq.2.1 hq.2.2
  | create entity =>
    obtain ⟨point, hpoint, -, hidOf⟩ := exists_pointOf hq
    exact Coro.wpIn_bind.mpr (wpIn_upsertPoint_of hpoint (agrees_of_eq
      (hidOf ▸ reference_create entity) (hb.insert hpoint point.id)))
  | update entity => exact wpIn_update_agrees hb hq
  | delete id => exact wpIn_delete_agrees hb id

omit [Inhabited V] in
theorem holds_empty : Holds (∅ : Points V) ∅ := fun _ => .none

omit [Inhabited V] in
/-- Every request is answered. -/
theorem exists_store (b : Points V) (q : Request V (Dict String V)) :
    ∃ r b', store settings collection b q r b' :=
  Coro.exists_endsIn (exists_connected fun b q => ⟨(answer collection q b).1, _, rfl⟩)
    (fun _ => ⟨none, trivial⟩) (serve settings collection q) b

variable (settings collection) in
/-- **A `QdrantVectorStore` is a map from ids to entities**: in every sequence of requests it answers
as the map does. -/
theorem refines_map :
    (∀ qs : List (Request V (Dict String V)), ∃ l b',
      Session (store settings collection) ∅ l b' ∧ l.map Answer.call = qs) ∧
    ∀ l b', Session (store settings collection) ∅ l b' → (∀ a ∈ l, ValidRequest a.call) →
      ∃ m, Session (reference (V := V).upTo Dict.Alike) ∅ l m := by
  constructor
  · exact fun qs => exists_session (D := operations V (Dict String V)) exists_store qs ∅
  · intro l b' hl hvalid
    obtain ⟨m, hm, -⟩ := refines.session hl hvalid holds_empty
    exact ⟨m, hm⟩

end Refines

/-! ### One entity -/

/-- A dictionary with an id, a vector and a colour. -/
def entity : Dict String ℕ := ((Dict.empty.set "id" 7).set "vector" 3).set "colour" 5

/-- It is created twice, found, listed, changed and deleted. -/
def entityRequests : List (Request ℕ (Dict String ℕ)) :=
  [.create entity, .create entity, .get 7, .list 0 1, .update entity, .delete 7]

/-- The six requests are answered as the map answers them. -/
theorem refines_map_entity : ∃ l b' m, Session (store qdrantLocal "items") ∅ l b' ∧
    l.map Answer.call = entityRequests ∧ Session (reference (V := ℕ).upTo Dict.Alike) ∅ l m := by
  have h := refines_map (V := ℕ) qdrantLocal "items"
  obtain ⟨l, b', hl, hcalls⟩ := h.1 entityRequests
  have hvalid : ∀ q ∈ entityRequests, ValidRequest q := by
    have hentity : IsEntity entity := ⟨⟨7, rfl⟩, 3, rfl⟩
    simp [entityRequests, ValidRequest, hentity]
  obtain ⟨m, hm⟩ := h.2 l b' hl fun a ha => hvalid _ (hcalls ▸ List.mem_map_of_mem ha)
  exact ⟨l, b', m, hl, hcalls, hm⟩

end OpenframeAdapters.Db.Qdrant
