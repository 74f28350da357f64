import OpenframeAdapters.Db.Mongo.Server
import OpenframeAdapters.Db.Operations

/-!
# Mongo ids

A caller gives the id of an entity as `id` or as `_id`. `create()` reads an `id` as an `ObjectId` where
it can, and leaves an `_id` as it is; the other operations read every id.

## The model

* `Addressed` — a document that has been created is found, updated and deleted by the id that the
  caller gave, and shows it.
* `Distinct` — different ids are different documents.
* `Faithful` — the ids for which it is so.

## What is proved

* `addressed_iff` — ids are addressed, and are distinct, exactly if they are faithful.
* `not_addressed` — an `_id` of 24 hexadecimal digits, which is created and then not found.
-/

namespace OpenframeAdapters.Db.Mongo

open Python OpenframeAdapters.Core

open Store (Keyed)

/-- The field that the id is given in. -/
inductive IdField where
  /-- `id`. -/
  | id
  /-- `_id`. -/
  | underscoreId

section Ids

variable {V : Type}

/-- `MongoRepository` maps dictionaries to documents. -/
def baseMapping (str : V → String) (bool : V → Bool) : Mapping V (Doc V) where
  docToEntity doc := doc
  entityToDoc entity := entity
  str := str
  bool := bool

/-- The entity has the id `x` in this field. A returned entity has it in both. -/
def IdField.Gives : IdField → String → Doc V → Prop
  | .id, x, entity => entity.get? "id" = some (.str x) ∧ entity.get? "_id" = none
  | .underscoreId, x, entity =>
    entity.get? "_id" = some (.str x) ∧ ∀ v, entity.get? "id" = some v → v = .str x

/-- The ids that mean the same to all operations: as `id`, all but those that `ObjectId` writes
differently; as `_id`, those that it does not accept, but for the empty string. -/
def Faithful : IdField → String → Prop
  | .id, x => isHex x = true → lower x = x
  | .underscoreId, x => isHex x = false ∧ x ≠ ""

/-- The `_id` of the document that is created. -/
def IdField.key : IdField → String → Value V
  | .id, x => normaliseId x
  | .underscoreId, x => .str x

theorem toText_normaliseId (str : V → String) (x : String) :
    (normaliseId x : Value V).toText str = if isHex x = true then lower x else x := by
  rw [normaliseId]
  split_ifs <;> rfl

/-- A faithful id is what is written of the key, and its reading is the key. -/
theorem Faithful.key_eq {k : IdField} {x : String} (h : Faithful k x) (str : V → String) :
    (k.key x : Value V).toText str = x ∧ (normaliseId x : Value V) = k.key x := by
  cases k with
  | id =>
    refine ⟨(toText_normaliseId str x).trans ?_, rfl⟩
    split_ifs with hhex
    · exact h hhex
    · rfl
  | underscoreId =>
    refine ⟨rfl, ?_⟩
    rw [normaliseId, dif_neg (by simp [h.1])]
    rfl

/-- Faithful ids have keys of their own. -/
theorem Faithful.key_ne {k k' : IdField} {x y : String} (hx : Faithful k x) (hy : Faithful k' y)
    (hxy : x ≠ y) : (k.key x : Value V) ≠ k'.key y := by
  intro h
  have hx := hx.key_eq fun _ : V => ""
  have hy := hy.key_eq fun _ : V => ""
  exact hxy (by rw [← hx.1, ← hy.1, h])

theorem get?_serialiseDoc {str : V → String} {doc : Doc V} {id : Value V}
    (h : doc.get? "_id" = some id) (name : String) : (serialiseDoc str doc).get? name =
      if name = "_id" then some (.str (id.toText str))
      else if name = "id" then (doc.get? "id").or (some (.str (id.toText str)))
      else doc.get? name := by
  rw [serialiseDoc, h]
  dsimp only
  have hid : (doc.set "_id" (.str (id.toText str))).get? "id" = doc.get? "id" := by
    rw [Dict.get?_set, if_neg (by decide)]
  rw [hid]
  cases hdoc : doc.get? "id" with
  | none =>
    rw [Option.isSome_none, if_neg (by decide), Dict.get?_set, Dict.get?_set]
    by_cases h₁ : name = "id"
    · simp [h₁]
    · simp [h₁]
  | some v =>
    rw [Option.isSome_some, if_pos rfl, Dict.get?_set]
    by_cases h₁ : name = "id"
    · simp [h₁, hdoc]
    · simp [h₁]

theorem serialiseDoc_alike {str : V → String} {doc doc' : Doc V} (h : doc'.Alike doc) :
    (serialiseDoc str doc').Alike (serialiseDoc str doc) := by
  intro name
  cases hid : doc.get? "_id" with
  | none => rw [serialiseDoc, serialiseDoc, hid, (h "_id").trans hid, h]
  | some id => rw [get?_serialiseDoc hid, get?_serialiseDoc ((h "_id").trans hid), h, h]

/-- What is inserted has the key, and the fields of the entity. -/
theorem IdField.Gives.docToInsert {k : IdField} {x : String} {entity : Doc V}
    (h : k.Gives x entity) (str : V → String) (bool : V → Bool) :
    (Mongo.docToInsert (baseMapping str bool) entity).get? "_id" = some (k.key x) ∧
    (∀ v, (Mongo.docToInsert (baseMapping str bool) entity).get? "id" = some v → v = .str x) ∧
    ∀ name, name ≠ "id" → name ≠ "_id" →
      (Mongo.docToInsert (baseMapping str bool) entity).get? name = entity.get? name := by
  cases k with
  | id =>
    obtain ⟨hid, hnone⟩ := h
    rw [Mongo.docToInsert, hid, hnone]
    refine ⟨by simp [IdField.key, Value.toText], by simp, fun name h₁ h₂ => by simp [h₁, h₂]⟩
  | underscoreId =>
    obtain ⟨hid, hsame⟩ := h
    rw [Mongo.docToInsert, hid]
    cases entity.get? "id" <;> exact ⟨hid, hsame, fun _ _ _ => rfl⟩

/-- What is left to be set has no `_id`. -/
theorem get?_popId {str : V → String} {bool : V → Bool} (entity : Doc V) :
    (Mongo.popId (baseMapping str bool) entity).2.get? "_id" = none := by
  unfold Mongo.popId
  dsimp only
  split_ifs
  · simp
  · simp

/-- What `update()` addresses. -/
theorem IdField.Gives.popId {k : IdField} {x : String} {entity : Doc V} (h : k.Gives x entity)
    (hx : Faithful k x) (str : V → String) (bool : V → Bool) :
    (Mongo.popId (baseMapping str bool) entity).1 = .str x ∧
      (Mongo.popId (baseMapping str bool) entity).2.get? "_id" = none := by
  cases k with
  | id =>
    obtain ⟨hid, hnone⟩ := h
    rw [Mongo.popId, hid, hnone]
    exact ⟨rfl, by simp [Value.truthy]⟩
  | underscoreId =>
    have htruthy : (Value.str x : Value V).truthy bool = true := by simpa [Value.truthy] using hx.2
    rw [Mongo.popId, h.1]
    simp [baseMapping, htruthy]

end Ids

/-! ### Requests -/

section Requests

variable {V : Type} [DecidableEq V] (settings : MongoSettings) (collName : String)
  (str : V → String) (bool : V → Bool) (set : SetFields V)

/-- The entity that is returned for a document. -/
def Shows (doc : Doc V) (entity : Doc V) : Prop := entity.Alike (serialiseDoc str doc)

/-- The outcome of `get()`. -/
def Found (found : Option (Doc V)) (a : Option (Doc V)) : Prop :=
  match found with
  | some doc => ∃ entity, a = some entity ∧ Shows str doc entity
  | none => a = none

/-- The outcome of `update()`. -/
def Updated (m : Documents V) (key : Value V) (fields : Doc V)
    (o : Except Raised (Option (Doc V))) (m' : Documents V) : Prop :=
  match m.lookup key with
  | some doc =>
    match set doc fields with
    | .ok doc' => (∃ entity, o = .ok (some entity) ∧ Shows str doc' entity) ∧ m' = m.insert key doc'
    | .error exc => o = .error (rethrow (commandErrors "update") (.raw exc)) ∧ m' = m
  | none => o = .ok none ∧ m' = m

variable {settings collName str bool set} {m : Documents V}

omit [DecidableEq V] in
/-- **Collections** are there with any server. -/
theorem wpIn_getCollection {B : Backend (commands V) PyExc (Documents V)}
    {Q : Collection → Documents V → Prop} {E : Raised → Documents V → Prop} (hQ : ∀ col, Q col m) :
    (getCollection settings collName).wpIn (connected B).shared Q E m := by
  unfold getCollection getMongoClient
  refine Coro.wpIn_bind.mpr (Coro.wpIn_bind.mpr (Coro.wpIn_get.mpr fun cached _ => ?_))
  cases cached with
  | some client => exact hQ _
  | none =>
    refine Coro.wpIn_bind.mpr (wpIn_tryExcept.mpr ?_)
    exact (connects_connected _).wpIn_connect fun client => hQ _

theorem wpIn_create {entity : Doc V} {key : Value V}
    (hkey : (docToInsert (baseMapping str bool) entity).get? "_id" = some key) :
    (create settings collName (baseMapping str bool) entity).wpIn (connected (server set)).shared
      (fun a m' => key ∉ m ∧ m' = m.insert key (docToInsert (baseMapping str bool) entity) ∧
        Shows str (docToInsert (baseMapping str bool) entity) a)
      (fun _ _ => key ∈ m) m := by
  unfold create
  refine Coro.wpIn_bind.mpr (wpIn_getCollection fun col => ?_)
  refine Coro.wpIn_bind.mpr (wpIn_tryExcept.mpr (Coro.wpIn_bind.mpr (wpIn_command fun r m₁ hr => ?_)))
  replace hr := (server_insertOne hkey).mp hr
  unfold Inserts at hr
  split_ifs at hr with hmem
  · obtain ⟨rfl, rfl⟩ := hr
    exact hmem
  · obtain ⟨rfl, rfl⟩ := hr
    refine wpIn_command fun r m₂ hr => ?_
    obtain ⟨hread, rfl⟩ := hr
    rw [Finmap.lookup_insert] at hread
    obtain ⟨doc, hdoc, rfl⟩ := hread
    exact ⟨hmem, rfl, serialiseDoc_alike hdoc⟩

theorem wpIn_get (id : String) :
    (get settings collName (baseMapping str bool) id).wpIn (connected (server set)).shared
      (fun a m' => Found str (m.lookup (normaliseId id)) a ∧ m' = m) (fun _ _ => False) m := by
  unfold get
  refine Coro.wpIn_bind.mpr (wpIn_getCollection fun col => ?_)
  refine Coro.wpIn_bind.mpr (wpIn_tryExcept.mpr (wpIn_command fun r m₁ hr => ?_))
  obtain ⟨hread, rfl⟩ := hr
  cases hfound : m₁.lookup (normaliseId id) with
  | none =>
    rw [hfound] at hread
    obtain rfl : r = .ok none := hread
    exact ⟨rfl, rfl⟩
  | some doc =>
    rw [hfound] at hread
    obtain ⟨doc', hdoc, rfl⟩ : Reads doc r := hread
    exact ⟨⟨_, rfl, serialiseDoc_alike hdoc⟩, rfl⟩

theorem wpIn_delete (id : String) :
    (delete settings collName id).wpIn (connected (server set)).shared
      (fun a m' => a = decide (normaliseId id ∈ m) ∧ m' = m.erase (normaliseId id))
      (fun _ _ => False) m := by
  unfold delete
  refine Coro.wpIn_bind.mpr (wpIn_getCollection fun col => ?_)
  refine Coro.wpIn_bind.mpr (wpIn_tryExcept.mpr (wpIn_command fun r m₁ hr => ?_))
  obtain ⟨rfl, rfl⟩ := hr
  refine ⟨?_, rfl⟩
  by_cases hmem : normaliseId id ∈ m <;> simp [hmem]

theorem wpIn_update {entity : Doc V} {id : String}
    (hid : (popId (baseMapping str bool) entity).1 = .str id) :
    (update settings collName (baseMapping str bool) entity).wpIn (connected (server set)).shared
      (fun a m' => Updated str set m (normaliseId id) (popId (baseMapping str bool) entity).2
        (.ok a) m')
      (fun x m' => Updated str set m (normaliseId id) (popId (baseMapping str bool) entity).2
        (.error x) m') m := by
  unfold update
  refine Coro.wpIn_bind.mpr (wpIn_getCollection fun col => ?_)
  have hentity : (baseMapping str bool).entityToDoc entity = entity := rfl
  rw [hentity]
  generalize popId (baseMapping str bool) entity = popped at hid
  obtain ⟨value, fields⟩ := popped
  obtain rfl : value = .str id := hid
  refine Coro.wpIn_bind.mpr (wpIn_tryExcept.mpr (wpIn_command fun r m₁ hr => ?_))
  have hr : Answers set m (.findOneAndUpdate col (normaliseId id) fields) r m₁ := hr
  rw [Answers] at hr
  unfold Updated
  cases hfound : m.lookup (normaliseId id) with
  | none =>
    rw [hfound] at hr
    obtain ⟨rfl, rfl⟩ := hr
    exact ⟨rfl, rfl⟩
  | some doc =>
    rw [hfound] at hr
    dsimp only at hr ⊢
    cases hset : set doc fields with
    | error exc =>
      rw [hset] at hr
      obtain ⟨rfl, rfl⟩ := hr
      exact ⟨rfl, rfl⟩
    | ok doc' =>
      rw [hset] at hr
      obtain ⟨⟨doc'', hdoc, rfl⟩, rfl⟩ := hr
      exact ⟨⟨_, rfl, serialiseDoc_alike hdoc⟩, rfl⟩

/-- There is nothing to update by. -/
theorem wpIn_update_none {entity : Doc V} (hid : (popId (baseMapping str bool) entity).1 = .none) :
    (update settings collName (baseMapping str bool) entity).wpIn (connected (server set)).shared
      (fun _ _ => False) (fun x _ => x = .adapter ⟨.query, "update", none⟩) m := by
  unfold update
  refine Coro.wpIn_bind.mpr (wpIn_getCollection fun col => ?_)
  have hentity : (baseMapping str bool).entityToDoc entity = entity := rfl
  rw [hentity]
  generalize popId (baseMapping str bool) entity = popped at hid
  obtain ⟨value, fields⟩ := popped
  obtain rfl : value = .none := hid
  rfl

/-- An error of the server keeps its cause. -/
theorem rethrow_commandErrors_ne (operation : String) (exc : PyExc) (kind : AdapterErrorKind) :
    rethrow (commandErrors operation) (.raw exc) ≠ .adapter ⟨kind, operation, none⟩ := by
  have hcause : (wrapPymongo exc operation).cause = some exc := by
    rw [wrapPymongo]
    split_ifs <;> rfl
  simp only [rethrow, Core.translate, commandErrors, dispatch_cons, dispatch_nil]
  split_ifs
  · intro h
    cases hcause.symm.trans (congrArg AdapterError.cause (Raised.adapter.inj h))
  · exact Raised.noConfusion

end Requests

/-! ### Addresses -/

section Addressed

variable {V : Type} [DecidableEq V] (settings : MongoSettings) (collName : String)
  (str : V → String) (bool : V → Bool) (set : SetFields V)

/-- `MongoRepository` with its collection. -/
def store : Backend (operations String (Doc V)) Raised (Documents V) :=
  (repository settings collName (baseMapping str bool)).onServer (connected (server set))

/-- What is returned for a document shows the id `x`: as `_id`, and as `id` unless the document has
another `id`. -/
structure Returned (x : String) (doc entity : Doc V) : Prop where
  /-- It is what is returned for the document. -/
  shows : Shows str doc entity
  /-- `_id`. -/
  underscoreId : entity.get? "_id" = some (.str x)
  /-- `id`. -/
  id : entity.get? "id" = (doc.get? "id").or (some (.str x))

/-- The document under this key is the one that `x` is the id of. -/
structure Reached (k : IdField) (x : String) (key : Value V) : Prop where
  /-- `get()`. -/
  get : ∀ {m doc r m'}, m.lookup key = some doc → doc.get? "_id" = some key →
    store settings collName str bool set m (.get x) r m' →
    m' = m ∧ ∃ entity, r = .ok (some entity) ∧ Returned str x doc entity
  /-- `update()`, unless `$set` is refused. -/
  update : ∀ {m doc entity r m'}, m.lookup key = some doc → doc.get? "_id" = some key →
    k.Gives x entity → store settings collName str bool set m (.update entity) r m' →
    match set doc (popId (baseMapping str bool) entity).2 with
    | .ok doc' => m' = m.insert key doc' ∧ ∃ a, r = .ok (some a) ∧ Returned str x doc' a
    | .error exc => m' = m ∧ r = .error (rethrow (commandErrors "update") (.raw exc))
  /-- `delete()`. -/
  delete : ∀ {m doc r m'}, m.lookup key = some doc →
    store settings collName str bool set m (.delete x) r m' → r = .ok true ∧ m' = m.erase key

/-- `create()` of an entity with the id `x` adds a document that `x` is the id of. -/
def Addressed (k : IdField) (x : String) : Prop :=
  ∀ {m entity a m'}, k.Gives x entity →
    store settings collName str bool set m (.create entity) (.ok a) m' →
    ∃ key doc, key ∉ m ∧ m' = m.insert key doc ∧ doc.get? "_id" = some key ∧
      (∀ v, doc.get? "id" = some v → v = .str x) ∧
      (∀ name, name ≠ "id" → name ≠ "_id" → doc.get? name = entity.get? name) ∧
      Returned str x doc a ∧ Reached settings collName str bool set k x key

/-- `create()` adds a document under the key. -/
def Stores (m : Documents V) (entity : Doc V) (key : Value V) : Prop :=
  ∃ a m' doc, store settings collName str bool set m (.create entity) (.ok a) m' ∧ key ∉ m ∧
    m' = m.insert key doc

/-- Entities with these ids are never stored under one key. -/
def Distinct (k : IdField) (x : String) (k' : IdField) (y : String) : Prop :=
  ∀ {m m' entity entity' key key'}, k.Gives x entity → k'.Gives y entity' →
    Stores settings collName str bool set m entity key →
    Stores settings collName str bool set m' entity' key' → key ≠ key'

variable {settings collName str bool set} {k k' : IdField} {x y : String}

omit [DecidableEq V] in
theorem returned_of_shows {key : Value V} {doc entity : Doc V} (hx : key.toText str = x)
    (hdoc : doc.get? "_id" = some key) (h : Shows str doc entity) : Returned str x doc entity where
  shows := h
  underscoreId := by
    rw [h, get?_serialiseDoc hdoc, if_pos rfl, hx]
  id := by
    rw [h, get?_serialiseDoc hdoc, if_neg (by decide), if_pos rfl, hx]

/-- Faithful ids reach their documents. -/
theorem Faithful.reached (hset : KeepsId set) (h : Faithful k x) :
    Reached settings collName str bool set k x (k.key x) where
  get {m doc r m'} hlookup hdoc hget := by
    have hpost := hget.of_wpIn (wpIn_get x)
    rw [(h.key_eq str).2, hlookup] at hpost
    cases r with
    | error x => exact hpost.elim
    | ok a =>
      obtain ⟨⟨entity, rfl, hshows⟩, rfl⟩ := hpost
      exact ⟨rfl, entity, rfl, returned_of_shows (h.key_eq str).1 hdoc hshows⟩
  update {m doc entity r m'} hlookup hdoc hgives hupdate := by
    have hpop := hgives.popId h str bool
    have hpost : Updated str set m (normaliseId x) (popId (baseMapping str bool) entity).2 r m' := by
      have := hupdate.of_wpIn (wpIn_update hpop.1)
      cases r <;> exact this
    rw [(h.key_eq str).2, Updated, hlookup] at hpost
    dsimp only at hpost
    cases hresult : set doc (popId (baseMapping str bool) entity).2 with
    | error exc =>
      rw [hresult] at hpost
      exact hpost.symm
    | ok doc' =>
      rw [hresult] at hpost
      obtain ⟨⟨a, rfl, hshows⟩, rfl⟩ := hpost
      have hdoc' : doc'.get? "_id" = some (k.key x) := (hset hpop.2 hresult).trans hdoc
      exact ⟨rfl, a, rfl, returned_of_shows (h.key_eq str).1 hdoc' hshows⟩
  delete {m doc r m'} hlookup hdelete := by
    have hpost := hdelete.of_wpIn (wpIn_delete x)
    rw [(h.key_eq str).2] at hpost
    cases r with
    | error x => exact hpost.elim
    | ok a =>
      obtain ⟨rfl, rfl⟩ := hpost
      exact ⟨congrArg Except.ok (decide_eq_true (Finmap.mem_of_lookup_eq_some hlookup)), rfl⟩

theorem Faithful.addressed (hset : KeepsId set) (h : Faithful k x) :
    Addressed settings collName str bool set k x := by
  intro m entity a m' hgives hcreate
  obtain ⟨hkey, hid, hfields⟩ := hgives.docToInsert str bool
  obtain ⟨hnew, rfl, hshows⟩ := hcreate.of_wpIn (wpIn_create hkey)
  exact ⟨k.key x, _, hnew, rfl, hkey, hid, hfields, returned_of_shows (h.key_eq str).1 hkey hshows,
    h.reached hset⟩

/-- The key under which an entity is stored. -/
theorem Stores.key_eq {m : Documents V} {entity : Doc V} {key : Value V} (hgives : k.Gives x entity)
    (h : Stores settings collName str bool set m entity key) : key = k.key x := by
  obtain ⟨a, m', doc, hcreate, hkey, hm'⟩ := h
  obtain ⟨-, hinsert, -⟩ := hcreate.of_wpIn (wpIn_create (hgives.docToInsert str bool).1)
  have hmem : key ∈ m.insert (k.key x) _ := hinsert ▸ hm' ▸ Finmap.mem_insert.mpr (.inl rfl)
  exact (Finmap.mem_insert.mp hmem).resolve_right hkey

/-- An entity that has nothing but its id. -/
def IdField.entity (k : IdField) (x : String) : Doc V :=
  match k with
  | .id => Dict.empty.set "id" (.str x)
  | .underscoreId => Dict.empty.set "_id" (.str x)

omit [DecidableEq V] in
theorem IdField.gives_entity (k : IdField) (x : String) : k.Gives x (k.entity x : Doc V) := by
  cases k with
  | id => simp [IdField.Gives, IdField.entity]
  | underscoreId => simp [IdField.Gives, IdField.entity]

/-- Only faithful ids are addressed: an entity that has nothing but its id tells. -/
theorem faithful_of_addressed (h : Addressed settings collName str bool set k x) :
    Faithful k x := by
  have hrun : ∀ m q, ∃ r m', store settings collName str bool set m q r m' :=
    fun m q => exists_served (R := operations String (Doc V)) (exists_connected (exists_server set))
      (repository settings collName (baseMapping str bool)).serve m q
  have hgives := k.gives_entity x (V := V)
  obtain ⟨r, m, hcreate⟩ := hrun ∅ (.create (k.entity x))
  have hcreated := hcreate.of_wpIn (wpIn_create (hgives.docToInsert str bool).1)
  cases r with
  | error x => exact absurd hcreated Finmap.notMem_empty
  | ok a =>
    obtain ⟨key, doc, hnew, hm, hdoc, -, -, hreturned, hreached⟩ := h hgives hcreate
    obtain rfl : key = k.key x := Stores.key_eq hgives ⟨a, m, doc, hcreate, hnew, hm⟩
    have hlookup : m.lookup (k.key x) = some doc := by rw [hm, Finmap.lookup_insert]
    cases k with
    | id =>
      intro hhex
      have hshown := hreturned.underscoreId
      rw [hreturned.shows, get?_serialiseDoc hdoc, if_pos rfl] at hshown
      have htext := toText_normaliseId str x
      rw [if_pos hhex] at htext
      exact htext.symm.trans (Value.str.inj (Option.some.inj hshown))
    | underscoreId =>
      refine ⟨?_, ?_⟩
      · -- `get()` looks for an `ObjectId`
        by_contra hhex
        rw [Bool.not_eq_false] at hhex
        obtain ⟨r, m', hget⟩ := hrun m (.get x)
        obtain ⟨-, entity, rfl, -⟩ := hreached.get hlookup hdoc hget
        obtain ⟨hfound, -⟩ := hget.of_wpIn (wpIn_get x)
        have hnone : m.lookup (normaliseId x) = none := by
          rw [hm, Keyed.lookup_insert_eq, normaliseId, dif_pos hhex, if_neg nofun]
          exact Finmap.lookup_empty _
        rw [hnone] at hfound
        cases hfound
      · -- `update()` takes an empty `_id` for none
        rintro rfl
        obtain ⟨r, m', hupdate⟩ := hrun m (.update (IdField.underscoreId.entity ""))
        have hresult := hreached.update hlookup hdoc hgives hupdate
        have hempty : (popId (baseMapping str bool) (IdField.underscoreId.entity "")).1 = .none := rfl
        have hraised := hupdate.of_wpIn (wpIn_update_none hempty)
        cases r with
        | ok a => exact hraised
        | error x =>
          obtain rfl := hraised
          split at hresult
          · obtain ⟨-, a, ha, -⟩ := hresult
            cases ha
          · exact rethrow_commandErrors_ne _ _ _ (Except.error.inj hresult.2).symm

/-- **Ids**: the documents of two entities are the ones that their ids are the ids of, and are not the
same, exactly if the ids are faithful. -/
theorem addressed_iff (hset : KeepsId set) :
    (Addressed settings collName str bool set k x ∧ Addressed settings collName str bool set k' y ∧
      (x ≠ y → Distinct settings collName str bool set k x k' y)) ↔
    Faithful k x ∧ Faithful k' y := by
  constructor
  · rintro ⟨hx, hy, -⟩
    exact ⟨faithful_of_addressed hx, faithful_of_addressed hy⟩
  · rintro ⟨hx, hy⟩
    refine ⟨hx.addressed hset, hy.addressed hset, fun hxy m m' e e' key key' hgives hgives' hs hs' => ?_⟩
    rw [hs.key_eq hgives, hs'.key_eq hgives']
    exact hx.key_ne hy hxy

end Addressed

/-! ### Two conventions -/

/-- Settings for a server on this host. -/
def mongoLocal : MongoSettings :=
  ⟨"mongodb://localhost:27017", "openframe", 0, 10, 5000, false, false⟩

/-- `$set` of top-level fields. -/
def assign : SetFields ℕ := fun doc fields => .ok (doc.update fields)

theorem keepsId_assign : KeepsId assign := by
  rintro doc fields doc' hfields ⟨⟩
  rw [Dict.get?_update, hfields, Option.none_or]

/-- What is created under an `ObjectId` as `id`, or under a name as `_id`, is found, and they are two
documents. -/
theorem addressed_ada :
    Addressed mongoLocal "people" Nat.repr (· ≠ 0) assign .id "0123456789abcdef01234567" ∧
    Addressed mongoLocal "people" Nat.repr (· ≠ 0) assign .underscoreId "ada" ∧
    ("0123456789abcdef01234567" ≠ "ada" → Distinct mongoLocal "people" Nat.repr (· ≠ 0) assign
      .id "0123456789abcdef01234567" .underscoreId "ada") :=
  (addressed_iff keepsId_assign).mpr ⟨fun _ => by decide, by decide, by decide⟩

/-- **An `_id` of 24 digits is created and not found.** -/
theorem not_addressed : ¬ Addressed mongoLocal "people" Nat.repr (· ≠ 0) assign .underscoreId
    "0123456789abcdef01234567" := by
  intro h
  exact absurd (faithful_of_addressed h).1 (by decide)

end OpenframeAdapters.Db.Mongo
