import OpenframeAdapters.Db.Mongo.Ids

/-!
# The `id` of Mongo documents

Every document that a `MongoRepository` returns has an `id`: its own, or else one that
`_serialise_doc` adds. It should mirror the `_id`.

## The model

* `unreliable` — a server whose calls may fail at any time, before or after they have been carried out.
* `Call` — an operation, or reading a document and writing it back as it is.
* `Meets` — the entities have no other `id` than their `_id`, and only documents with an `id` of their
  own are read and written back.
* `Run` — a sequence of such calls, from an empty collection on.
* `Mirrored` — what a call returns has an `id` that is its `_id`, and writing back changes nothing.

## What is proved

* `own_of_run` — no document that is stored has another `id` than its `_id`.
* `mirrored_of_run` — so all calls of such a run are mirrored.
* `not_mirrored` — a document with another `id` is returned as it is, and one without an `id` is given
  one when it is written back.
-/

namespace OpenframeAdapters.Db.Mongo

open Python OpenframeAdapters.Core

open Store (Keyed)

/-! ### The server -/

section Server

variable {V : Type} [DecidableEq V]

/-- What is documented about `$set`. A name with a dot is a path into a field. -/
structure SetsFields (set : SetFields V) : Prop where
  /-- The `_id` is not changed. -/
  keepsId : KeepsId set
  /-- Without a path into it, the `id` is the one that is set, if any. -/
  setsId : ∀ {doc fields doc'}, (∀ name v, fields.get? name = some v →
      ¬ "id.".toList <+: name.toList) → set doc fields = .ok doc' →
    doc'.get? "id" = (fields.get? "id").or (doc.get? "id")
  /-- Fields that are set to what they are change nothing. -/
  keepsSame : ∀ {doc fields doc'}, (∀ name v, fields.get? name = some v →
      doc.get? name = some v ∧ '.' ∉ name.toList) → set doc fields = .ok doc' → doc' = doc

/-- What is found is stored. -/
def Finds (m : Documents V) : (q : Command V) → Except PyExc ((commands V).Reply q) → Prop
  | .find .., r => ∀ docs, r = .ok docs → ∀ doc ∈ docs,
    ∃ key stored, m.lookup key = some stored ∧ doc.Alike stored
  | _, _ => True

variable (set : SetFields V)

/-- The server, with its answers to `find`. -/
def finding : Backend (commands V) PyExc (Documents V) :=
  fun m q r m' => server set m q r m' ∧ Finds m q r

/-- Any call may raise, with or without its effect. -/
def unreliable : Backend (commands V) PyExc (Documents V) := fun m q r m' =>
  finding set m q r m' ∨ ∃ exc, r = .error exc ∧ (m' = m ∨ ∃ r', finding set m q r' m')

end Server

/-! ### Calls -/

/-- A call of a repository. -/
inductive Call (V : Type) where
  /-- `create(entity)`. -/
  | create (entity : Doc V)
  /-- `update(entity)`. -/
  | update (entity : Doc V)
  /-- `get(id)`. -/
  | get (id : String)
  /-- `list(limit, offset)`. -/
  | list (limit offset : ℤ)
  /-- `update(get(id))`, where `get(id)` returns a document. -/
  | writeBack (id : String)

section Calls

variable {V : Type} (settings : MongoSettings) (collName : String) (str : V → String)
  (bool : V → Bool)

/-- `update(get(id))`. -/
def writeBack (id : String) : Operation (driver V) (Option ℕ) (Option (Doc V)) := do
  match ← Mongo.get settings collName (baseMapping str bool) id with
  | some entity => Mongo.update settings collName (baseMapping str bool) entity
  | none => return none

/-- The documents that a call returns. -/
def Call.run : Call V → Operation (driver V) (Option ℕ) (List (Doc V))
  | .create entity => do return [← Mongo.create settings collName (baseMapping str bool) entity]
  | .update entity => do
    return (← Mongo.update settings collName (baseMapping str bool) entity).toList
  | .get id => do return (← Mongo.get settings collName (baseMapping str bool) id).toList
  | .list limit offset => do
    return (← Mongo.list settings collName (baseMapping str bool) limit offset).1
  | .writeBack id => do return (← Mongo.writeBack settings collName str bool id).toList

variable [DecidableEq V]

/-- The call does not set an `id` apart from the `_id`, and what it reads and writes back has one of
its own. -/
def Meets (m : Documents V) : Call V → Prop
  | .create entity => ∀ id underscoreId, entity.get? "id" = some id →
    entity.get? "_id" = some underscoreId → id = .str (underscoreId.toText str)
  | .update entity =>
    let popped := popId (baseMapping str bool) entity
    (∀ id, popped.2.get? "id" = some id →
      id = .str ((normaliseId (popped.1.toText str) : Value V).toText str)) ∧
    ∀ name v, popped.2.get? name = some v → ¬ "id.".toList <+: name.toList
  | .get _ | .list .. => True
  | .writeBack id => ∀ doc, m.lookup (normaliseId id) = some doc →
    (id ≠ "" → (doc.get? "id").isSome = true) ∧ ∀ name v, doc.get? name = some v → '.' ∉ name.toList

/-- `document["id"] == document["_id"]`, and both are strings. -/
def Mirrors (doc : Doc V) : Prop :=
  ∃ s, doc.get? "_id" = some (.str s) ∧ doc.get? "id" = some (.str s)

variable (set : SetFields V)

/-- What is returned is mirrored, and what is written back is left as it was. -/
structure Mirrored (m : Documents V) (call : Call V) : Prop where
  /-- Every document that is returned. -/
  mirrors : ∀ {docs m'}, (call.run settings collName str bool).EndsIn
    (connected (unreliable set)).shared m (.ok docs) m' → ∀ doc ∈ docs, Mirrors doc
  /-- Every document that is stored. -/
  unchanged : ∀ id, call = .writeBack id → ∀ {o m'}, (call.run settings collName str bool).EndsIn
    (connected (unreliable set)).shared m o m' → m' = m

/-- The collection after a sequence of calls that meet the condition, whatever comes of them. -/
inductive Run : Documents V → Prop
  /-- No calls. -/
  | empty : Run ∅
  /-- One more call. -/
  | step {m call o m'} : Run m → Meets str bool m call →
    (call.run settings collName str bool).EndsIn (connected (unreliable set)).shared m o m' → Run m'

end Calls

/-! ### One document -/

section Own

variable {V : Type} {str : V → String} {bool : V → Bool} {doc entity : Doc V} {key : Value V}

/-- The document has the key as its `_id`, and no other `id`. -/
def Own (str : V → String) (key : Value V) (doc : Doc V) : Prop :=
  doc.get? "_id" = some key ∧ ∀ id, doc.get? "id" = some id → id = .str (key.toText str)

/-- What is returned for it is mirrored. -/
theorem Own.serialiseDoc (h : Own str key doc) :
    (serialiseDoc str doc).get? "_id" = some (.str (key.toText str)) ∧
      (serialiseDoc str doc).get? "id" = some (.str (key.toText str)) := by
  obtain ⟨hkey, hid⟩ := h
  constructor
  · rw [get?_serialiseDoc hkey, if_pos rfl]
  · rw [get?_serialiseDoc hkey, if_neg (by decide), if_pos rfl]
    cases hown : doc.get? "id" with
    | none => rfl
    | some id => rw [hid id hown]; rfl

theorem Own.mirrors [DecidableEq V] (h : Own str key doc) (hentity : Shows str doc entity) :
    Mirrors entity :=
  ⟨_, (hentity "_id").trans h.serialiseDoc.1, (hentity "id").trans h.serialiseDoc.2⟩

/-- A document that is inserted with an `_id`. -/
theorem own_docToInsert (h : ∀ id underscoreId, entity.get? "id" = some id →
      entity.get? "_id" = some underscoreId → id = .str (underscoreId.toText str))
    (hkey : (docToInsert (baseMapping str bool) entity).get? "_id" = some key) :
    Own str key (docToInsert (baseMapping str bool) entity) := by
  refine ⟨hkey, fun id hid => ?_⟩
  unfold docToInsert at hkey hid
  cases hentity : entity.get? "id" with
  | none =>
    rw [hentity] at hid
    rw [hentity] at hid
    cases hid
  | some v =>
    cases hunder : entity.get? "_id" with
    | none =>
      rw [hentity, hunder] at hid
      simp at hid
    | some u =>
      rw [hentity, hunder] at hkey hid
      dsimp only at hkey hid
      rw [hunder] at hkey
      obtain rfl := Option.some.inj hkey
      exact h id u hid hunder

/-- A document that is inserted without an `_id`. -/
theorem own_set (hnone : (docToInsert (baseMapping str bool) entity).get? "_id" = none)
    (key : Value V) : Own str key ((docToInsert (baseMapping str bool) entity).set "_id" key) := by
  have hid : (docToInsert (baseMapping str bool) entity).get? "id" = none := by
    unfold docToInsert at hnone ⊢
    cases hentity : entity.get? "id" with
    | none => rw [hentity]
    | some v =>
      cases hunder : entity.get? "_id" with
      | none =>
        rw [hentity, hunder] at hnone
        simp at hnone
      | some u =>
        rw [hentity, hunder] at hnone
        dsimp only at hnone
        rw [hunder] at hnone
        cases hnone
  refine ⟨by simp, fun id h => ?_⟩
  rw [Dict.get?_set, if_neg (by decide), hid] at h
  cases h

theorem lower_lower {s : String} (h : isHex s = true) : lower (lower s) = lower s := by
  have hdigit : ∀ c ∈ lowerHexDigits, c.toLower = c := List.all_iff_forall_prop.mp (by decide)
  have hcanonical := isCanonical_lower h
  simp only [isCanonical, Bool.and_eq_true, List.all_eq_true, List.contains_iff_mem] at hcanonical
  have hmap : (lower s).toList.map Char.toLower = (lower s).toList :=
    (List.map_congr_left fun c hc => hdigit c (hcanonical.2 c hc)).trans (List.map_id _)
  unfold lower at hmap ⊢
  rw [hmap, String.ofList_toList]

theorem isHex_lower {s : String} (h : isHex s = true) : isHex (lower s) = true := by
  have hcanonical := isCanonical_lower h
  simp only [isCanonical, isHex, Bool.and_eq_true, List.all_eq_true,
    List.contains_iff_mem] at hcanonical ⊢
  exact ⟨hcanonical.1, fun c hc => List.mem_append_left _ (hcanonical.2 c hc)⟩

/-- What is written of an id is read as the same id. -/
theorem normaliseId_toText (str : V → String) (id : String) :
    (normaliseId ((normaliseId id : Value V).toText str) : Value V) = normaliseId id := by
  rw [toText_normaliseId]
  split_ifs with hhex
  · unfold normaliseId
    rw [dif_pos (isHex_lower hhex), dif_pos hhex]
    simp only [lower_lower hhex]
  · rfl

/-- An entity that has been read is written back by its `_id`, and sets what has been read. -/
theorem popId_mirrors {s : String} (hunder : entity.get? "_id" = some (.str s))
    (hid : entity.get? "id" = some (.str s)) :
    (popId (baseMapping str bool) entity).1 = .str s ∧
      ∀ name v, (popId (baseMapping str bool) entity).2.get? name = some v →
        name ≠ "_id" ∧ (name = "id" → s ≠ "") ∧ entity.get? name = some v := by
  unfold popId
  rw [hunder, hid]
  dsimp only [Option.getD_some]
  split_ifs with htruthy
  · refine ⟨rfl, fun name v h => ?_⟩
    rw [Dict.get?_erase] at h
    split_ifs at h with hname
    refine ⟨hname, fun _ hs => ?_, h⟩
    subst hs
    simp [Value.truthy] at htruthy
  · refine ⟨rfl, fun name v h => ?_⟩
    rw [Dict.get?_erase, Dict.get?_erase] at h
    split_ifs at h with hname hname'
    exact ⟨hname', fun h' => absurd h' hname, h⟩

/-- What is set when an entity that has been read is written back, is in the document. -/
theorem Own.get?_of_popId {id : String} (hown : Own str (normaliseId id) doc)
    (hentity : Shows str doc entity) (hid : id ≠ "" → (doc.get? "id").isSome = true)
    {name : String} {v : Value V}
    (hv : (popId (baseMapping str bool) entity).2.get? name = some v) : doc.get? name = some v := by
  obtain ⟨-, hfields⟩ : (popId (baseMapping str bool) entity).1 = .str _ ∧ _ :=
    popId_mirrors ((hentity "_id").trans hown.serialiseDoc.1)
      ((hentity "id").trans hown.serialiseDoc.2)
  obtain ⟨hne, hnonempty, hget⟩ := hfields name v hv
  rw [hentity, get?_serialiseDoc hown.1, if_neg hne] at hget
  split_ifs at hget with hname
  · -- the document has an `id` of its own, which is what has been read
    have hne_empty : id ≠ "" := by
      rintro rfl
      exact hnonempty hname rfl
    obtain ⟨own, hown'⟩ := Option.isSome_iff_exists.mp (hid hne_empty)
    rw [hown', Option.some_or] at hget
    rw [hname, hown', hget]
  · exact hget

end Own

/-! ### One operation -/

section Operations

variable {V : Type} [DecidableEq V] {settings : MongoSettings} {collName : String}
  {str : V → String} {bool : V → Bool} {set : SetFields V} {m : Documents V} {α : Type}

/-- No document has an `id` apart from its `_id`. -/
def AllOwn (str : V → String) (m : Documents V) : Prop :=
  ∀ key doc, m.lookup key = some doc → Own str key doc

theorem AllOwn.insert {key : Value V} {doc : Doc V} (h : AllOwn str m) (hdoc : Own str key doc) :
    AllOwn str (m.insert key doc) := by
  intro key' doc' hlookup
  rw [Keyed.lookup_insert_eq] at hlookup
  split_ifs at hlookup with hkey
  · cases hlookup
    rwa [hkey]
  · exact h key' doc' hlookup

/-- **Calls** that may fail: what holds before a call and after what it does, holds in any case. -/
theorem wpIn_send {q : Command V} {I : Documents V → Prop}
    {Q : (commands V).Reply q → Documents V → Prop} (hm : I m)
    (h : ∀ r m', finding set m q r m' → I m' ∧ ∀ a, r = .ok a → Q a m') :
    (send q).wpIn (connected (unreliable set)).shared Q (fun _ m' => I m') m := by
  refine wpIn_command fun r m' hr => ?_
  rcases hr with hr | ⟨exc, rfl, rfl | ⟨r', hr⟩⟩
  · obtain ⟨hI, hQ⟩ := h r m' hr
    cases r with
    | ok a => exact hQ a rfl
    | error exc => exact hI
  · exact hm
  · exact (h r' m' hr).1

/-- **`get()`** returns the document. -/
theorem wpIn_get_mirrors (id : String) :
    (Mongo.get settings collName (baseMapping str bool) id).wpIn (connected (unreliable set)).shared
      (fun a m' => m' = m ∧ ∀ e ∈ a, ∃ doc, m.lookup (normaliseId id) = some doc ∧ Shows str doc e)
      (fun _ m' => m' = m) m := by
  unfold Mongo.get
  refine Coro.wpIn_bind.mpr (wpIn_getCollection fun col => Coro.wpIn_bind.mpr (wpIn_tryExcept.mpr ?_))
  refine wpIn_send (I := fun m' => m' = m) rfl fun r m' hr => ?_
  obtain ⟨⟨hread, rfl⟩, -⟩ := hr
  refine ⟨rfl, fun a ha => ⟨rfl, fun e he => ?_⟩⟩
  obtain ⟨doc', rfl, rfl⟩ := Option.map_eq_some_iff.mp he
  cases hlookup : m'.lookup (normaliseId id) with
  | none =>
    rw [hlookup] at hread
    cases ha.symm.trans hread
  | some doc =>
    rw [hlookup] at hread
    obtain ⟨doc'', hdoc, hr⟩ := hread
    cases ha.symm.trans hr
    exact ⟨doc, rfl, serialiseDoc_alike hdoc⟩

/-- **`list()`** returns documents. -/
theorem wpIn_list_mirrors (limit offset : ℤ) :
    (Mongo.list settings collName (baseMapping str bool) limit offset).wpIn
      (connected (unreliable set)).shared (fun a m' => m' = m ∧ ∀ e ∈ a.1,
        ∃ key doc, m.lookup key = some doc ∧ Shows str doc e) (fun _ m' => m' = m) m := by
  unfold Mongo.list
  refine Coro.wpIn_bind.mpr (wpIn_getCollection fun col => Coro.wpIn_bind.mpr (wpIn_tryExcept.mpr ?_))
  refine Coro.wpIn_bind.mpr (wpIn_send (I := fun m' => m' = m) rfl fun r m' hr => ?_)
  obtain ⟨hsame, hfinds⟩ := hr
  obtain rfl : m' = m := hsame
  refine ⟨rfl, fun docs hdocs => Coro.wpIn_bind.mpr ?_⟩
  refine wpIn_send (I := fun m'' => m'' = m') rfl fun r' m'' hr' => ?_
  obtain ⟨⟨-, rfl⟩, -⟩ := hr'
  refine ⟨rfl, fun total _ => ⟨rfl, fun e he => ?_⟩⟩
  obtain ⟨doc, hdoc, rfl⟩ := List.mem_map.mp he
  obtain ⟨key, stored, hlookup, halike⟩ := hfinds docs hdocs doc hdoc
  exact ⟨key, stored, hlookup, serialiseDoc_alike halike⟩

/-- The document that an `insert_one` adds, with the id that it reports. -/
theorem own_of_inserts {doc : Doc V} {key : Value V} {r : Except PyExc (Value V)} {m' : Documents V}
    (hm : AllOwn str m) (hdoc : Own str key doc) (h : Inserts m key doc r m') :
    AllOwn str m' ∧ ∀ id, r = .ok id → ∃ doc, m'.lookup id = some doc := by
  unfold Inserts at h
  split_ifs at h with hmem
  · obtain ⟨rfl, rfl⟩ := h
    exact ⟨hm, fun id hid => nomatch hid⟩
  · obtain ⟨rfl, rfl⟩ := h
    refine ⟨hm.insert hdoc, fun id hid => ?_⟩
    cases hid
    exact ⟨doc, Finmap.lookup_insert m⟩

/-- **`create()`** of an entity without another `id`. -/
theorem wpIn_create_mirrors {entity : Doc V} (hm : AllOwn str m)
    (h : Meets str bool m (.create entity)) :
    (Mongo.create settings collName (baseMapping str bool) entity).wpIn
      (connected (unreliable set)).shared (fun a m' => AllOwn str m' ∧ Mirrors a)
      (fun _ m' => AllOwn str m') m := by
  unfold Mongo.create
  refine Coro.wpIn_bind.mpr (wpIn_getCollection fun col => ?_)
  refine Coro.wpIn_bind.mpr (wpIn_tryExcept.mpr (Coro.wpIn_bind.mpr ?_))
  refine wpIn_send (I := AllOwn str) hm fun r m' hr => ?_
  have hown : AllOwn str m' ∧ ∀ id, r = .ok id → ∃ doc, m'.lookup id = some doc := by
    obtain ⟨hinsert, -⟩ := hr
    cases hkey : (docToInsert (baseMapping str bool) entity).get? "_id" with
    | some key =>
      exact own_of_inserts hm (own_docToInsert h hkey) ((server_insertOne hkey).mp hinsert)
    | none =>
      obtain ⟨o, hinsert⟩ := (server_insertOne_new hkey).mp hinsert
      exact own_of_inserts hm (own_set hkey (.oid o)) hinsert
  refine ⟨hown.1, fun id hid => ?_⟩
  obtain ⟨doc, hdoc⟩ := hown.2 id hid
  refine wpIn_send (I := AllOwn str) hown.1 fun r' m'' hr' => ?_
  obtain ⟨⟨hread, hsame⟩, -⟩ := hr'
  obtain rfl : m'' = m' := hsame
  refine ⟨hown.1, fun found hfound => ?_⟩
  rw [hdoc] at hread
  obtain ⟨doc', halike, hok⟩ := hread
  cases hfound.symm.trans hok
  exact ⟨hown.1, (hown.1 id doc hdoc).mirrors (serialiseDoc_alike halike)⟩

/-- **Setting fields** returns the document, if there is one and the fields can be set. -/
theorem wpIn_findOneAndUpdate {col : Collection} {key : Value V} {fields : Doc V}
    {I : Documents V → Prop} {Q : Doc V → Prop} (hm : I m)
    (h : ∀ doc doc', m.lookup key = some doc → set doc fields = .ok doc' →
      I (m.insert key doc') ∧ ∀ e, Shows str doc' e → Q e) :
    (send (.findOneAndUpdate col key fields)).wpIn (connected (unreliable set)).shared
      (fun a m' => I m' ∧ ∀ e ∈ a.map (toEntity (baseMapping str bool)), Q e)
      (fun _ m' => I m') m := by
  refine wpIn_send (I := I) hm fun r m' hr => ?_
  obtain ⟨hr, -⟩ := hr
  change Answers set m (.findOneAndUpdate col key fields) r m' at hr
  rw [Answers] at hr
  cases hlookup : m.lookup key with
  | none =>
    rw [hlookup] at hr
    obtain ⟨rfl, rfl⟩ := hr
    exact ⟨hm, fun a ha => ⟨hm, fun e he => by cases ha; cases he⟩⟩
  | some doc =>
    rw [hlookup] at hr
    dsimp only at hr
    cases hset : set doc fields with
    | error exc =>
      rw [hset] at hr
      obtain ⟨rfl, rfl⟩ := hr
      refine ⟨hm, fun a ha => ?_⟩
      cases ha
    | ok doc' =>
      rw [hset] at hr
      obtain ⟨⟨doc'', halike, rfl⟩, rfl⟩ := hr
      obtain ⟨hI, hQ⟩ := h doc doc' hlookup hset
      refine ⟨hI, fun a ha => ⟨hI, fun e he => ?_⟩⟩
      cases ha
      obtain rfl := Option.some.inj he
      exact hQ _ (serialiseDoc_alike halike)

/-- **`update()`** sets the fields that are left of the entity in the document of its id. -/
theorem wpIn_update_of {entity : Doc V} {I : Documents V → Prop} {Q : Doc V → Prop} (hm : I m)
    (h : ∀ doc doc', m.lookup (normaliseId
        ((popId (baseMapping str bool) entity).1.toText str)) = some doc →
      set doc (popId (baseMapping str bool) entity).2 = .ok doc' →
      I (m.insert (normaliseId ((popId (baseMapping str bool) entity).1.toText str)) doc') ∧
        ∀ e, Shows str doc' e → Q e) :
    (Mongo.update settings collName (baseMapping str bool) entity).wpIn
      (connected (unreliable set)).shared (fun a m' => I m' ∧ ∀ e ∈ a, Q e)
      (fun _ m' => I m') m := by
  unfold Mongo.update
  refine Coro.wpIn_bind.mpr (wpIn_getCollection fun col => ?_)
  have hentity : (baseMapping str bool).entityToDoc entity = entity := rfl
  rw [hentity]
  generalize popId (baseMapping str bool) entity = popped at h
  obtain ⟨id, fields⟩ := popped
  cases id with
  | none => exact hm
  | _ => exact Coro.wpIn_bind.mpr (wpIn_tryExcept.mpr (wpIn_findOneAndUpdate hm h))

/-- **`update()`** of an entity without another `id`. -/
theorem wpIn_update_mirrors {entity : Doc V} (hset : SetsFields set) (hm : AllOwn str m)
    (h : Meets str bool m (.update entity)) :
    (Mongo.update settings collName (baseMapping str bool) entity).wpIn
      (connected (unreliable set)).shared (fun a m' => AllOwn str m' ∧ ∀ e ∈ a, Mirrors e)
      (fun _ m' => AllOwn str m') m := by
  refine wpIn_update_of hm fun doc doc' hlookup hok => ?_
  obtain ⟨hid, hpaths⟩ := h
  obtain ⟨hkey, hown⟩ := hm _ doc hlookup
  have hdoc' : Own str (normaliseId ((popId (baseMapping str bool) entity).1.toText str)) doc' := by
    refine ⟨(hset.keepsId (get?_popId entity) hok).trans hkey, fun id hget => ?_⟩
    rw [hset.setsId hpaths hok] at hget
    cases hfield : (popId (baseMapping str bool) entity).2.get? "id" with
    | none =>
      rw [hfield, Option.none_or] at hget
      exact hown id hget
    | some v =>
      rw [hfield, Option.some_or] at hget
      cases hget
      exact hid _ hfield
  exact ⟨hm.insert hdoc', fun e he => hdoc'.mirrors he⟩

/-- **Writing back** what has been read changes nothing. -/
theorem wpIn_writeBack {id : String} (hset : SetsFields set) (hm : AllOwn str m)
    (h : Meets str bool m (.writeBack id)) :
    (Mongo.writeBack settings collName str bool id).wpIn (connected (unreliable set)).shared
      (fun a m' => m' = m ∧ ∀ e ∈ a, Mirrors e) (fun _ m' => m' = m) m := by
  unfold Mongo.writeBack
  refine Coro.wpIn_bind.mpr (Coro.wpIn_mono (fun a m' ha => ?_) (fun _ _ hx => hx)
    (wpIn_get_mirrors id))
  obtain ⟨rfl, hshows⟩ := ha
  cases a with
  | none => exact ⟨rfl, fun e he => nomatch he⟩
  | some entity =>
    obtain ⟨doc, hlookup, hentity⟩ := hshows entity rfl
    have hown := hm _ doc hlookup
    have hunder := (hentity "_id").trans hown.serialiseDoc.1
    have hid := (hentity "id").trans hown.serialiseDoc.2
    have hkey : (normaliseId ((popId (baseMapping str bool) entity).1.toText str) : Value V) =
        normaliseId id := by
      rw [(popId_mirrors hunder hid).1]
      exact normaliseId_toText str id
    obtain ⟨hown_id, hdots⟩ := h doc hlookup
    refine wpIn_update_of rfl fun doc₁ doc' hlookup₁ hok => ?_
    rw [hkey, hlookup] at hlookup₁
    obtain rfl := Option.some.inj hlookup₁
    have hsame : doc' = doc := by
      refine hset.keepsSame (fun name v hv => ?_) hok
      have hstored := hown.get?_of_popId hentity hown_id hv
      exact ⟨hstored, hdots name v hstored⟩
    subst hsame
    rw [hkey]
    exact ⟨Keyed.insert_of_lookup hlookup, fun e he => hown.mirrors he⟩

/-! ### Runs -/

/-- **One call** that meets the condition keeps the documents, and returns what is mirrored. -/
theorem wpIn_call {call : Call V} (hset : SetsFields set) (hm : AllOwn str m)
    (h : Meets str bool m call) :
    (call.run settings collName str bool).wpIn (connected (unreliable set)).shared
      (fun docs m' => AllOwn str m' ∧ ∀ doc ∈ docs, Mirrors doc) (fun _ m' => AllOwn str m') m := by
  cases call with
  | create entity =>
    refine Coro.wpIn_bind.mpr (Coro.wpIn_mono (fun a m' ha => ?_) (fun _ _ hx => hx)
      (wpIn_create_mirrors hm h))
    exact ⟨ha.1, List.forall_mem_singleton.mpr ha.2⟩
  | update entity =>
    refine Coro.wpIn_bind.mpr (Coro.wpIn_mono (fun a m' ha => ?_) (fun _ _ hx => hx)
      (wpIn_update_mirrors hset hm h))
    exact ⟨ha.1, fun doc hdoc => ha.2 doc (Option.mem_toList.mp hdoc)⟩
  | get id =>
    refine Coro.wpIn_bind.mpr (Coro.wpIn_mono (fun a m' ha => ?_) (fun x m' hx => ?_)
      (wpIn_get_mirrors id))
    · obtain ⟨rfl, hshows⟩ := ha
      refine ⟨hm, fun doc hdoc => ?_⟩
      obtain ⟨stored, hlookup, hdoc⟩ := hshows doc (Option.mem_toList.mp hdoc)
      exact (hm _ stored hlookup).mirrors hdoc
    · rwa [hx]
  | list limit offset =>
    refine Coro.wpIn_bind.mpr (Coro.wpIn_mono (fun a m' ha => ?_) (fun x m' hx => ?_)
      (wpIn_list_mirrors limit offset))
    · obtain ⟨rfl, hshows⟩ := ha
      refine ⟨hm, fun doc hdoc => ?_⟩
      obtain ⟨key, stored, hlookup, hdoc⟩ := hshows doc hdoc
      exact (hm key stored hlookup).mirrors hdoc
    · rwa [hx]
  | writeBack id =>
    refine Coro.wpIn_bind.mpr (Coro.wpIn_mono (fun a m' ha => ?_) (fun x m' hx => ?_)
      (wpIn_writeBack hset hm h))
    · exact ⟨ha.1 ▸ hm, fun doc hdoc => ha.2 doc (Option.mem_toList.mp hdoc)⟩
    · rwa [hx]

/-- **All documents** of a run are their own. -/
theorem own_of_run (hset : SetsFields set) (h : Run settings collName str bool set m) :
    AllOwn str m := by
  induction h with
  | empty =>
    intro key doc hlookup
    rw [Finmap.lookup_empty] at hlookup
    cases hlookup
  | step _ hmeets hend ih =>
    exact hend.always (I := AllOwn str) (Coro.wpIn_mono (fun _ _ h => h.1) (fun _ _ h => h)
      (wpIn_call hset ih hmeets))

end Operations

/-- **Mirrored**: in every run of calls that meet the condition, the `id` of what is returned is its
`_id`, and writing back changes nothing. -/
theorem mirrored_of_run {V : Type} [DecidableEq V] (settings : MongoSettings) (collName : String)
    (str : V → String) (bool : V → Bool) (set : SetFields V) (hset : SetsFields set)
    (m : Documents V) (h : Run settings collName str bool set m) (call : Call V)
    (hmeets : Meets str bool m call) : Mirrored settings collName str bool set m call where
  mirrors {docs m'} hend := (hend.of_wpIn (wpIn_call hset (own_of_run hset h) hmeets)).2
  unchanged id hcall o m' hend := by
    subst hcall
    refine hend.always (I := fun m' => m' = m) (Coro.wpIn_bind.mpr ?_)
    exact Coro.wpIn_mono (fun _ _ ha => ha.1) (fun _ _ hx => hx)
      (wpIn_writeBack hset (own_of_run hset h) hmeets)

/-! ### People -/

/-- `$set` of fields whose names are no paths. -/
theorem setsFields_assign : SetsFields assign where
  keepsId := keepsId_assign
  setsId := by
    rintro doc fields doc' - ⟨⟩
    exact Dict.get?_update
  keepsSame := by
    rintro doc fields doc' h ⟨⟩
    exact Dict.update_eq_self fun name v hv => (h name v hv).1

/-- A call ends, and it may be that nothing has failed. -/
theorem exists_ends {α : Type} (p : Operation (driver ℕ) (Option ℕ) α) (m : Documents ℕ) :
    ∃ o m', p.EndsIn (connected (server assign)).shared m o m' ∧
      p.EndsIn (connected (unreliable assign)).shared m o m' := by
  have hfinding : ∀ m q, ∃ r m', finding assign m q r m' := by
    intro m q
    cases q with
    | find => exact ⟨.ok [], m, rfl, fun docs hdocs doc hdoc => by cases hdocs; cases hdoc⟩
    | findOne col id =>
      obtain ⟨r, m', h⟩ := exists_server assign m (.findOne col id)
      exact ⟨r, m', h, trivial⟩
    | countDocuments col =>
      obtain ⟨r, m', h⟩ := exists_server assign m (.countDocuments col)
      exact ⟨r, m', h, trivial⟩
    | insertOne col doc =>
      obtain ⟨r, m', h⟩ := exists_server assign m (.insertOne col doc)
      exact ⟨r, m', h, trivial⟩
    | findOneAndUpdate col id doc =>
      obtain ⟨r, m', h⟩ := exists_server assign m (.findOneAndUpdate col id doc)
      exact ⟨r, m', h, trivial⟩
    | deleteOne col id =>
      obtain ⟨r, m', h⟩ := exists_server assign m (.deleteOne col id)
      exact ⟨r, m', h, trivial⟩
  obtain ⟨o, m', hend⟩ := Coro.exists_endsIn (W := (connected (finding assign)).shared)
    (exists_connected hfinding) (fun _ => ⟨none, trivial⟩) p m
  refine ⟨o, m', hend.mono ?_ (fun _ _ hs => hs) rfl, hend.mono ?_ (fun _ _ hs => hs) rfl⟩
  · rintro m (q | q) r m' h
    · exact h
    · exact h.1
  · rintro m (q | q) r m' h
    · exact h
    · exact .inl h

/-- A call that succeeds if nothing fails. -/
theorem run_step {m m₁ : Documents ℕ} {call : Call ℕ}
    (h : Run mongoLocal "people" Nat.repr (· ≠ 0) assign m) (hmeets : Meets Nat.repr (· ≠ 0) m call)
    (hcall : (call.run mongoLocal "people" Nat.repr (· ≠ 0)).wpIn (connected (server assign)).shared
      (fun _ m' => m' = m₁) (fun _ _ => False) m) :
    Run mongoLocal "people" Nat.repr (· ≠ 0) assign m₁ := by
  obtain ⟨o, m', hserver, hend⟩ := exists_ends (call.run mongoLocal "people" Nat.repr (· ≠ 0)) m
  have hpost := hserver.of_wpIn hcall
  cases o with
  | error x => exact hpost.elim
  | ok docs =>
    obtain rfl := hpost
    exact .step h hmeets hend

/-- An entity with an `_id` is created. -/
theorem run_create {entity : Doc ℕ} {key : Value ℕ}
    (hmeets : Meets Nat.repr (· ≠ 0) (∅ : Documents ℕ) (.create entity))
    (hkey : (docToInsert (baseMapping Nat.repr (· ≠ 0)) entity).get? "_id" = some key) :
    Run mongoLocal "people" Nat.repr (· ≠ 0) assign
      (Finmap.insert key (docToInsert (baseMapping Nat.repr (· ≠ 0)) entity) ∅) := by
  refine run_step .empty hmeets (Coro.wpIn_bind.mpr ?_)
  exact Coro.wpIn_mono (fun a _ ha => ha.2.1) (fun _ _ hx => (Finmap.notMem_empty hx).elim)
    (wpIn_create hkey)

/-- A person with both ids. -/
def person (underscoreId id : String) : Doc ℕ :=
  (Dict.empty.set "_id" (.str underscoreId)).set "id" (.str id)

/-- A person with the same id twice. -/
def aged (age : ℕ) : Doc ℕ := (person "a" "a").set "age" (.other age)

/-- A person is created and updated. Then `Mirrored` holds of reading the document and writing it
back. -/
theorem mirrored_person : ∃ m, Run mongoLocal "people" Nat.repr (· ≠ 0) assign m ∧
    m.lookup (.str "a") = some (aged 37) ∧
    Mirrored mongoLocal "people" Nat.repr (· ≠ 0) assign m (.writeBack "a") := by
  have hcreates : Meets Nat.repr (· ≠ 0) (∅ : Documents ℕ) (.create (aged 36)) := by
    rintro _ _ ⟨⟩ ⟨⟩
    rfl
  have hcreated : Run mongoLocal "people" Nat.repr (· ≠ 0) assign
      (Finmap.insert (.str "a") (aged 36) ∅) := run_create hcreates rfl
  have hlookup {age : ℕ} : (Finmap.insert (.str "a") (aged age) ∅ : Documents ℕ).lookup
      (normaliseId "a") = some (aged age) := Finmap.lookup_insert _
  have hnames {age : ℕ} : ∀ name v, (aged age).get? name = some v → '.' ∉ name.toList := by
    intro name v hname
    have hmem : name ∈ ["_id", "id", "age"] :=
      List.mem_map_of_mem (f := Prod.fst) (Dict.get?_eq_some_iff.mp hname)
    have hplain : ∀ name ∈ ["_id", "id", "age"], '.' ∉ name.toList := by decide
    exact hplain name hmem
  have hpopped : popId (baseMapping Nat.repr (· ≠ 0)) (aged 37) =
      (.str "a", (aged 37).erase "_id") := rfl
  have hupdates : Meets Nat.repr (· ≠ 0) (Finmap.insert (.str "a") (aged 36) ∅ : Documents ℕ)
      (.update (aged 37)) := by
    refine ⟨?_, fun name v hname hpath => ?_⟩
    · rintro _ ⟨⟩
      rfl
    · rw [hpopped, Dict.get?_erase] at hname
      split_ifs at hname
      exact hnames name v hname (hpath.subset (by decide))
  have hupdated : Run mongoLocal "people" Nat.repr (· ≠ 0) assign
      (Finmap.insert (.str "a") (aged 37) (Finmap.insert (.str "a") (aged 36) ∅)) := by
    refine run_step hcreated hupdates (Coro.wpIn_bind.mpr ?_)
    refine Coro.wpIn_mono (fun a m ha => ?_) (fun x m hx => ?_) (wpIn_update (congrArg Prod.fst hpopped))
    · unfold Updated at ha
      rw [hlookup] at ha
      exact ha.2
    · unfold Updated at hx
      rw [hlookup] at hx
      obtain ⟨⟨entity, herror, -⟩, -⟩ := hx
      cases herror
  refine ⟨_, hupdated, Finmap.lookup_insert _, ?_⟩
  refine mirrored_of_run mongoLocal "people" Nat.repr (· ≠ 0) assign setsFields_assign _ hupdated _ ?_
  intro doc hdoc
  have hfound : (Finmap.insert (.str "a") (aged 37) (Finmap.insert (.str "a") (aged 36) ∅) :
      Documents ℕ).lookup (normaliseId "a") = some (aged 37) := Finmap.lookup_insert _
  obtain rfl : aged 37 = doc := Option.some.inj (hfound.symm.trans hdoc)
  exact ⟨fun _ => rfl, hnames⟩

/-- **Another `id`** is returned as it is. -/
theorem not_mirrors_create :
    ¬ Mirrored mongoLocal "people" Nat.repr (· ≠ 0) assign ∅ (.create (person "a" "b")) := by
  intro h
  have hkey : (docToInsert (baseMapping Nat.repr (· ≠ 0)) (person "a" "b")).get? "_id" =
      some (.str "a") := rfl
  have hcreate : ((Call.create (person "a" "b")).run mongoLocal "people" Nat.repr (· ≠ 0)).wpIn
      (connected (server assign)).shared (fun docs _ => ∃ a, docs = [a] ∧
        Shows Nat.repr (person "a" "b") a) (fun _ _ => False) ∅ :=
    Coro.wpIn_bind.mpr (Coro.wpIn_mono (fun a _ ha => ⟨a, rfl, ha.2.2⟩)
      (fun _ _ hx => (Finmap.notMem_empty hx).elim) (wpIn_create hkey))
  obtain ⟨o, m, hserver, hend⟩ := exists_ends
    ((Call.create (person "a" "b")).run mongoLocal "people" Nat.repr (· ≠ 0)) ∅
  have hpost := hserver.of_wpIn hcreate
  cases o with
  | error x => exact hpost
  | ok docs =>
    obtain ⟨a, rfl, hshows⟩ := hpost
    obtain ⟨s, hunder, hid⟩ := h.mirrors hend a (List.mem_singleton_self a)
    have hs : "a" = s := Value.str.inj (Option.some.inj ((hshows "_id").symm.trans hunder))
    have hs' : "b" = s := Value.str.inj (Option.some.inj ((hshows "id").symm.trans hid))
    exact absurd (hs.trans hs'.symm) (by decide)

/-- A document without an `id`. -/
def anonymous : Doc ℕ := Dict.empty.set "_id" (.str "a")

/-- There is no other document. -/
def onlyAnonymous : Documents ℕ := Finmap.insert (.str "a") anonymous ∅

/-- It is what `create()` makes of an `id`. -/
theorem run_onlyAnonymous :
    Run mongoLocal "people" Nat.repr (· ≠ 0) assign onlyAnonymous := by
  have hkey : (docToInsert (baseMapping Nat.repr (· ≠ 0)) (IdField.id.entity "a" : Doc ℕ)).get? "_id" =
      some (.str "a") := rfl
  have hmeets : Meets Nat.repr (· ≠ 0) (∅ : Documents ℕ) (.create (IdField.id.entity "a")) :=
    fun id underscoreId _ hunder => nomatch hunder
  exact run_create hmeets hkey

/-- Writing it back gives it an `id`. -/
theorem wpIn_writeBack_anonymous : ((Call.writeBack "a").run mongoLocal "people" Nat.repr
    (· ≠ 0)).wpIn (connected (server assign)).shared (fun _ m' => m' ≠ onlyAnonymous)
      (fun _ m' => m' ≠ onlyAnonymous) onlyAnonymous := by
  have hlookup : onlyAnonymous.lookup (normaliseId "a") = some anonymous := Finmap.lookup_insert _
  have hown : Own Nat.repr (.str "a") anonymous := ⟨rfl, fun id hid => nomatch hid⟩
  have hchanged : ∀ fields : Doc ℕ, fields.get? "id" = some (.str "a") →
      onlyAnonymous.insert (normaliseId "a") (anonymous.update fields) ≠ onlyAnonymous := by
    intro fields hfields heq
    have hnew := congrArg (fun m : Documents ℕ => m.lookup (normaliseId "a")) heq
    simp only [Finmap.lookup_insert, hlookup, Option.some.injEq] at hnew
    have hid := congrArg (fun d : Doc ℕ => d.get? "id") hnew
    simp only [Dict.get?_update, hfields, Option.some_or] at hid
    cases hid
  refine Coro.wpIn_bind.mpr (Coro.wpIn_bind.mpr ?_)
  refine Coro.wpIn_mono (fun a m ha => ?_) (fun _ _ hx => hx.elim) (wpIn_get "a")
  obtain ⟨hfound, rfl⟩ := ha
  rw [hlookup] at hfound
  obtain ⟨entity, rfl, hentity⟩ := hfound
  have hunder : entity.get? "_id" = some (.str "a") := (hentity "_id").trans hown.serialiseDoc.1
  have hid : entity.get? "id" = some (.str "a") := (hentity "id").trans hown.serialiseDoc.2
  have hpopped : popId (baseMapping Nat.repr (· ≠ 0)) entity = (.str "a", entity.erase "_id") := by
    unfold popId
    rw [hunder]
    rfl
  have hfields : (popId (baseMapping Nat.repr (· ≠ 0)) entity).2.get? "id" = some (.str "a") := by
    rw [hpopped, Dict.get?_erase, if_neg (by decide), hid]
  refine Coro.wpIn_mono (fun a m ha => ?_) (fun x m hx => ?_)
    (wpIn_update (congrArg Prod.fst hpopped))
  · unfold Updated at ha
    rw [hlookup] at ha
    rw [ha.2]
    exact hchanged _ hfields
  · unfold Updated at hx
    rw [hlookup] at hx
    rw [hx.2]
    exact hchanged _ hfields

/-- **A document without an `id`** is given one when it is written back. -/
theorem not_unchanged_anonymous :
    ¬ Mirrored mongoLocal "people" Nat.repr (· ≠ 0) assign onlyAnonymous (.writeBack "a") := by
  intro h
  obtain ⟨o, m, hserver, hend⟩ := exists_ends
    ((Call.writeBack "a").run mongoLocal "people" Nat.repr (· ≠ 0)) onlyAnonymous
  have hsame := h.unchanged "a" rfl hend
  exact hserver.always (I := fun m' => m' ≠ onlyAnonymous) wpIn_writeBack_anonymous hsame

/-- **The property** fails in both ways: an entity with another `id` is returned with it, and after a
run there may be a document without an `id`. -/
theorem not_mirrored :
    ¬ Mirrored mongoLocal "people" Nat.repr (· ≠ 0) assign ∅ (.create (person "a" "b")) ∧
    ∃ m, Run mongoLocal "people" Nat.repr (· ≠ 0) assign m ∧
      ¬ Mirrored mongoLocal "people" Nat.repr (· ≠ 0) assign m (.writeBack "a") :=
  ⟨not_mirrors_create, onlyAnonymous, run_onlyAnonymous, not_unchanged_anonymous⟩

end OpenframeAdapters.Db.Mongo
