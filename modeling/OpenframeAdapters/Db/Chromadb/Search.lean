import OpenframeAdapters.Db.Chromadb.ReadYourWrite
import OpenframeAdapters.Db.Merging
import Mathlib.Data.String.Basic

/-!
# Searching a Chroma collection

`list()` and `search()` of `ChromaDBRepository`, among the other operations. In which order the collection
lists its rows, and what it finds for a query vector, are parameters (`Enumeration`, `Index`). A query
with more than one vector is refused here.

## What is proved

* `refines_records` — the rows of a collection are records, with which an update is merged, and a
  search shows what is found of them.
* `chromadb_searched` — so a search finds what is stored at the time, under any mapping of entities.
-/

namespace OpenframeAdapters.Db.Chromadb

open Python OpenframeAdapters.Core

open Store (Keyed)

variable {V W T : Type}

/-- A collection that is listed and searched. -/
def searching (O : Enumeration String (Stored V W)) (I : Index String (Stored V W) V) :
    Backend (commands V W) PyExc (Rows V W)
  | m, .page _ limit offset included => fun r m' => m' = m ∧
    if 0 ≤ limit ∧ 0 ≤ offset then
      r = .ok (found (((O.listed m).drop offset.toNat).take limit.toNat) included m)
    else r = .error chromaError
  | m, .query _ [v] nResults included => fun r m' => m' = m ∧
    if 0 < nResults then
      ∃ ids, I.nearest m v nResults.toNat ids ∧ r = .ok (found ids included m).nested
    else r = .error chromaError
  | m, q => fun r m' => answer q m = (r, m')

/-- What a request runs. -/
def asked (settings : ChromaDBSettings) (collectionName : String) (mapping : Mapping V W T) :
    (q : ((operations String T).sum (searches V T)).Call) →
      Operation (driver V W) Shared (((operations String T).sum (searches V T)).Reply q)
  | .inl q => (repository settings collectionName mapping).serve q
  | .inr q => search settings collectionName mapping q.1 q.2

/-- The repository together with its collection. -/
def searchedStore (settings : ChromaDBSettings) (collectionName : String) (mapping : Mapping V W T)
    (O : Enumeration String (Stored V W)) (I : Index String (Stored V W) V) :
    Backend ((operations String T).sum (searches V T)) Raised (Rows V W) :=
  served (connected (searching O I)) (asked settings collectionName mapping)

/-- An entity that is created has a vector, a page is one that the server gives, and a search asks for
something. -/
def ValidAsked (mapping : Mapping V W T) : ((operations String T).sum (searches V T)).Call → Prop
  | .inl (.get _) | .inl (.delete _) | .inl (.update _) => True
  | .inl (.list limit offset) => 0 ≤ limit ∧ 0 ≤ offset
  | .inl (.create entity) => (mapping.entityToRow entity).vector.isSome = true
  | .inr q => 0 < q.2

/-- The rows are the records. An update is merged with what is there. -/
def records [Inhabited V] (mapping : Mapping V W T) : Merging String T (Stored V W) where
  idOf entity := (mapping.entityToRow entity).id
  make entity :=
    (mapping.entityToRow entity).stored ((mapping.entityToRow entity).vector.getD default)
  merge entity row := (mapping.entityToRow entity).columns.changed 0 row
  shown id row := mapping.rowToEntity (rowOf .all (id, row))
  returned entity _ _ := entity
  taken := some ⟨.query, "create", some chromaError⟩

section Records

variable {settings : ChromaDBSettings} {collectionName : String} {mapping : Mapping V W T}
  {O : Enumeration String (Stored V W)} {I : Index String (Stored V W) V} {m : Rows V W}

/-- What is found of these rows, in all columns. -/
theorem found_all (ids : List String) (m : Rows V W) (included : List String)
    (h : ∀ column ∈ allColumns, column ∈ included) : found ids included m =
      columnsOf .all (ids.filterMap fun id => (m.lookup id).map fun row => (id, row)) := by
  have hembeddings : "embeddings" ∈ included := h _ (by decide)
  have hmetadatas : "metadatas" ∈ included := h _ (by decide)
  have hdocuments : "documents" ∈ included := h _ (by decide)
  unfold found columnsOf
  dsimp only
  rw [if_pos hembeddings, if_pos hmetadatas, if_pos hdocuments]
  rfl

/-- What is shown of them. -/
theorem show_found [Inhabited V] (ids : List String) (m : Rows V W) :
    ((ids.filterMap fun id => (m.lookup id).map fun row => (id, row)).map (rowOf .all)).map
      mapping.rowToEntity = (records mapping).show m ids := by
  rw [List.map_filterMap, List.map_filterMap]
  refine List.filterMap_congr fun id _ => ?_
  rw [Option.map_map, Option.map_map]
  rfl

/-- The calls that address rows by their ids. -/
theorem wpIn_send {q : Command V W} {Q : (commands V W).Reply q → Rows V W → Prop}
    {E : Raised → Rows V W → Prop}
    (hpage : ∀ collection limit offset included, q ≠ .page collection limit offset included)
    (hquery : ∀ collection vs k included, q ≠ .query collection vs k included)
    (h : Coro.Promised Q (fun exc m => E (.raw exc) m) (answer q m).2 (answer q m).1) :
    (send q).wpIn (connected (searching O I)).shared Q E m := by
  refine wpIn_command fun r m' hr => ?_
  have hanswer : answer q m = (r, m') := by
    cases q with
    | page => exact absurd rfl (hpage _ _ _ _)
    | query => exact absurd rfl (hquery _ _ _ _)
    | _ => exact hr
  rwa [hanswer] at h

/-- The collection is there, or it is fetched. -/
theorem wpIn_collection_any {Q : ℕ → Rows V W → Prop} {E : Raised → Rows V W → Prop}
    (hQ : ∀ collection, Q collection m) :
    (getCollection settings collectionName).wpIn (connected (searching O I)).shared Q E m := by
  unfold getCollection
  refine Coro.wpIn_bind.mpr (Coro.wpIn_get.mpr fun cached _ => ?_)
  cases cached.collection with
  | some collection => exact hQ _
  | none =>
    refine Coro.wpIn_bind.mpr ((connects_connected _).wpIn_getClient rfl fun client => ?_)
    exact Coro.wpIn_bind.mpr (wpIn_tryExcept.mpr (wpIn_send nofun nofun (hQ _)))

theorem wpIn_get_stored (id : String) {Q : Option T → Rows V W → Prop} {E : Raised → Rows V W → Prop}
    (hQ : Q ((m.lookup id).map fun row => mapping.rowToEntity (rowOf .all (id, row))) m) :
    (get settings collectionName mapping id).wpIn (connected (searching O I)).shared Q E m := by
  unfold get
  refine Coro.wpIn_bind.mpr (wpIn_collection_any fun collection => ?_)
  refine Coro.wpIn_bind.mpr (wpIn_tryExcept.mpr (wpIn_send nofun nofun ?_))
  change Coro.wpIn _ (_ >>= _) _ _ m
  have hfound : found [id] ((some allColumns).getD ["metadatas", "documents"]) m =
      columnsOf .all (((m.lookup id).map fun row => (id, row)).toList) := found_singleton id m
  rw [hfound, getResultToRows_columnsOf]
  cases hm : m.lookup id with
  | none => rwa [hm] at hQ
  | some row => rwa [hm] at hQ

/-- Whether there is a row with the id. -/
theorem wpIn_existing {collection : ℕ} (id : String) {α : Type} {none' : Operation (driver V W) Shared α}
    {some' : Operation (driver V W) Shared α} {Q : α → Rows V W → Prop} {E : Raised → Rows V W → Prop}
    (hnone : m.lookup id = none → none'.wpIn (connected (searching O I)).shared Q E m)
    (hsome : ∀ row, m.lookup id = some row → some'.wpIn (connected (searching O I)).shared Q E m) :
    (do
      let existing : GetResult V W ← send (.get collection [id] none)
      if (existing.ids.getD []).isEmpty then none' else some').wpIn
        (connected (searching O I)).shared Q E m := by
  refine Coro.wpIn_bind.mpr (wpIn_send nofun nofun ?_)
  change (if ((found [id] ["metadatas", "documents"] m).ids.getD []).isEmpty = true then
    _ else _ : Operation (driver V W) Shared α).wpIn _ _ _ m
  rw [ids_found]
  cases hm : m.lookup id with
  | none => exact hnone hm
  | some row => exact hsome row hm

variable [Inhabited V]

theorem wpIn_list_stored {limit offset : ℤ} (hlimit : 0 ≤ limit) (hoffset : 0 ≤ offset)
    {Q : List T × ℤ → Rows V W → Prop} {E : Raised → Rows V W → Prop}
    (hQ : Q ((records mapping).show m (((O.listed m).drop offset.toNat).take limit.toNat),
      (m.keys.card : ℤ)) m) :
    (list settings collectionName mapping limit offset).wpIn (connected (searching O I)).shared Q E
      m := by
  unfold list
  refine Coro.wpIn_bind.mpr (wpIn_collection_any fun collection => ?_)
  refine Coro.wpIn_bind.mpr (wpIn_tryExcept.mpr (Coro.wpIn_bind.mpr (wpIn_command fun r m' hr => ?_)))
  obtain ⟨rfl, hr⟩ := hr
  rw [if_pos ⟨hlimit, hoffset⟩] at hr
  subst hr
  refine Coro.wpIn_bind.mpr (wpIn_send nofun nofun ?_)
  have hfound := found_all (((O.listed m').drop offset.toNat).take limit.toNat) m'
    allColumns fun _ h => h
  change (eval (getResultToRows (found _ allColumns m')) >>= _ :
    Operation (driver V W) Shared (List T × ℤ)).wpIn _ _ _ m'
  rw [hfound, getResultToRows_columnsOf]
  rw [← show_found] at hQ
  exact hQ

/-- What is found is what the collection has found. -/
theorem wpIn_search_stored {v : V} {k : ℤ} (hk : 0 < k) {Q : List T → Rows V W → Prop}
    {E : Raised → Rows V W → Prop} (hQ : ∀ ids, I.nearest m v k.toNat ids →
      Q ((records mapping).show m ids) m) :
    (search settings collectionName mapping v k).wpIn (connected (searching O I)).shared Q E m := by
  unfold search
  refine Coro.wpIn_bind.mpr (wpIn_collection_any fun collection => ?_)
  refine Coro.wpIn_bind.mpr (wpIn_tryExcept.mpr (wpIn_command fun r m' hr => ?_))
  obtain ⟨rfl, hr⟩ := hr
  rw [if_pos hk] at hr
  obtain ⟨ids, hids, rfl⟩ := hr
  have hfound := found_all ids m' (allColumns ++ ["distances"])
    fun _ h => List.mem_append_left _ h
  change (eval (queryResultToRows (found ids (allColumns ++ ["distances"]) m').nested) >>= _ :
    Operation (driver V W) Shared (List T)).wpIn _ _ _ m'
  rw [queryResultToRows_nested, hfound, getResultToRows_columnsOf]
  have hshow := hQ ids hids
  rw [← show_found] at hshow
  exact hshow

omit [Inhabited V] in
/-- What `create()` raises where the id is taken. -/
theorem rethrow_createErrors : rethrow createErrors (.raw chromaError) =
    .adapter ⟨.query, "create", some chromaError⟩ := rfl

omit [Inhabited V] in
/-- The columns that `create()` adds. -/
theorem added_stored {row : Row V W} {vector : V} (hvector : row.vector = some vector) :
    (Columns.mk [row.id] (some [row.vector]) [row.metadataOrNone] row.documents).added 0 =
      .ok (row.stored vector) := by
  rw [hvector]
  unfold Columns.added Row.stored Row.documents
  cases row.document <;> rfl

/-- **The rows are the records**, and what is found is shown. -/
theorem refines_records : Refines (ValidAsked mapping)
    (searchedStore settings collectionName mapping O I) ((records mapping).backend O I) Eq := by
  refine refines_of_wpIn ?_
  rintro m _ (q | ⟨v, k⟩) rfl hq
  · cases q with
    | get id => exact wpIn_get_stored id ⟨m, rfl, rfl⟩
    | list limit offset => exact wpIn_list_stored hq.1 hq.2 ⟨m, rfl, rfl⟩
    | create entity =>
      obtain ⟨vector, hvector⟩ := Option.isSome_iff_exists.mp hq
      have hmake : (records mapping).make entity = (mapping.entityToRow entity).stored vector := by
        change Row.stored _ ((mapping.entityToRow entity).vector.getD default) = _
        rw [hvector, Option.getD_some]
      refine Coro.wpIn_bind.mpr (wpIn_collection_any fun collection => ?_)
      refine Coro.wpIn_bind.mpr (wpIn_tryExcept.mpr (wpIn_send nofun nofun ?_))
      rw [answer_add rfl (added_stored hvector)]
      cases hm : m.lookup (mapping.entityToRow entity).id with
      | none =>
        have hanswer : (records mapping).create entity m = _ := Merging.create_new hm
        rw [hmake] at hanswer
        exact ⟨_, hanswer, rfl⟩
      | some row =>
        refine ⟨m, ?_, rfl⟩
        rw [rethrow_createErrors]
        exact Merging.create_taken (M := records mapping) hm rfl
    | update entity =>
      refine Coro.wpIn_bind.mpr (wpIn_collection_any fun collection => ?_)
      refine wpIn_tryExcept.mpr (wpIn_existing _ (fun hm => ?_) fun row hm => ?_)
      · exact ⟨m, Merging.update_none hm, rfl⟩
      · refine Coro.wpIn_bind.mpr (wpIn_send nofun nofun ?_)
        have hanswer : answer (.update collection (mapping.entityToRow entity).columns) m = _ :=
          answer_update rfl
        rw [hm] at hanswer
        change Coro.Promised _ _ (answer (.update collection (mapping.entityToRow entity).columns) m).2
          (answer (.update collection (mapping.entityToRow entity).columns) m).1
        rw [hanswer]
        exact ⟨_, Merging.update_some hm, rfl⟩
    | delete id =>
      refine Coro.wpIn_bind.mpr (wpIn_collection_any fun collection => ?_)
      refine wpIn_tryExcept.mpr (wpIn_existing _ (fun hm => ?_) fun row hm => ?_)
      · exact ⟨m, Merging.delete_none hm, rfl⟩
      · refine Coro.wpIn_bind.mpr (wpIn_send nofun nofun ?_)
        exact ⟨_, Merging.delete_some hm, rfl⟩
  · exact wpIn_search_stored hq fun ids hids => ⟨m, ⟨rfl, ids, hids, rfl⟩, rfl⟩

omit [Inhabited V] in
/-- Every request is answered. -/
theorem exists_searchedStore (b : Rows V W) (q : ((operations String T).sum (searches V T)).Call) :
    ∃ r b', searchedStore settings collectionName mapping O I b q r b' := by
  refine Coro.exists_endsIn (exists_connected fun m q => ?_) (fun _ => ⟨⟨none, none⟩, trivial⟩)
    (asked settings collectionName mapping q) b
  cases q with
  | page collection limit offset included =>
    by_cases h : 0 ≤ limit ∧ 0 ≤ offset
    · exact ⟨_, m, rfl, by rw [if_pos h]⟩
    · exact ⟨_, m, rfl, by rw [if_neg h]⟩
  | query collection vs k included =>
    match vs with
    | [v] =>
      by_cases h : 0 < k
      · obtain ⟨ids, hids⟩ := I.exists_nearest m v k.toNat
        exact ⟨_, m, rfl, by rw [if_pos h]; exact ⟨ids, hids, rfl⟩⟩
      · exact ⟨_, m, rfl, by rw [if_neg h]⟩
    | [] | _ :: _ :: _ => exact ⟨_, _, rfl⟩
  | _ => exact ⟨_, _, rfl⟩

end Records

/-! ### One row -/

/-- A row with a document. Its vector is its own id. -/
def page (document : String) : Row String String := ⟨"7", some "7", some .empty, some document⟩

/-- It is created, found, changed and deleted. -/
def pageSearches :
    List ((operations String (Row String String)).sum (searches String (Row String String))).Call :=
  [.inl (.create (page "draft")), .inl (.create (page "copy")), .inr ("7", 1), .inl (.list 0 0),
    .inl (.update { page "final" with vector := none }), .inr ("7", 1), .inl (.delete "7"), .inr ("7", 1)]

end OpenframeAdapters.Db.Chromadb
