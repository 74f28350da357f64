import OpenframeAdapters.Db.Chromadb.Columns

/-!
# Reading an update

`update()` passes `None` for metadata and documents that it has none of, which leaves those of the row
alone, and metadata is replaced key by key.

## The model

* `ReadsOwnUpdate` — after an `update(entity)` that has returned the entity, `get()` returns it.
* `Covers` — the entity has whatever the row has.

## What is proved

* `readsOwnUpdate_iff` — the one holds exactly where the other does.
* `not_readsOwnUpdate` — metadata that is to be cleared is still there.
-/

namespace OpenframeAdapters.Db.Chromadb

open Python OpenframeAdapters.Core

variable {V W : Type}

/-- The metadata of a row, where none is an empty one. -/
def Row.metadataDict (row : Row V W) : Dict String W := row.metadata.getD .empty

/-- The metadata that is stored, where none is an empty one. -/
def Stored.metadataDict (row : Stored V W) : Dict String W := row.metadata.getD .empty

/-- The row that is read is the entity. A vector is compared where the entity has one. -/
structure Row.Equals (read entity : Row V W) : Prop where
  /-- The metadata. -/
  metadata : read.metadataDict.Alike entity.metadataDict
  /-- The document. -/
  document : read.document = entity.document
  /-- The vector. -/
  vector : ∀ v, entity.vector = some v → read.vector = some v

/-- If `update(entity)` returns the entity, then `get()` returns a row that equals it. -/
def ReadsOwnUpdate (settings : ChromaDBSettings) (collectionName : String) (m : Rows V W)
    (entity : Row V W) : Prop :=
  ∀ {a m'}, (update settings collectionName baseMapping entity).EndsIn
    (connected (Backend.of answer)).shared m (.ok (some a)) m' →
  ∀ {o m''}, (get settings collectionName baseMapping entity.id).EndsIn
    (connected (Backend.of answer)).shared m' o m'' →
  ∃ read, o = .ok (some read) ∧ read.Equals entity

/-- The entity has all metadata keys of the row, and a document if the row has one. -/
structure Covers (entity : Row V W) (row : Stored V W) : Prop where
  /-- The metadata. -/
  metadata : ∀ k, row.metadataDict.get? k ≠ none → entity.metadataDict.get? k ≠ none
  /-- The document. -/
  document : row.document ≠ none → entity.document ≠ none

/-- The columns that `update()` passes. -/
def Row.columns (row : Row V W) : Columns V W :=
  ⟨[row.id], row.vector.map fun v => [some v], [row.metadataOrNone], row.documents⟩

/-! ### What is stored -/

section Changed

variable {entity : Row V W} {row : Stored V W}

theorem embedding_changed : (entity.columns.changed 0 row).embedding =
    entity.vector.getD row.embedding := by
  unfold Columns.changed Columns.embeddingAt Row.columns
  cases entity.vector <;> rfl

theorem document_changed : (entity.columns.changed 0 row).document =
    entity.document.or row.document := by
  unfold Columns.changed Columns.documentAt Row.columns Row.documents
  cases entity.document <;> rfl

/-- The keys of the entity are replaced, and the other ones stay. -/
theorem metadata_changed (k : String) : (entity.columns.changed 0 row).metadataDict.get? k =
    (entity.metadataDict.get? k).or (row.metadataDict.get? k) := by
  have hread : entity.metadataDict = entity.metadataOrNone.getD .empty :=
    (metadataOrNone_getD entity).symm
  have hat : entity.columns.metadataAt 0 = entity.metadataOrNone := rfl
  rw [hread]
  unfold Columns.changed Stored.metadataDict
  rw [hat]
  cases entity.metadataOrNone with
  | none => rfl
  | some m => exact Dict.get?_update

/-- What is read after the update is the entity, exactly if the entity covers the row. -/
theorem equals_changed_iff :
    (rowOf .all (entity.id, entity.columns.changed 0 row)).Equals entity ↔ Covers entity row := by
  have hmetadata : (rowOf .all (entity.id, entity.columns.changed 0 row)).metadataDict =
      (entity.columns.changed 0 row).metadataDict := rfl
  have hdocument : (rowOf .all (entity.id, entity.columns.changed 0 row)).document =
      (entity.columns.changed 0 row).document := rfl
  constructor
  · intro h
    refine ⟨fun k hk hnone => ?_, fun hdoc hnone => ?_⟩
    · have hread := h.metadata k
      rw [hmetadata, metadata_changed, hnone, Option.none_or] at hread
      exact hk hread
    · have hread := h.document
      rw [hdocument, document_changed, hnone, Option.none_or] at hread
      exact hdoc hread
  · intro h
    refine ⟨fun k => ?_, ?_, fun v hv => ?_⟩
    · rw [hmetadata, metadata_changed]
      cases hk : entity.metadataDict.get? k with
      | some v => rfl
      | none =>
        by_contra hrow
        exact h.metadata k hrow hk
    · rw [hdocument, document_changed]
      cases hdoc : entity.document with
      | some d => rfl
      | none =>
        by_contra hrow
        exact h.document hrow hdoc
    · change some (entity.columns.changed 0 row).embedding = some v
      rw [embedding_changed, hv, Option.getD_some]

end Changed

/-! ### What is read -/

section Reading

variable {settings : ChromaDBSettings} {collectionName : String} {m : Rows V W} {entity : Row V W}

/-- `update()` changes the row with the id of the entity, if there is one. -/
theorem wpIn_update_row (settings : ChromaDBSettings) (collectionName : String) (m : Rows V W)
    (entity : Row V W) :
    (update settings collectionName baseMapping entity).wpIn (connected (Backend.of answer)).shared
      (fun a m' => match m.lookup entity.id with
        | some row => a = some entity ∧ m' = m.insert entity.id (entity.columns.changed 0 row)
        | none => a = none ∧ m' = m) (fun _ _ => False) m := by
  unfold update
  refine Coro.wpIn_bind.mpr (wpIn_collection fun collection => ?_)
  refine wpIn_tryExcept.mpr (Coro.wpIn_bind.mpr (wpIn_command_of.mpr ?_))
  change (if ((found [entity.id] ["metadatas", "documents"] m).ids.getD []).isEmpty = true then
    _ else _ : Operation (driver V W) Shared (Option (Row V W))).wpIn _ _ _ m
  rw [ids_found]
  cases hlookup : m.lookup entity.id with
  | none => exact ⟨rfl, rfl⟩
  | some row =>
    refine Coro.wpIn_bind.mpr (wpIn_command_of.mpr ?_)
    have hanswer : answer (.update collection entity.columns) m = _ := answer_update rfl
    rw [hlookup] at hanswer
    change Coro.Promised _ _ (answer (.update collection entity.columns) m).2
      (answer (.update collection entity.columns) m).1
    rw [hanswer]
    exact ⟨rfl, rfl⟩

/-- An entity that is read as it was given covers the row. -/
theorem covers_of_readsOwnUpdate (h : ReadsOwnUpdate settings collectionName m entity)
    {row : Stored V W} (hlookup : m.lookup entity.id = some row) : Covers entity row := by
  obtain ⟨o, m', hend⟩ := exists_end answer (update settings collectionName baseMapping entity) m
  have hupdated := hend.of_wpIn (wpIn_update_row settings collectionName m entity)
  rw [hlookup] at hupdated
  cases o with
  | error x => exact hupdated.elim
  | ok a =>
    obtain ⟨rfl, rfl⟩ := hupdated
    obtain ⟨o, m'', hend'⟩ := exists_end answer
      (get settings collectionName baseMapping entity.id) _
    obtain ⟨read, rfl, hequals⟩ := h hend hend'
    obtain ⟨hread, -⟩ := hend'.of_wpIn (wpIn_get_row entity.id)
    rw [Finmap.lookup_insert, Option.map_some, Option.some.injEq] at hread
    rw [hread] at hequals
    exact equals_changed_iff.mp hequals

/-- **Reading an update**: `get()` returns the entity exactly where it has all metadata keys of the
row, and a document if the row has one. -/
theorem readsOwnUpdate_iff (settings : ChromaDBSettings) (collectionName : String) (m : Rows V W)
    (entity : Row V W) : ReadsOwnUpdate settings collectionName m entity ↔
      ∀ row, m.lookup entity.id = some row → Covers entity row := by
  constructor
  · intro h row hlookup
    exact covers_of_readsOwnUpdate h hlookup
  · intro h a m' hend o m'' hend'
    have hupdated := hend.of_wpIn (wpIn_update_row settings collectionName m entity)
    cases hlookup : m.lookup entity.id with
    | none =>
      rw [hlookup] at hupdated
      cases hupdated.1
    | some row =>
      rw [hlookup] at hupdated
      obtain ⟨-, rfl⟩ := hupdated
      have hgot := hend'.of_wpIn (wpIn_get_row entity.id)
      rw [Finmap.lookup_insert] at hgot
      cases o with
      | error x => exact hgot.elim
      | ok read => exact ⟨_, congrArg Except.ok hgot.1, equals_changed_iff.mpr (h row hlookup)⟩

end Reading

/-! ### Clearing -/

/-- There is one row, with metadata. -/
def tagged : Rows ℕ String :=
  (∅ : Rows ℕ String).insert "7" ⟨3, some (.ofPairs [("tag", "draft")]), none⟩

/-- The metadata of the row is cleared. -/
def untagged : Row ℕ String := ⟨"7", some 3, some .empty, none⟩

/-- **Metadata is not cleared** by an update. -/
theorem not_readsOwnUpdate : ¬ ReadsOwnUpdate chromadbLocal "items" tagged untagged := by
  intro h
  have hcovers := covers_of_readsOwnUpdate h (Finmap.lookup_insert _)
  exact hcovers.metadata "tag" (by decide) rfl

end OpenframeAdapters.Db.Chromadb
