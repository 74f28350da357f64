import OpenframeAdapters.Db.Chromadb.Repository
import OpenframeAdapters.Db.Server
import OpenframeAdapters.Store.Keyed

/-!
# A Chroma collection

The collection behind a `ChromaDBRepository`, as far as the calls that address rows by their ids go.

## The model

Rows are kept by their ids. `add` of an id that is there is a `DuplicateIDError`, and adds nothing.
`update` replaces the embedding and the document where it is given any, and the metadata key by key;
of an id that is not there it takes no notice. `delete` of an id that is not there succeeds.
Listing and searching are left out, and refused.

## What is proved

* `answer_get`, `answer_add`, `answer_update`, `answer_delete` — what becomes of the calls of the
  repository.
-/

namespace OpenframeAdapters.Db.Chromadb

open Python OpenframeAdapters.Core

open Store (Keyed)

/-- A `ChromaError`, such as a `DuplicateIDError`. -/
def chromaError : PyExc := .of [.chromaError, .exception] (by decide)

/-- What is kept of a row. -/
structure Stored (V W : Type) where
  /-- The embedding. -/
  embedding : V
  /-- The metadata. -/
  metadata : Option (Dict String W)
  /-- The document. -/
  document : Option String

/-- The rows of a collection, by their ids. -/
abbrev Rows (V W : Type) := Keyed String (Stored V W)

variable {V W : Type}

/-! ### Columns -/

/-- The embedding at a position. -/
def Columns.embeddingAt (columns : Columns V W) (i : ℕ) : Option V :=
  (columns.embeddings.bind (·[i]?)).join

/-- The metadata at a position. -/
def Columns.metadataAt (columns : Columns V W) (i : ℕ) : Option (Dict String W) :=
  columns.metadatas[i]?.join

/-- The document at a position. -/
def Columns.documentAt (columns : Columns V W) (i : ℕ) : Option String :=
  columns.documents.bind (·[i]?)

/-- A new row. There is none without an embedding. -/
def Columns.added (columns : Columns V W) (i : ℕ) : Except PyExc (Stored V W) :=
  match columns.embeddingAt i with
  | some embedding => .ok ⟨embedding, columns.metadataAt i, columns.documentAt i⟩
  | none => .error chromaError

/-- A row with what the columns have for it. -/
def Columns.changed (columns : Columns V W) (i : ℕ) (row : Stored V W) : Stored V W where
  embedding := (columns.embeddingAt i).getD row.embedding
  metadata := ((columns.metadataAt i).map (row.metadata.getD .empty).update).or row.metadata
  document := (columns.documentAt i).or row.document

/-! ### Calls -/

/-- The rows are added, if none of them is there. -/
def added (columns : Columns V W) (m : Rows V W) : Except PyExc (Rows V W) :=
  columns.ids.zipIdx.foldlM (fun m p =>
    match m.lookup p.1 with
    | some _ => .error chromaError
    | none => (columns.added p.2).map fun row => m.insert p.1 row) m

/-- The rows that are there are changed. -/
def updated (columns : Columns V W) (m : Rows V W) : Rows V W :=
  columns.ids.zipIdx.foldl (fun m p =>
    match m.lookup p.1 with
    | some row => m.insert p.1 (columns.changed p.2 row)
    | none => m) m

/-- What `get` gives: the rows that are there, and of the columns those that are asked for. -/
def found (ids included : List String) (m : Rows V W) : GetResult V W :=
  let rows := ids.filterMap fun id => (m.lookup id).map fun row => (id, row)
  { ids := some (rows.map Prod.fst)
    embeddings := if "embeddings" ∈ included then some (rows.map (·.2.embedding)) else none
    metadatas := if "metadatas" ∈ included then some (rows.map (·.2.metadata)) else none
    documents := if "documents" ∈ included then some (rows.map (·.2.document)) else none }

/-- The server. -/
def answer : (q : Command V W) → Rows V W → Except PyExc ((commands V W).Reply q) × Rows V W
  | .getOrCreateCollection .., m => (.ok (0 : ℕ), m)
  | .get _ ids included, m => (.ok (found ids (included.getD ["metadatas", "documents"]) m), m)
  | .count _, m => (.ok m.keys.card, m)
  | .add _ columns, m =>
    match added columns m with
    | .ok m' => (.ok (), m')
    | .error exc => (.error exc, m)
  | .update _ columns, m => (.ok (), updated columns m)
  | .delete _ ids, m => (.ok (), ids.foldl (fun m id => m.erase id) m)
  | .page .., m | .query .., m => (.error chromaError, m)

section Answers

variable {collection : ℕ} {m : Rows V W} {id : String}

/-- The id comes back if it is there. -/
theorem answer_get : answer (.get collection [id] none) m =
    (.ok (found [id] ["metadatas", "documents"] m), m) := rfl

theorem ids_found (id : String) (m : Rows V W) (included : List String) :
    (found [id] included m).ids = some (if (m.lookup id).isSome then [id] else []) := by
  rw [found]
  cases h : m.lookup id <;> simp [h]

/-- A row without an embedding is not added. -/
theorem answer_add_error {columns : Columns V W} {exc : PyExc} (hids : columns.ids = [id])
    (hrow : columns.added 0 = .error exc) :
    answer (.add collection columns) m = (.error chromaError, m) := by
  have hexc : exc = chromaError := by
    unfold Columns.added at hrow
    split at hrow <;> cases hrow
    rfl
  have hadd : added columns m = .error chromaError := by
    rw [added, hids]
    change (match m.lookup id with
      | some _ => Except.error chromaError
      | none => (columns.added 0).map fun row => m.insert id row) >>= _ = _
    cases m.lookup id with
    | some _ => rfl
    | none =>
      rw [hrow, hexc]
      rfl
  rw [answer, hadd]

/-- One row is added. -/
theorem answer_add {columns : Columns V W} {row : Stored V W} (hids : columns.ids = [id])
    (hrow : columns.added 0 = .ok row) : answer (.add collection columns) m =
      if (m.lookup id).isSome then (.error chromaError, m) else (.ok (), m.insert id row) := by
  have hadd : added columns m =
      if (m.lookup id).isSome then .error chromaError else .ok (m.insert id row) := by
    rw [added, hids]
    change (match m.lookup id with
      | some _ => Except.error chromaError
      | none => (columns.added 0).map fun row => m.insert id row) >>= _ = _
    cases m.lookup id with
    | some _ => rfl
    | none => rw [hrow]; rfl
  rw [answer, hadd]
  split_ifs <;> rfl

/-- One row is changed, if it is there. -/
theorem answer_update {columns : Columns V W} (hids : columns.ids = [id]) :
    answer (.update collection columns) m = (.ok (),
      match m.lookup id with
      | some row => m.insert id (columns.changed 0 row)
      | none => m) := by
  rw [answer, updated, hids]
  rfl

theorem answer_delete : answer (.delete collection [id]) m = (.ok (), m.erase id) := rfl

end Answers

end OpenframeAdapters.Db.Chromadb
