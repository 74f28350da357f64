import OpenframeAdapters.Db.Chromadb.Server

/-!
# Columns and rows

Chroma gives rows as parallel lists. A list may be left out, and in the lists of metadatas and of
documents there may be a `None` for a row.

## The model

* `columnsOf` — the columns of some rows, and `nested`, the same one level deeper, as `query()` gives
  them.
* `readBack` — what is left of a row that has been created.

## What is proved

* `getResultToRows_columnsOf` — the rows come out of their columns, in order.
* `queryResultToRows_nested` — both ways to transpose agree, on any columns at all.
* `wpIn_get_row` — what `get()` reads of a row.
* `lossless` — all of it, and what `get()` returns after `create()`.
-/

namespace OpenframeAdapters.Db.Chromadb

open Python OpenframeAdapters.Core

variable {V W T : Type}

/-! ### Transposing -/

/-- Which of the columns there are. -/
structure Included where
  /-- `embeddings`. -/
  embeddings : Bool
  /-- `metadatas`. -/
  metadatas : Bool
  /-- `documents`. -/
  documents : Bool

/-- The columns of rows, each under its id. -/
def columnsOf (included : Included) (rows : List (String × Stored V W)) : GetResult V W where
  ids := some (rows.map Prod.fst)
  embeddings := if included.embeddings then some (rows.map (·.2.embedding)) else none
  metadatas := if included.metadatas then some (rows.map (·.2.metadata)) else none
  documents := if included.documents then some (rows.map (·.2.document)) else none

/-- The same columns as those of the only query embedding. -/
def GetResult.nested (result : GetResult V W) : QueryResult V W where
  ids := result.ids.map fun column => [column]
  embeddings := result.embeddings.map fun column => [column]
  metadatas := result.metadatas.map fun column => [column]
  documents := result.documents.map fun column => [column]

/-- The row dictionary of a row, as far as it is in the columns. -/
def rowOf (included : Included) (row : String × Stored V W) : Row V W where
  id := row.1
  vector := if included.embeddings then some row.2.embedding else none
  metadata := some ((if included.metadatas then row.2.metadata else none).getD .empty)
  document := if included.documents then row.2.document else none

/-- A cell of a column that is there. -/
theorem cell_map {α β : Type} {f : β → α} {rows : List β} {i : ℕ} {row : β} (h : rows[i]? = some row)
    (there : Bool) : cell (if there then some (rows.map f) else none) i =
      .ok (if there then some (f row) else none) := by
  cases there with
  | false => rfl
  | true =>
    simp only [cell, if_true, List.getElem?_map, h, Option.map_some]

/-- Every component is taken from the same position. -/
theorem rowAt_columnsOf {included : Included} {rows : List (String × Stored V W)} {i : ℕ}
    {row : String × Stored V W} (h : rows[i]? = some row) :
    rowAt (columnsOf included rows).embeddings (columnsOf included rows).metadatas
      (columnsOf included rows).documents row.1 i = .ok (rowOf included row) := by
  obtain ⟨embeddings, metadatas, documents⟩ := included
  unfold rowAt columnsOf
  rw [cell_map h, cell_map h, cell_map h]
  cases metadatas <;> cases documents <;> rfl

theorem mapM_zipIdx_ok {α β ε : Type} {f : α × ℕ → Except ε β} {g : α → β} {xs : List α} {n : ℕ}
    (h : ∀ i a, xs[i]? = some a → f (a, n + i) = .ok (g a)) :
    (xs.zipIdx n).mapM f = .ok (xs.map g) := by
  induction xs generalizing n with
  | nil => rfl
  | cons x xs ih =>
    have hrest : (xs.zipIdx (n + 1)).mapM f = .ok (xs.map g) := by
      apply ih
      intro i a ha
      have hi : n + 1 + i = n + (i + 1) := by omega
      rw [hi]
      exact h (i + 1) a ha
    have hfirst : f (x, n) = .ok (g x) := h 0 x rfl
    rw [List.zipIdx_cons, List.mapM_cons, hfirst, hrest]
    rfl

/-- **Transposing** the columns of rows gives the rows. -/
theorem getResultToRows_columnsOf (included : Included) (rows : List (String × Stored V W)) :
    getResultToRows (columnsOf included rows) = .ok (rows.map (rowOf included)) := by
  change (rows.map Prod.fst).zipIdx.mapM _ = _
  rw [List.zipIdx_map, List.mapM_map]
  apply mapM_zipIdx_ok
  intro i row hrow
  rw [Nat.zero_add]
  exact rowAt_columnsOf hrow

theorem unnest_map {α : Type} (column : Option (List α)) :
    unnest (column.map fun xs => [xs]) = .ok column := by
  cases column with
  | none => rfl
  | some xs => rfl

/-- **Both ways to transpose** agree, and so do their errors. -/
theorem queryResultToRows_nested (result : GetResult V W) :
    queryResultToRows result.nested = getResultToRows result := by
  have hids : (((result.ids.map fun column => [column]).getD []).head?).getD [] =
      result.ids.getD [] := by
    cases result.ids with
    | none => rfl
    | some ids => rfl
  unfold queryResultToRows getResultToRows
  dsimp only [GetResult.nested]
  rw [hids, unnest_map, unnest_map, unnest_map]
  rfl

/-! ### Reading -/

/-- All three columns. -/
def Included.all : Included := ⟨true, true, true⟩

/-- What `get()` asks for of one id. -/
theorem found_singleton (id : String) (m : Rows V W) :
    found [id] allColumns m =
      columnsOf .all (((m.lookup id).map fun row => (id, row)).toList) := by
  have hrows : ([id].filterMap fun id => (m.lookup id).map fun row => (id, row)) =
      ((m.lookup id).map fun row => (id, row)).toList := by
    cases h : m.lookup id <;> simp [h]
  unfold found
  rw [hrows]
  rfl

section Reading

variable {settings : ChromaDBSettings} {collectionName : String} {mapping : Mapping V W T}
  {m : Rows V W}

theorem wpIn_collection {Q : ℕ → Rows V W → Prop} {E : Raised → Rows V W → Prop}
    (hQ : ∀ collection, Q collection m) :
    (getCollection settings collectionName).wpIn (connected (Backend.of answer)).shared Q E m := by
  unfold getCollection
  refine Coro.wpIn_bind.mpr (Coro.wpIn_get.mpr fun cached _ => ?_)
  cases cached.collection with
  | some collection => exact hQ _
  | none =>
    refine Coro.wpIn_bind.mpr ((connects_connected _).wpIn_getClient rfl fun client => ?_)
    exact Coro.wpIn_bind.mpr (wpIn_tryExcept.mpr (wpIn_command_of.mpr (hQ _)))

/-- **What `get()` returns**: the row that is stored, if there is one. -/
theorem wpIn_get_row (id : String) :
    (get settings collectionName mapping id).wpIn (connected (Backend.of answer)).shared
      (fun a m' => a = ((m.lookup id).map fun row =>
        mapping.rowToEntity (rowOf .all (id, row))) ∧ m' = m) (fun _ _ => False) m := by
  unfold get
  refine Coro.wpIn_bind.mpr (wpIn_collection fun collection => ?_)
  refine Coro.wpIn_bind.mpr (wpIn_tryExcept.mpr (wpIn_command_of.mpr ?_))
  change Coro.wpIn _ (_ >>= _) _ _ m
  have hfound : found [id] ((some allColumns).getD ["metadatas", "documents"]) m =
      columnsOf .all (((m.lookup id).map fun row => (id, row)).toList) := found_singleton id m
  rw [hfound, getResultToRows_columnsOf]
  cases m.lookup id with
  | none => exact ⟨rfl, rfl⟩
  | some row => exact ⟨rfl, rfl⟩

/-- The stored row of a row with a vector. -/
def Row.stored (row : Row V W) (vector : V) : Stored V W :=
  ⟨vector, row.metadataOrNone, row.document⟩

/-- `create()` stores the row, if there is none with its id. -/
theorem wpIn_create_row {entity : T} {vector : V}
    (hvector : (mapping.entityToRow entity).vector = some vector) :
    (create settings collectionName mapping entity).wpIn (connected (Backend.of answer)).shared
      (fun a m' => a = entity ∧ m.lookup (mapping.entityToRow entity).id = none ∧
        m' = m.insert (mapping.entityToRow entity).id ((mapping.entityToRow entity).stored vector))
      (fun _ m' => m.lookup (mapping.entityToRow entity).id ≠ none ∧ m' = m) m := by
  unfold create
  refine Coro.wpIn_bind.mpr (wpIn_collection fun collection => ?_)
  dsimp only
  generalize mapping.entityToRow entity = row at hvector
  have hadded : (Columns.mk [row.id] (some [row.vector]) [row.metadataOrNone]
      row.documents).added 0 = .ok (row.stored vector) := by
    rw [hvector]
    unfold Columns.added Row.stored Row.documents
    cases row.document <;> rfl
  have hanswer : answer (.add collection ⟨[row.id], some [row.vector], [row.metadataOrNone],
      row.documents⟩) m = _ := answer_add rfl hadded
  refine Coro.wpIn_bind.mpr (wpIn_tryExcept.mpr (wpIn_command_of.mpr ?_))
  rw [hanswer]
  cases hlookup : m.lookup row.id with
  | none => exact ⟨rfl, rfl, rfl⟩
  | some old => exact ⟨Option.some_ne_none _, rfl⟩

end Reading

/-- What `get()` makes of a row that has been created. -/
def readBack (row : Row V W) : Row V W :=
  { row with metadata := some (row.metadata.getD .empty) }

theorem empty_of_items {m : Dict String W} (h : m.items.isEmpty = true) : m = .empty := by
  obtain ⟨items, hnodup⟩ := m
  obtain rfl : items = [] := List.isEmpty_iff.mp h
  rfl

/-- An empty dictionary is read where there is none. -/
theorem metadataOrNone_getD (row : Row V W) :
    row.metadataOrNone.getD .empty = row.metadata.getD .empty := by
  unfold Row.metadataOrNone
  cases row.metadata with
  | none => rfl
  | some m =>
    rw [Option.filter_some]
    cases hempty : m.items.isEmpty with
    | false => rfl
    | true => exact (empty_of_items hempty).symm

theorem rowOf_stored {row : Row V W} {vector : V} (hvector : row.vector = some vector) :
    rowOf .all (row.id, row.stored vector) = readBack row := by
  unfold readBack
  rw [hvector, ← metadataOrNone_getD]
  rfl

instance : Nonempty Shared := ⟨⟨none, none⟩⟩

/-- Nothing is lost between rows and columns. -/
structure Lossless (V W : Type) : Prop where
  /-- `_get_result_to_rows()`. -/
  rows : ∀ (included : Included) (rows : List (String × Stored V W)),
    getResultToRows (columnsOf included rows) = .ok (rows.map (rowOf included))
  /-- `_query_result_to_rows()`. -/
  agree : ∀ (included : Included) (rows : List (String × Stored V W)),
    queryResultToRows (columnsOf included rows).nested = .ok (rows.map (rowOf included))
  /-- `create()` of a row with a vector and a new id. -/
  creates : ∀ (settings : ChromaDBSettings) (collectionName : String) (row : Row V W) (m : Rows V W),
    row.vector.isSome = true → m.lookup row.id = none →
    ∃ m', (create settings collectionName baseMapping row).Returns
      (connected (Backend.of answer)).shared m row m'
  /-- `create()` of a row with a vector, and then `get()`. -/
  roundTrip : ∀ (settings : ChromaDBSettings) (collectionName : String) (row created : Row V W)
    (m m' : Rows V W), row.vector.isSome = true →
    (create settings collectionName baseMapping row).EndsIn (connected (Backend.of answer)).shared m
      (.ok created) m' →
    (get settings collectionName baseMapping row.id).Returns (connected (Backend.of answer)).shared m'
      (some (readBack row)) m'

/-- **The columnar transpose is lossless.** -/
theorem lossless (V W : Type) : Lossless V W where
  rows := getResultToRows_columnsOf
  agree included rows :=
    (queryResultToRows_nested _).trans (getResultToRows_columnsOf included rows)
  creates settings collectionName row m hvector hnew := by
    obtain ⟨vector, hvector⟩ : ∃ vector, (baseMapping.entityToRow row).vector = some vector :=
      Option.isSome_iff_exists.mp hvector
    refine ⟨m.insert row.id (row.stored vector), returns_of_wpIn (fun _ _ => ⟨_, _, rfl⟩) ?_⟩
    refine Coro.wpIn_mono (fun a m' h => ⟨h.1, h.2.2⟩) (fun x m' h => ?_)
      (wpIn_create_row hvector)
    exact h.1 hnew
  roundTrip settings collectionName row created m m' hvector hend := by
    obtain ⟨vector, hvector⟩ := Option.isSome_iff_exists.mp hvector
    have hmapped : (baseMapping.entityToRow row).vector = some vector := hvector
    obtain ⟨-, -, hstored⟩ := hend.of_wpIn (wpIn_create_row hmapped)
    have hlookup : m'.lookup row.id = some (row.stored vector) := by
      rw [hstored]
      exact Finmap.lookup_insert m
    refine returns_of_wpIn (fun _ _ => ⟨_, _, rfl⟩) ?_
    refine Coro.wpIn_mono (fun a m₁ h => ⟨?_, h.2⟩) (fun _ _ h => h) (wpIn_get_row row.id)
    rw [h.1, hlookup, Option.map_some, rowOf_stored hvector]
    rfl

end OpenframeAdapters.Db.Chromadb
