import OpenframeAdapters.Db.Milvus.Repository
import OpenframeAdapters.Db.Server
import OpenframeAdapters.Store.Keyed

/-!
# A Milvus collection

The collection behind a `MilvusRepository`, as far as the calls that address one row go.

## The model

Rows are kept by the value of the id field. `upsert` puts its rows in place of those with the same
id, and `delete` of a row that is not there succeeds. A row without an id, a `get` of `None` and
another collection are a `MilvusException`; so are, here, the calls that address several rows.

## What is proved

* `answer_get`, `answer_upsert`, `answer_delete` — what becomes of the calls of the repository.
-/

namespace OpenframeAdapters.Db.Milvus

open Python OpenframeAdapters.Core

open Store (Keyed)

/-- A `MilvusException`. -/
def milvusException : PyExc := .of [.milvusException, .exception] (by decide)

/-- The rows of a collection, by the value of the id field. -/
abbrev Rows (V : Type) := Keyed V (Dict String V)

variable {V : Type} [DecidableEq V]

/-- The rows are put in, one after the other, unless one of them has no id. -/
def upserted (idField : String) (data : List (Dict String V)) (m : Rows V) :
    Except PyExc (Rows V) :=
  data.foldlM (fun m row =>
    match row.get? idField with
    | some id => .ok (m.insert id row)
    | none => .error milvusException) m

/-- The server. -/
def answer (collection : Collection) :
    (q : Command V) → Rows V → Except PyExc ((commands V).Reply q) × Rows V
  | .get _ name ids, m =>
    match ids.mapM id with
    | some ids =>
      if name = collection.name then (.ok (ids.filterMap m.lookup), m)
      else (.error milvusException, m)
    | none => (.error milvusException, m)
  | .upsert _ name data, m =>
    match upserted collection.idField data m with
    | .ok m' => if name = collection.name then (.ok (), m') else (.error milvusException, m)
    | .error exc => (.error exc, m)
  | .delete _ name ids, m =>
    if name = collection.name then (.ok (), ids.foldl (fun m id => m.erase id) m)
    else (.error milvusException, m)
  | .page .., m | .query .., m | .search .., m => (.error milvusException, m)

section Answers

variable {collection : Collection} {client : ℕ} {m : Rows V} {id : V}

theorem answer_get :
    answer collection (.get client collection.name [some id]) m = (.ok (m.lookup id).toList, m) := by
  have hfind : [id].filterMap m.lookup = (m.lookup id).toList := by
    rw [List.filterMap_cons, List.filterMap_nil]
    cases m.lookup id <;> rfl
  rw [← hfind]
  exact if_pos rfl

theorem answer_upsert {row : Dict String V} (hid : row.get? collection.idField = some id) :
    answer collection (.upsert client collection.name [row]) m = (.ok (), m.insert id row) := by
  have hput : upserted collection.idField [row] m = .ok (m.insert id row) := by
    rw [upserted, List.foldlM_cons, hid]
    rfl
  rw [answer, hput]
  exact if_pos rfl

theorem answer_delete :
    answer collection (.delete client collection.name [id]) m = (.ok (), m.erase id) := if_pos rfl

end Answers

end OpenframeAdapters.Db.Milvus
