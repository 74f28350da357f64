import Mathlib.Logic.Function.Basic
import OpenframeAdapters.Db.Agreement

/-!
# A Cassandra table

The table behind a `CassandraRepository`, as far as the statements that address one row go.

## The model

What arrives at the server for a bound value is a `K` (`wire`), so that an id is the same whether it
has come as the argument of `get()` or as the value of a column. Rows are kept by the value of the
id column. `INSERT` and `UPDATE` both write the columns they name, into a new row where there is
none; `DELETE` of a row that is not there succeeds. A text that the server cannot read is answered
with `InvalidRequest`, as is one for another table.

## What is proved

* `answer_select`, `answer_insert`, `answer_update`, `answer_delete` — what becomes of the statements
  of the repository.
-/

namespace OpenframeAdapters.Db.Cassandra

open Python OpenframeAdapters.Core

open Postgres (Table Param)

/-- `cassandra.InvalidRequest`, which the adapter does not name. -/
def invalidRequest : PyExc := unnamedError

/-- The rows of a table, by the value of the id column. -/
abbrev Rows (K : Type) := K → Option (Dict String K)

/-- How values and rows are transmitted. -/
structure Wire (R V K : Type) where
  /-- A bound value. -/
  param : Param V → K
  /-- A row. -/
  row : Dict String K → R

section Rows

variable {K : Type} [DecidableEq K]

/-- The columns are written into the row, which is made if it is not there. -/
def Rows.upsert (rows : Rows K) (id : K) (columns : List (String × K)) : Rows K :=
  Function.update rows id <| some <|
    match rows id with
    | some row => row.update (.ofPairs columns)
    | none => .ofPairs columns

/-- The row is removed, if it is there. -/
def Rows.remove (rows : Rows K) (id : K) : Rows K := Function.update rows id none

end Rows

variable {R V K : Type} [DecidableEq K] (wire : Wire R V K) (t : Table)

/-- What a statement does to the table, and the rows it returns. -/
def Rows.run (rows : Rows K) : Option (Sql.Stmt (Param V)) → Except PyExc (List R) × Rows K
  | some (.select table key limit) =>
    if table = t.name ∧ key.1 = t.idColumn ∧ limit ≠ some 0 then
      (.ok ((rows (wire.param key.2)).toList.map wire.row), rows)
    else (.error invalidRequest, rows)
  | some (.insert table row) =>
    match row.lookup t.idColumn with
    | some id =>
      if table = t.name then
        (.ok [], rows.upsert (wire.param id) (row.map fun c => (c.1, wire.param c.2)))
      else (.error invalidRequest, rows)
    | none => (.error invalidRequest, rows)
  | some (.update table sets key) =>
    if table = t.name ∧ key.1 = t.idColumn then
      (.ok [], rows.upsert (wire.param key.2) ((key :: sets).map fun c => (c.1, wire.param c.2)))
    else (.error invalidRequest, rows)
  | some (.delete table key) =>
    if table = t.name ∧ key.1 = t.idColumn then (.ok [], rows.remove (wire.param key.2))
    else (.error invalidRequest, rows)
  | none => (.error invalidRequest, rows)

/-- The server. -/
def answer : (q : (commands R V).Call) → Rows K → Except PyExc ((commands R V).Reply q) × Rows K
  | .execute _ query params, rows => rows.run wire t (Sql.read .percent query (params.getD []))

section Answers

variable {wire t} {rowDict : Dict String V} {rows : Rows K} {session : ℕ}

/-- The id of a row is the value of its id column. -/
theorem entityId_eq (h : IsRow t rowDict) :
    ∃ v, rowDict.items.lookup t.idColumn = some v ∧ entityId t rowDict = .value v := by
  cases hv : rowDict.get? t.idColumn with
  | none => exact absurd h.idColumn (Dict.get?_eq_none_iff.mp hv)
  | some v => exact ⟨v, hv, by rw [entityId, hv]; rfl⟩

/-! What the statements mean. -/

theorem read_getQuery (ht : Sql.IsWord t.name) (hid : Sql.IsWord t.idColumn) (id : Param V) :
    Sql.read .percent (getQuery t) [id] = some (.select t.name (t.idColumn, id) (some 1)) := by
  rw [getQuery_cassandra]
  have hclear : Sql.Clear " LIMIT 1".toList := rfl
  exact Sql.read_selectText ht hid hclear id (by decide)

theorem read_insertQuery (h : IsRow t rowDict) :
    Sql.read .percent (insertQuery t (columns rowDict)) (values rowDict) =
      some (insertOf t rowDict) := by
  rw [insertQuery_cassandra]
  exact read_insert h "" (by decide)

theorem read_updateQuery (h : IsRow t rowDict) (hcols : updateCols t rowDict ≠ []) :
    Sql.read .percent (updateQuery t ((updateCols t rowDict).map Prod.fst))
      (updateValues t rowDict) = some (updateOf t rowDict) := by
  rw [updateQuery_cassandra]
  exact read_update h hcols rfl (by decide)

theorem deleteQuery_cassandra : deleteQuery t = Sql.deleteText .percent t.name t.idColumn := by
  have hlast : " = %s" = " = " ++ Sql.Style.percent.placeholder 0 := rfl
  unfold deleteQuery Sql.deleteText
  simp only [Sql.toString_self, String.append_assoc, hlast]

theorem read_deleteQuery (ht : Sql.IsWord t.name) (hid : Sql.IsWord t.idColumn) (id : Param V) :
    Sql.read .percent (deleteQuery t) [id] = some (.delete t.name (t.idColumn, id)) :=
  deleteQuery_cassandra ▸ Sql.read_deleteText ht hid id

/-! What they do. -/

theorem answer_select (ht : Sql.IsWord t.name) (hid : Sql.IsWord t.idColumn) (id : Param V) :
    answer wire t (.execute session (getQuery t) (some [id])) rows =
      (.ok ((rows (wire.param id)).toList.map wire.row), rows) := by
  rw [answer, Option.getD_some, read_getQuery ht hid, Rows.run]
  simp

theorem answer_insert (h : IsRow t rowDict) :
    answer wire t (.execute session (insertQuery t (columns rowDict)) (some (values rowDict))) rows =
      (.ok [], rows.upsert (wire.param (entityId t rowDict))
        (rowDict.items.map fun c => (c.1, wire.param (.value c.2)))) := by
  obtain ⟨v, hv, hid⟩ := entityId_eq h
  rw [answer, Option.getD_some, read_insertQuery h, insertOf, Rows.run]
  simp only [lookup_map_snd, hv, Option.map_some, if_true, hid, List.map_map]
  rfl

theorem answer_update (h : IsRow t rowDict) (hcols : updateCols t rowDict ≠ []) :
    answer wire t (.execute session (updateQuery t ((updateCols t rowDict).map Prod.fst))
        (some (updateValues t rowDict))) rows =
      (.ok [], rows.upsert (wire.param (entityId t rowDict))
        (((t.idColumn, entityId t rowDict) ::
          (updateCols t rowDict).map fun c => (c.1, .value c.2)).map
            fun c => (c.1, wire.param c.2))) := by
  rw [answer, Option.getD_some, read_updateQuery h hcols, updateOf, Rows.run]
  simp

theorem answer_delete (ht : Sql.IsWord t.name) (hid : Sql.IsWord t.idColumn) (id : Param V) :
    answer wire t (.execute session (deleteQuery t) (some [id])) rows =
      (.ok [], rows.remove (wire.param id)) := by
  rw [answer, Option.getD_some, read_deleteQuery ht hid, Rows.run]
  simp

end Answers

end OpenframeAdapters.Db.Cassandra
