import OpenframeAdapters.Db.Postgres.Repository

/-!
# Row dictionaries

The repositories of the SQL databases split a row the same way: `update()` takes the value of the
id column, with `row_dict.get(self._id_column)`, and the columns to update,

    update_cols = {k: v for k, v in row_dict.items() if k != self._id_column}

`Postgres.update` has both in place.
-/

namespace OpenframeAdapters.Db

open Python

open Postgres (Table Param)

variable {V : Type} (t : Table) (rowDict : Dict String V)

/-- `row_dict.get(self._id_column)`. -/
def entityId : Param V := ((rowDict.get? t.idColumn).map .value).getD .null

/-- `update_cols`. -/
def updateCols : List (String × V) := rowDict.items.filter (·.1 ≠ t.idColumn)

/-- `list(row_dict.keys())`. -/
def columns : List String := rowDict.items.map Prod.fst

/-- `list(row_dict.values())`. -/
def values : List (Param V) := rowDict.items.map fun item => .value item.2

/-- `list(update_cols.values()) + [entity_id]`. -/
def updateValues : List (Param V) :=
  (updateCols t rowDict).map (fun item => .value item.2) ++ [entityId t rowDict]

end OpenframeAdapters.Db
