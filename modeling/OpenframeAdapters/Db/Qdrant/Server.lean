import OpenframeAdapters.Db.Qdrant.Repository
import OpenframeAdapters.Db.Server
import OpenframeAdapters.Store.Keyed

/-!
# A Qdrant collection

The collection behind a `QdrantVectorStore`.

## The model

Points are kept by their id. `upsert` puts its points in place of those with the same id, and
`delete` of a point that is not there succeeds. `scroll` gives the first points in the order of
their ids, and wants a limit of at least one. A collection under another name is not there; searches
are left out, and refused as well.

## What is proved

* `answer_upsert`, `answer_retrieve`, `answer_delete`, `answer_scroll`, `answer_count` — what becomes of
  the calls of the repository.
-/

namespace OpenframeAdapters.Db.Qdrant

open Python OpenframeAdapters.Core

open Store (Keyed)

/-- An `UnexpectedResponse` with that status. -/
def unexpectedResponse (status : ℕ) : PyExc :=
  { Exc.of [.qdrantUnexpectedResponse, .exception] (by decide) with code := some status }

/-- The points of a collection, by their ids. -/
abbrev Points (V : Type) := Keyed V (Point V)

variable {V : Type} [LinearOrder V]

/-- The points are put in, one after the other. -/
def upserted (points : List (Point V)) (m : Points V) : Points V :=
  points.foldl (fun m point => m.insert point.id point) m

/-- The points are removed. -/
def deleted (ids : List V) (m : Points V) : Points V := ids.foldl (fun m id => m.erase id) m

/-- What a call on this collection does. -/
def run : (q : Command V) → Points V → Except PyExc ((commands V).Reply q) × Points V
  | .upsert _ _ points, m => (.ok (), upserted points m)
  | .retrieve _ _ ids, m => (.ok (ids.filterMap m.lookup), m)
  | .scroll _ _ limit, m =>
    if limit ≤ 0 then (.error (unexpectedResponse 422), m)
    else (.ok (m.inOrder.take limit.toNat), m)
  | .count .., m => (.ok m.keys.card, m)
  | .delete _ _ ids, m => (.ok (), deleted ids m)
  | .queryPoints .., m => (.error (unexpectedResponse 400), m)

/-- The collection that a call is for. -/
def Command.collection : Command V → String
  | .upsert _ name _ | .retrieve _ name _ | .scroll _ name _ | .count _ name | .delete _ name _
  | .queryPoints _ name _ _ => name

/-- The server. -/
def answer (collection : String) (q : Command V) (m : Points V) :
    Except PyExc ((commands V).Reply q) × Points V :=
  if q.collection = collection then run q m else (.error (unexpectedResponse 404), m)

section Answers

variable {collection : String} {client : ℕ} {m : Points V}

/-- A call on this collection. -/
theorem answer_eq_run {q : Command V} (h : q.collection = collection) :
    answer collection q m = run q m := if_pos h

theorem answer_upsert (point : Point V) :
    answer collection (.upsert client collection [point]) m = (.ok (), m.insert point.id point) :=
  answer_eq_run rfl

theorem answer_retrieve (id : V) :
    answer collection (.retrieve client collection [id]) m = (.ok (m.lookup id).toList, m) := by
  refine (answer_eq_run rfl).trans ?_
  rw [run, List.filterMap_cons, List.filterMap_nil]
  cases m.lookup id <;> rfl

theorem answer_delete (id : V) :
    answer collection (.delete client collection [id]) m = (.ok (), m.erase id) :=
  answer_eq_run rfl

theorem answer_scroll {limit : ℤ} (h : 0 < limit) :
    answer collection (.scroll client collection limit) m =
      (.ok (m.inOrder.take limit.toNat), m) := by
  refine (answer_eq_run rfl).trans ?_
  rw [run, if_neg (not_le.mpr h)]

theorem answer_count :
    answer collection (.count client collection) m = (.ok m.keys.card, m) := answer_eq_run rfl

end Answers

end OpenframeAdapters.Db.Qdrant
