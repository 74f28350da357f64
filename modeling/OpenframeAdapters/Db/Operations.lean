import OpenframeAdapters.Db.Repository
import OpenframeAdapters.Python.Session
import OpenframeAdapters.Store.Keyed

/-!
# What a repository is for

A repository is a map from ids to entities. Here are the requests that `BaseRepository[T]` takes, and
what such a map answers.

## The model

* `Request` and `operations` — the requests, and what they return.
* `Reference` — the map: what an entity's id is, and whether `create()` of an id that is taken is
  refused. `Reference.upTo` is the map where two entities that are alike count as the same.
-/

namespace OpenframeAdapters.Db

open Python OpenframeAdapters.Core

open Store (Keyed)

/-- A request to a repository. -/
inductive Request (K T : Type) where
  /-- `get(entity_id)`. -/
  | get (id : K)
  /-- `list(limit, offset)`. -/
  | list (limit offset : ℤ)
  /-- `create(entity)`. -/
  | create (entity : T)
  /-- `update(entity)`. -/
  | update (entity : T)
  /-- `delete(entity_id)`. -/
  | delete (id : K)

/-- The requests and what they return. -/
abbrev operations (K T : Type) : Driver where
  Call := Request K T
  Reply
    | .get _ => Option T
    | .list .. => List T × ℤ
    | .create _ => T
    | .update _ => Option T
    | .delete _ => Bool

/-- A repository takes requests. -/
def BaseRepository.serve {D : Driver} {σ T : Type} (repo : BaseRepository D σ T) :
    (q : Request String T) → Operation D σ ((operations String T).Reply q)
  | .get id => repo.get id
  | .list limit offset => repo.list limit offset
  | .create entity => repo.create entity
  | .update entity => repo.update entity
  | .delete id => repo.delete id

/-- A repository together with its server answers requests, one after the other. -/
def BaseRepository.onServer {D : Driver} {σ T β : Type} (repo : BaseRepository D σ T)
    (B : Backend D PyExc β) : Backend (operations String T) Raised β := served B repo.serve

/-- A map from ids to entities. -/
structure Reference (K T : Type) where
  /-- The id of an entity. -/
  idOf : T → K
  /-- What `create()` raises where the id is taken; where this is `none`, it replaces the entity. -/
  taken : Option AdapterError

section Reference

variable {K T : Type} [LinearOrder K] (M : Reference K T)

/-- `create(entity)`. -/
def Reference.create (entity : T) (m : Keyed K T) : Except Raised T × Keyed K T :=
  match m.lookup (M.idOf entity), M.taken with
  | some _, some err => (.error (.adapter err), m)
  | _, _ => (.ok entity, m.insert (M.idOf entity) entity)

/-- What the map answers. -/
def Reference.answer :
    (q : Request K T) → Keyed K T → Except Raised ((operations K T).Reply q) × Keyed K T
  | .get id, m => (.ok (m.lookup id), m)
  | .list limit offset, m =>
    (.ok ((m.inOrder.drop offset.toNat).take limit.toNat, (m.keys.card : ℤ)), m)
  | .create entity, m => M.create entity m
  | .update entity, m =>
    match m.lookup (M.idOf entity) with
    | some _ => (.ok (some entity), m.insert (M.idOf entity) entity)
    | none => (.ok none, m)
  | .delete id, m => (.ok (m.lookup id).isSome, m.erase id)

/-- The map, as something that answers requests. -/
def Reference.backend : Backend (operations K T) Raised (Keyed K T) := Backend.of M.answer

omit [LinearOrder K] in
/-- The same replies, with entities that are alike. -/
def Request.Alike (alike : T → T → Prop) :
    (q : Request K T) → (operations K T).Reply q → (operations K T).Reply q → Prop
  | .get _ => Option.Rel alike
  | .list .. => fun r r' => List.Forall₂ alike r.1 r'.1 ∧ r.2 = r'.2
  | .create _ => alike
  | .update _ => Option.Rel alike
  | .delete _ => Eq

/-- The map, where what is returned may be something alike. -/
def Reference.upTo (alike : T → T → Prop) : Backend (operations K T) Raised (Keyed K T) :=
  fun m q r m' => ∃ r', M.answer q m = (r', m') ∧
    (r = r' ∨ ∃ a a', r = .ok a ∧ r' = .ok a' ∧ q.Alike alike a a')

end Reference

end OpenframeAdapters.Db
