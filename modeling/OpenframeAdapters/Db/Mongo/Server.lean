import OpenframeAdapters.Db.Mongo.Repository
import OpenframeAdapters.Db.Server
import OpenframeAdapters.Store.Keyed

/-!
# A Mongo collection

The collection behind a `MongoRepository`.

## The model

Documents are kept by their `_id`, and an `ObjectId` is never equal to a string. `insert_one` gives a
document without an `_id` some `ObjectId`, and refuses an `_id` that is in use. A document that is
read has its fields in some order. What `$set` makes of a document, or why it is refused, is
a parameter; `KeepsId` is what is documented about `_id`. An update that changes no field is accepted,
as it is since MongoDB 5.0. The answers to `find` are left open.
-/

namespace OpenframeAdapters.Db.Mongo

open Python OpenframeAdapters.Core

open Store (Keyed)

variable {V : Type} [DecidableEq V]

/-- The documents of a collection, by their ids. -/
abbrev Documents (V : Type) := Keyed (Value V) (Doc V)

/-- What `$set` with these fields does to a document. -/
abbrev SetFields (V : Type) := Doc V → Doc V → Except PyExc (Doc V)

/-- `$set` does not change the `_id`. -/
def KeepsId (set : SetFields V) : Prop :=
  ∀ {doc fields doc'}, fields.get? "_id" = none → set doc fields = .ok doc' →
    doc'.get? "_id" = doc.get? "_id"

/-- A `DuplicateKeyError`. -/
def duplicateKeyError : PyExc :=
  .of [.pymongoDuplicateKeyError, .pymongoWriteError, .pymongoOperationFailure, .pymongoError,
    .exception] (by decide)

/-- What is read is the document. -/
def Reads (doc : Doc V) (r : Except PyExc (Option (Doc V))) : Prop :=
  ∃ doc', doc'.Alike doc ∧ r = .ok (some doc')

/-- `insert_one` of a document with this id. -/
def Inserts (m : Documents V) (id : Value V) (doc : Doc V) (r : Except PyExc (Value V))
    (m' : Documents V) : Prop :=
  if id ∈ m then r = .error duplicateKeyError ∧ m' = m else r = .ok id ∧ m' = m.insert id doc

/-- What a call does. -/
def Answers (set : SetFields V) (m : Documents V) :
    (q : Command V) → Except PyExc ((commands V).Reply q) → Documents V → Prop
  | .findOne _ id, r, m' =>
    (match m.lookup id with
      | some doc => Reads doc r
      | none => r = .ok none) ∧ m' = m
  | .find .., _, m' => m' = m
  | .countDocuments _, r, m' => r = .ok (m.keys.card : ℤ) ∧ m' = m
  | .insertOne _ doc, r, m' =>
    match doc.get? "_id" with
    | some id => Inserts m id doc r m'
    | none => ∃ o : ObjectId, Inserts m (.oid o) (doc.set "_id" (.oid o)) r m'
  | .findOneAndUpdate _ id fields, r, m' =>
    match m.lookup id with
    | some doc =>
      match set doc fields with
      | .ok doc' => Reads doc' r ∧ m' = m.insert id doc'
      | .error exc => r = .error exc ∧ m' = m
    | none => r = .ok none ∧ m' = m
  | .deleteOne _ id, r, m' => r = .ok (if id ∈ m then (1 : ℤ) else 0) ∧ m' = m.erase id

/-- The server. -/
def server (set : SetFields V) : Backend (commands V) PyExc (Documents V) :=
  fun m q r m' => Answers set m q r m'

section Insert

variable {set : SetFields V} {m m' : Documents V} {col : Collection} {doc : Doc V}
  {r : Except PyExc (Value V)}

theorem server_insertOne {id : Value V} (h : doc.get? "_id" = some id) :
    server set m (.insertOne col doc) r m' ↔ Inserts m id doc r m' := by
  unfold server
  rw [Answers, h]

/-- Without an `_id`, the document is given one. -/
theorem server_insertOne_new (h : doc.get? "_id" = none) : server set m (.insertOne col doc) r m' ↔
    ∃ o : ObjectId, Inserts m (.oid o) (doc.set "_id" (.oid o)) r m' := by
  unfold server
  rw [Answers, h]

end Insert

theorem exists_inserts (m : Documents V) (id : Value V) (doc : Doc V) :
    ∃ r m', Inserts m id doc r m' := by
  simp only [Inserts]
  split_ifs
  · exact ⟨_, _, rfl, rfl⟩
  · exact ⟨_, _, rfl, rfl⟩

/-- Every call is answered. -/
theorem exists_server (set : SetFields V) (m : Documents V) (q : Command V) :
    ∃ r m', server set m q r m' := by
  have hreads : ∀ doc : Doc V, Reads doc (.ok (some doc)) := fun doc => ⟨doc, fun _ => rfl, rfl⟩
  cases q with
  | find => exact ⟨.ok [], m, rfl⟩
  | countDocuments | deleteOne => exact ⟨_, _, rfl, rfl⟩
  | findOne col id =>
    simp only [server, Answers]
    cases m.lookup id with
    | some doc => exact ⟨_, m, hreads doc, rfl⟩
    | none => exact ⟨_, _, rfl, rfl⟩
  | insertOne col doc =>
    simp only [server, Answers]
    cases doc.get? "_id" with
    | some id => exact exists_inserts m id doc
    | none =>
      let o : ObjectId := ⟨"000000000000000000000000", by decide⟩
      obtain ⟨r, m', h⟩ := exists_inserts m (.oid o) (doc.set "_id" (.oid o))
      exact ⟨r, m', o, h⟩
  | findOneAndUpdate col id fields =>
    simp only [server, Answers]
    cases m.lookup id with
    | none => exact ⟨_, _, rfl, rfl⟩
    | some doc =>
      dsimp only
      cases set doc fields with
      | ok doc' => exact ⟨_, _, hreads doc', rfl⟩
      | error exc => exact ⟨_, _, rfl, rfl⟩

end OpenframeAdapters.Db.Mongo
