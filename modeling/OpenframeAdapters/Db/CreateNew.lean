import OpenframeAdapters.Db.Cassandra.Server
import OpenframeAdapters.Db.Dynamodb.Server

/-!
# `create()` of an entity that is already there

`BaseRepository.create()` persists a new entity. The repositories of ChromaDB and Redis say so, and
refuse an id that is taken. Those of DynamoDB and Cassandra write in either case.

## The model

`PersistsNew` — what is asked of a `create()` that finds the server in a certain state.

## What is proved

* `persistsNew_iff` — the two repositories do what is asked exactly where the id is not there.
* `not_persistsNew` — an entity that is there is replaced, or merged with, and nothing is raised.
-/

namespace OpenframeAdapters.Db

open Python OpenframeAdapters.Core

open Postgres (Table)

/-- What is asked of a `create()` that finds the state `b`. `taken` says that the id is there, and
`stored` is the state with the entity added. -/
structure PersistsNew {D : Driver} {σ β T : Type} (B : Backend D PyExc β)
    (create : Operation D σ T) (taken : Prop) (b stored : β) : Prop where
  /-- An id that is taken is an `AdapterError`, and nothing has changed. -/
  refuses : taken → ∀ o b', create.EndsIn B.shared b o b' →
    (∃ err, o = .error (.adapter err)) ∧ b' = b
  /-- Otherwise the entity is added. -/
  stores : ¬ taken → ∀ o b', create.EndsIn B.shared b o b' → o.isOk = true ∧ b' = stored

/-- A `create()` that writes whatever it finds is right exactly where the id is not taken. -/
theorem persistsNew_iff_of_writes {D : Driver} {σ β T : Type} {B : Backend D PyExc β}
    {create : Operation D σ T} {taken : Prop} {b stored : β} (written : β)
    (hruns : ∃ o b', create.EndsIn B.shared b o b')
    (hwrites : create.wpIn B.shared (fun _ b' => b' = written) (fun _ _ => False) b)
    (hstored : ¬ taken → written = stored) : PersistsNew B create taken b stored ↔ ¬ taken := by
  have hends : ∀ {o b'}, create.EndsIn B.shared b o b' → o.isOk = true ∧ b' = written := by
    intro o b' h
    have hend := h.of_wpIn hwrites
    cases o with
    | ok a => exact ⟨rfl, hend⟩
    | error x => exact hend.elim
  constructor
  · intro h htaken
    obtain ⟨o, b', hrun⟩ := hruns
    obtain ⟨⟨err, rfl⟩, -⟩ := h.refuses htaken o b' hrun
    exact Bool.false_ne_true (hends hrun).1
  · intro hfree
    refine ⟨fun htaken => absurd htaken hfree, fun _ o b' hrun => ?_⟩
    exact ⟨(hends hrun).1, (hends hrun).2.trans (hstored hfree)⟩

namespace Dynamodb

variable {V T : Type} [DecidableEq V] {settings : DynamoDBSettings} {idColumn : String}
  {mapping : Mapping V T} {entity : T} {id : V} {items : Items V}

theorem persistsNew_iff (hid : (mapping.entityToRow entity).get? idColumn = some id) :
    PersistsNew (connected (Backend.of (answer idColumn))) (create settings mapping entity)
      (items id ≠ none) items (items.put id (mapping.entityToRow entity)) ↔ items id = none := by
  refine (persistsNew_iff_of_writes (items.put id (mapping.entityToRow entity)) ?_ ?_
    fun _ => rfl).trans not_ne_iff
  · exact exists_end _ _ items
  · unfold create
    refine Coro.wpIn_bind.mpr ((connects_connected _).wpIn_getClient rfl fun table => ?_)
    refine Coro.wpIn_bind.mpr (wpIn_tryExcept.mpr (wpIn_command_of.mpr ?_))
    rw [answer_putItem hid]
    rfl

end Dynamodb

namespace Cassandra

variable {R V K T : Type} [DecidableEq K] {wire : Wire R V K} {settings : CassandraSettings}
  {mapping : Mapping R V T} {t : Table} {entity : T} {rows : Rows K}

/-- The row that an entity is stored as. -/
def storedRow (wire : Wire R V K) (rowDict : Dict String V) : Dict String K :=
  rowDict.map fun v => wire.param (.value v)

theorem persistsNew_iff (hs : settings.contactPoints ≠ [])
    (h : IsRow t (mapping.entityToRow entity)) :
    PersistsNew (connected (Backend.of (answer wire t))) (create settings mapping t entity)
      (rows (wire.param (entityId t (mapping.entityToRow entity))) ≠ none) rows
      (Function.update rows (wire.param (entityId t (mapping.entityToRow entity)))
        (some (storedRow wire (mapping.entityToRow entity)))) ↔
        rows (wire.param (entityId t (mapping.entityToRow entity))) = none := by
  refine (persistsNew_iff_of_writes (rows.upsert
    (wire.param (entityId t (mapping.entityToRow entity)))
    (storedRow wire (mapping.entityToRow entity)).items) ?_ ?_ fun hfree => ?_).trans not_ne_iff
  · exact exists_end _ _ rows
  · unfold create execute
    refine Coro.wpIn_bind.mpr (Coro.wpIn_bind.mpr
      ((connects_connected _).wpIn_getClient (if_neg (by simpa using hs)) fun session => ?_))
    refine wpIn_tryExcept.mpr (wpIn_command_of.mpr ?_)
    rw [answer_insert h]
    rfl
  · rw [Rows.upsert, not_ne_iff.mp hfree, Dict.ofPairs_items]

end Cassandra

/-- **`create()` persists a new entity** exactly where its id is not taken. -/
theorem persistsNew_iff_free {V T R P K U : Type} [DecidableEq V] [DecidableEq K]
    (dynamodb : DynamoDBSettings) (idColumn : String) (ofItem : Dynamodb.Mapping V T) (item : T)
    (id : V) (items : Dynamodb.Items V) (wire : Cassandra.Wire R P K) (cassandra : CassandraSettings)
    (mapping : Cassandra.Mapping R P U) (t : Table) (entity : U) (rows : Cassandra.Rows K)
    (hid : (ofItem.entityToRow item).get? idColumn = some id) (hs : cassandra.contactPoints ≠ [])
    (h : IsRow t (mapping.entityToRow entity)) :
    (PersistsNew (connected (Backend.of (Dynamodb.answer idColumn)))
      (Dynamodb.create dynamodb ofItem item) (items id ≠ none) items
      (items.put id (ofItem.entityToRow item)) ↔ items id = none) ∧
    (PersistsNew (connected (Backend.of (Cassandra.answer wire t)))
      (Cassandra.create cassandra mapping t entity)
      (rows (wire.param (entityId t (mapping.entityToRow entity))) ≠ none) rows
      (Function.update rows (wire.param (entityId t (mapping.entityToRow entity)))
        (some (Cassandra.storedRow wire (mapping.entityToRow entity)))) ↔
        rows (wire.param (entityId t (mapping.entityToRow entity))) = none) :=
  ⟨Dynamodb.persistsNew_iff hid, Cassandra.persistsNew_iff hs h⟩

/-- The table holds one user. -/
def oneItem : Dynamodb.Items String := Function.update (fun _ => none) "7" (some ada)

/-- A row on the wire. -/
def plainWire : Cassandra.Wire (Dict String String) String String where
  param
    | .str s | .value s => s
    | .int _ | .null => ""
  row row := row

/-- The table holds the same user. -/
def oneRow : Cassandra.Rows String := Function.update (fun _ => none) "7" (some ada)

/-- Another user, who has been given the same id. -/
def grace : Dict String String := ⟨[("id", "7"), ("name", "Grace")], by decide⟩

/-- Grace is persisted as a new user if and only if the id `7` is free, which it is in neither table. -/
theorem persistsNew_iff_grace :
    (PersistsNew (connected (Backend.of (Dynamodb.answer "id")))
      (Dynamodb.create dynamodbLocal Dynamodb.itemMapping grace) (oneItem "7" ≠ none) oneItem
      (oneItem.put "7" grace) ↔ oneItem "7" = none) ∧
    (PersistsNew (connected (Backend.of (Cassandra.answer plainWire users)))
      (Cassandra.create cassandraLocal plainMapping users grace) (oneRow "7" ≠ none) oneRow
      (Function.update oneRow "7" (some (Cassandra.storedRow plainWire grace))) ↔
        oneRow "7" = none) :=
  persistsNew_iff_free dynamodbLocal "id" Dynamodb.itemMapping grace "7" oneItem plainWire cassandraLocal
    plainMapping users grace oneRow (by decide) (by decide) ⟨by decide, by decide, by decide⟩

/-- What was stored under the id is overwritten, and nothing is raised. -/
theorem not_persistsNew :
    ¬ PersistsNew (connected (Backend.of (Dynamodb.answer "id")))
      (Dynamodb.create dynamodbLocal Dynamodb.itemMapping grace) (oneItem "7" ≠ none) oneItem
      (oneItem.put "7" grace) ∧
    ¬ PersistsNew (connected (Backend.of (Cassandra.answer plainWire users)))
      (Cassandra.create cassandraLocal plainMapping users grace) (oneRow "7" ≠ none) oneRow
      (Function.update oneRow "7" (some (Cassandra.storedRow plainWire grace))) := by
  constructor
  · intro h
    have hid : (Dynamodb.itemMapping.entityToRow grace).get? "id" = some "7" := by decide
    have hfree := (Dynamodb.persistsNew_iff hid).mp h
    cases hfree
  · intro h
    have hfree := (Cassandra.persistsNew_iff (by decide) ⟨by decide, by decide, by decide⟩).mp h
    cases hfree

end OpenframeAdapters.Db
