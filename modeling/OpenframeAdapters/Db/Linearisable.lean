import OpenframeAdapters.Db.Cassandra.Concurrent
import OpenframeAdapters.Db.Chromadb.Concurrent
import OpenframeAdapters.Db.CreateNew
import OpenframeAdapters.Db.Milvus.Concurrent
import OpenframeAdapters.Db.Qdrant.Concurrent

/-!
# Updates and deletions at the same time

The repositories of Qdrant, Milvus, Chroma and Cassandra, each with its server.

## What is proved

* `linearisable_of_stillThere` — as long as every write of an `update()` or a `delete()` finds the
  entity in its place, the calls could as well have come one at a time.
* `not_linearisable` — without that they could not: two calls delete the one entity, and both return
  `True`.
-/

namespace OpenframeAdapters.Db

open Python OpenframeAdapters.Core

open Postgres (Table)

/-- **Calls that write are linearisable** in every history in which each write of an `update()` or a
`delete()` finds the entity in its place. -/
theorem linearisable_of_stillThere {V T M S C W E R P K U : Type} [LinearOrder V] [DecidableEq M]
    [DecidableEq K] (qdrant : QdrantSettings) (points : String) (ofPoint : Qdrant.Mapping V T)
    (milvus : MilvusSettings) (collection : Milvus.Collection) (ofRow : Milvus.Mapping M S)
    (chromadb : ChromaDBSettings) (collectionName : String) (ofRecord : Chromadb.Mapping C W E)
    (wire : Cassandra.Wire R P K) (cassandra : CassandraSettings) (mapping : Cassandra.Mapping R P U)
    (t : Table) (hs : cassandra.contactPoints ≠ []) :
    Linearisable (Qdrant.Valid ofPoint) (Qdrant.code qdrant points ofPoint)
      (connected (Backend.of (Qdrant.answer points)))
      (Finds Qdrant.writes (Qdrant.sequential ofPoint))
      (fun op m o m' => (Qdrant.sequential ofPoint).run op m = (o, m')) ∧
    Linearisable (Milvus.Valid collection ofRow) (Milvus.code milvus collection ofRow)
      (connected (Backend.of (Milvus.answer collection)))
      (Finds Milvus.writes (Milvus.sequential collection ofRow))
      (fun op m o m' => (Milvus.sequential collection ofRow).run op m = (o, m')) ∧
    Linearisable (fun _ => True) (Chromadb.code chromadb collectionName ofRecord)
      (connected (Backend.of Chromadb.answer))
      (Finds Chromadb.writes (Chromadb.sequential ofRecord))
      (fun op m o m' => (Chromadb.sequential ofRecord).run op m = (o, m')) ∧
    Linearisable (Cassandra.Valid mapping t) (Cassandra.code cassandra mapping t)
      (connected (Backend.of (Cassandra.answer wire t)))
      (Finds Cassandra.writes (Cassandra.sequential wire mapping t))
      fun op rows o rows' => (Cassandra.sequential wire mapping t).run op rows = (o, rows') :=
  ⟨Qdrant.linearisable, Milvus.linearisable, Chromadb.linearisable, Cassandra.linearisable hs⟩

/-! ### One entity -/

/-- Embeddings are numbers here, and metadata strings. -/
def chromadbMapping : Chromadb.Mapping ℕ String (Chromadb.Row ℕ String) := Chromadb.baseMapping

/-- One point. -/
def onePoint : Qdrant.Points ℕ :=
  Finmap.singleton 7 ⟨7, 1, none⟩

/-- One row. -/
def oneMilvusRow : Milvus.Rows String := Finmap.singleton "7" ada

/-- One row. -/
def oneChromaRow : Chromadb.Rows ℕ String := Finmap.singleton "7" ⟨1, none, none⟩

theorem deletes_qdrant : Deletes (Qdrant.code qdrantLocal "users" Qdrant.baseMapping)
    (Qdrant.answer "users") (Qdrant.sequential Qdrant.baseMapping) 7
    (Qdrant.seen "users" 7 ⟨7, 1, none⟩) (Qdrant.erased "users" 7) (Qdrant.unseen "users" 7) onePoint
    (onePoint.erase 7) :=
  Qdrant.deletes Finmap.lookup_singleton_eq

theorem deletes_milvus : Deletes (Milvus.code milvusLocal Milvus.userCollection Milvus.rowMapping)
    (Milvus.answer Milvus.userCollection) (Milvus.sequential Milvus.userCollection Milvus.rowMapping) "7"
    (Milvus.seen Milvus.userCollection "7" ada) (Milvus.erased Milvus.userCollection "7")
    (Milvus.unseen Milvus.userCollection "7") oneMilvusRow (oneMilvusRow.erase "7") :=
  Milvus.deletes Finmap.lookup_singleton_eq

theorem deletes_chromadb : Deletes (Chromadb.code chromadbLocal "users" chromadbMapping)
    Chromadb.answer (Chromadb.sequential chromadbMapping) "7"
    (Chromadb.seen "7" ⟨1, none, none⟩) (Chromadb.erased "7") (Chromadb.unseen "7") oneChromaRow
    (oneChromaRow.erase "7") :=
  Chromadb.deletes Finmap.lookup_singleton_eq

theorem deletes_cassandra : Deletes (Cassandra.code cassandraLocal plainMapping users)
    (Cassandra.answer plainWire users) (Cassandra.sequential plainWire plainMapping users) "7"
    (Cassandra.seen users "7" ada) (Cassandra.erased users "7") (Cassandra.unseen users "7") oneRow
    (oneRow.remove "7") :=
  Cassandra.deletes (by decide) (by decide) rfl

/-- One of two calls deletes the entity, and the other comes too late. -/
theorem linearisable_deletes :
    (∃ order, Linearises
      (fun _ m o m' => (Qdrant.sequential Qdrant.baseMapping).run (.delete 7) m = (o, m'))
      (following (Dict String ℕ) (Qdrant.seen "users" 7 ⟨7, 1, none⟩) (Qdrant.erased "users" 7)
        (Qdrant.unseen "users" 7)) onePoint (onePoint.erase 7) order) ∧
    (∃ order, Linearises
      (fun _ m o m' =>
        (Milvus.sequential Milvus.userCollection Milvus.rowMapping).run (.delete "7") m = (o, m'))
      (following (Dict String String) (Milvus.seen Milvus.userCollection "7" ada)
        (Milvus.erased Milvus.userCollection "7") (Milvus.unseen Milvus.userCollection "7")) oneMilvusRow
      (oneMilvusRow.erase "7") order) ∧
    (∃ order, Linearises
      (fun _ m o m' => (Chromadb.sequential chromadbMapping).run (.delete "7") m = (o, m'))
      (following (C := Chromadb.commands ℕ String) (Chromadb.Row ℕ String)
        (Chromadb.seen "7" ⟨1, none, none⟩) (Chromadb.erased "7") (Chromadb.unseen "7")) oneChromaRow
      (oneChromaRow.erase "7") order) ∧
    ∃ order, Linearises
      (fun _ rows o rows' =>
        (Cassandra.sequential plainWire plainMapping users).run (.delete "7") rows = (o, rows'))
      (following (C := Cassandra.commands (Dict String String) String) (Dict String String)
        (Cassandra.seen users "7" ada) (Cassandra.erased users "7") (Cassandra.unseen users "7"))
      oneRow (oneRow.remove "7") order := by
  have ht : Sql.IsWord users.name ∧ Sql.IsWord users.idColumn := by decide
  obtain ⟨hqdrant, hmilvus, hchromadb, hcassandra⟩ := linearisable_of_stillThere (V := ℕ)
    qdrantLocal "users" Qdrant.baseMapping milvusLocal Milvus.userCollection Milvus.rowMapping chromadbLocal "users"
    chromadbMapping plainWire cassandraLocal plainMapping users (by decide)
  refine ⟨?_, ?_, ?_, ?_⟩
  · exact deletes_qdrant.exists_order trivial hqdrant rfl fun h => Bool.noConfusion h
  · exact deletes_milvus.exists_order trivial hmilvus rfl fun h => Bool.noConfusion h
  · exact deletes_chromadb.exists_order trivial hchromadb rfl fun h => Bool.noConfusion h
  · refine deletes_cassandra.exists_order ht hcassandra rfl fun h => ?_
    exact absurd ((Cassandra.writes_getQuery ht.1 ht.2 0 _).symm.trans h) Bool.false_ne_true

/-- Both of two calls delete the entity, and both return `True`. -/
theorem not_linearisable :
    (¬ Linearisable (Qdrant.Valid Qdrant.baseMapping)
      (Qdrant.code qdrantLocal "users" Qdrant.baseMapping)
      (connected (Backend.of (Qdrant.answer (V := ℕ) "users"))) (fun _ _ _ => True)
      fun op m o m' => (Qdrant.sequential Qdrant.baseMapping).run op m = (o, m')) ∧
    (¬ Linearisable (Milvus.Valid Milvus.userCollection Milvus.rowMapping)
      (Milvus.code milvusLocal Milvus.userCollection Milvus.rowMapping)
      (connected (Backend.of (Milvus.answer Milvus.userCollection))) (fun _ _ _ => True)
      fun op m o m' => (Milvus.sequential Milvus.userCollection Milvus.rowMapping).run op m = (o, m')) ∧
    (¬ Linearisable (fun _ => True) (Chromadb.code chromadbLocal "users" chromadbMapping)
      (connected (Backend.of Chromadb.answer)) (fun _ _ _ => True)
      fun op m o m' => (Chromadb.sequential chromadbMapping).run op m = (o, m')) ∧
    ¬ Linearisable (Cassandra.Valid plainMapping users)
      (Cassandra.code cassandraLocal plainMapping users)
      (connected (Backend.of (Cassandra.answer plainWire users))) (fun _ _ _ => True)
      fun op rows o rows' =>
        (Cassandra.sequential plainWire plainMapping users).run op rows = (o, rows') :=
  ⟨deletes_qdrant.not_linearisable trivial, deletes_milvus.not_linearisable trivial,
    deletes_chromadb.not_linearisable trivial,
    deletes_cassandra.not_linearisable ⟨by decide, by decide⟩⟩

end OpenframeAdapters.Db
