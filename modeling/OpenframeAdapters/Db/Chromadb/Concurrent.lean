import OpenframeAdapters.Db.Chromadb.Server
import OpenframeAdapters.Db.Concurrent

/-!
# Concurrent writes to a Chroma collection

`linearisable` — the calls of `ChromaDBRepository` that write, as long as every update and every
deletion finds the row in its place.
-/

namespace OpenframeAdapters.Db.Chromadb

open Python OpenframeAdapters.Core

variable {V W T : Type}

/-- The calls that change rows. -/
def writes : Command V W → Bool
  | .add .. | .update .. | .delete .. => true
  | .getOrCreateCollection .. | .get .. | .page .. | .count .. | .query .. => false

/-- No row has been found. -/
def nothing : (q : Command V W) → (commands V W).Reply q → Bool
  | .get .., (result : GetResult V W) => (result.ids.getD []).isEmpty
  | _, _ => false

variable (settings : ChromaDBSettings) (collectionName : String) (mapping : Mapping V W T)

/-- What `create()` passes to `add`. -/
def addColumns (row : Row V W) : Columns V W :=
  ⟨[row.id], some [row.vector], [row.metadataOrNone], row.documents⟩

/-- What `update()` passes to `update`. -/
def updateColumns (row : Row V W) : Columns V W :=
  ⟨[row.id], row.vector.map fun v => [some v], [row.metadataOrNone], row.documents⟩

/-- The repository, one call at a time. An id that is there is not added again. -/
def sequential : Sequential String T (Rows V W) where
  found
    | .create entity, m | .update entity, m => (m.lookup (mapping.entityToRow entity).id).isSome
    | .delete id, m => (m.lookup id).isSome
  create entity m :=
    let row := mapping.entityToRow entity
    match (addColumns row).added 0, m.lookup row.id with
    | .ok stored, none => (.ok entity, m.insert row.id stored)
    | _, _ => (.error (rethrow createErrors (.raw chromaError)), m)
  change entity m :=
    let row := mapping.entityToRow entity
    match m.lookup row.id with
    | some stored => (.ok entity, m.insert row.id ((updateColumns row).changed 0 stored))
    | none => (.ok entity, m)
  remove id m := m.erase id

/-- The calls of a repository. -/
def code : Write String T → Operation (driver V W) Shared (Written T) :=
  perform (create settings collectionName mapping) (update settings collectionName mapping)
    (delete settings collectionName)

variable {settings collectionName mapping}

/-- The world of a call. -/
abbrev world (V W : Type) :
    World (driver V W) PyExc Shared (List (Answer (driver V W) PyExc)) :=
  World.points (connected (Backend.of answer)) (settles writes nothing)

variable {E : Raised → List (Answer (driver V W) PyExc) → Prop}

theorem wpIn_getCollection {Q : ℕ → List (Answer (driver V W) PyExc) → Prop} (hQ : ∀ c, Q c []) :
    (getCollection settings collectionName).wpIn (world V W) Q E [] := by
  unfold getCollection
  refine Coro.wpIn_bind.mpr (Coro.wpIn_get.mpr fun s _ => ?_)
  split
  · exact hQ _
  · refine Coro.wpIn_bind.mpr ((connects_points _).wpIn_getClient rfl fun client => ?_)
    refine Coro.wpIn_bind.mpr (wpIn_tryExcept.mpr (wpIn_command_points fun m => ?_))
    exact hQ _

/-- A look that finds nothing settles the call. -/
theorem wpIn_look {collection : ℕ} {id : String}
    {Q : GetResult V W → List (Answer (driver V W) PyExc) → Prop}
    (hnone : ∀ r, r.ids = some [] → Q r [⟨.inr (.get collection [id] none), .ok r⟩])
    (hsome : ∀ r, r.ids = some [id] → Q r []) :
    (send (.get collection [id] none)).wpIn (world V W) Q E [] := by
  refine wpIn_command_points fun m => ?_
  have hids := ids_found id m ["metadatas", "documents"]
  have hidle : settles writes nothing (⟨.inr (.get collection [id] none),
      .ok (found [id] ["metadatas", "documents"] m)⟩ : Answer (driver V W) PyExc) =
      ((found [id] ["metadatas", "documents"] m).ids.getD []).isEmpty := rfl
  rw [answer_get, hidle]
  cases hm : (m.lookup id).isSome with
  | false =>
    rw [hm] at hids
    rw [hids]
    exact hnone _ hids
  | true =>
    rw [hm] at hids
    rw [hids]
    exact hsome _ hids

/-- Nothing has been found where there is nothing. -/
theorem lookup_of_get {collection : ℕ} {id : String} {m : Rows V W} {r : GetResult V W}
    (hr : r.ids = some []) (h : (answer (.get collection [id] none) m).1 = .ok r) :
    (m.lookup id).isSome = false := by
  have hfound : found [id] ["metadatas", "documents"] m = r := Except.ok.inj h
  have hids := ids_found id m ["metadatas", "documents"]
  rw [hfound, hr] at hids
  cases hm : (m.lookup id).isSome with
  | false => rfl
  | true => simp [hm] at hids

/-- The other calls change nothing. -/
theorem answer_of_not_writes {q : Command V W} (h : writes q = false) (m : Rows V W) :
    (answer q m).2 = m := by
  cases q with
  | add | update | delete => cases h
  | getOrCreateCollection | get | page | count | query => rfl

variable (mapping) in
/-- `add` refuses an entity and changes nothing, or it adds its row. -/
theorem create_cases (collection : ℕ) (entity : T) (m : Rows V W) :
    answer (.add collection (addColumns (mapping.entityToRow entity))) m = (.error chromaError, m) ∧
        (sequential mapping).create entity m =
          (.error (rethrow createErrors (.raw chromaError)), m) ∨
      ∃ stored, answer (.add collection (addColumns (mapping.entityToRow entity))) m =
          (.ok (), m.insert (mapping.entityToRow entity).id stored) ∧
        (sequential mapping).create entity m =
          (.ok entity, m.insert (mapping.entityToRow entity).id stored) := by
  cases hrow : (addColumns (mapping.entityToRow entity)).added 0 with
  | error exc =>
    refine .inl ⟨answer_add_error rfl hrow, ?_⟩
    simp only [sequential, hrow]
  | ok stored =>
    have hadd : answer (.add collection (addColumns (mapping.entityToRow entity))) m =
        if (m.lookup (mapping.entityToRow entity).id).isSome then (.error chromaError, m)
        else (.ok (), m.insert (mapping.entityToRow entity).id stored) := answer_add rfl hrow
    cases hm : m.lookup (mapping.entityToRow entity).id with
    | none =>
      rw [hm] at hadd
      refine .inr ⟨stored, hadd, ?_⟩
      simp only [sequential, hrow, hm]
    | some old =>
      rw [hm] at hadd
      refine .inl ⟨hadd, ?_⟩
      simp only [sequential, hrow, hm]

/-- What `create()` returns is settled by its `add`. -/
theorem agrees_create (entity : T) :
    (code settings collectionName mapping (.create entity)).wpIn (world V W)
      (fun r => Agrees writes answer (sequential mapping) (.create entity) (.ok r))
      (fun x => Agrees writes answer (sequential mapping) (.create entity) (.error x)) [] := by
  refine wpIn_create.mpr ?_
  unfold create
  refine Coro.wpIn_bind.mpr (wpIn_getCollection fun collection => ?_)
  refine Coro.wpIn_bind.mpr (wpIn_tryExcept.mpr (wpIn_command_points (C := commands V W)
    (q := Command.add collection (addColumns (mapping.entityToRow entity))) fun m => ?_))
  rcases create_cases mapping collection entity m with ⟨hadd, -⟩ | ⟨stored, hadd, -⟩
  · rw [hadd]
    refine agrees_of_run fun m' hm' _ => ?_
    rcases create_cases mapping collection entity m' with ⟨hadd', hrun⟩ | ⟨_, hadd', -⟩
    · rw [Sequential.run, hrun, hadd']
      rfl
    · cases (congrArg Prod.fst hadd').symm.trans hm'
  · rw [hadd]
    refine agrees_of_run fun m' hm' _ => ?_
    rcases create_cases mapping collection entity m' with ⟨hadd', -⟩ | ⟨_, hadd', hrun⟩
    · cases (congrArg Prod.fst hadd').symm.trans hm'
    · rw [Sequential.run, hrun, hadd']
      rfl

/-- What `update()` returns is settled by its `update`, or by a look that finds nothing. -/
theorem agrees_update (entity : T) :
    (code settings collectionName mapping (.update entity)).wpIn (world V W)
      (fun r => Agrees writes answer (sequential mapping) (.update entity) (.ok r))
      (fun x => Agrees writes answer (sequential mapping) (.update entity) (.error x)) [] := by
  refine wpIn_update.mpr ?_
  unfold update
  refine Coro.wpIn_bind.mpr (wpIn_getCollection fun collection => ?_)
  refine wpIn_tryExcept.mpr (Coro.wpIn_bind.mpr (wpIn_look (fun r hr => ?_) fun r hr => ?_))
  · rw [hr]
    refine agrees_of_run fun m hm _ => ?_
    simp [Sequential.run, sequential, lookup_of_get hr hm, answer_get]
  · rw [hr]
    refine Coro.wpIn_bind.mpr (wpIn_command_points fun m => ?_)
    rw [answer_update rfl]
    refine agrees_of_run fun m _ hthere => ?_
    have hfound : (m.lookup (mapping.entityToRow entity).id).isSome = true := hthere rfl
    obtain ⟨stored, hstored⟩ := Option.isSome_iff_exists.mp hfound
    rw [Sequential.run, if_pos (hthere rfl), answer_update rfl]
    simp only [sequential, hstored]
    rfl

/-- What `delete()` returns is settled by its `delete`, or by a look that finds nothing. -/
theorem agrees_delete (id : String) :
    (code settings collectionName mapping (.delete id)).wpIn (world V W)
      (fun r => Agrees writes answer (sequential mapping) (.delete id) (.ok r))
      (fun x => Agrees writes answer (sequential mapping) (.delete id) (.error x)) [] := by
  refine wpIn_delete.mpr ?_
  unfold delete
  refine Coro.wpIn_bind.mpr (wpIn_getCollection fun collection => ?_)
  refine wpIn_tryExcept.mpr (Coro.wpIn_bind.mpr (wpIn_look (fun r hr => ?_) fun r hr => ?_))
  · rw [hr]
    refine agrees_of_run fun m hm _ => ?_
    simp [Sequential.run, sequential, lookup_of_get hr hm, answer_get]
  · rw [hr]
    refine Coro.wpIn_bind.mpr (wpIn_command_points fun m => ?_)
    rw [answer_delete]
    refine agrees_of_run fun m _ hthere => ?_
    rw [Sequential.run, if_pos (hthere rfl), answer_delete]
    rfl

theorem linearisable :
    Linearisable (fun _ => True) (code settings collectionName mapping)
      (connected (Backend.of answer)) (Finds writes (sequential mapping))
      fun op m o m' => (sequential mapping).run op m = (o, m') := by
  refine linearisable_of_agrees (fun _ => nothing) (fun q m hq => answer_of_not_writes hq m)
    fun op _ => ?_
  cases op with
  | create entity => exact agrees_create entity
  | update entity => exact agrees_update entity
  | delete id => exact agrees_delete id

/-- A look that finds a row. -/
def seen (id : String) (row : Stored V W) : Answer (driver V W) PyExc :=
  ⟨.inr (Command.get 0 [id] none), .ok ⟨some [id], none, some [row.metadata], some [row.document]⟩⟩

/-- A look that finds nothing. -/
def unseen (id : String) : Answer (driver V W) PyExc :=
  ⟨.inr (Command.get 0 [id] none), .ok ⟨some [], none, some [], some []⟩⟩

/-- A deletion. -/
def erased (id : String) : Answer (driver V W) PyExc := ⟨.inr (Command.delete 0 [id]), .ok ()⟩

/-- A row is deleted. -/
theorem deletes {m : Rows V W} {id : String} {row : Stored V W} (hm : m.lookup id = some row) :
    Deletes (code settings collectionName mapping) answer (sequential mapping) id
      (seen id row) (erased id) (unseen id) m (m.erase id) where
  finds := .read ⟨some 0, some 0⟩ (.await _ (.await _ (.ret _)))
  misses := .read ⟨some 0, some 0⟩ (.await _ (.ret _))
  seen := answer_get.trans (by simp [found, hm, seen])
  erased := rfl
  again := answer_delete.trans (congrArg _ (Store.Keyed.erase_erase_self m id))
  unseen := answer_get.trans (by simp [found, unseen])
  first := by
    simp only [Sequential.run, sequential, hm]
    rfl
  second := by
    simp only [Sequential.run, sequential, Finmap.lookup_erase]
    rfl

end OpenframeAdapters.Db.Chromadb
