import OpenframeAdapters.Db.Concurrent
import OpenframeAdapters.Db.Milvus.Server

/-!
# Concurrent writes to a Milvus collection

`linearisable` — the calls of `MilvusRepository` that write, as long as every upsert and every deletion
of an `update()` or a `delete()` finds the row in its place.
-/

namespace OpenframeAdapters.Db.Milvus

open Python OpenframeAdapters.Core

variable {V T : Type} [DecidableEq V]

/-- The calls that change rows. -/
def writes : Command V → Bool
  | .upsert .. | .delete .. => true
  | .get .. | .page .. | .query .. | .search .. => false

/-- No row has been found. -/
def nothing : (q : Command V) → (commands V).Reply q → Bool
  | .get .., (rows : List (Dict String V)) => rows.isEmpty
  | _, _ => false

variable (settings : MilvusSettings) (collection : Collection) (mapping : Mapping V T)

/-- The value of the id field of an entity. -/
def idOf (entity : T) : Option V := (mapping.entityToRow entity).get? collection.idField

/-- The row of an entity is put in. -/
def put (entity : T) (m : Rows V) : Except Raised T × Rows V :=
  match idOf collection mapping entity with
  | some id => (.ok entity, m.insert id (mapping.entityToRow entity))
  | none => (.error (.adapter (wrapMilvus mapping milvusException "create")), m)

/-- The repository, one call at a time. -/
def sequential : Sequential V T (Rows V) where
  found
    | .create entity, m | .update entity, m =>
      (idOf collection mapping entity).any fun id => (m.lookup id).isSome
    | .delete id, m => (m.lookup id).isSome
  create := put collection mapping
  change := put collection mapping
  remove id m := m.erase id

/-- The rows of a call have their ids. -/
def Valid : Write V T → Prop
  | .create entity | .update entity => ∃ id, idOf collection mapping entity = some id
  | .delete _ => True

/-- The calls of a repository. -/
def code : Write V T → Operation (driver V) (Option ℕ) (Written T) :=
  perform (create settings collection mapping) (update settings collection mapping)
    (delete settings collection mapping)

variable {settings collection mapping}

/-- The world of a call. -/
abbrev world (V : Type) [DecidableEq V] (collection : Collection) :
    World (driver V) PyExc (Option ℕ) (List (Answer (driver V) PyExc)) :=
  World.points (connected (Backend.of (answer collection))) (settles writes nothing)

variable {Q : Option T → List (Answer (driver V) PyExc) → Prop}
  {E : Raised → List (Answer (driver V) PyExc) → Prop}

/-- A look that finds nothing settles the call. -/
theorem wpIn_getBy {id : V}
    (hnone : ∀ client, Q none [⟨.inr (.get client collection.name [some id]), .ok []⟩])
    (hsome : ∀ e, Q (some e) []) :
    (getBy settings collection mapping (some id)).wpIn (world V collection) Q E [] := by
  unfold getBy
  refine Coro.wpIn_bind.mpr ((connects_points _).wpIn_getClient rfl fun client => ?_)
  refine Coro.wpIn_bind.mpr (wpIn_tryExcept.mpr (wpIn_command_points fun m => ?_))
  rw [answer_get]
  cases m.lookup id with
  | none => exact hnone client
  | some row => exact hsome _

/-- Nothing has been found where there is nothing. -/
theorem lookup_of_get {client : ℕ} {id : V} {m : Rows V}
    (h : (answer collection (.get client collection.name [some id]) m).1 = .ok []) :
    m.lookup id = none := by
  rw [answer_get] at h
  cases hm : m.lookup id with
  | none => rfl
  | some row => simp [hm] at h

/-- The other calls change nothing. -/
theorem answer_of_not_writes {q : Command V} (h : writes q = false) (m : Rows V) :
    (answer collection q m).2 = m := by
  cases q with
  | upsert | delete => cases h
  | page | query | search => rfl
  | get client name ids =>
    dsimp only [answer]
    split
    · split_ifs <;> rfl
    · rfl

theorem linearisable :
    Linearisable (Valid collection mapping) (code settings collection mapping)
      (connected (Backend.of (answer collection))) (Finds writes (sequential collection mapping))
      fun op m o m' => (sequential collection mapping).run op m = (o, m') := by
  refine linearisable_of_agrees (fun _ => nothing) (fun q m hq => answer_of_not_writes hq m)
    fun op hop => ?_
  cases op with
  | create entity =>
    obtain ⟨id, hid⟩ := hop
    refine wpIn_create.mpr ?_
    unfold create
    refine Coro.wpIn_bind.mpr ((connects_points _).wpIn_getClient rfl fun client => ?_)
    refine Coro.wpIn_bind.mpr (wpIn_tryExcept.mpr (wpIn_command_points fun m => ?_))
    rw [answer_upsert hid]
    refine agrees_of_run fun m _ _ => ?_
    simp only [Sequential.run, sequential, put, hid, answer_upsert hid]
    rfl
  | update entity =>
    obtain ⟨id, hid⟩ := hop
    refine wpIn_update.mpr ?_
    unfold update
    dsimp only
    rw [show (mapping.entityToRow entity).get? collection.idField = some id from hid]
    refine Coro.wpIn_bind.mpr (wpIn_getBy (fun client => ?_) fun e => ?_)
    · refine agrees_of_run fun m hm _ => ?_
      simp [Sequential.run, sequential, hid, lookup_of_get hm, answer_get]
    · refine Coro.wpIn_bind.mpr ((connects_points _).wpIn_getClient rfl fun client => ?_)
      refine Coro.wpIn_bind.mpr (wpIn_tryExcept.mpr (wpIn_command_points fun m => ?_))
      rw [answer_upsert hid]
      refine agrees_of_run fun m _ hthere => ?_
      rw [Sequential.run, if_pos (hthere rfl), answer_upsert hid]
      simp only [sequential, put, hid]
      rfl
  | delete id =>
    refine wpIn_delete.mpr ?_
    unfold delete
    refine Coro.wpIn_bind.mpr (wpIn_getBy (fun client => ?_) fun e => ?_)
    · refine agrees_of_run fun m hm _ => ?_
      simp [Sequential.run, sequential, lookup_of_get hm, answer_get]
    · refine Coro.wpIn_bind.mpr ((connects_points _).wpIn_getClient rfl fun client => ?_)
      refine Coro.wpIn_bind.mpr (wpIn_tryExcept.mpr (wpIn_command_points fun m => ?_))
      rw [answer_delete]
      refine agrees_of_run fun m _ hthere => ?_
      rw [Sequential.run, if_pos (hthere rfl), answer_delete]
      rfl

/-- A look that finds a row. -/
def seen (collection : Collection) (id : V) (row : Dict String V) : Answer (driver V) PyExc :=
  ⟨.inr (Command.get 0 collection.name [some id]), .ok [row]⟩

/-- A look that finds nothing. -/
def unseen (collection : Collection) (id : V) : Answer (driver V) PyExc :=
  ⟨.inr (Command.get 0 collection.name [some id]), .ok []⟩

/-- A deletion. -/
def erased (collection : Collection) (id : V) : Answer (driver V) PyExc :=
  ⟨.inr (Command.delete 0 collection.name [id]), .ok ()⟩

/-- A row is deleted. -/
theorem deletes {m : Rows V} {id : V} {row : Dict String V} (hm : m.lookup id = some row) :
    Deletes (code settings collection mapping) (answer collection) (sequential collection mapping) id
      (seen collection id row) (erased collection id) (unseen collection id) m (m.erase id) where
  finds := .read (some 0) (.await _ (.read (some 0) (.await _ (.ret _))))
  misses := .read (some 0) (.await _ (.ret _))
  seen := answer_get.trans (by rw [hm]; rfl)
  erased := answer_delete
  again := answer_delete.trans (congrArg _ (Store.Keyed.erase_erase_self m id))
  unseen := answer_get.trans (by rw [Finmap.lookup_erase]; rfl)
  first := by
    simp only [Sequential.run, sequential, hm]
    rfl
  second := by
    simp only [Sequential.run, sequential, Finmap.lookup_erase]
    rfl

end OpenframeAdapters.Db.Milvus
