import OpenframeAdapters.Db.Concurrent
import OpenframeAdapters.Db.Qdrant.Server

/-!
# Concurrent writes to a Qdrant collection

`linearisable` — the calls of `QdrantVectorStore` that write, as long as every upsert and every deletion
of an `update()` or a `delete()` finds the point in its place.
-/

namespace OpenframeAdapters.Db.Qdrant

open Python OpenframeAdapters.Core

variable {V T : Type} [LinearOrder V]

/-- The calls that change points. -/
def writes : Command V → Bool
  | .upsert .. | .delete .. => true
  | .retrieve .. | .scroll .. | .count .. | .queryPoints .. => false

/-- No point has been found. -/
def nothing : (q : Command V) → (commands V).Reply q → Bool
  | .retrieve .., (points : List (Point V)) => points.isEmpty
  | _, _ => false

variable (settings : QdrantSettings) (collection : String) (mapping : Mapping V T)

/-- The point of an entity is put in. -/
def put (entity : T) (m : Points V) : Except Raised T × Points V :=
  match mapping.entityToPoint entity with
  | .ok point => (.ok entity, m.insert point.id point)
  | .error exc => (.error (.raw exc), m)

/-- The store, one call at a time. -/
def sequential : Sequential V T (Points V) where
  found
    | .create entity, m | .update entity, m =>
      (mapping.idOf entity).any fun id => (m.lookup id).isSome
    | .delete id, m => (m.lookup id).isSome
  create := put mapping
  change := put mapping
  remove id m := m.erase id

/-- An entity can be made a point, under its own id. -/
def IsPoint (entity : T) : Prop :=
  ∃ point, mapping.entityToPoint entity = .ok point ∧ mapping.idOf entity = some point.id

/-- The entities of a call can be made points. -/
def Valid : Write V T → Prop
  | .create entity | .update entity => IsPoint mapping entity
  | .delete _ => True

/-- The calls of a vector store. -/
def code : Write V T → Operation (driver V) (Option ℕ) (Written T) :=
  perform (create settings collection mapping) (update settings collection mapping)
    (delete settings collection mapping)

variable {settings collection mapping}

/-- The world of a call. -/
abbrev world (V : Type) [LinearOrder V] (collection : String) :
    World (driver V) PyExc (Option ℕ) (List (Answer (driver V) PyExc)) :=
  World.points (connected (Backend.of (answer collection))) (settles writes nothing)

variable {Q : Option T → List (Answer (driver V) PyExc) → Prop}
  {E : Raised → List (Answer (driver V) PyExc) → Prop}

/-- A look that finds nothing settles the call. -/
theorem wpIn_get {id : V}
    (hnone : ∀ client, Q none [⟨.inr (.retrieve client collection [id]), .ok []⟩])
    (hsome : ∀ e, Q (some e) []) :
    (get settings collection mapping id).wpIn (world V collection) Q E [] := by
  unfold get
  refine Coro.wpIn_bind.mpr ((connects_points _).wpIn_getClient rfl fun client => ?_)
  refine Coro.wpIn_bind.mpr (wpIn_tryExcept.mpr (wpIn_command_points fun m => ?_))
  rw [answer_retrieve]
  cases m.lookup id with
  | none => exact hnone client
  | some point => exact hsome _

theorem wpIn_upsertPoint {entity : T} {point : Point V} {operation : String}
    {Q : Unit → List (Answer (driver V) PyExc) → Prop}
    (hpoint : mapping.entityToPoint entity = .ok point)
    (hQ : ∀ client, Q () [⟨.inr (.upsert client collection [point]), .ok ()⟩]) :
    (upsertPoint settings collection mapping entity operation).wpIn (world V collection) Q E [] := by
  unfold upsertPoint
  refine Coro.wpIn_bind.mpr ((connects_points _).wpIn_getClient rfl fun client => ?_)
  rw [hpoint]
  refine Coro.wpIn_bind.mpr (wpIn_eval_ok.mpr (wpIn_tryExcept.mpr (wpIn_command_points fun m => ?_)))
  rw [answer_upsert]
  exact hQ client

/-- Nothing has been found where there is nothing. -/
theorem lookup_of_retrieve {client : ℕ} {id : V} {m : Points V}
    (h : (answer collection (.retrieve client collection [id]) m).1 = .ok []) :
    m.lookup id = none := by
  rw [answer_retrieve] at h
  cases hm : m.lookup id with
  | none => rfl
  | some point => simp [hm] at h

/-- The other calls change nothing. -/
theorem answer_of_not_writes {q : Command V} (h : writes q = false) (m : Points V) :
    (answer collection q m).2 = m := by
  rw [answer]
  split_ifs
  · cases q with
    | upsert | delete => cases h
    | retrieve | count | queryPoints => rfl
    | scroll client collection limit =>
      dsimp only [run]
      split_ifs <;> rfl
  · rfl

theorem run_of_found {op : Write V T} {entity : T} {point : Point V} {m : Points V}
    (hop : op = .update entity) (hpoint : mapping.entityToPoint entity = .ok point)
    (h : (sequential mapping).found op m = true) :
    (sequential mapping).run op m = (.ok (.updated (some entity)), m.insert point.id point) := by
  subst hop
  rw [Sequential.run, if_pos h]
  simp only [sequential, put, hpoint]
  rfl

theorem linearisable :
    Linearisable (Valid mapping) (code settings collection mapping)
      (connected (Backend.of (answer collection))) (Finds writes (sequential mapping))
      fun op m o m' => (sequential mapping).run op m = (o, m') := by
  refine linearisable_of_agrees (fun _ => nothing) (fun q m hq => answer_of_not_writes hq m)
    fun op hop => ?_
  cases op with
  | create entity =>
    obtain ⟨point, hpoint, -⟩ := hop
    refine wpIn_create.mpr ?_
    unfold create
    refine Coro.wpIn_bind.mpr (wpIn_upsertPoint hpoint fun client => ?_)
    refine agrees_of_run fun m _ _ => ?_
    simp only [Sequential.run, sequential, put, hpoint, answer_upsert]
    rfl
  | update entity =>
    obtain ⟨point, hpoint, hid⟩ := hop
    refine wpIn_update.mpr ?_
    unfold update
    rw [hid]
    refine Coro.wpIn_bind.mpr (wpIn_get (fun client => ?_) fun e => ?_)
    · refine agrees_of_run fun m hm _ => ?_
      simp [Sequential.run, sequential, hid, lookup_of_retrieve hm, answer_retrieve]
    · refine Coro.wpIn_bind.mpr (wpIn_upsertPoint hpoint fun client => ?_)
      refine agrees_of_run fun m _ hthere => ?_
      rw [run_of_found rfl hpoint (hthere rfl), answer_upsert]
  | delete id =>
    refine wpIn_delete.mpr ?_
    unfold delete
    refine Coro.wpIn_bind.mpr (wpIn_get (fun client => ?_) fun e => ?_)
    · refine agrees_of_run fun m hm _ => ?_
      simp [Sequential.run, sequential, lookup_of_retrieve hm, answer_retrieve]
    · refine Coro.wpIn_bind.mpr ((connects_points _).wpIn_getClient rfl fun client => ?_)
      refine Coro.wpIn_bind.mpr (wpIn_tryExcept.mpr (wpIn_command_points fun m => ?_))
      rw [answer_delete]
      refine agrees_of_run fun m _ hthere => ?_
      rw [Sequential.run, if_pos (hthere rfl), answer_delete]
      rfl

/-- A look that finds a point. -/
def seen (collection : String) (id : V) (point : Point V) : Answer (driver V) PyExc :=
  ⟨.inr (Command.retrieve 0 collection [id]), .ok [point]⟩

/-- A look that finds nothing. -/
def unseen (collection : String) (id : V) : Answer (driver V) PyExc :=
  ⟨.inr (Command.retrieve 0 collection [id]), .ok []⟩

/-- A deletion. -/
def erased (collection : String) (id : V) : Answer (driver V) PyExc :=
  ⟨.inr (Command.delete 0 collection [id]), .ok ()⟩

/-- A point is deleted. -/
theorem deletes {m : Points V} {id : V} {point : Point V} (hm : m.lookup id = some point) :
    Deletes (code settings collection mapping) (answer collection) (sequential mapping) id
      (seen collection id point) (erased collection id) (unseen collection id) m (m.erase id) where
  finds := .read (some 0) (.await _ (.read (some 0) (.await _ (.ret _))))
  misses := .read (some 0) (.await _ (.ret _))
  seen := (answer_retrieve id).trans (by rw [hm]; rfl)
  erased := answer_delete id
  again := (answer_delete id).trans (congrArg _ (Store.Keyed.erase_erase_self m id))
  unseen := (answer_retrieve id).trans (by rw [Finmap.lookup_erase]; rfl)
  first := by
    simp only [Sequential.run, sequential, hm]
    rfl
  second := by
    simp only [Sequential.run, sequential, Finmap.lookup_erase]
    rfl

end OpenframeAdapters.Db.Qdrant
