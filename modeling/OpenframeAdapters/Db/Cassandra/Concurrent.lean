import OpenframeAdapters.Db.Cassandra.Server
import OpenframeAdapters.Db.Concurrent

/-!
# Concurrent writes to a Cassandra table

`linearisable` — the calls of `CassandraRepository` that write, as long as every `UPDATE` and every
`DELETE` finds the row in its place. Which statements write is read off their texts.
-/

namespace OpenframeAdapters.Db.Cassandra

open Python OpenframeAdapters.Core

open Postgres (Table Param)

variable {R V K T : Type} [DecidableEq K]

/-- The statements that change rows. -/
def writes : Command V → Bool
  | .execute _ query params =>
    match Sql.read .percent query (params.getD []) with
    | some (.select ..) | none => false
    | some _ => true

variable (wire : Wire R V K) (settings : CassandraSettings) (mapping : Mapping R V T) (t : Table)

/-- No row has been found, or there is nothing to set. -/
def nothing : Write String T → (q : Command V) → (commands R V).Reply q → Bool
  | .update entity, _, (rows : List R) =>
    rows.isEmpty || (updateCols t (mapping.entityToRow entity)).isEmpty
  | .create _, _, rows | .delete _, _, rows => List.isEmpty (α := R) rows

/-- The id of an entity, at the server. -/
def rowId (entity : T) : K := wire.param (entityId t (mapping.entityToRow entity))

/-- The columns of an `INSERT`, at the server. -/
def insertColumns (entity : T) : List (String × K) :=
  (mapping.entityToRow entity).items.map fun c => (c.1, wire.param (.value c.2))

/-- The columns of an `UPDATE`, at the server. -/
def updateColumns (entity : T) : List (String × K) :=
  ((t.idColumn, entityId t (mapping.entityToRow entity)) ::
    (updateCols t (mapping.entityToRow entity)).map fun c => (c.1, .value c.2)).map
      fun c => (c.1, wire.param c.2)

/-- The repository, one call at a time. -/
def sequential : Sequential String T (Rows K) where
  found
    | .create entity, rows | .update entity, rows => (rows (rowId wire mapping t entity)).isSome
    | .delete id, rows => (rows (wire.param (.str id))).isSome
  create entity rows :=
    (.ok (mapping.dictToEntity (mapping.entityToRow entity)),
      rows.upsert (rowId wire mapping t entity) (insertColumns wire mapping entity))
  change entity rows :=
    if (updateCols t (mapping.entityToRow entity)).isEmpty then
      (.error (.adapter ⟨.query, "update", none⟩), rows)
    else
      (.ok (mapping.dictToEntity (mapping.entityToRow entity)),
        rows.upsert (rowId wire mapping t entity) (updateColumns wire mapping t entity))
  remove id rows := rows.remove (wire.param (.str id))

/-- The entities of a call are rows of the table. -/
def Valid : Write String T → Prop
  | .create entity | .update entity => IsRow t (mapping.entityToRow entity)
  | .delete _ => Sql.IsWord t.name ∧ Sql.IsWord t.idColumn

/-- The calls of a repository. -/
def code : Write String T → Operation (driver R V) (Option ℕ) (Written T) :=
  perform (create settings mapping t) (update settings mapping t) (delete settings mapping t)

variable {wire settings mapping t}

/-- The other statements change nothing. -/
theorem answer_of_not_writes {q : Command V} (h : writes q = false) (rows : Rows K) :
    (answer wire t q rows).2 = rows := by
  obtain ⟨session, query, params⟩ := q
  rw [writes] at h
  rw [answer]
  split at h
  · rename_i hread
    rw [hread, Rows.run]
    split_ifs <;> rfl
  · rename_i hread
    rw [hread, Rows.run]
  · cases h

/-- A look is no write. -/
theorem writes_getQuery (ht : Sql.IsWord t.name) (hid : Sql.IsWord t.idColumn) (session : ℕ)
    (id : Param V) : writes (.execute session (getQuery t) (some [id])) = false := by
  rw [writes, Option.getD_some, read_getQuery ht hid]

section Calls

variable {op : Write String T} {Q : List R → List (Answer (driver R V) PyExc) → Prop}
  {E : Raised → List (Answer (driver R V) PyExc) → Prop}

variable (wire mapping t op) in
/-- The world of a call. -/
abbrev world : World (driver R V) PyExc (Option ℕ) (List (Answer (driver R V) PyExc)) :=
  World.points (connected (Backend.of (answer wire t))) (settles writes (nothing mapping t op))

/-- What a statement returns, and whether it settles the call. -/
theorem wpIn_execute (hs : settings.contactPoints ≠ []) {query operation : String}
    {params : Option (List (Param V))} (hQ : ∀ session rows, Coro.Promised Q (fun exc g =>
        E (rethrow (executeErrors operation) (.raw exc)) g)
      (if settles (A := CassandraArguments) (C := commands R V) writes (nothing mapping t op)
          ⟨.inr (.execute session query params),
            (answer wire t (.execute session query params) rows).1⟩ = true
        then [⟨.inr (.execute session query params),
          (answer wire t (.execute session query params) rows).1⟩] else [])
      (answer wire t (.execute session query params) rows).1) :
    (execute settings query params operation).wpIn (world wire mapping t op) Q E [] := by
  unfold execute
  refine Coro.wpIn_bind.mpr ((connects_points _).wpIn_getClient (if_neg (by simpa using hs))
    fun session => ?_)
  exact wpIn_tryExcept.mpr (wpIn_command_points (C := commands R V) (hQ session))

/-- A write returns nothing, and settles the call. -/
theorem wpIn_write (hs : settings.contactPoints ≠ []) {query operation : String}
    {params : List (Param V)} (hwrites : ∀ session, writes (.execute session query (some params)) = true)
    (hanswer : ∀ session rows,
      (answer wire t (Command.execute session query (some params)) rows).1 = .ok [])
    (hQ : ∀ session, Q [] [⟨.inr (Command.execute session query (some params)), .ok []⟩]) :
    (execute settings query (some params) operation).wpIn (world wire mapping t op) Q E [] := by
  refine wpIn_execute hs fun session rows => ?_
  rw [hanswer, if_pos (by rw [settles, hwrites]; rfl)]
  exact hQ session

/-- A look that finds nothing settles the call, as does one that finds a row which has nothing to
set. -/
theorem wpIn_getBy (hs : settings.contactPoints ≠ []) (ht : Sql.IsWord t.name)
    (hid : Sql.IsWord t.idColumn) {id : Param V}
    {Q : Option T → List (Answer (driver R V) PyExc) → Prop}
    (hnone : ∀ session, Q none [⟨.inr (Command.execute session (getQuery t) (some [id])), .ok []⟩])
    (hlast : ∀ session row, nothing mapping t op (.execute session (getQuery t) (some [id])) [row] = true →
      Q (some (mapping.rowToEntity row))
        [⟨.inr (Command.execute session (getQuery t) (some [id])), .ok [row]⟩])
    (hsome : ∀ session row,
      nothing mapping t op (.execute session (getQuery t) (some [id])) [row] = false →
      Q (some (mapping.rowToEntity row)) []) :
    (getBy settings mapping t id).wpIn (world wire mapping t op) Q E [] := by
  unfold getBy
  refine Coro.wpIn_bind.mpr (wpIn_execute hs fun session rows => ?_)
  rw [answer_select ht hid, settles, writes_getQuery ht hid, Bool.false_or]
  cases rows (wire.param id) with
  | none =>
    rw [if_pos (by cases op <;> rfl)]
    exact hnone session
  | some row =>
    rw [show (some row).toList.map wire.row = [wire.row row] from rfl]
    cases hn : nothing mapping t op (.execute session (getQuery t) (some [id])) [wire.row row] with
    | true =>
      rw [if_pos rfl]
      exact hlast session _ hn
    | false =>
      rw [if_neg Bool.false_ne_true]
      exact hsome session _ hn

end Calls

/-- Nothing has been found where there is nothing. -/
theorem rows_of_select (ht : Sql.IsWord t.name) (hid : Sql.IsWord t.idColumn) {id : Param V}
    {session : ℕ} {rows : Rows K} {found : List R}
    (h : (answer wire t (.execute session (getQuery t) (some [id])) rows).1 = .ok found) :
    (rows (wire.param id)).isSome = !found.isEmpty := by
  rw [answer_select ht hid] at h
  rw [← Except.ok.inj h]
  cases rows (wire.param id) <;> rfl

/-- What `create()` returns is settled by its `INSERT`. -/
theorem agrees_create (hs : settings.contactPoints ≠ []) {entity : T}
    (hop : Valid mapping t (.create entity)) :
    (code settings mapping t (.create entity)).wpIn (world wire mapping t (.create entity))
      (fun r => Agrees writes (answer wire t) (sequential wire mapping t) (.create entity) (.ok r))
      (fun x => Agrees writes (answer wire t) (sequential wire mapping t) (.create entity) (.error x))
      [] := by
  refine wpIn_create.mpr ?_
  unfold create
  refine Coro.wpIn_bind.mpr (wpIn_write hs (fun session => ?_) (fun session rows => ?_)
    fun session => ?_)
  · rw [writes, Option.getD_some, read_insertQuery hop]
    rfl
  · rw [answer_insert hop]
  · refine agrees_of_run fun rows _ _ => ?_
    rw [answer_insert hop]
    rfl

/-- What `update()` returns is settled by its `UPDATE`, or by looking for the row. -/
theorem agrees_update (hs : settings.contactPoints ≠ []) {entity : T}
    (hop : Valid mapping t (.update entity)) :
    (code settings mapping t (.update entity)).wpIn (world wire mapping t (.update entity))
      (fun r => Agrees writes (answer wire t) (sequential wire mapping t) (.update entity) (.ok r))
      (fun x => Agrees writes (answer wire t) (sequential wire mapping t) (.update entity) (.error x))
      [] := by
  have ht := hop.table
  have hid := hop.names _ hop.idColumn
  refine wpIn_update.mpr ?_
  unfold update
  refine Coro.wpIn_bind.mpr (wpIn_getBy hs ht hid (fun session => ?_)
    (fun session row hcols => ?_) fun session row hcols => ?_)
  · refine agrees_of_run fun rows hrows _ => ?_
    have hfound : (sequential wire mapping t).found (.update entity) rows = false :=
      rows_of_select ht hid hrows
    rw [Sequential.run, hfound, answer_select ht hid]
    rfl
  · -- the row is there, and there is nothing to set
    have hcols : (updateCols t (mapping.entityToRow entity)).isEmpty = true := hcols
    dsimp only
    rw [if_pos hcols]
    refine agrees_of_run fun rows hrows _ => ?_
    have hfound : (sequential wire mapping t).found (.update entity) rows = true :=
      rows_of_select ht hid hrows
    rw [Sequential.run, if_pos hfound, answer_select ht hid]
    simp only [sequential, if_pos hcols]
    rfl
  · have hcols : (updateCols t (mapping.entityToRow entity)).isEmpty = false := hcols
    have hne : updateCols t (mapping.entityToRow entity) ≠ [] :=
      fun h => Bool.false_ne_true (hcols.symm.trans (List.isEmpty_iff.mpr h))
    have hwrites : ∀ session, writes (.execute session (updateQuery t ((updateCols t
        (mapping.entityToRow entity)).map Prod.fst))
          (some (updateValues t (mapping.entityToRow entity)))) = true := by
      intro session
      rw [writes, Option.getD_some, read_updateQuery hop hne]
      rfl
    dsimp only
    rw [hcols]
    refine Coro.wpIn_bind.mpr (wpIn_write hs hwrites (fun session rows => ?_) fun session => ?_)
    · rw [answer_update hop hne]
    · refine agrees_of_run fun rows _ hthere => ?_
      rw [Sequential.run, if_pos (hthere (hwrites session)), answer_update hop hne]
      simp only [sequential, hcols]
      rfl

/-- What `delete()` returns is settled by its `DELETE`, or by looking for the row. -/
theorem agrees_delete (hs : settings.contactPoints ≠ []) {id : String}
    (hop : Valid mapping t (.delete id)) :
    (code settings mapping t (.delete id)).wpIn (world wire mapping t (.delete id))
      (fun r => Agrees writes (answer wire t) (sequential wire mapping t) (.delete id) (.ok r))
      (fun x => Agrees writes (answer wire t) (sequential wire mapping t) (.delete id) (.error x))
      [] := by
  obtain ⟨ht, hid⟩ := hop
  refine wpIn_delete.mpr ?_
  unfold delete
  refine Coro.wpIn_bind.mpr (wpIn_getBy hs ht hid (fun session => ?_)
    (fun _ _ h => Bool.noConfusion h) fun session row _ => ?_)
  · refine agrees_of_run fun rows hrows _ => ?_
    have hfound : (sequential wire mapping t).found (.delete id) rows = false :=
      rows_of_select ht hid hrows
    rw [Sequential.run, hfound, answer_select ht hid]
    rfl
  · have hwrites : ∀ session, writes (V := V) (.execute session (deleteQuery t)
        (some [.str id])) = true := by
      intro session
      rw [writes, Option.getD_some, read_deleteQuery ht hid]
    refine Coro.wpIn_bind.mpr (wpIn_write hs hwrites (fun session rows => ?_) fun session => ?_)
    · rw [answer_delete ht hid]
    · refine agrees_of_run fun rows _ hthere => ?_
      rw [Sequential.run, if_pos (hthere (hwrites session)), answer_delete ht hid]
      rfl

theorem linearisable (hs : settings.contactPoints ≠ []) :
    Linearisable (Valid mapping t) (code settings mapping t) (connected (Backend.of (answer wire t)))
      (Finds writes (sequential wire mapping t))
      fun op rows o rows' => (sequential wire mapping t).run op rows = (o, rows') := by
  refine linearisable_of_agrees (nothing mapping t) (fun q rows hq => answer_of_not_writes hq rows)
    fun op hop => ?_
  cases op with
  | create entity => exact agrees_create hs hop
  | update entity => exact agrees_update hs hop
  | delete id => exact agrees_delete hs hop

/-- A look that finds a row. -/
def seen (t : Table) (id : String) (row : R) : Answer (driver R V) PyExc :=
  ⟨.inr (Command.execute 0 (getQuery t) (some [.str id])), .ok [row]⟩

/-- A look that finds nothing. -/
def unseen (t : Table) (id : String) : Answer (driver R V) PyExc :=
  ⟨.inr (Command.execute 0 (getQuery t) (some [.str id])), .ok []⟩

/-- A deletion. -/
def erased (t : Table) (id : String) : Answer (driver R V) PyExc :=
  ⟨.inr (Command.execute 0 (deleteQuery t) (some [.str id])), .ok []⟩

/-- A row is deleted. -/
theorem deletes (ht : Sql.IsWord t.name) (hid : Sql.IsWord t.idColumn) {rows : Rows K} {id : String}
    {row : Dict String K} (hrow : rows (wire.param (.str id)) = some row) :
    Deletes (code settings mapping t) (answer wire t) (sequential wire mapping t) id
      (seen t id (wire.row row)) (erased t id) (unseen t id) rows
      (rows.remove (wire.param (.str id))) where
  finds := .read (some 0) (.await _ (.read (some 0) (.await _ (.ret _))))
  misses := .read (some 0) (.await _ (.ret _))
  seen := (answer_select ht hid _).trans (by rw [hrow]; rfl)
  erased := answer_delete ht hid _
  again := (answer_delete ht hid _).trans (congrArg _ (Function.update_idem ..))
  unseen := (answer_select ht hid _).trans (by rw [Rows.remove, Function.update_self]; rfl)
  first := by
    simp only [Sequential.run, sequential, hrow]
    rfl
  second := by
    simp only [Sequential.run, sequential, Rows.remove, Function.update_self]
    rfl

end OpenframeAdapters.Db.Cassandra
