import Mathlib.Data.Int.Notation
import OpenframeAdapters.Db.Factory
import OpenframeAdapters.Python.Coroutine

/-!
# Repositories

What the repositories of the adapters have in common: the operations of
`BaseRepository[T]`, and the client that each operation begins by fetching.

## The model

An operation is a coroutine (`Operation`). It awaits calls of the driver, which may raise
any exception, and itself raises an `AdapterError` or lets an exception through.

A client is named by a number, as in `Factory`, and the calls that make one or close one
(`ConnectCall`) come next to the adapter's own. An operation of one repository reads only
its own entry of the module-level cache, so that entry is all of the cache it sees.
-/

namespace OpenframeAdapters.Db

open Python OpenframeAdapters.Core

/-- An operation of a repository with calls `D` that reads and writes `σ`. -/
abbrev Operation (D : Driver) (σ α : Type) := Coro D PyExc σ Raised α

/-- The operations of `BaseRepository[T]`. -/
structure BaseRepository (D : Driver) (σ T : Type) where
  /-- `get(entity_id)`. -/
  get : String → Operation D σ (Option T)
  /-- `list(limit, offset)`. -/
  list : ℤ → ℤ → Operation D σ (List T × ℤ)
  /-- `create(entity)`. -/
  create : T → Operation D σ T
  /-- `update(entity)`. -/
  update : T → Operation D σ (Option T)
  /-- `delete(entity_id)`. -/
  delete : String → Operation D σ Bool

section Operation

variable {D : Driver} {σ α : Type}

/-- `await q`. -/
def call (q : D.Call) : Operation D σ (D.Reply q) := .call .raw q

/-- `raise err`. -/
def fail (err : AdapterError) : Operation D σ α := .raise (.adapter err)

/-- An expression without awaits that may raise. -/
def eval (r : Except PyExc α) : Operation D σ α := .ofExcept .raw r

/-- What `except` clauses make of what is raised in their `try`: no clause names an
`AdapterError`. -/
def rethrow (clauses : Clauses Cls AdapterError) : Raised → Raised
  | .raw exc => translate clauses exc
  | .adapter err => .adapter err

/-- A `try` whose clauses all raise. -/
def tryExcept (clauses : Clauses Cls AdapterError) (p : Operation D σ α) : Operation D σ α :=
  p.tryCatch fun x => .raise (rethrow clauses x)

end Operation

/-! ### The client -/

/-- The calls that make a client of arguments `A`, or close one. -/
inductive ConnectCall (A : Type) where
  /-- The client is constructed. -/
  | construct (arguments : A)
  /-- The awaited call that makes the client. -/
  | connect (arguments : A)
  /-- The first command on a client. -/
  | probe (client : ℕ)
  /-- The client's own close. -/
  | close (client : ℕ)

/-- What they return. -/
abbrev ConnectCall.Reply {A : Type} : ConnectCall A → Type
  | .construct _ | .connect _ => ℕ
  | .probe _ | .close _ => Unit

/-- The calls of an adapter: those that concern the client, and the commands `C`. -/
abbrev connecting (A : Type) (C : Driver) : Driver where
  Call := ConnectCall A ⊕ C.Call
  Reply
    | .inl q => q.Reply
    | .inr q => C.Reply q

/-- A command. -/
def command {A σ : Type} {C : Driver} (q : C.Call) : Operation (connecting A C) σ (C.Reply q) :=
  call (D := connecting A C) (.inr q)

section Client

variable {S K A σ : Type} {C : Driver}

/-- The first command on a client has raised. -/
def Factory.giveUp (f : Factory S K A) (client : ℕ) : Raised → Operation (connecting A C) σ Unit
  | .raw exc =>
    if f.discards exc then do
      call (D := connecting A C) (.inl (.close client))
      .raise (translate f.connectErrors exc)
    else .raise (translate f.connectErrors exc)
  | .adapter err => fail err

/-- Make a client, as the factory does. -/
def Factory.makeClient (f : Factory S K A) (settings : S) : Operation (connecting A C) σ ℕ :=
  match f.making with
  | .probed _ => do
    let client ← tryExcept f.initErrors
      (call (D := connecting A C) (.inl (.construct (f.arguments settings))))
    (call (D := connecting A C) (.inl (.probe client))).tryCatch (f.giveUp client)
    return client
  | .awaited | .executor =>
    tryExcept f.connectErrors
      (call (D := connecting A C) (.inl (.connect (f.arguments settings))))

/-- `get_*`, on behalf of an operation: `cached` is the entry of the cache under the key of the
settings. -/
def Factory.getClient (f : Factory S K A) (settings : S) (cached : σ → Option ℕ)
    (store : ℕ → σ → σ) : Operation (connecting A C) σ ℕ := do
  match cached (← .get) with
  | some client => return client
  | none =>
    match f.refuses settings with
    | some err => fail err
    | none =>
      let client ← f.makeClient settings
      .modify (store client)
      return client

end Client

end OpenframeAdapters.Db
