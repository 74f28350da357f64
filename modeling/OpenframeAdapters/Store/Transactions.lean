import OpenframeAdapters.Python.Moments
import OpenframeAdapters.Store.Keyed

/-!
# Transactions

Clients share a table. What a client writes it sees at once, and the others see it when it is committed.
Until then nobody else changes the rows that it has written.

## The model

* `Client` — the connection that a client holds, its cursors, what it has written without committing it,
  and the rows that it has still to fetch.
* `Deed` — what a client does, and the reply.
* `Proper` — a client uses its own connection and its own cursors. What becomes of a deed that is not
  proper is left open.
* `effect` — what becomes of one that is. What a statement does is a parameter, and so is whether a deed
  may fail for no reason; then it may have been done all the same.
* `transactions` — the clients, as a `Party`.
-/

namespace OpenframeAdapters.Store

open Python

variable {K S X ε Q I : Type}

/-- What has been written, the last row first; `none` is a row that has been removed. -/
abbrev Writes (K S : Type) := List (K × Option S)

section Keyed

variable [DecidableEq K]

/-- A row is written. -/
def Keyed.put (m : Keyed K S) (w : K × Option S) : Keyed K S :=
  match w.2 with
  | some s => m.insert w.1 s
  | none => m.erase w.1

/-- All rows are written. -/
def Keyed.putAll (m : Keyed K S) (writes : Writes K S) : Keyed K S :=
  writes.foldr (fun w m => m.put w) m

variable {m : Keyed K S}

@[simp] theorem putAll_nil : m.putAll [] = m := rfl

end Keyed

/-- A client. -/
structure Client (K S X : Type) where
  /-- The connection that it holds. -/
  conn : Option ℕ
  /-- Its cursors. -/
  cursors : List ℕ
  /-- What it has written, and not committed. -/
  work : Writes K S
  /-- The rows that a cursor has still to give out. -/
  fetched : ℕ → List X

/-- What a statement tells, returns and writes. -/
structure Outcome (I X K S : Type) where
  /-- What the cursor tells. -/
  info : I
  /-- The rows to be fetched. -/
  rows : List X
  /-- What it writes. -/
  writes : Writes K S

namespace Client

/-- It has nothing. -/
def out : Client K S X := ⟨none, [], [], fun _ => []⟩

/-- It has a connection. -/
def holding (c : ℕ) : Client K S X := ⟨some c, [], [], fun _ => []⟩

variable (l : Client K S X)

/-- It has one more cursor. -/
def cursor (cur : ℕ) : Client K S X := { l with cursors := cur :: l.cursors }

/-- A statement has been executed. -/
def executed (cur : ℕ) (done : Outcome I X K S) : Client K S X :=
  { l with
    work := done.writes ++ l.work
    fetched := Function.update l.fetched cur done.rows }

/-- Rows have been fetched. -/
def fetch (cur : ℕ) (rest : List X) : Client K S X :=
  { l with fetched := Function.update l.fetched cur rest }

/-- Its work is done. -/
def committed : Client K S X := { l with work := [] }

/-- What it sees of the table. -/
def sees [DecidableEq K] (m : Keyed K S) : Keyed K S := m.putAll l.work

variable {l} {cur : ℕ} {done : Outcome I X K S}

@[simp] theorem fetched_executed : (l.executed cur done).fetched cur = done.rows :=
  Function.update_self ..

theorem sees_of_work [DecidableEq K] {m : Keyed K S} (h : l.work = []) : l.sees m = m := by
  rw [sees, h, putAll_nil]

end Client

/-- What a client does, and what comes back; `none` and `false` stand for an exception. -/
inductive Deed (ε Q I X : Type) where
  /-- It acquires a connection. -/
  | acquire (conn : Option ℕ)
  /-- It opens a cursor on a connection. -/
  | cursor (conn : ℕ) (cur : Option ℕ)
  /-- It executes a statement. -/
  | execute (cur : ℕ) (q : Q) (reply : Except ε I)
  /-- It fetches a row, if there is one. -/
  | fetchone (cur : ℕ) (reply : Option (Option X))
  /-- It fetches all rows that are left. -/
  | fetchall (cur : ℕ) (reply : Option (List X))
  /-- It closes a cursor. -/
  | closeCursor (cur : ℕ) (ok : Bool)
  /-- It commits. -/
  | commit (conn : ℕ) (ok : Bool)
  /-- It releases a connection, and gives up what it has not committed. -/
  | release (conn : ℕ) (ok : Bool)
  /-- Anything that does not concern the table. -/
  | other (ok : Bool)

/-- The connection and the cursor are its own. -/
def Proper (l : Client K S X) : Deed ε Q I X → Prop
  | .acquire _ => l.conn = none
  | .cursor c _ | .commit c _ | .release c _ => l.conn = some c
  | .execute cur .. | .fetchone cur _ | .fetchall cur _ | .closeCursor cur _ => cur ∈ l.cursors
  | .other _ => True

section Effect

variable [DecidableEq K] (faults : Prop) (exec : Q → Keyed K S → Except ε (Outcome I X K S))

/-- What a deed does to the table and to the client. -/
def effect (m : Keyed K S) (l : Client K S X) : Deed ε Q I X → Keyed K S → Client K S X → Prop
  | .acquire (some c), m', l' => m' = m ∧ l' = .holding c
  | .cursor _ (some cur), m', l' => m' = m ∧ l' = l.cursor cur
  | .execute cur q (.ok info), m', l' => m' = m ∧
    ∃ done, exec q (l.sees m) = .ok done ∧ done.info = info ∧ l' = l.executed cur done
  | .execute cur q (.error e), m', l' => m' = m ∧
    (exec q (l.sees m) = .error e ∧ l' = l ∨
      faults ∧ (l' = l ∨ ∃ done, exec q (l.sees m) = .ok done ∧ l' = l.executed cur done))
  | .fetchone cur (some row), m', l' => m' = m ∧ row = (l.fetched cur).head? ∧
    l' = l.fetch cur (l.fetched cur).tail
  | .fetchall cur (some rows), m', l' => m' = m ∧ rows = l.fetched cur ∧ l' = l.fetch cur []
  | .commit _ ok, m', l' => (ok = true ∨ faults) ∧ m' = l.sees m ∧ l' = l.committed ∨
    ok = false ∧ faults ∧ m' = m ∧ l' = l
  | .release _ ok, m', l' => m' = m ∧ ((ok = true ∨ faults) ∧ l' = .out ∨ ok = false ∧ faults ∧ l' = l)
  | .closeCursor _ ok, m', l' | .other ok, m', l' => (ok = true ∨ faults) ∧ m' = m ∧ l' = l
  | .acquire none, m', l' | .cursor _ none, m', l' | .fetchone _ none, m', l'
  | .fetchall _ none, m', l' => faults ∧ m' = m ∧ l' = l

/-- The clients of a table. What one of them has written, the others do not change. -/
def transactions : Party (Keyed K S) (Client K S X) (Deed ε Q I X) where
  act m l d m' l' := Proper l d → effect faults exec m l d m' l'
  rely l m m' := ∀ w ∈ l.work, m'.lookup w.1 = m.lookup w.1
  rely_refl _ _ _ _ := rfl
  rely_trans h h' w hw := (h' w hw).trans (h w hw)

end Effect

end OpenframeAdapters.Store
