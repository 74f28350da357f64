import Mathlib.Data.List.Basic
import Mathlib.Data.Nat.Notation
import Mathlib.Logic.Function.Basic

/-!
# Logs in partitions

A log only grows. Its entries are put in partitions, where they are numbered from `0` on. A partition
is read entry by entry, and how far the readers have come is kept: they start there.

## The model

* `partition` — the entries of one partition, in order.
* `Below` — what is said of the offsets between a base and a cursor.

## What is proved

* `getElem?_partition_append` — an entry keeps its number.
* `Below.advance` — a reader passes the next entry.
* `Below.commit` — what is kept is replaced by how far a reader has come.
-/

namespace OpenframeAdapters.Store

variable {P α : Type}

/-! ### Entries -/

section Partition

variable [DecidableEq P]

/-- The entries of a partition, in order. -/
def partition (q : P) (log : List (P × α)) : List α := (log.filter (·.1 = q)).map Prod.snd

theorem partition_append (q : P) (log new : List (P × α)) :
    partition q (log ++ new) = partition q log ++ partition q new := by
  simp [partition]

/-- **An entry keeps its number** when the log grows. -/
theorem getElem?_partition_append {q : P} {log : List (P × α)} {o : ℕ} {x : α}
    (h : (partition q log)[o]? = some x) (new : List (P × α)) :
    (partition q (log ++ new))[o]? = some x := by
  obtain ⟨ho, -⟩ := List.getElem?_eq_some_iff.mp h
  rw [partition_append, List.getElem?_append_left ho, h]

/-- The entries of the partitions are those of the log. -/
theorem mem_of_partition {q : P} {log : List (P × α)} {o : ℕ} {x : α}
    (h : (partition q log)[o]? = some x) : x ∈ log.map Prod.snd := by
  obtain ⟨a, ha, rfl⟩ := List.mem_map.mp (List.mem_of_getElem? h)
  exact List.mem_map.mpr ⟨a, (List.mem_filter.mp ha).1, rfl⟩

end Partition

/-! ### Cursors -/

/-- It is true of all offsets from the base up to the cursor. A cursor that is not set says nothing. -/
def Below (base : P → ℕ) (D : P → ℕ → Prop) (cursor : P → Option ℕ) : Prop :=
  ∀ q n, cursor q = some n → ∀ o, base q ≤ o → o < n → D q o

section Below

variable {base kept : P → ℕ} {D D' : P → ℕ → Prop} {cursor : P → Option ℕ}

theorem Below.mono (h : Below base D cursor) (hD : ∀ q o, D q o → D' q o) : Below base D' cursor :=
  fun q n hn o hbase ho => hD q o (h q n hn o hbase ho)

/-- Nothing has been read. -/
theorem below_unset : Below base D fun _ => none := nofun

/-- Nothing is kept but the base. -/
theorem below_base : Below base D fun q => some (base q) := by
  rintro q _ ⟨⟩ o hbase ho
  exact absurd ho (Nat.not_lt.mpr hbase)

/-- **A commit** takes over how far a reader has come. -/
theorem Below.commit (h : Below base D cursor) (hkept : Below base D fun q => some (kept q)) :
    Below base D fun q => some ((cursor q).getD (kept q)) := by
  rintro q _ ⟨⟩ o hbase ho
  cases hc : cursor q with
  | none =>
    rw [hc, Option.getD_none] at ho
    exact hkept q _ rfl o hbase ho
  | some c =>
    rw [hc, Option.getD_some] at ho
    exact h q c hc o hbase ho

variable [DecidableEq P]

/-- The cursor of one partition is forgotten, or set to what is kept. -/
theorem Below.reset (h : Below base D cursor) (hkept : Below base D fun q => some (kept q)) {q : P}
    {n : Option ℕ} (hn : n = none ∨ n = some (kept q)) :
    Below base D (Function.update cursor q n) := by
  intro q' m hm o hbase ho
  by_cases hq : q' = q
  · subst hq
    rw [Function.update_self] at hm
    subst hm
    obtain heq | heq := hn
    · cases heq
    · exact hkept q' m heq.symm o hbase ho
  · rw [Function.update_of_ne hq] at hm
    exact h q' m hm o hbase ho

/-- **The next entry** is passed. A reader that has read nothing begins at what is kept. -/
theorem Below.advance (h : Below base D cursor) (hkept : Below base D fun q => some (kept q)) {q : P}
    {n : ℕ} (hn : n = (cursor q).getD (kept q)) (hD : D q n) :
    Below base D (Function.update cursor q (some (n + 1))) := by
  intro q' m hm o hbase ho
  by_cases hq : q' = q
  · subst hq
    rw [Function.update_self] at hm
    cases hm
    rcases Nat.lt_succ_iff_lt_or_eq.mp ho with ho | rfl
    · cases hc : cursor q' with
      | none =>
        rw [hc, Option.getD_none] at hn
        exact hkept q' n (congrArg some hn.symm) o hbase ho
      | some c =>
        rw [hc, Option.getD_some] at hn
        exact h q' n (hn ▸ hc) o hbase ho
    · exact hD
  · rw [Function.update_of_ne hq] at hm
    exact h q' m hm o hbase ho

end Below

end OpenframeAdapters.Store
