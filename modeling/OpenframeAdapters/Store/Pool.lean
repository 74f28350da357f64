import OpenframeAdapters.Python.History

/-!
# Transactions on pooled connections

Calls that run at the same time share a pool of connections. A call acquires a connection, executes
statements in a transaction on it, commits, and releases the connection.

## The model

* `Step` — what a call does. Every step may fail, and a step that has failed may have taken effect
  all the same.
* `Pool` — what has been committed, the open transaction of each connection, and who holds it.
  `effect` says what a step does. A connection that is released has no open transaction any more, or
  it never comes back.
* `Phase` and `advance` — how far a call has come. `advance` fails where a call uses a connection or
  a cursor that is not its own.
* `AllOrNothing` — what is asked of a call that writes.

## What is proved

* `Apart.step` and `Apart.along` — calls that keep to `advance` do not get into each other's way.
* `allOrNothing_of_advance` — such a call is all or nothing, if it has committed what it writes by
  the time that it returns.
-/

namespace OpenframeAdapters.Store

open Python

/-! ### The pool -/

/-- What a call does. -/
inductive Step (Q : Type) where
  /-- It acquires a connection, if it gets one. -/
  | acquire (conn : Option ℕ)
  /-- It opens a cursor on a connection, if it gets one. -/
  | cursor (conn : ℕ) (cur : Option ℕ)
  /-- It executes a statement. -/
  | execute (cur : ℕ) (q : Q) (ok : Bool)
  /-- It commits the transaction on a connection. -/
  | commit (conn : ℕ) (ok : Bool)
  /-- It releases a connection. -/
  | release (conn : ℕ) (ok : Bool)
  /-- Anything else. -/
  | other

/-- A pool of connections, and the database behind it. Calls are `ι`, statements are `Q`. -/
structure Pool (ι Q : Type) where
  /-- The statements that have been committed, and the calls that have executed them. -/
  committed : List (ι × Q)
  /-- The open transaction of each connection. -/
  pending : ℕ → List (ι × Q)
  /-- The call that holds the connection. -/
  holder : ℕ → Option ι
  /-- The connection that a cursor belongs to. -/
  connOf : ℕ → Option ℕ

namespace Pool

variable {ι Q : Type}

/-- Nothing has happened. -/
def empty : Pool ι Q := ⟨[], fun _ => [], fun _ => none, fun _ => none⟩

/-- What a statement on the connection works on. -/
def view (s : Pool ι Q) (c : ℕ) : List (ι × Q) := s.committed ++ s.pending c

/-- The connection is handed out. -/
def acquire (s : Pool ι Q) (i : ι) (c : ℕ) : Pool ι Q :=
  { s with holder := Function.update s.holder c (some i) }

/-- The cursor is opened. -/
def cursor (s : Pool ι Q) (c cur : ℕ) : Pool ι Q :=
  { s with connOf := Function.update s.connOf cur (some c) }

/-- The statement is executed. -/
def execute (s : Pool ι Q) (i : ι) (c : ℕ) (q : Q) : Pool ι Q :=
  { s with pending := Function.update s.pending c (s.pending c ++ [(i, q)]) }

/-- The transaction is committed. -/
def commit (s : Pool ι Q) (c : ℕ) : Pool ι Q :=
  { s with committed := s.committed ++ s.pending c, pending := Function.update s.pending c [] }

/-- The connection comes back, and its open transaction is rolled back. -/
def release (s : Pool ι Q) (c : ℕ) : Pool ι Q :=
  { s with pending := Function.update s.pending c [], holder := Function.update s.holder c none }

@[simp] theorem pending_execute_self (s : Pool ι Q) (i : ι) (c : ℕ) (q : Q) :
    (s.execute i c q).pending c = s.pending c ++ [(i, q)] := Function.update_self ..

theorem pending_execute_of_ne (s : Pool ι Q) (i : ι) {c c' : ℕ} (q : Q) (h : c' ≠ c) :
    (s.execute i c q).pending c' = s.pending c' := Function.update_of_ne h ..

@[simp] theorem view_execute_self (s : Pool ι Q) (i : ι) (c : ℕ) (q : Q) :
    (s.execute i c q).view c = s.view c ++ [(i, q)] := by
  rw [view, view, pending_execute_self, List.append_assoc]
  rfl

/-- What a step of a call does. -/
def effect (i : ι) (s : Pool ι Q) : Step Q → Pool ι Q → Prop
  | .acquire (some c), s' => s.holder c = none ∧ s' = s.acquire i c
  | .acquire none, s' => s' = s
  | .cursor c (some cur), s' => s.connOf cur = none ∧ s' = s.cursor c cur
  | .cursor _ none, s' => s' = s
  | .execute cur q ok, s' => ∃ c, s.connOf cur = some c ∧ (s' = s.execute i c q ∨ ok = false ∧ s' = s)
  | .commit c ok, s' => s' = s.commit c ∨ ok = false ∧ s' = s
  | .release c ok, s' => s' = s.release c ∨ ok = false ∧ s' = s
  | .other, s' => s' = s

end Pool

/-! ### Calls -/

section Phase

variable {Q : Type}

/-- What a call has got, and what it has done with it. -/
structure Hold (Q : Type) where
  /-- Its connection. -/
  conn : ℕ
  /-- Its cursors. -/
  cursors : List ℕ
  /-- The statements that have returned. -/
  executed : List Q
  /-- The statements that have been committed. -/
  done : List Q
  /-- A commit has been issued. -/
  issued : Bool

/-- How far a call has come. -/
inductive Phase (Q : Type) where
  /-- It has no connection yet. -/
  | before
  /-- It has one. -/
  | holding (w : Hold Q)
  /-- It has requested the release. -/
  | after (w : Hold Q)

/-- A commit has been issued. -/
def Phase.issued : Phase Q → Bool
  | .before => false
  | .holding w | .after w => w.issued

/-- A call goes on. -/
def advance : Phase Q → Step Q → Option (Phase Q)
  | p, .other => some p
  | .before, .acquire none => some .before
  | .before, .acquire (some c) => some (.holding ⟨c, [], [], [], false⟩)
  | .holding w, .cursor c none => if c = w.conn then some (.holding w) else none
  | .holding w, .cursor c (some cur) =>
    if c = w.conn then some (.holding { w with cursors := cur :: w.cursors }) else none
  | .holding w, .execute cur q ok =>
    if cur ∈ w.cursors then
      some (.holding (if ok then { w with executed := q :: w.executed } else w))
    else none
  | .holding w, .commit c ok =>
    if c = w.conn then
      some (.holding { w with issued := true, done := if ok then w.executed else w.done })
    else none
  | .holding w, .release c _ => if c = w.conn then some (.after w) else none
  | _, _ => none

end Phase

/-! ### Calls that do not get into each other's way -/

section Apart

variable {ι Q : Type} {s s' : Pool ι Q} {i j : ι} {p p' : Phase Q} {m : Step Q} {w : Hold Q}

/-- What a step does to the pool and to the call. -/
inductive Moves (i : ι) (s : Pool ι Q) : Phase Q → Phase Q → Pool ι Q → Prop
  /-- Nothing. -/
  | stay (p : Phase Q) : Moves i s p p s
  /-- The call gets a connection that nobody holds. -/
  | acquire {c : ℕ} : s.holder c = none →
    Moves i s .before (.holding ⟨c, [], [], [], false⟩) (s.acquire i c)
  /-- The call gets a new cursor. -/
  | cursor {w : Hold Q} {cur : ℕ} : s.connOf cur = none →
    Moves i s (.holding w) (.holding { w with cursors := cur :: w.cursors }) (s.cursor w.conn cur)
  /-- A statement is executed. -/
  | execute {w : Hold Q} {cur c : ℕ} (q : Q) : cur ∈ w.cursors → s.connOf cur = some c →
    Moves i s (.holding w) (.holding { w with executed := q :: w.executed }) (s.execute i c q)
  /-- A statement has failed, but it has been executed. -/
  | executeFailed {w : Hold Q} {cur c : ℕ} (q : Q) : cur ∈ w.cursors → s.connOf cur = some c →
    Moves i s (.holding w) (.holding w) (s.execute i c q)
  /-- The transaction is committed. -/
  | commit (w : Hold Q) :
    Moves i s (.holding w) (.holding { w with issued := true, done := w.executed }) (s.commit w.conn)
  /-- The commit has failed. -/
  | commitFailed (w : Hold Q) {s' : Pool ι Q} : s' = s.commit w.conn ∨ s' = s →
    Moves i s (.holding w) (.holding { w with issued := true }) s'
  /-- The connection is released. -/
  | release (w : Hold Q) : Moves i s (.holding w) (.after w) (s.release w.conn)
  /-- The release has failed. -/
  | releaseFailed (w : Hold Q) : Moves i s (.holding w) (.after w) s

/-- **Steps** of a call that keeps to `advance`. -/
theorem moves_of_advance (ha : advance p m = some p') (he : s.effect i m s') :
    Moves i s p p' s' := by
  match p, m with
  | p, .other =>
    obtain rfl := he
    obtain rfl := Option.some.inj ha
    exact .stay p
  | .before, .acquire none =>
    obtain rfl := he
    obtain rfl := Option.some.inj ha
    exact .stay _
  | .before, .acquire (some c) =>
    obtain ⟨hfree, rfl⟩ := he
    obtain rfl := Option.some.inj ha
    exact .acquire hfree
  | .holding w, .cursor c none =>
    obtain rfl := he
    obtain ⟨-, hp⟩ := Option.ite_none_right_eq_some.mp ha
    obtain rfl := Option.some.inj hp
    exact .stay _
  | .holding w, .cursor c (some cur) =>
    obtain ⟨hnew, rfl⟩ := he
    obtain ⟨rfl, hp⟩ := Option.ite_none_right_eq_some.mp ha
    obtain rfl := Option.some.inj hp
    exact .cursor hnew
  | .holding w, .execute cur q ok =>
    obtain ⟨c, hc, he⟩ := he
    obtain ⟨hcur, hp⟩ := Option.ite_none_right_eq_some.mp ha
    obtain rfl := Option.some.inj hp
    cases ok with
    | true =>
      obtain rfl := he.resolve_right nofun
      exact .execute q hcur hc
    | false =>
      rcases he with rfl | ⟨-, rfl⟩
      · exact .executeFailed q hcur hc
      · exact .stay _
  | .holding w, .commit c ok =>
    obtain ⟨rfl, hp⟩ := Option.ite_none_right_eq_some.mp ha
    obtain rfl := Option.some.inj hp
    cases ok with
    | true =>
      obtain rfl := he.resolve_right nofun
      exact .commit w
    | false => exact .commitFailed w (he.imp_right And.right)
  | .holding w, .release c ok =>
    obtain ⟨rfl, hp⟩ := Option.ite_none_right_eq_some.mp ha
    obtain rfl := Option.some.inj hp
    rcases he with rfl | ⟨-, rfl⟩
    · exact .release w
    · exact .releaseFailed w

/-- What is a call's own, as long as it holds a connection. -/
structure Holds (s : Pool ι Q) (i : ι) (w : Hold Q) : Prop where
  /-- The connection. -/
  holder : s.holder w.conn = some i
  /-- The cursors. -/
  cursors : ∀ cur ∈ w.cursors, s.connOf cur = some w.conn
  /-- The statements. -/
  executed : ∀ q ∈ w.executed, (i, q) ∈ s.view w.conn
  /-- The statements that are committed. -/
  done : ∀ q ∈ w.done, (i, q) ∈ s.committed

/-- What is a call's own. -/
def Own (s : Pool ι Q) (i : ι) : Phase Q → Prop
  | .before => True
  | .holding w => Holds s i w
  | .after w => ∀ q ∈ w.done, (i, q) ∈ s.committed

/-- The calls are apart. -/
structure Apart (s : Pool ι Q) (phase : ι → Phase Q) : Prop where
  /-- Each has its own. -/
  own : ∀ i, Own s i (phase i)
  /-- What is in a transaction has been executed by the call that holds the connection. -/
  pending : ∀ c, ∀ e ∈ s.pending c, s.holder c = some e.1
  /-- What is committed, its call has committed. -/
  committed : ∀ e ∈ s.committed, (phase e.1).issued = true

/-- A step takes nothing away from a call. -/
structure Spares (j : ι) (s s' : Pool ι Q) : Prop where
  /-- What is committed stays committed. -/
  committed : ∀ e ∈ s.committed, e ∈ s'.committed
  /-- Its connections stay its own. -/
  holder : ∀ c, s.holder c = some j → s'.holder c = some j
  /-- The transactions on them stay as they are. -/
  pending : ∀ c, s.holder c = some j → s'.pending c = s.pending c
  /-- Cursors stay on their connections. -/
  connOf : ∀ cur c, s.connOf cur = some c → s'.connOf cur = some c

theorem Spares.refl (j : ι) (s : Pool ι Q) : Spares j s s :=
  ⟨fun _ he => he, fun _ h => h, fun _ _ => rfl, fun _ _ h => h⟩

theorem Own.spares (h : Own s j p) (hs : Spares j s s') : Own s' j p := by
  cases p with
  | before => trivial
  | after w => exact fun q hq => hs.committed _ (h q hq)
  | holding w =>
    refine ⟨hs.holder _ h.holder, fun cur hcur => hs.connOf _ _ (h.cursors cur hcur), fun q hq => ?_,
      fun q hq => hs.committed _ (h.done q hq)⟩
    rw [Pool.view, hs.pending _ h.holder]
    exact (List.mem_append.mp (h.executed q hq)).elim
      (fun he => List.mem_append_left _ (hs.committed _ he)) (List.mem_append_right _)

/-- A connection that another call holds is not this one. -/
theorem holder_ne {c c' : ℕ} (hj : s.holder c' = some j) (hi : s.holder c = some i) (hij : j ≠ i) :
    c' ≠ c := by
  rintro rfl
  exact hij (Option.some.inj (hj.symm.trans hi))

/-- **A step of one call spares the others**. -/
theorem Moves.spares (h : Moves i s p p' s') (hown : Own s i p) (hij : j ≠ i) : Spares j s s' := by
  have hexecute : ∀ {w : Hold Q} {cur c : ℕ} {q : Q}, Holds s i w → cur ∈ w.cursors →
      s.connOf cur = some c → Spares j s (s.execute i c q) := by
    intro w cur c q hw hcur hc
    obtain rfl : w.conn = c := Option.some.inj ((hw.cursors cur hcur).symm.trans hc)
    exact ⟨fun _ he => he, fun _ h => h,
      fun c' hj => Function.update_of_ne (holder_ne hj hw.holder hij) .., fun _ _ h => h⟩
  have hcommit : ∀ {w : Hold Q}, Holds s i w → Spares j s (s.commit w.conn) := fun hw =>
    ⟨fun _ he => List.mem_append_left _ he, fun _ h => h,
      fun c' hj => Function.update_of_ne (holder_ne hj hw.holder hij) .., fun _ _ h => h⟩
  cases h with
  | stay => exact .refl j _
  | acquire hfree =>
    refine ⟨fun _ he => he, fun c' hj => ?_, fun _ _ => rfl, fun _ _ h => h⟩
    refine (Function.update_of_ne (fun heq => ?_) ..).trans hj
    rw [heq, hfree] at hj
    cases hj
  | cursor hnew =>
    refine ⟨fun _ he => he, fun _ h => h, fun _ _ => rfl, fun cur' c' hc => ?_⟩
    refine (Function.update_of_ne (fun heq => ?_) ..).trans hc
    rw [heq, hnew] at hc
    cases hc
  | execute q hcur hc => exact hexecute hown hcur hc
  | executeFailed q hcur hc => exact hexecute hown hcur hc
  | commit w => exact hcommit hown
  | commitFailed w hs =>
    rcases hs with rfl | rfl
    · exact hcommit hown
    · exact .refl j _
  | release w =>
    exact ⟨fun _ he => he,
      fun c' hj => (Function.update_of_ne (holder_ne hj hown.holder hij) ..).trans hj,
      fun c' hj => Function.update_of_ne (holder_ne hj hown.holder hij) .., fun _ _ h => h⟩
  | releaseFailed w => exact .refl j _

/-- **A step of a call keeps its own**. -/
theorem Moves.own (h : Moves i s p p' s') (hown : Own s i p) : Own s' i p' := by
  have hexecute : ∀ {w : Hold Q} {cur c : ℕ} {q : Q}, Holds s i w → cur ∈ w.cursors →
      s.connOf cur = some c → Holds (s.execute i c q) i { w with executed := q :: w.executed } := by
    intro w cur c q hw hcur hc
    obtain rfl : w.conn = c := Option.some.inj ((hw.cursors cur hcur).symm.trans hc)
    refine ⟨hw.holder, hw.cursors, fun q' hq => ?_, hw.done⟩
    change (i, q') ∈ (s.execute i w.conn q).view w.conn
    rw [Pool.view_execute_self]
    rcases List.mem_cons.mp hq with rfl | hq
    · exact List.mem_append_right _ (List.mem_singleton_self _)
    · exact List.mem_append_left _ (hw.executed q' hq)
  have hcommit : ∀ {w : Hold Q}, Holds s i w → ∀ q ∈ w.executed, (i, q) ∈ (s.commit w.conn).committed :=
    fun hw q hq => hw.executed q hq
  cases h with
  | stay => exact hown
  | acquire hfree => exact ⟨Function.update_self .., nofun, nofun, nofun⟩
  | @cursor w cur hnew =>
    refine ⟨hown.holder, fun cur' hcur => ?_, hown.executed, hown.done⟩
    by_cases heq : cur' = cur
    · rw [heq]
      exact Function.update_self ..
    · exact (Function.update_of_ne heq ..).trans
        (hown.cursors cur' ((List.mem_cons.mp hcur).resolve_left heq))
  | execute q hcur hc => exact hexecute hown hcur hc
  | executeFailed q hcur hc =>
    have hw := hexecute (q := q) hown hcur hc
    exact ⟨hw.holder, hw.cursors, fun q' hq => hw.executed q' (List.mem_cons_of_mem _ hq), hw.done⟩
  | commit w =>
    exact ⟨hown.holder, hown.cursors, fun q hq => List.mem_append_left _ (hcommit hown q hq),
      hcommit hown⟩
  | commitFailed w hs =>
    rcases hs with rfl | rfl
    · exact ⟨hown.holder, hown.cursors, fun q hq => List.mem_append_left _ (hcommit hown q hq),
        fun q hq => List.mem_append_left _ (hown.done q hq)⟩
    · exact ⟨hown.holder, hown.cursors, hown.executed, hown.done⟩
  | release w => exact hown.done
  | releaseFailed w => exact hown.done

/-- What is in a transaction stays with the call that holds the connection. -/
theorem Moves.pending (h : Moves i s p p' s') (hown : Own s i p)
    (hs : ∀ c, ∀ e ∈ s.pending c, s.holder c = some e.1) :
    ∀ c, ∀ e ∈ s'.pending c, s'.holder c = some e.1 := by
  have hexecute : ∀ {w : Hold Q} {cur c : ℕ} {q : Q}, Holds s i w → cur ∈ w.cursors →
      s.connOf cur = some c →
      ∀ c', ∀ e ∈ (s.execute i c q).pending c', (s.execute i c q).holder c' = some e.1 := by
    intro w cur c q hw hcur hc c' e he
    obtain rfl : w.conn = c := Option.some.inj ((hw.cursors cur hcur).symm.trans hc)
    by_cases hc' : c' = w.conn
    · subst hc'
      rw [Pool.pending_execute_self] at he
      rcases List.mem_append.mp he with he | he
      · exact hs _ e he
      · obtain rfl := List.mem_singleton.mp he
        exact hw.holder
    · rw [Pool.pending_execute_of_ne _ _ _ hc'] at he
      exact hs c' e he
  have hcleared : ∀ {c c' : ℕ} {e : ι × Q}, e ∈ Function.update s.pending c [] c' →
      c' ≠ c ∧ s.holder c' = some e.1 := by
    intro c c' e he
    by_cases hc : c' = c
    · rw [hc, Function.update_self] at he
      cases he
    · rw [Function.update_of_ne hc] at he
      exact ⟨hc, hs c' e he⟩
  cases h with
  | stay => exact hs
  | acquire hfree =>
    intro c' e he
    refine (Function.update_of_ne (fun heq => ?_) ..).trans (hs c' e he)
    have hnone := hs c' e he
    rw [heq, hfree] at hnone
    cases hnone
  | cursor hnew => exact hs
  | execute q hcur hc => exact hexecute hown hcur hc
  | executeFailed q hcur hc => exact hexecute hown hcur hc
  | commit w => exact fun c' e he => (hcleared he).2
  | commitFailed w hs' =>
    rcases hs' with rfl | rfl
    · exact fun c' e he => (hcleared he).2
    · exact hs
  | release w =>
    exact fun c' e he => (Function.update_of_ne (hcleared he).1 ..).trans (hcleared he).2
  | releaseFailed w => exact hs

/-- What a step commits, its own call has executed. -/
theorem Moves.committed (h : Moves i s p p' s') (hown : Own s i p)
    (hs : ∀ c, ∀ e ∈ s.pending c, s.holder c = some e.1) :
    ∀ e ∈ s'.committed, e ∈ s.committed ∨ e.1 = i ∧ p'.issued = true := by
  have hcommit : ∀ {w : Hold Q}, Holds s i w → ∀ e ∈ (s.commit w.conn).committed,
      e ∈ s.committed ∨ e.1 = i := fun {w} hw e he =>
    (List.mem_append.mp he).imp_right fun he =>
      Option.some.inj ((hs w.conn e he).symm.trans hw.holder)
  cases h with
  | stay => exact fun e he => .inl he
  | acquire hfree => exact fun e he => .inl he
  | cursor hnew => exact fun e he => .inl he
  | execute q hcur hc => exact fun e he => .inl he
  | executeFailed q hcur hc => exact fun e he => .inl he
  | commit w => exact fun e he => (hcommit hown e he).imp_right fun h => ⟨h, rfl⟩
  | commitFailed w hs' =>
    rcases hs' with rfl | rfl
    · exact fun e he => (hcommit hown e he).imp_right fun h => ⟨h, rfl⟩
    · exact fun e he => .inl he
  | release w => exact fun e he => .inl he
  | releaseFailed w => exact fun e he => .inl he

/-- A commit that has been issued stays issued. -/
theorem Moves.issued (h : Moves i s p p' s') (hp : p.issued = true) : p'.issued = true := by
  cases h with
  | stay => exact hp
  | acquire hfree => cases hp
  | cursor hnew => exact hp
  | execute q hcur hc => exact hp
  | executeFailed q hcur hc => exact hp
  | commit w => rfl
  | commitFailed w hs' => rfl
  | release w => exact hp
  | releaseFailed w => exact hp

variable [DecidableEq ι] {phase phase' : ι → Phase Q}

/-- **One step** keeps the calls apart. -/
theorem Apart.step (h : Apart s phase) (ha : advance (phase i) m = some p')
    (he : s.effect i m s') : Apart s' (Function.update phase i p') := by
  have hmoves := moves_of_advance ha he
  refine ⟨fun j => ?_, hmoves.pending (h.own i) h.pending, fun e hcommitted => ?_⟩
  · by_cases hj : j = i
    · subst hj
      rw [Function.update_self]
      exact hmoves.own (h.own j)
    · rw [Function.update_of_ne hj]
      exact (h.own j).spares (hmoves.spares (h.own i) hj)
  · by_cases hi : e.1 = i
    · rw [hi, Function.update_self]
      rcases hmoves.committed (h.own i) h.pending e hcommitted with hold | hnew
      · exact hmoves.issued (hi ▸ h.committed e hold)
      · exact hnew.2
    · rw [Function.update_of_ne hi]
      exact h.committed e
        ((hmoves.committed (h.own i) h.pending e hcommitted).resolve_right fun h => hi h.1)

/-- **A whole history** keeps the calls apart, if each of them keeps to `advance`. -/
theorem Apart.along {R : Type} {h : List (Event ι (Step Q) R)}
    (hrun : Along Pool.effect s h s') (hs : Apart s phase)
    (ha : ∀ i, (stepsOf i h).foldlM advance (phase i) = some (phase' i)) : Apart s' phase' := by
  induction hrun generalizing phase with
  | nil s =>
    obtain rfl : phase = phase' := funext fun i => Option.some.inj (ha i)
    exact hs
  | invoke _ ih => exact ih hs ha
  | leave _ ih => exact ih hs ha
  | @step i m s s₁ h s' he _ ih =>
    have hi := ha i
    rw [stepsOf_step, if_pos rfl, List.foldlM_cons] at hi
    obtain ⟨p, hp, hrest⟩ := Option.bind_eq_some_iff.mp hi
    refine ih (hs.step hp he) fun j => ?_
    by_cases hj : j = i
    · rw [hj, Function.update_self]
      exact hrest
    · have hj' := ha j
      rw [stepsOf_step, if_neg (Ne.symm hj)] at hj'
      rw [Function.update_of_ne hj]
      exact hj'

omit [DecidableEq ι] in
theorem apart_empty : Apart (Pool.empty : Pool ι Q) fun _ => .before where
  own _ := trivial
  pending _ _ he := by cases he
  committed _ he := by cases he

end Apart

/-! ### All or nothing -/

section AllOrNothing

variable {ι Q R : Type}

/-- The connections that have been acquired. -/
def acquired (ms : List (Step Q)) : List ℕ :=
  ms.filterMap fun
    | .acquire conn => conn
    | _ => none

/-- The connections whose release has been requested. -/
def released (ms : List (Step Q)) : List ℕ :=
  ms.filterMap fun
    | .release conn _ => some conn
    | _ => none

/-- What is asked of a call that has ended, and that writes `q?`: in the events `.leave`, `true` says
that it has returned. -/
structure AllOrNothing [DecidableEq ι] (i : ι) (q? : Option Q) (h : List (Event ι (Step Q) Bool))
    (s : Pool ι Q) : Prop where
  /-- If it has raised before a commit was issued, no other call sees anything of it. -/
  nothing : .leave i false ∈ h → (∀ c ok, .step i (.commit c ok) ∉ h) →
    ∀ c, s.holder c ≠ some i → ∀ e ∈ s.view c, e.1 ≠ i
  /-- If it has returned, what it writes is committed. -/
  all : .leave i true ∈ h → ∀ q ∈ q?, (i, q) ∈ s.committed
  /-- It has acquired one connection at most, and requested its release once. -/
  released : ∀ r, .leave i r ∈ h → (acquired (stepsOf i h)).length ≤ 1 ∧
    released (stepsOf i h) = acquired (stepsOf i h)

/-- What a call has acquired by now. -/
def Phase.acquired : Phase Q → List ℕ
  | .before => []
  | .holding w | .after w => [w.conn]

/-- What it has released. -/
def Phase.released : Phase Q → List ℕ
  | .before | .holding _ => []
  | .after w => [w.conn]

/-- The statements that it has committed. -/
def Phase.done : Phase Q → List Q
  | .before => []
  | .holding w | .after w => w.done

/-- It holds no connection. -/
def Phase.Ended : Phase Q → Prop
  | .before | .after _ => True
  | .holding _ => False

variable {p p' : Phase Q} {m : Step Q} {ms : List (Step Q)}

/-- One step. -/
theorem advance_lists (ha : advance p m = some p') :
    p.acquired ++ acquired [m] = p'.acquired ∧ p.released ++ released [m] = p'.released ∧
      (p'.issued = true → p.issued = true ∨ ∃ c ok, m = .commit c ok) := by
  match p, m with
  | p, .other =>
    obtain rfl := Option.some.inj ha
    exact ⟨List.append_nil _, List.append_nil _, .inl⟩
  | .before, .acquire none =>
    obtain rfl := Option.some.inj ha
    exact ⟨rfl, rfl, .inl⟩
  | .before, .acquire (some c) =>
    obtain rfl := Option.some.inj ha
    exact ⟨rfl, rfl, .inl⟩
  | .holding w, .cursor c none =>
    obtain ⟨-, hp⟩ := Option.ite_none_right_eq_some.mp ha
    obtain rfl := Option.some.inj hp
    exact ⟨rfl, rfl, .inl⟩
  | .holding w, .cursor c (some cur) =>
    obtain ⟨-, hp⟩ := Option.ite_none_right_eq_some.mp ha
    obtain rfl := Option.some.inj hp
    exact ⟨rfl, rfl, .inl⟩
  | .holding w, .execute cur q ok =>
    obtain ⟨-, hp⟩ := Option.ite_none_right_eq_some.mp ha
    obtain rfl := Option.some.inj hp
    cases ok <;> exact ⟨rfl, rfl, .inl⟩
  | .holding w, .commit c ok =>
    obtain ⟨-, hp⟩ := Option.ite_none_right_eq_some.mp ha
    obtain rfl := Option.some.inj hp
    exact ⟨rfl, rfl, fun _ => .inr ⟨c, ok, rfl⟩⟩
  | .holding w, .release c ok =>
    obtain ⟨rfl, hp⟩ := Option.ite_none_right_eq_some.mp ha
    obtain rfl := Option.some.inj hp
    exact ⟨rfl, rfl, .inl⟩

/-- All steps of a call. -/
theorem foldlM_lists (ha : ms.foldlM advance p = some p') :
    p.acquired ++ acquired ms = p'.acquired ∧ p.released ++ released ms = p'.released ∧
      (p'.issued = true → p.issued = true ∨ ∃ c ok, .commit c ok ∈ ms) := by
  induction ms generalizing p with
  | nil =>
    obtain rfl := Option.some.inj ha
    exact ⟨List.append_nil _, List.append_nil _, .inl⟩
  | cons m ms ih =>
    rw [List.foldlM_cons] at ha
    obtain ⟨p₁, hm, hms⟩ := Option.bind_eq_some_iff.mp ha
    obtain ⟨hacquired₁, hreleased₁, hissued₁⟩ := advance_lists hm
    obtain ⟨hacquired, hreleased, hissued⟩ := ih hms
    refine ⟨?_, ?_, fun hp' => ?_⟩
    · rw [← hacquired, ← hacquired₁, List.append_assoc]
      exact congrArg _ (List.filterMap_append (l := [m]))
    · rw [← hreleased, ← hreleased₁, List.append_assoc]
      exact congrArg _ (List.filterMap_append (l := [m]))
    · rcases hissued hp' with hp₁ | ⟨c, ok, hmem⟩
      · exact (hissued₁ hp₁).imp_right fun ⟨c, ok, hm⟩ => ⟨c, ok, hm ▸ List.mem_cons_self ..⟩
      · exact .inr ⟨c, ok, List.mem_cons_of_mem _ hmem⟩

variable [DecidableEq ι] {does : ι → List (Step Q) → Bool → Prop}
  {h : List (Event ι (Step Q) Bool)} {s : Pool ι Q}

/-- **All or nothing**: calls that keep to `advance`, and have committed what they write by the time
that they return. -/
theorem allOrNothing_of_advance (writes : ι → Option Q)
    (hdoes : ∀ i ms r, does i ms r → ∃ p, ms.foldlM advance .before = some p ∧ p.Ended ∧
      (r = true → ∀ q ∈ writes i, q ∈ p.done))
    (hu : Underway does h) (hrun : Along Pool.effect .empty h s) (i : ι) :
    AllOrNothing i (writes i) h s := by
  have hphase : ∀ i, ∃ p, (stepsOf i h).foldlM advance .before = some p := by
    intro i
    rcases hu.begins i with hnil | ⟨ms, r, hd, hpre⟩
    · exact ⟨.before, by rw [hnil]; rfl⟩
    · obtain ⟨p, hp, -, -⟩ := hdoes i ms r hd
      obtain ⟨rest, rfl⟩ := hpre
      rw [List.foldlM_append] at hp
      obtain ⟨p₁, hp₁, -⟩ := Option.bind_eq_some_iff.mp hp
      exact ⟨p₁, hp₁⟩
  choose phase hphase using hphase
  have hapart : Apart s phase := Apart.along hrun apart_empty hphase
  obtain ⟨hacquired, hreleased, hissued⟩ := foldlM_lists (hphase i)
  have hleft : ∀ r, .leave i r ∈ h → (phase i).Ended ∧
      (r = true → ∀ q ∈ writes i, q ∈ (phase i).done) := by
    intro r hr
    obtain ⟨ms, hd, hwhole⟩ := hu.whole_of_leave hr
    obtain ⟨p, hp, hended, hdone⟩ := hdoes i ms r hd
    have hsteps : stepsOf i h = ms := by rw [← stepsOf_ofCall, hwhole, stepsOf_whole]
    obtain rfl : phase i = p := Option.some.inj ((hphase i).symm.trans (hsteps ▸ hp))
    exact ⟨hended, hdone⟩
  refine ⟨fun hr hno c hc e he heq => ?_, fun hr q hq => ?_, fun r hr => ?_⟩
  · rcases List.mem_append.mp he with he | he
    · have hcommitted := hapart.committed e he
      rw [heq] at hcommitted
      obtain ⟨c', ok, hcommit⟩ := (hissued hcommitted).resolve_left nofun
      exact hno c' ok (mem_stepsOf.mp hcommit)
    · exact hc (heq ▸ hapart.pending c e he)
  · have hown := hapart.own i
    have hdone := (hleft true hr).2 rfl q hq
    revert hown hdone
    cases phase i with
    | before => exact fun _ hdone => by cases hdone
    | holding w => exact fun hown hdone => hown.done q hdone
    | after w => exact fun hown hdone => hown q hdone
  · have hended := (hleft r hr).1
    rw [Phase.acquired, List.nil_append] at hacquired
    rw [Phase.released, List.nil_append] at hreleased
    rw [hacquired, hreleased]
    revert hended
    cases phase i with
    | before => exact fun _ => ⟨Nat.zero_le 1, rfl⟩
    | holding w => exact fun hended => hended.elim
    | after w => exact fun _ => ⟨Nat.le_refl 1, rfl⟩

end AllOrNothing

end OpenframeAdapters.Store
