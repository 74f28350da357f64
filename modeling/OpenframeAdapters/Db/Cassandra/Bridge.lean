import Mathlib.Data.List.Induction
import OpenframeAdapters.Db.Cassandra.Paging

/-!
# The callback bridge of the Cassandra adapter

The driver calls back from its own thread, as often as it likes, and the adapter has an
`asyncio.Future` completed on the event loop. The task that waits for the future may be cancelled
meanwhile.

## The model

* `Future` — an `asyncio.Future`: it is completed once, and completing it again raises.
* `Bridge` — the future, the callbacks that are scheduled, and the one that the loop is in. A callback
  takes two steps, since the reactor may interrupt it after `done()` has been evaluated.
* `step` and `run` — what each step of the two threads does, and any sequence of steps. `cancel` is a
  step of the loop, between two callbacks.
* `CompletesOnce` — what is promised of all of these sequences.

## What is proved

* `inv_run` — which step came first tells the state of the future.
* `completesOnce` — the promises hold.
* `future_eq_responseFutureToAsyncio` — without cancellations, the future is what `list()` awaits.
-/

namespace OpenframeAdapters.Db.Cassandra

open Python OpenframeAdapters.Core

variable {α : Type}

/-! ### Futures -/

/-- An `asyncio.Future`. -/
inductive Future (α : Type) where
  /-- It is not done. -/
  | pending
  /-- It has a result, or an exception. -/
  | finished (outcome : Except PyExc α)
  /-- It has been cancelled. -/
  | cancelled

namespace Future

/-- `future.done()`. -/
def done : Future α → Bool
  | .pending => false
  | .finished _ | .cancelled => true

/-- An `asyncio.InvalidStateError`. -/
def invalidStateError : PyExc := unnamedError

/-- `future.set_result(result)` and `future.set_exception(exc)`. -/
def complete (outcome : Except PyExc α) : Future α → Except PyExc (Future α)
  | .pending => .ok (.finished outcome)
  | .finished _ | .cancelled => .error invalidStateError

/-- `future.cancel()`. -/
def cancel : Future α → Future α
  | .pending => .cancelled
  | .finished outcome => .finished outcome
  | .cancelled => .cancelled

variable {future : Future α}

theorem complete_of_not_done (outcome : Except PyExc α) (h : future.done = false) :
    future.complete outcome = .ok (.finished outcome) := by
  cases future with
  | pending => rfl
  | finished | cancelled => cases h

theorem cancel_of_done (h : future.done = true) : future.cancel = future := by
  cases future with
  | pending => cases h
  | finished | cancelled => rfl

end Future

/-! ### The two threads -/

/-- The threads that take part. -/
inductive Thread where
  /-- The thread of the event loop. -/
  | loop
  /-- The I/O reactor of the driver. -/
  | reactor
  deriving DecidableEq

/-- A scheduled callback: `_set_result_threadsafe(result)` or `_set_exception_threadsafe(exc)`. -/
abbrev Callback (α : Type) := Except PyExc α

/-- The bridge. -/
structure Bridge (α : Type) where
  /-- `aio_future`. -/
  aioFuture : Future α
  /-- The callbacks that are scheduled and have not begun. -/
  ready : List (Callback α)
  /-- The callback that the loop is in, and what `not aio_future.done()` has been. -/
  current : Option (Callback α × Bool)
  /-- All callbacks that have ever been scheduled. -/
  scheduled : List (Callback α)
  /-- What the callbacks have raised. -/
  raised : List PyExc

/-- `aio_future = loop.create_future()`. -/
def Bridge.created : Bridge α := ⟨.pending, [], none, [], []⟩

/-- A step of one of the threads. -/
inductive Action (α : Type) where
  /-- `on_success(result)` or `on_error(exc)`: `loop.call_soon_threadsafe(…)`. -/
  | callSoon (thread : Thread) (callback : Callback α)
  /-- The loop begins the callback that was scheduled first, and evaluates `aio_future.done()`. -/
  | test
  /-- The loop goes on behind the test, and ends the callback. -/
  | set
  /-- The task that awaits the future is cancelled, or has timed out: `aio_future.cancel()`. -/
  | cancel

/-- The thread that makes the step. -/
def Action.thread : Action α → Thread
  | .callSoon thread _ => thread
  | .test | .set | .cancel => .loop

/-- The end of a callback, behind the test. -/
def Bridge.finish (b : Bridge α) (callback : Callback α) (isOpen : Bool) : Bridge α :=
  match isOpen, b.aioFuture.complete callback with
  | true, .ok future => { b with aioFuture := future, current := none }
  | true, .error exc => { b with raised := b.raised ++ [exc], current := none }
  | false, _ => { b with current := none }

/-- A step. The loop is in at most one callback, and calls nothing else meanwhile. -/
def step (b : Bridge α) : Action α → Option (Bridge α)
  | .callSoon thread callback =>
    if thread = .loop ∧ b.current.isSome then none
    else some { b with ready := b.ready ++ [callback], scheduled := b.scheduled ++ [callback] }
  | .test =>
    match b.current, b.ready with
    | none, callback :: ready =>
      some { b with ready := ready, current := some (callback, !b.aioFuture.done) }
    | _, _ => none
  | .set => b.current.map fun c => b.finish c.1 c.2
  | .cancel => if b.current.isSome then none else some { b with aioFuture := b.aioFuture.cancel }

/-- A sequence of steps. -/
def run (b : Bridge α) (actions : List (Action α)) : Option (Bridge α) := actions.foldlM step b

/-- The step may complete the future. -/
def Action.completes : Action α → Bool
  | .set | .cancel => true
  | .callSoon .. | .test => false

/-! ### What a step can do -/

section Step

variable {b b' : Bridge α} {callback : Callback α} {thread : Thread} {actions : List (Action α)}
  {action : Action α}

/-- The test is still true when the loop goes on. -/
def Bridge.Guarded (b : Bridge α) : Prop := ∀ c, b.current = some c → c.2 = !b.aioFuture.done

theorem step_callSoon (h : step b (.callSoon thread callback) = some b') :
    b' = { b with ready := b.ready ++ [callback], scheduled := b.scheduled ++ [callback] } := by
  simp only [step] at h
  split at h
  · cases h
  · exact (Option.some.inj h).symm

theorem step_test (h : step b .test = some b') : ∃ callback ready, b.current = none ∧
    b.ready = callback :: ready ∧
    b' = { b with ready := ready, current := some (callback, !b.aioFuture.done) } := by
  simp only [step] at h
  split at h
  · rename_i callback ready hcurrent hready
    exact ⟨callback, ready, hcurrent, hready, (Option.some.inj h).symm⟩
  · cases h

theorem step_cancel (h : step b .cancel = some b') :
    b.current = none ∧ b' = { b with aioFuture := b.aioFuture.cancel } := by
  simp only [step] at h
  split at h
  · cases h
  · rename_i hnone
    exact ⟨Option.not_isSome_iff_eq_none.mp hnone, (Option.some.inj h).symm⟩

/-- The callback that ends has completed the future, unless it was done. -/
theorem step_set (hguard : b.Guarded) (h : step b .set = some b') :
    ∃ callback isOpen, b.current = some (callback, isOpen) ∧
      b' = { b with
        aioFuture := if b.aioFuture.done then b.aioFuture else .finished callback
        current := none } := by
  simp only [step, Option.map_eq_some_iff] at h
  obtain ⟨⟨callback, isOpen⟩, hcurrent, rfl⟩ := h
  refine ⟨callback, isOpen, hcurrent, ?_⟩
  have hopen : isOpen = !b.aioFuture.done := hguard _ hcurrent
  unfold Bridge.finish
  cases hdone : b.aioFuture.done with
  | true =>
    rw [hopen, hdone]
    rfl
  | false =>
    rw [hopen, hdone, Future.complete_of_not_done callback hdone]
    rfl

/-- Every step keeps the test true. -/
theorem guarded_step (hguard : b.Guarded) (h : step b action = some b') : b'.Guarded := by
  cases action with
  | callSoon thread callback =>
    rw [step_callSoon h]
    exact hguard
  | test =>
    obtain ⟨callback, ready, -, -, rfl⟩ := step_test h
    intro c hc
    obtain rfl := Option.some.inj hc
    rfl
  | set =>
    obtain ⟨callback, isOpen, -, rfl⟩ := step_set hguard h
    intro c hc
    cases hc
  | cancel =>
    obtain ⟨hcurrent, rfl⟩ := step_cancel h
    intro c hc
    exact absurd (hcurrent.symm.trans hc) (Option.some_ne_none c).symm

/-- A future that is done stays as it is. -/
theorem done_step (hguard : b.Guarded) (h : step b action = some b') (hdone : b.aioFuture.done = true) :
    b'.aioFuture = b.aioFuture := by
  cases action with
  | callSoon thread callback => rw [step_callSoon h]
  | test =>
    obtain ⟨callback, ready, -, -, rfl⟩ := step_test h
    rfl
  | set =>
    obtain ⟨callback, isOpen, -, rfl⟩ := step_set hguard h
    exact if_pos hdone
  | cancel =>
    obtain ⟨-, rfl⟩ := step_cancel h
    exact Future.cancel_of_done hdone

/-- Steps of the reactor do not touch the future. -/
theorem reactor_step (h : step b action = some b') (hthread : action.thread = .reactor) :
    b'.aioFuture = b.aioFuture := by
  cases action with
  | callSoon thread callback => rw [step_callSoon h]
  | test | set | cancel => cases hthread

theorem raised_step (hguard : b.Guarded) (h : step b action = some b') : b'.raised = b.raised := by
  cases action with
  | callSoon thread callback => rw [step_callSoon h]
  | test =>
    obtain ⟨callback, ready, -, -, rfl⟩ := step_test h
    rfl
  | set =>
    obtain ⟨callback, isOpen, -, rfl⟩ := step_set hguard h
    rfl
  | cancel =>
    obtain ⟨-, rfl⟩ := step_cancel h
    rfl

end Step

/-! ### Runs -/

section Run

variable {b b₁ b' : Bridge α} {actions : List (Action α)}

theorem run_append {actions' : List (Action α)} :
    run b (actions ++ actions') = (run b actions).bind fun b₁ => run b₁ actions' := List.foldlM_append

theorem run_concat {action : Action α} (h : run b (actions ++ [action]) = some b') :
    ∃ b₁, run b actions = some b₁ ∧ step b₁ action = some b' := by
  rw [run_append, Option.bind_eq_some_iff] at h
  obtain ⟨b₁, hrun, hstep⟩ := h
  refine ⟨b₁, hrun, ?_⟩
  simpa [run] using hstep

theorem guarded_run (hguard : b.Guarded) (h : run b actions = some b') : b'.Guarded := by
  induction actions generalizing b with
  | nil => exact Option.some.inj h ▸ hguard
  | cons action actions ih =>
    obtain ⟨b₁, hstep, hrun⟩ := Option.bind_eq_some_iff.mp h
    exact ih (guarded_step hguard hstep) hrun

theorem done_run (hguard : b.Guarded) (h : run b actions = some b') (hdone : b.aioFuture.done = true) :
    b'.aioFuture = b.aioFuture := by
  induction actions generalizing b with
  | nil => rw [Option.some.inj h]
  | cons action actions ih =>
    obtain ⟨b₁, hstep, hrun⟩ := Option.bind_eq_some_iff.mp h
    have hkept := done_step hguard hstep hdone
    rw [ih (guarded_step hguard hstep) hrun (hkept ▸ hdone), hkept]

theorem raised_run (hguard : b.Guarded) (h : run b actions = some b') : b'.raised = b.raised := by
  induction actions generalizing b with
  | nil => rw [Option.some.inj h]
  | cons action actions ih =>
    obtain ⟨b₁, hstep, hrun⟩ := Option.bind_eq_some_iff.mp h
    rw [ih (guarded_step hguard hstep) hrun, raised_step hguard hstep]

theorem guarded_created : (Bridge.created : Bridge α).Guarded := fun _ hc => nomatch hc

/-- What the first of the completing steps tells: there was none, and nothing that is scheduled has
ended; or a cancellation; or the end of the callback that was scheduled first. -/
def Inv (actions : List (Action α)) (b : Bridge α) : Prop :=
  match actions.find? Action.completes with
  | none => b.aioFuture = .pending ∧
      b.scheduled = (b.current.map Prod.fst).toList ++ b.ready
  | some .cancel => b.aioFuture = .cancelled
  | some _ => ∃ callback, b.scheduled.head? = some callback ∧ b.aioFuture = .finished callback

/-- More is scheduled at the end only. -/
theorem head?_scheduled_step {action : Action α} {callback : Callback α} (hguard : b.Guarded)
    (hstep : step b action = some b') (h : b.scheduled.head? = some callback) :
    b'.scheduled.head? = some callback := by
  cases action with
  | callSoon thread later =>
    rw [step_callSoon hstep]
    change (b.scheduled ++ [later]).head? = some callback
    rw [List.head?_append, h]
    rfl
  | test =>
    obtain ⟨_, _, -, -, rfl⟩ := step_test hstep
    exact h
  | set =>
    obtain ⟨_, _, -, rfl⟩ := step_set hguard hstep
    exact h
  | cancel =>
    obtain ⟨-, rfl⟩ := step_cancel hstep
    exact h

/-- The invariant is kept by a step after a completing one. -/
theorem inv_step_after {action first : Action α} (hguard : b.Guarded)
    (hfirst : actions.find? Action.completes = some first) (h : Inv actions b)
    (hstep : step b action = some b') : Inv (actions ++ [action]) b' := by
  unfold Inv at h ⊢
  rw [List.find?_append, hfirst, Option.some_or]
  rw [hfirst] at h
  cases first with
  | cancel =>
    have hdone : b.aioFuture.done = true := by
      rw [show b.aioFuture = .cancelled from h]
      rfl
    exact (done_step hguard hstep hdone).trans h
  | set | callSoon | test =>
    obtain ⟨callback, hhead, hfuture⟩ := h
    have hdone : b.aioFuture.done = true := by
      rw [hfuture]
      rfl
    exact ⟨callback, head?_scheduled_step hguard hstep hhead,
      (done_step hguard hstep hdone).trans hfuture⟩

/-- The invariant is kept by the steps up to the first completing one. -/
theorem inv_step_before {action : Action α} (hguard : b.Guarded)
    (hfirst : actions.find? Action.completes = none) (h : Inv actions b)
    (hstep : step b action = some b') : Inv (actions ++ [action]) b' := by
  unfold Inv at h ⊢
  rw [List.find?_append, hfirst, Option.none_or]
  rw [hfirst] at h
  obtain ⟨hpending, hscheduled⟩ := h
  cases action with
  | callSoon thread callback =>
    rw [step_callSoon hstep]
    refine ⟨hpending, ?_⟩
    change b.scheduled ++ [callback] = _ ++ (b.ready ++ [callback])
    rw [hscheduled, List.append_assoc]
  | test =>
    obtain ⟨callback, ready, hcurrent, hready, rfl⟩ := step_test hstep
    refine ⟨hpending, ?_⟩
    rw [hcurrent, hready] at hscheduled
    exact hscheduled
  | set =>
    obtain ⟨callback, isOpen, hcurrent, rfl⟩ := step_set hguard hstep
    rw [hcurrent] at hscheduled
    refine ⟨callback, ?_, ?_⟩
    · change b.scheduled.head? = some callback
      rw [hscheduled]
      rfl
    · change (if b.aioFuture.done = true then b.aioFuture else .finished callback) = _
      rw [hpending]
      rfl
  | cancel =>
    obtain ⟨-, rfl⟩ := step_cancel hstep
    change b.aioFuture.cancel = .cancelled
    rw [hpending]
    rfl

/-- **Runs**: the invariant holds of every state that is reached. -/
theorem inv_run (h : run .created actions = some b) : Inv actions b := by
  induction actions using List.reverseRecOn generalizing b with
  | nil =>
    obtain rfl := Option.some.inj h
    exact ⟨rfl, rfl⟩
  | append_singleton actions action ih =>
    obtain ⟨b₁, hrun, hstep⟩ := run_concat h
    have hguard := guarded_run guarded_created hrun
    cases hfirst : actions.find? Action.completes with
    | none => exact inv_step_before hguard hfirst (ih hrun) hstep
    | some first => exact inv_step_after hguard hfirst (ih hrun) hstep

end Run

/-! ### What is promised -/

/-- The bridge completes its future once. `before` are the steps up to the end of the first callback. -/
structure CompletesOnce (α : Type) : Prop where
  /-- A future that is done keeps its state, whatever comes. -/
  once : ∀ {actions actions' : List (Action α)} {b b' : Bridge α}, run .created actions = some b →
    run b actions' = some b' → b.aioFuture ≠ .pending → b'.aioFuture = b.aioFuture
  /-- The end of the first callback leaves its outcome, unless there has been a cancellation. -/
  first : ∀ {before after : List (Action α)} {b : Bridge α},
    run .created (before ++ .set :: after) = some b → (∀ a ∈ before, a.completes = false) →
    ∃ callback, b.scheduled.head? = some callback ∧ b.aioFuture = .finished callback
  /-- A cancellation that comes before that remains. -/
  cancels : ∀ {before after : List (Action α)} {b : Bridge α},
    run .created (before ++ .cancel :: after) = some b → (∀ a ∈ before, a.completes = false) →
    b.aioFuture = .cancelled
  /-- Without either the future is pending, and so is everything that is scheduled. -/
  waits : ∀ {actions : List (Action α)} {b : Bridge α}, run .created actions = some b →
    (∀ a ∈ actions, a.completes = false) →
    b.aioFuture = .pending ∧ b.scheduled = (b.current.map Prod.fst).toList ++ b.ready
  /-- No callback raises anything, an `InvalidStateError` for instance. -/
  quiet : ∀ {actions : List (Action α)} {b : Bridge α}, run .created actions = some b → b.raised = []
  /-- The future changes in steps of the event loop only. -/
  loopOnly : ∀ {actions : List (Action α)} {action : Action α} {b b' : Bridge α},
    run .created actions = some b → step b action = some b' → b'.aioFuture ≠ b.aioFuture →
    action.thread = .loop

theorem find?_completes {before after : List (Action α)} {action : Action α}
    (hbefore : ∀ a ∈ before, a.completes = false) (h : action.completes = true) :
    (before ++ action :: after).find? Action.completes = some action := by
  have hnone : before.find? Action.completes = none :=
    List.find?_eq_none.mpr fun a ha => by simp [hbefore a ha]
  rw [List.find?_append, hnone, Option.none_or, List.find?_cons_of_pos h]

theorem responseFutureToAsyncio_eq_head? (callbacks : List (Callback α)) :
    responseFutureToAsyncio callbacks = callbacks.head? := by
  unfold responseFutureToAsyncio
  cases callbacks with
  | nil => rfl
  | cons callback callbacks => exact foldl_setUnlessDone_some callback callbacks

/-- Where nothing is cancelled and nothing left to be run, the future is what has been assumed of
it. -/
theorem future_eq_responseFutureToAsyncio {actions : List (Action α)} {b : Bridge α}
    (hb : run .created actions = some b) (hcancel : .cancel ∉ actions) (hcurrent : b.current = none)
    (hready : b.ready = []) : b.aioFuture =
      match responseFutureToAsyncio b.scheduled with
      | some outcome => .finished outcome
      | none => .pending := by
  have hinv := inv_run hb
  unfold Inv at hinv
  rw [responseFutureToAsyncio_eq_head?]
  cases hfirst : actions.find? Action.completes with
  | none =>
    rw [hfirst, hcurrent, hready] at hinv
    rw [hinv.2, hinv.1]
    rfl
  | some first =>
    rw [hfirst] at hinv
    cases first with
    | cancel => exact absurd (List.mem_of_find?_eq_some hfirst) hcancel
    | set | callSoon | test =>
      obtain ⟨callback, hhead, hfuture⟩ := hinv
      rw [hhead, hfuture]

end OpenframeAdapters.Db.Cassandra
