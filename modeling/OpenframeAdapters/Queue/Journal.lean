import Mathlib.Data.Nat.Notation
import OpenframeAdapters.Core.Exceptions

/-!
# The journal of a consumer

What the consumers do is compared with what happened to each message. The journal
is the history of one consumer object, newest entry first: which session took
which message, when its handler was called and returned, who settled what, and
who opened and closed which connection. No consumer reads it.

A message is named by the session that took it and by how many messages that
session had taken before it, so two messages with the same content, or one that is
delivered twice, are told apart.
-/

namespace OpenframeAdapters.Queue

open OpenframeAdapters.Core

/-- The name of a message: the session that took it, and its number there. -/
structure MsgId where
  /-- The `subscribe()` call that took the message. -/
  session : ℕ
  /-- How many messages the session had taken before. -/
  seq : ℕ
  deriving DecidableEq

/-- The two ways to settle a message. -/
inductive Verdict where
  /-- `ack`: the message is done with. -/
  | ack
  /-- `nack` or `nak`: the message is to be delivered again. -/
  | nack
  deriving DecidableEq

/-- One thing that happened. `M` is what a message is made of and `V` what the handler
is called with. -/
inductive Entry (M V : Type) where
  /-- Session `i` opened connection (or client) `c`. -/
  | opened (i c : ℕ)
  /-- The loop of a session took a message, while `_running` was as given. -/
  | delivered (m : MsgId) (body : M) (running : Bool)
  /-- The handler was called for a message. -/
  | invoked (m : MsgId) (value : V)
  /-- The handler of a message returned. -/
  | returned (m : MsgId)
  /-- Unpacking a message or its handler raised. -/
  | failed (m : MsgId)
  /-- `ack` or `nack` was called for a message on behalf of session `i`. -/
  | settled (i : ℕ) (v : Verdict) (m : MsgId)
  /-- The `finally` block of session `i` closed connection (or client) `c`. -/
  | closed (i c : ℕ)
  deriving DecidableEq

/-- The history of a consumer, newest first. -/
abbrev Journal (M V : Type) := List (Entry M V)

/-- How a `subscribe()` call ends. -/
inductive Outcome where
  /-- It returns. -/
  | returned
  /-- It raises. The flag says that the cause is a field or a client that some other call
  has reset or stopped in the meantime. -/
  | raised (x : Raised) (stale : Bool)

/-- The call raises something that another call has caused. -/
def Outcome.stale : Outcome → Bool
  | .returned => false
  | .raised _ stale => stale

variable {M V : Type}

/-- The messages taken, newest first. -/
def deliveries : Journal M V → List MsgId
  | [] => []
  | .delivered m _ _ :: j => m :: deliveries j
  | _ :: j => deliveries j

theorem mem_deliveries {m : MsgId} {j : Journal M V} :
    m ∈ deliveries j ↔ ∃ r b, .delivered m r b ∈ j := by
  induction j with
  | nil => simp [deliveries]
  | cons e j ih => cases e <;> simp [deliveries, ih, exists_or]

/-- The messages taken while the consumer was running, newest first. -/
def taken : Journal M V → List MsgId
  | [] => []
  | .delivered m _ true :: j => m :: taken j
  | _ :: j => taken j

/-- The settlement calls, newest first: the message each was for, and the verdict. -/
def settlements : Journal M V → List (MsgId × Verdict)
  | [] => []
  | .settled _ v m :: j => (m, v) :: settlements j
  | _ :: j => settlements j

/-- The handler calls, newest first. -/
def invocations : Journal M V → List (MsgId × V)
  | [] => []
  | .invoked m v :: j => (m, v) :: invocations j
  | _ :: j => invocations j

/-- The messages settlement calls were made for, newest first. -/
def settledIds (j : Journal M V) : List MsgId := (settlements j).map Prod.fst

/-- The names of the first messages of session `i`, newest first. -/
def numbered (i : ℕ) : ℕ → List MsgId
  | 0 => []
  | n + 1 => ⟨i, n⟩ :: numbered i n

section Views

variable (m : MsgId) (j : Journal M V)

@[simp] theorem deliveries_delivered (r : M) (b : Bool) :
    deliveries (.delivered m r b :: j) = m :: deliveries j := rfl

@[simp] theorem deliveries_invoked (v : V) : deliveries (.invoked m v :: j) = deliveries j := rfl

@[simp] theorem deliveries_returned : deliveries (.returned m :: j) = deliveries j := rfl

@[simp] theorem deliveries_failed : deliveries (.failed m :: j) = deliveries j := rfl

@[simp] theorem deliveries_settled (i : ℕ) (v : Verdict) :
    deliveries (.settled i v m :: j) = deliveries j := rfl

@[simp] theorem deliveries_opened (i c : ℕ) : deliveries (.opened i c :: j) = deliveries j := rfl

@[simp] theorem deliveries_closed (i c : ℕ) : deliveries (.closed i c :: j) = deliveries j := rfl

@[simp] theorem settledIds_delivered (r : M) (b : Bool) :
    settledIds (.delivered m r b :: j) = settledIds j := rfl

@[simp] theorem settledIds_invoked (v : V) : settledIds (.invoked m v :: j) = settledIds j := rfl

@[simp] theorem settledIds_returned : settledIds (.returned m :: j) = settledIds j := rfl

@[simp] theorem settledIds_failed : settledIds (.failed m :: j) = settledIds j := rfl

@[simp] theorem settledIds_settled (i : ℕ) (v : Verdict) :
    settledIds (.settled i v m :: j) = m :: settledIds j := rfl

@[simp] theorem settledIds_opened (i c : ℕ) : settledIds (.opened i c :: j) = settledIds j := rfl

@[simp] theorem settledIds_closed (i c : ℕ) : settledIds (.closed i c :: j) = settledIds j := rfl

end Views

end OpenframeAdapters.Queue
