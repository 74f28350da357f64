import OpenframeAdapters.Queue.Batches
import OpenframeAdapters.Queue.Broker
import OpenframeAdapters.Queue.Rabbitmq.Sessions
import OpenframeAdapters.Queue.TraceContext

/-!
# Delivery

What arrives at a handler when `NatsProducer` and `NatsConsumer`, or `RabbitmqProducer` and
`RabbitmqConsumer`, work through a broker.

## The model

* `Records` — what one step of a consumer writes in its journal: it takes a message under the next
  name, it calls the handler of the message it has just taken, or the handler it awaits returns.
* `Clerk` — a consumer that writes nothing else.
* `Delivers` — what should hold of a broker that such objects share.

## What is proved

* `Clerk.ledger` — the journal of a clerk is a `Ledger`, in every interleaving of its sessions.
* `nats_delivers`, `rabbitmq_delivers` — a message that a broker has received an ack for was published
  by a call of a producer; a handler has been called with it in the context of this call, once for each
  offer, and has returned; handlers are called with nothing else; and what was acknowledged to a producer
  is stored in order. For RabbitMQ the sessions of one consumer do not overlap.
-/

namespace OpenframeAdapters.Queue

open Python OpenframeAdapters.Core

variable {M V H Ctx R Val σ π ε σ' π' ε' : Type}

/-! ### What a session writes -/

/-- The entry is neither about taking a message nor about calling a handler. -/
def Entry.note : Entry R Val → Prop
  | .delivered .. | .invoked .. | .returned _ => False
  | _ => True

/-- Where a session stands: how many messages it has taken, while it may take more, and the message
whose handler it awaits. -/
structure Desk where
  /-- The messages taken. -/
  count : Option ℕ
  /-- The message whose handler runs. -/
  inHand : Option MsgId

/-- What a step of session `i` writes. -/
inductive Records (unpack : R → Option Val) (i : ℕ) (j : Journal R Val) :
    Desk → Journal R Val → Desk → Prop
  /-- Nothing of the kind. -/
  | notes {n n' hand} (new : Journal R Val) : (∀ x ∈ new, x.note) → n' = n ∨ n' = none →
    Records unpack i j ⟨n, hand⟩ (new ++ j) ⟨n', none⟩
  /-- It takes a message, and does not call the handler. -/
  | takes {n n'} (new : Journal R Val) (r : R) (b : Bool) : (∀ x ∈ new, x.note) →
    n' = some (n + 1) ∨ n' = none →
    Records unpack i j ⟨some n, none⟩ (new ++ .delivered ⟨i, n⟩ r b :: j) ⟨n', none⟩
  /-- It takes a message, and calls the handler. -/
  | invokes {n} {r : R} {value : Val} : unpack r = some value →
    Records unpack i j ⟨some n, none⟩ (.invoked ⟨i, n⟩ value :: .delivered ⟨i, n⟩ r true :: j)
      ⟨some (n + 1), some ⟨i, n⟩⟩
  /-- The handler returns. -/
  | returns {n m} (new : Journal R Val) : (∀ x ∈ new, x.note) →
    Records unpack i j ⟨n, some m⟩ (new ++ .returned m :: j) ⟨n, none⟩

/-- The journal knows of what a session has taken, and of the handler it awaits. -/
structure Account (i : ℕ) (j : Journal R Val) (d : Desk) : Prop where
  /-- Its next message has a new name. -/
  fresh : ∀ n ∈ d.count, ∀ m r b, .delivered m r b ∈ j → m.session = i → m.seq < n
  /-- The handler it awaits has been called. -/
  inHand : ∀ m ∈ d.inHand, ∃ value, .invoked m value ∈ j

section Records

variable {unpack : R → Option Val} {i : ℕ} {j j' : Journal R Val} {d d' : Desk}

theorem mem_of_notes {new : Journal R Val} {x : Entry R Val} (h : ∀ x ∈ new, x.note)
    (hm : x ∈ new ++ j) (hx : ¬ x.note) : x ∈ j :=
  (List.mem_append.mp hm).resolve_left fun hmem => hx (h x hmem)

theorem Ledger.notes (hj : Ledger unpack j) {new : Journal R Val} (h : ∀ x ∈ new, x.note) :
    Ledger unpack (new ++ j) := by
  induction new with
  | nil => exact hj
  | cons x new ih =>
    have hx := h x List.mem_cons_self
    refine (ih fun y hy => h y (.tail _ hy)).note ?_ ?_ ?_
    · rintro m r b rfl
      exact hx
    · rintro m value rfl
      exact hx
    · rintro m rfl
      exact hx

/-- A journal only gets longer. -/
theorem Records.suffix (h : Records unpack i j d j' d') : j <:+ j' := by
  cases h with
  | notes => exact List.suffix_append ..
  | takes => exact (List.suffix_cons ..).trans (List.suffix_append ..)
  | invokes => exact (List.suffix_cons ..).trans (List.suffix_cons ..)
  | returns => exact (List.suffix_cons ..).trans (List.suffix_append ..)

/-- A session takes messages under its own names. -/
theorem Records.mine (h : Records unpack i j d j' d') {m : MsgId} {r : R} {b : Bool}
    (hm : .delivered m r b ∈ j') (hi : m.session ≠ i) : .delivered m r b ∈ j := by
  cases h with
  | notes _ hnew => exact mem_of_notes hnew hm not_false
  | takes _ _ _ hnew =>
    rcases List.mem_cons.mp (mem_of_notes hnew hm not_false) with hm | hm
    · cases hm
      exact absurd rfl hi
    · exact hm
  | invokes =>
    simp only [List.mem_cons, reduceCtorEq, false_or, Entry.delivered.injEq] at hm
    rcases hm with ⟨rfl, -, -⟩ | hm
    · exact absurd rfl hi
    · exact hm
  | returns _ hnew => simpa using mem_of_notes hnew hm not_false

/-- **The ledger** is kept by a session whose account is true. -/
theorem Records.ledger (h : Records unpack i j d j' d') (hj : Ledger unpack j) (ha : Account i j d) :
    Ledger unpack j' := by
  have hnew {n : ℕ} (hn : n ∈ d.count) (r : R) (b : Bool) : .delivered ⟨i, n⟩ r b ∉ j := fun hm =>
    Nat.lt_irrefl _ (ha.fresh n hn _ r b hm rfl)
  cases h with
  | notes _ hnotes => exact hj.notes hnotes
  | takes _ r b hnotes => exact (hj.deliver (hnew rfl) r b).notes hnotes
  | @invokes n r value hunpack => exact (hj.deliver (hnew rfl) r true).invoke List.mem_cons_self hunpack
  | returns _ hnotes =>
    obtain ⟨value, hinv⟩ := ha.inHand _ rfl
    exact (hj.return hinv).notes hnotes

/-- The account of the session stays true. -/
theorem Records.account (h : Records unpack i j d j' d') (ha : Account i j d) : Account i j' d' := by
  cases h with
  | @notes n n' hand new hnotes hn =>
    refine ⟨fun k hk m r b hm hi => ?_, nofun⟩
    have hm := mem_of_notes hnotes hm not_false
    rcases hn with rfl | rfl
    · exact ha.fresh k hk m r b hm hi
    · cases hk
  | @takes n n' new r b hnotes hn =>
    refine ⟨fun k hk m r' b' hm hi => ?_, nofun⟩
    rcases hn with rfl | rfl
    · cases hk
      rcases List.mem_cons.mp (mem_of_notes hnotes hm not_false) with hm | hm
      · cases hm
        exact Nat.lt_succ_self _
      · exact Nat.lt_succ_of_lt (ha.fresh n rfl m r' b' hm hi)
    · cases hk
  | @invokes n r value hunpack =>
    constructor
    · rintro _ ⟨⟩ m r' b' hm hi
      simp only [List.mem_cons, reduceCtorEq, false_or, Entry.delivered.injEq] at hm
      rcases hm with ⟨rfl, -, -⟩ | hm
      · exact Nat.lt_succ_self _
      · exact Nat.lt_succ_of_lt (ha.fresh n rfl m r' b' hm hi)
    · rintro _ ⟨⟩
      exact ⟨value, List.mem_cons_self⟩
  | @returns n m new hnotes =>
    refine ⟨fun k hk m' r b hm hi => ?_, nofun⟩
    exact ha.fresh k hk m' r b (by simpa using mem_of_notes hnotes hm not_false) hi

/-- What another session writes does not disturb an account. -/
theorem Account.other (ha : Account i j d) {k : ℕ} (hk : i ≠ k) {e e' : Desk}
    (h : Records unpack k j e j' e') : Account i j' d where
  fresh n hn m r b hm hi := ha.fresh n hn m r b (h.mine hm (hi.trans_ne hk)) hi
  inHand m hm := by
    obtain ⟨value, hinv⟩ := ha.inHand m hm
    exact ⟨value, h.suffix.subset hinv⟩

/-- The journal is a ledger, and the accounts of all sessions are true. -/
structure Kept (unpack : R → Option Val) (j : Journal R Val) (desk : ℕ → Desk) : Prop where
  /-- The journal is a ledger. -/
  ledger : Ledger unpack j
  /-- The accounts are true. -/
  account : ∀ i, Account i j (desk i)

/-- Nothing has been written, and no handler runs. -/
theorem kept_nil {desk : ℕ → Desk} (h : ∀ i, (desk i).inHand = none) : Kept unpack [] desk := by
  refine ⟨.nil, fun i => ⟨nofun, fun m hm => ?_⟩⟩
  rw [h i] at hm
  cases hm

/-- A session takes a step. -/
theorem Kept.step {desk : ℕ → Desk} (h : Kept unpack j desk)
    (hs : Records unpack i j (desk i) j' d') : Kept unpack j' (Function.update desk i d') := by
  refine ⟨hs.ledger h.ledger (h.account i), fun k => ?_⟩
  by_cases hk : k = i
  · subst hk
    simpa using hs.account (h.account k)
  · rw [Function.update_of_ne hk]
    exact (h.account k).other hk hs

end Records

/-- A consumer whose sessions write what `Records` allows. -/
structure Clerk (unpack : R → Option Val) (σ π ε : Type) where
  /-- The code. -/
  resume : Resume σ π ε
  /-- What is assumed of its callers. -/
  ok : Guard σ π ε
  /-- It has just been made. -/
  init : Loop σ π
  /-- What has happened. -/
  journal : σ → Journal R Val
  /-- Where a session stands. -/
  desk : π → Desk
  nothing : journal init.shared = []
  idles : ∀ i, (desk (init.task i)).inHand = none
  records : ∀ {i s p ev r}, resume i s p ev = some r →
    Records unpack i (journal s) (desk p) (journal r.1) (desk r.2)
  acked : ∀ {l}, Reach resume ok init l → ∀ i m, .settled i .ack m ∈ journal l.shared →
    .returned m ∈ journal l.shared

section Clerk

variable {unpack : R → Option Val} (K : Clerk unpack σ π ε) {l : Loop σ π}

/-- **In every interleaving** of the sessions, the journal is a ledger. -/
theorem Clerk.ledger (h : Reach K.resume K.ok K.init l) : Ledger unpack (K.journal l.shared) := by
  suffices hall : Kept unpack (K.journal l.shared) fun i => K.desk (l.task i) from hall.ledger
  refine h.invariant (I := fun l => Kept unpack (K.journal l.shared) fun i => K.desk (l.task i)) ?_ ?_
  · rw [K.nothing]
    exact kept_nil K.idles
  · rintro l i e s p - hkept - hp
    have hdesks : (fun k => K.desk (Function.update l.task i p k)) =
        Function.update (fun k => K.desk (l.task k)) i (K.desk p) := by
      funext k
      exact Function.apply_update (fun _ => K.desk) l.task i p k
    dsimp only
    rw [hdesks]
    exact hkept.step (K.records hp)

/-- A clerk, as the broker sees it. -/
def Clerk.receiving : Receiving unpack σ π ε where
  resume := K.resume
  ok := K.ok
  init := K.init
  journal := K.journal
  nothing := K.nothing
  grows hr := (K.records hr).suffix
  ledger := K.ledger
  acked := K.acked

end Clerk

/-! ### Sessions that come to their end -/

/-- A session that takes no more messages: it opens and closes connections. -/
def RunsOut (j j' : Journal R Val) (d' : Desk) : Prop :=
  ∃ new, j' = new ++ j ∧ (∀ x ∈ new, ∃ i c, x = .opened i c ∨ x = .closed i c) ∧ d' = ⟨none, none⟩

section RunsOut

variable {unpack : R → Option Val} {i : ℕ} {j j' : Journal R Val} {d d' : Desk}

theorem runsOut_same : RunsOut j j ⟨none, none⟩ := ⟨[], rfl, nofun, rfl⟩

theorem runsOut_closed (k c : ℕ) : RunsOut j (.closed k c :: j) ⟨none, none⟩ :=
  ⟨[.closed k c], rfl, fun _ hx => ⟨k, c, .inr (List.mem_singleton.mp hx)⟩, rfl⟩

/-- A session comes to its end right after it has opened a connection. -/
theorem RunsOut.opened {k c : ℕ} (h : RunsOut (.opened k c :: j) j' d') : RunsOut j j' d' := by
  obtain ⟨new, rfl, hnew, hd⟩ := h
  refine ⟨new ++ [.opened k c], by simp, fun x hx => ?_, hd⟩
  rcases List.mem_append.mp hx with hx | hx
  · exact hnew x hx
  · exact ⟨k, c, .inl (List.mem_singleton.mp hx)⟩

theorem note_of_connection {new : Journal R Val}
    (h : ∀ x ∈ new, ∃ i c, x = .opened i c ∨ x = .closed i c) : ∀ x ∈ new, x.note := by
  intro x hx
  obtain ⟨i, c, rfl | rfl⟩ := h x hx
  · trivial
  · trivial

theorem RunsOut.records (h : RunsOut j j' d') : Records unpack i j d j' d' := by
  obtain ⟨new, rfl, hnew, rfl⟩ := h
  exact .notes _ (note_of_connection hnew) (.inr rfl)

/-- A session takes a message and comes to its end. -/
theorem RunsOut.takes {n : ℕ} {r : R} {b : Bool} (h : RunsOut (.delivered ⟨i, n⟩ r b :: j) j' d') :
    Records unpack i j ⟨some n, none⟩ j' d' := by
  obtain ⟨new, rfl, hnew, rfl⟩ := h
  exact .takes _ r b (note_of_connection hnew) (.inr rfl)

/-- Nothing is acked. -/
theorem RunsOut.acked (h : RunsOut j j' d') (hj : ∀ i m, .settled i .ack m ∈ j → .returned m ∈ j) :
    ∀ i m, .settled i .ack m ∈ j' → .returned m ∈ j' := by
  obtain ⟨new, rfl, hnew, rfl⟩ := h
  intro i m hm
  rcases List.mem_append.mp hm with hm | hm
  · obtain ⟨k, c, heq | heq⟩ := hnew _ hm
    · cases heq
    · cases heq
  · exact List.mem_append_right _ (hj i m hm)

/-- The session goes on. -/
theorem records_same {n : Option ℕ} {hand : Option MsgId} :
    Records unpack i j ⟨n, hand⟩ j ⟨n, none⟩ :=
  .notes [] nofun (.inl rfl)

end RunsOut

/-! ### What arrives -/

section Delivers

variable {Ctx' : Type} {cd : Serialiser M V H Ctx} {unpack : R → Option (M × Ctx')}
  {B : Sender cd σ π ε} {C : Receiving unpack σ' π' ε'} {wire : V × H → R} {remote : Ctx → Ctx'}
  {w : Situation M Ctx V H σ π σ' π'}

/-- Messages arrive, each in the context it was published in, as seen from afar. -/
structure Delivers (B : Sender cd σ π ε) (C : Receiving unpack σ' π' ε') (remote : Ctx → Ctx')
    (w : Situation M Ctx V H σ π σ' π') : Prop where
  /-- What has been acknowledged to a producer is stored, in order and each time. -/
  stored : ∀ k, (B.acked (w.producers k).shared).reverse.Sublist
    ((w.stored.filter (·.1 = k)).map Prod.snd)
  /-- What is stored has been published by the call that it names. -/
  made : ∀ x ∈ w.stored, ∃ c message, Published cd w.published x.1 x.2.1 x.2.2 c message
  /-- A consumer takes each offer under a name of its own. -/
  once : ∀ k m n n', (k, m, n) ∈ w.offered → (k, m, n') ∈ w.offered → n = n'
  /-- What is acked has been offered to a consumer, which has called its handler for this offer with
  what was published, and the handler has returned. -/
  handled : ∀ n ∈ w.gone, ∃ x c message, w.stored[n]? = some x ∧
    Published cd w.published x.1 x.2.1 x.2.2 c message ∧ ∃ k m, (k, m, n) ∈ w.offered ∧
      .invoked m (message, remote c.ctx) ∈ C.journal (w.consumers k).shared ∧
      .returned m ∈ C.journal (w.consumers k).shared
  /-- Handlers are called with what was published, is stored and has been offered. -/
  authentic : ∀ k m value, .invoked m value ∈ C.journal (w.consumers k).shared →
    ∃ n x c message, (k, m, n) ∈ w.offered ∧ w.stored[n]? = some x ∧
      Published cd w.published x.1 x.2.1 x.2.2 c message ∧ value = (message, remote c.ctx)

/-- **Messages arrive** when the consumer unpacks what the producer makes. -/
theorem delivers_of_reached
    (hround : ∀ ctx message sent, cd.Makes ctx message sent →
      unpack (wire sent) = some (message, remote ctx)) (h : Reached B C wire w) :
    Delivers B C remote w := by
  have hall := (books_of_reached h).atLeastOnce
  refine ⟨hall.stored, hall.made, hall.once, fun n hn => ?_, fun k m value hinvoked => ?_⟩
  · obtain ⟨x, hx, k, m, value, hoffered, hinvoked, hreturned, hunpack⟩ := hall.handled n hn
    obtain ⟨c, message, hpublished⟩ := hall.made x (List.mem_of_getElem? hx)
    obtain rfl := Option.some.inj ((hround c.ctx message x.2.2 hpublished.2.2).symm.trans hunpack)
    exact ⟨x, c, message, hx, hpublished, k, m, hoffered, hinvoked, hreturned⟩
  · obtain ⟨n, x, hoffered, hx, hunpack⟩ := hall.authentic k m value hinvoked
    obtain ⟨c, message, hpublished⟩ := hall.made x (List.mem_of_getElem? hx)
    have hvalue := Option.some.inj (hunpack.symm.trans (hround c.ctx message x.2.2 hpublished.2.2))
    exact ⟨n, x, c, message, hoffered, hx, hpublished, hvalue⟩

end Delivers

/-- Messages are sent as they are, and a context is one header. -/
def traced : Serialiser String String (Dict String String) String :=
  ⟨.ok, fun ctx => .ofPairs [("traceparent", ctx)]⟩

/-- The header is where a context is read from. -/
theorem traced_extract (ctx : String) :
    (traced.injectTraceHeaders ctx).get? "traceparent" = some ctx := by
  simp [traced, Dict.ofPairs]

/-! ### NATS -/

namespace NatsProducer

variable (cd : Serialiser M V H Ctx)

theorem sending_of_progress {s : Shared V H} {x : Progress M V H Ctx} {q : Sending M V H Ctx}
    (h : (progress s x).2 = .sending q) : x = .inl q := by
  cases x <;> cases h
  rfl

theorem startFailed_ne_sending (s : Shared V H) (exc : PyExc) (q : Sending M V H Ctx) :
    (startFailed s exc).2 ≠ .sending q := by
  unfold startFailed
  split <;> exact nofun

/-- What the call publishes. -/
def publication : Ev M Ctx → Option (Publication M Ctx)
  | .publish ctx message => some ⟨ctx, [message]⟩
  | .publishBatch ctx messages => some ⟨ctx, messages⟩
  | _ => none

/-- What is sent is made of a message of the call, in its context. -/
theorem made_of_resume {i : ℕ} {s : Shared V H} {p : Task M V H Ctx} {ev : Ev M Ctx}
    {r : Shared V H × Task M V H Ctx} {q : Sending M V H Ctx} (h : resume cd i s p ev = some r)
    (hq : r.2 = .sending q) :
    (∃ c, publication ev = some c ∧ q.Made cd c) ∨
      ∃ p', p = .sending p' ∧ ∀ c, p'.Made cd c → q.Made cd c := by
  revert h
  fun_cases resume cd i s p ev <;> rintro ⟨⟩
  case case2 jetstream =>
    cases jetstream with
    | none => cases hq
    | some exc => exact absurd hq (startFailed_ne_sending _ _ _)
  case case3 => exact absurd hq (startFailed_ne_sending _ _ _)
  case case6 => exact absurd hq (startFailed_ne_sending _ _ _)
  case case7 => exact .inl ⟨_, rfl, made_publish (sending_of_progress hq)⟩
  case case8 => exact .inl ⟨_, rfl, made_publishBatch (sending_of_progress hq)⟩
  case case9 => exact .inr ⟨_, rfl, fun _ => made_sent (sending_of_progress hq)⟩
  case case11 =>
    unfold close at hq
    split at hq <;> cases hq
  all_goals cases hq

/-- `NatsProducer`, with any calls. -/
def sender : Sender cd (Shared V H) (Task M V H Ctx) (Ev M Ctx) where
  toBatching := batching cd
  init := notStarted 0 fun _ => false
  nothing := rfl
  idles _ := rfl
  rests _ := nofun
  publication := publication
  makes h := made_of_resume cd h
  acknowledges h := by
    obtain hquiet | ⟨q, rfl, rfl, rfl⟩ := quiet_or_sending cd h
    · exact .inl hquiet.1
    · refine .inr ⟨q, rfl, ?_⟩
      rw [progress_eq]
      exact acked_acknowledge ..

end NatsProducer

namespace Nats

variable {B T Ctx : Type} {cd : Codec B T Ctx} {i : ℕ} {s : Shared B T Ctx} {p : Task Ctx}
  {e : Ev B Ctx} {r : Shared B T Ctx × Task Ctx} {l : Loop (Shared B T Ctx) (Task Ctx)}

/-- Where a session stands. -/
def Task.desk {Ctx : Type} : Task Ctx → Desk
  | .idle | .connecting _ | .ensuring .. | .subscribing .. => ⟨some 0, none⟩
  | .polling v | .acking v | .naking v => ⟨some v.count, none⟩
  | .handling v m _ => ⟨some v.count, some m⟩
  | _ => ⟨none, none⟩

theorem runsOut_startFailed (x : PyExc) (stale : Bool) :
    RunsOut s.journal (startFailed s x stale).1.journal (startFailed s x stale).2.desk := by
  unfold startFailed
  split_ifs <;> exact runsOut_same

theorem runsOut_disconnect (res : Outcome) :
    RunsOut s.journal (disconnect i s res).1.journal (disconnect i s res).2.desk := by
  unfold disconnect
  split
  · exact runsOut_closed _ _
  · exact runsOut_same

theorem runsOut_teardown (res : Outcome) :
    RunsOut s.journal (teardown i s res).1.journal (teardown i s res).2.desk := by
  unfold teardown
  split
  · exact runsOut_same
  · exact runsOut_disconnect res

theorem runsOut_closeDisconnect :
    RunsOut s.journal (closeDisconnect s).1.journal (closeDisconnect s).2.desk := by
  unfold closeDisconnect
  split <;> exact runsOut_same

theorem runsOut_close : RunsOut s.journal (close s).1.journal (close s).2.desk := by
  unfold close
  dsimp only
  split
  · exact runsOut_same
  · exact runsOut_closeDisconnect (s := { s with running := false })

theorem records_takeMessage {v : Locals Ctx} (msg : Msg B) :
    Records cd.unpack i s.journal ⟨some v.count, none⟩ (takeMessage cd i s v msg).1.journal
      (takeMessage cd i s v msg).2.desk := by
  unfold takeMessage
  dsimp only
  split_ifs with hrunning
  · split
    · next value ctx hunpack =>
      have hrunning : s.running = true := hrunning
      dsimp only [Shared.record]
      rw [hrunning]
      exact .invokes hunpack
    · dsimp only [Shared.record, nack]
      refine Records.takes [.settled i .nack ⟨i, v.count⟩, .failed ⟨i, v.count⟩] msg s.running
        ?_ (.inl rfl)
      simp [Entry.note]
  · exact (runsOut_teardown (s := s.record (.delivered ⟨i, v.count⟩ msg s.running)) _).takes

/-- A step writes what `Records` allows. -/
theorem Step.records (hs : Step cd i s p e r) :
    Records cd.unpack i s.journal p.desk r.1.journal r.2.desk := by
  cases hs with
  | subscribe | acked | naked => exact records_same
  | @connected ctx x =>
    cases x with
    | none => exact .notes [.opened i s.made] (by simp [Entry.note]) (.inl rfl)
    | some x =>
      exact (runsOut_startFailed (s := s.connect i) x false).opened.records
  | notConnected | notEnsured | notSubscribed => exact (runsOut_startFailed _ _).records
  | ensured =>
    unfold Nats.ensured
    split
    · exact records_same
    · exact (runsOut_startFailed _ _).records
  | subscribed => exact records_same
  | message => exact records_takeMessage _
  | stop | iteratorRaised | handlerCancelled | ackCancelled | nakCancelled =>
    exact (runsOut_teardown _).records
  | @handled v m token =>
    exact .returns [.settled i .ack m] (by simp [Entry.note])
  | @handlerFailed v m token =>
    exact .notes [.settled i .nack m, .failed m] (by simp [Entry.note]) (.inl rfl)
  | unsubscribed => exact (runsOut_disconnect _).records
  | closeUnsubscribed => exact runsOut_closeDisconnect.records
  | close => exact runsOut_close.records
  | _ => exact runsOut_same.records

/-- A message is acked when its handler has returned. -/
theorem acked_of_step (hs : Step cd i s p e r)
    (h : ∀ k m, .settled k .ack m ∈ s.journal → .returned m ∈ s.journal) :
    ∀ k m, .settled k .ack m ∈ r.1.journal → .returned m ∈ r.1.journal := by
  cases hs with
  | subscribe | acked | naked | subscribed => exact h
  | @connected ctx x =>
    cases x with
    | none => exact fun k m hm => .tail _ (h k m ((List.mem_cons.mp hm).resolve_left nofun))
    | some x => exact (runsOut_startFailed (s := s.connect i) x false).opened.acked h
  | notConnected | notEnsured | notSubscribed => exact (runsOut_startFailed _ _).acked h
  | ensured =>
    unfold Nats.ensured
    split
    · exact h
    · exact (runsOut_startFailed _ _).acked h
  | @message v msg =>
    unfold takeMessage
    dsimp only
    split_ifs
    · split
      · exact fun k m hm => .tail _ (.tail _ (h k m (by simpa [Shared.record] using hm)))
      · exact fun k m hm =>
          .tail _ (.tail _ (.tail _ (h k m (by simpa [Shared.record, nack] using hm))))
    · refine (runsOut_teardown (s := s.record (.delivered ⟨i, v.count⟩ msg s.running)) _).acked ?_
      exact fun k m hm => .tail _ (h k m (by simpa [Shared.record] using hm))
  | stop | iteratorRaised | handlerCancelled | ackCancelled | nakCancelled =>
    exact (runsOut_teardown _).acked h
  | @handled v m token =>
    intro k m' hm
    rcases List.mem_cons.mp hm with hm | hm
    · cases hm
      exact .tail _ List.mem_cons_self
    · exact .tail _ (.tail _ (h k m' (by simpa [Shared.record] using hm)))
  | @handlerFailed v m token =>
    exact fun k m' hm => .tail _ (.tail _ (h k m' (by simpa [Shared.record, nack] using hm)))
  | unsubscribed => exact (runsOut_disconnect _).acked h
  | closeUnsubscribed => exact runsOut_closeDisconnect.acked h
  | close => exact runsOut_close.acked h
  | _ => exact h

/-- `NatsConsumer`, with any calls. -/
def clerk (cd : Codec B T Ctx) : Clerk cd.unpack (Shared B T Ctx) (Task Ctx) (Ev B Ctx) where
  resume := resume cd
  ok _ _ _ := True
  init := fresh
  journal := Shared.journal
  desk := Task.desk
  nothing := rfl
  idles _ := rfl
  records h := (step_of_resume h).records
  acked h := by
    refine h.invariant (I := fun l => ∀ i m, .settled i .ack m ∈ l.shared.journal →
      .returned m ∈ l.shared.journal) nofun ?_
    rintro l i e s p - hj - hp
    exact acked_of_step (step_of_resume hp) hj

/-- A message of the wire: the headers are the items of the table. -/
def onWire (sent : B × Dict String String) : Msg B := ⟨sent.1, sent.2.items⟩

/-- Two messages are published, each in a context of its own. -/
def publishes : List (ℕ × NatsProducer.Ev String String) :=
  [(0, .start), (0, .connected none), (0, .ok), (1, .publish "morning" "hello"), (1, .ok),
    (2, .publish "evening" "goodbye"), (2, .ok)]

/-- Both are handled. -/
def handles : List (ℕ × Ev String String) :=
  [(0, .subscribe "startup"), (0, .connected none), (0, .ok), (0, .ok),
    (0, .message ⟨"hello", [("traceparent", "morning")]⟩), (0, .ok), (0, .ok),
    (0, .message ⟨"goodbye", [("traceparent", "evening")]⟩), (0, .ok)]

end Nats

/-! ### RabbitMQ -/

namespace RabbitmqProducer

variable (cd : Serialiser M V H Ctx)

theorem sending_of_progress {s : Shared V H} {x : Progress M V H Ctx} {q : Sending M V H Ctx}
    (h : (progress s x).2 = .sending q) : x = .inl q := by
  cases x <;> cases h
  rfl

theorem startFailed_ne_sending (s : Shared V H) (exc : PyExc) (q : Sending M V H Ctx) :
    (startFailed s exc).2 ≠ .sending q := by
  unfold startFailed
  split <;> exact nofun

theorem closeConnection_ne_sending (s : Shared V H) (q : Sending M V H Ctx) :
    (closeConnection s).2 ≠ .sending q := by
  unfold closeConnection
  split <;> exact nofun

/-- What the call publishes. -/
def publication : Ev M Ctx → Option (Publication M Ctx)
  | .publish ctx message => some ⟨ctx, [message]⟩
  | .publishBatch ctx messages => some ⟨ctx, messages⟩
  | _ => none

/-- What is sent is made of a message of the call, in its context. -/
theorem made_of_resume {i : ℕ} {s : Shared V H} {p : Task M V H Ctx} {ev : Ev M Ctx}
    {r : Shared V H × Task M V H Ctx} {q : Sending M V H Ctx} (h : resume cd i s p ev = some r)
    (hq : r.2 = .sending q) :
    (∃ c, publication ev = some c ∧ q.Made cd c) ∨
      ∃ p', p = .sending p' ∧ ∀ c, p'.Made cd c → q.Made cd c := by
  revert h
  fun_cases resume cd i s p ev <;> rintro ⟨⟩
  case case3 => exact absurd hq (startFailed_ne_sending _ _ _)
  case case5 => exact absurd hq (startFailed_ne_sending _ _ _)
  case case6 => exact .inl ⟨_, rfl, made_publish (sending_of_progress hq)⟩
  case case7 => exact .inl ⟨_, rfl, made_publishBatch (sending_of_progress hq)⟩
  case case8 => exact .inr ⟨_, rfl, fun _ => made_sent (sending_of_progress hq)⟩
  case case10 =>
    unfold close at hq
    split at hq
    · cases hq
    · exact absurd hq (closeConnection_ne_sending _ _)
  case case11 => exact absurd hq (closeConnection_ne_sending _ _)
  case case12 => exact absurd hq (closeConnection_ne_sending _ _)
  all_goals cases hq

/-- `RabbitmqProducer`, with any calls. -/
def sender : Sender cd (Shared V H) (Task M V H Ctx) (Ev M Ctx) where
  toBatching := batching cd
  init := notStarted 0 fun _ => false
  nothing := rfl
  idles _ := rfl
  rests _ := nofun
  publication := publication
  makes h := made_of_resume cd h
  acknowledges h := by
    obtain hquiet | ⟨q, rfl, rfl, rfl⟩ := quiet_or_sending cd h
    · exact .inl hquiet.1
    · refine .inr ⟨q, rfl, ?_⟩
      rw [progress_eq]
      exact acked_acknowledge ..

end RabbitmqProducer

namespace Rabbitmq

variable {B W T Ctx : Type} {cd : Codec B W T Ctx} {i : ℕ} {s : Shared B W T Ctx} {p : Task Ctx}
  {e : Ev B W Ctx} {r : Shared B W T Ctx × Task Ctx} {l : Loop (Shared B W T Ctx) (Task Ctx)}

/-- Where a session stands. -/
def Task.desk {Ctx : Type} : Task Ctx → Desk
  | .idle | .connecting _ | .opening .. | .settingQos .. | .declaring .. => ⟨some 0, none⟩
  | .entering v | .polling v | .settling v => ⟨some v.count, none⟩
  | .handling v m _ => ⟨some v.count, some m⟩
  | _ => ⟨none, none⟩

theorem runsOut_startFailed (x : PyExc) (stale : Bool) :
    RunsOut s.journal (startFailed s x stale).1.journal (startFailed s x stale).2.desk := by
  unfold startFailed
  split_ifs <;> exact runsOut_same

theorem runsOut_closeRest (k : Caller) :
    RunsOut s.journal (closeRest i s k).1.journal (closeRest i s k).2.desk := by
  unfold closeRest
  split
  · cases k
    · exact runsOut_closed _ _
    · exact runsOut_same
  · cases k <;> exact runsOut_same

theorem runsOut_closeConnection (k : Caller) :
    RunsOut s.journal (closeConnection i s k).1.journal (closeConnection i s k).2.desk := by
  unfold closeConnection
  split
  · cases k
    · exact runsOut_closed _ _
    · exact runsOut_same
  · exact runsOut_closeRest k

theorem records_takeMessage {v : Locals Ctx} (message : Message B W) :
    Records cd.unpack i s.journal ⟨some v.count, none⟩ (takeMessage cd i s v message).1.journal
      (takeMessage cd i s v message).2.desk := by
  unfold takeMessage
  dsimp only
  split_ifs with hrunning
  · split
    · next value ctx hunpack =>
      have hrunning : s.running = true := hrunning
      dsimp only [Shared.record]
      rw [hrunning]
      exact .invokes hunpack
    · refine Records.takes [.settled i .nack ⟨i, v.count⟩, .failed ⟨i, v.count⟩] message
        s.running ?_ (.inl rfl)
      simp [Entry.note]
  · exact RunsOut.takes runsOut_same

/-- A step writes what `Records` allows. -/
theorem Step.records (hs : Step cd i s p e r) :
    Records cd.unpack i s.journal p.desk r.1.journal r.2.desk := by
  cases hs with
  | subscribe | opened | declared | entered | settled => exact records_same
  | connected => exact .notes [.opened i s.made] (by simp [Entry.note]) (.inl rfl)
  | notConnected | notOpened | qosFailed | notDeclared => exact (runsOut_startFailed _ _).records
  | qosSet =>
    unfold Rabbitmq.qosSet
    split
    · exact records_same
    · exact (runsOut_startFailed _ _).records
  | notEntered | exited | exitFailed => exact (runsOut_closeConnection _).records
  | message => exact records_takeMessage _
  | @handled v m token =>
    unfold settle
    split
    · next k _ => exact .returns [.settled i .ack k] (by simp [Entry.note])
    · exact .returns [] nofun
  | @handlerFailed v m token =>
    unfold settle
    split
    · next k _ => exact .notes [.settled i .nack k, .failed m] (by simp [Entry.note]) (.inl rfl)
    · exact .notes [.failed m] (by simp [Entry.note]) (.inl rfl)
  | channelClosed => exact (runsOut_closeRest (s := { s with channel := none }) _).records
  | @channelCancelled k | @connectionClosed k | @connectionCancelled k =>
    cases k <;> exact runsOut_same.records
  | close => exact (runsOut_closeConnection (s := { s with running := false }) _).records
  | _ => exact runsOut_same.records

/-- `RabbitmqConsumer`, with sessions that do not overlap. -/
def clerk (cd : Codec B W T Ctx) :
    Clerk cd.unpack (Shared B W T Ctx) (Task Ctx) (Ev B W Ctx) where
  resume := resume cd
  ok := Serial
  init := fresh
  journal := Shared.journal
  desk := Task.desk
  nothing := rfl
  idles _ := rfl
  records h := (step_of_resume h).records
  acked h i m hm := ((isolated_of_reach h).acked i m hm).2

/-- Two messages are published, each in a context of its own. -/
def publishes : List (ℕ × RabbitmqProducer.Ev String String) :=
  [(0, .start), (0, .ok), (0, .ok), (1, .publish "morning" "hello"), (1, .ok),
    (2, .publish "evening" "goodbye"), (2, .ok)]

/-- Both are handled. -/
def handles : List (ℕ × Ev String String String) :=
  [(0, .subscribe "startup"), (0, .ok), (0, .ok), (0, .ok), (0, .ok), (0, .ok),
    (0, .message ⟨"hello", [("traceparent", .inr "morning")]⟩), (0, .ok), (0, .ok),
    (0, .message ⟨"goodbye", [("traceparent", .inr "evening")]⟩), (0, .ok)]

/-- A context is read from a header that is a text. -/
def textCodec : Codec String String String String :=
  ⟨some, some, fun carrier => (carrier.get? "traceparent").bind Sum.getRight?⟩

theorem textCodec_extract (ctx : String) :
    textCodec.extract ((traced.injectTraceHeaders ctx).map .inr) = some ctx := by
  have hlookup := lookup_map_snd (Sum.inr (α := String)) (traced.injectTraceHeaders ctx).items
    "traceparent"
  rw [← Dict.get?, traced_extract] at hlookup
  simp [textCodec, Dict.get?, Dict.map, hlookup]

end Rabbitmq

end OpenframeAdapters.Queue
