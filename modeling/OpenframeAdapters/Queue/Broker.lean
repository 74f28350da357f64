import Mathlib.Data.List.Nodup
import OpenframeAdapters.Queue.Batch
import OpenframeAdapters.Queue.Journal

/-!
# Messages through a broker

Producers send messages to a broker, which offers each one to consumers until one of them has acked
it. Producers and consumers are objects of their own, and any number of them run side by side.

## The model

* `Publication` — a call of `publish()` or `publish_batch()`: its context and its messages.
* `Sender` — a producer: what a call sends has been made of its messages, in its context.
* `Receiving` — a consumer, as far as its journal tells. `Ledger` is what a journal has to be like.
* `Situation` — the objects, the publications so far, and the broker. The broker keeps what it has
  stored, to whom it has been offered, and what has been acked.
* `Exchange` — one step: of a producer, of a consumer, or of the broker. A send that raises may have
  been stored all the same. A message may be offered again at any time, and to anybody, until
  the broker has received an ack for it, which it need not ever.

## What is proved

* `Outbox.send` — what producers and the broker know of each other, after a step of a producer.
* `Books.atLeastOnce` — in every situation that is reached, the broker has stored what it has
  acknowledged, in order; what it stores comes from a publication; what it has received an ack for has
  been handled by a call for this very message; and every handler call is for a message that is stored.
-/

namespace OpenframeAdapters.Queue

open Python OpenframeAdapters.Core

variable {M V H Ctx R Val σ π ε σ' π' ε' : Type}

/-! ### Producers -/

/-- A call of `publish()` or `publish_batch()`. -/
structure Publication (M Ctx : Type) where
  /-- The context it is made in. -/
  ctx : Ctx
  /-- What it publishes. -/
  messages : List M

/-- What is sent is made of a message of the call, in its context, and so will be what is left. -/
def Sending.Made (cd : Serialiser M V H Ctx) (c : Publication M Ctx) : Sending M V H Ctx → Prop
  | .one sent => ∃ message ∈ c.messages, cd.Makes c.ctx message sent
  | .many sent rest ctx => ctx = c.ctx ∧ rest ⊆ c.messages ∧
    ∃ message ∈ c.messages, cd.Makes c.ctx message sent
  | .flushing => True

section Made

variable {cd : Serialiser M V H Ctx} {field : Option ℕ} {c : Publication M Ctx} {ctx : Ctx}
  {P : Publisher} {p q : Sending M V H Ctx}

theorem Sending.Made.acknowledged (h : p.Made cd c) {sent : V × H}
    (hsent : p.acknowledged = some sent) : ∃ message ∈ c.messages, cd.Makes c.ctx message sent := by
  cases p with
  | one => exact Option.some.inj hsent ▸ h
  | many => exact Option.some.inj hsent ▸ h.2.2
  | flushing => cases hsent

theorem made_publish {message : M} (h : publish cd field ctx message = .inl p) :
    p.Made cd ⟨ctx, [message]⟩ := by
  unfold publish at h
  split at h
  · cases h
  · split at h
    · cases h
    · next value hvalue =>
      obtain rfl := Sum.inl.inj h
      exact ⟨message, List.mem_singleton_self _, hvalue, rfl⟩

theorem made_next {messages : List M} (h : P.next cd field c.ctx messages = .inl p)
    (hsub : messages ⊆ c.messages) : p.Made cd c := by
  obtain ⟨ctx, all⟩ := c
  dsimp only at h hsub
  revert h hsub
  fun_cases Publisher.next P cd field ctx messages <;> rintro ⟨⟩ hsub
  case case1 => trivial
  case case6 message rest value c hvalue =>
    obtain ⟨hmessage, hrest⟩ := List.cons_subset.mp hsub
    exact ⟨rfl, hrest, message, hmessage, hvalue, rfl⟩

theorem made_publishBatch {messages : List M} (h : P.publishBatch cd field ctx messages = .inl p) :
    p.Made cd ⟨ctx, messages⟩ := by
  unfold Publisher.publishBatch at h
  split at h
  · cases h
  · exact made_next (c := ⟨ctx, messages⟩) h (List.Subset.refl _)

theorem made_sent (h : P.sent cd field p = .inl q) (hp : p.Made cd c) : q.Made cd c := by
  cases p with
  | one sent => cases h
  | many sent rest ctx =>
    obtain ⟨rfl, hrest, -⟩ := hp
    exact made_next h hrest
  | flushing => cases h

end Made

/-- A producer whose calls send what they have made. -/
structure Sender (cd : Serialiser M V H Ctx) (σ π ε : Type) extends Batching cd σ π ε where
  /-- It has just been made. -/
  init : Loop σ π
  nothing : acked init.shared = []
  idles : ∀ i, init.task i = idle
  rests : ∀ p, task (.inl p) ≠ idle
  /-- The event is a call of `publish()` or `publish_batch()`. -/
  publication : ε → Option (Publication M Ctx)
  makes : ∀ {i s p ev r q}, resume i s p ev = some r → r.2 = task (.inl q) →
    (∃ c, publication ev = some c ∧ q.Made cd c) ∨
      ∃ p', p = task (.inl p') ∧ ∀ c, p'.Made cd c → q.Made cd c
  acknowledges : ∀ {i s p ev r}, resume i s p ev = some r → acked r.1 = acked s ∨
    ∃ q, p = task (.inl q) ∧ acked r.1 = (q.acknowledged.map fun m => (i, m)).toList ++ acked s

/-! ### Consumers -/

/-- Names stand for one message each, and handlers are called with what it unpacks to. -/
structure Ledger (unpack : R → Option Val) (j : Journal R Val) : Prop where
  /-- A name stands for one message. -/
  unique : ∀ m r b r' b', .delivered m r b ∈ j → .delivered m r' b' ∈ j → r = r'
  /-- No name is given twice. -/
  once : (deliveries j).Nodup
  /-- A handler is called with what the message unpacks to. -/
  invoked : ∀ m value, .invoked m value ∈ j → ∃ r, .delivered m r true ∈ j ∧ unpack r = some value
  /-- A handler that has returned was called. -/
  returned : ∀ m, .returned m ∈ j → ∃ value, .invoked m value ∈ j

section Ledger

variable {unpack : R → Option Val} {j : Journal R Val} {m : MsgId}

theorem Ledger.nil : Ledger unpack [] := ⟨nofun, List.nodup_nil, nofun, nofun⟩

/-- An entry that tells nothing of deliveries and handlers. -/
theorem Ledger.note (h : Ledger unpack j) {x : Entry R Val} (hd : ∀ m r b, x ≠ .delivered m r b)
    (hi : ∀ m value, x ≠ .invoked m value) (hr : ∀ m, x ≠ .returned m) : Ledger unpack (x :: j) where
  unique m r b r' b' hm hm' := by
    have hm := (List.mem_cons.mp hm).resolve_left fun h => hd m r b h.symm
    have hm' := (List.mem_cons.mp hm').resolve_left fun h => hd m r' b' h.symm
    exact h.unique m r b r' b' hm hm'
  once := by
    cases x with
    | delivered m r b => exact absurd rfl (hd m r b)
    | _ => exact h.once
  invoked m value hm := by
    have hm := (List.mem_cons.mp hm).resolve_left fun h => hi m value h.symm
    obtain ⟨r, hdel, hunpack⟩ := h.invoked m value hm
    exact ⟨r, .tail _ hdel, hunpack⟩
  returned m hm := by
    have hm := (List.mem_cons.mp hm).resolve_left fun h => hr m h.symm
    obtain ⟨value, hinv⟩ := h.returned m hm
    exact ⟨value, .tail _ hinv⟩

/-- A message with a new name is taken. -/
theorem Ledger.deliver (h : Ledger unpack j) (hnew : ∀ r b, .delivered m r b ∉ j) (r : R) (b : Bool) :
    Ledger unpack (.delivered m r b :: j) where
  unique k r₁ b₁ r₂ b₂ h₁ h₂ := by
    rcases List.mem_cons.mp h₁ with h₁ | h₁
    · cases h₁
      rcases List.mem_cons.mp h₂ with h₂ | h₂
      · cases h₂
        rfl
      · exact absurd h₂ (hnew _ _)
    · rcases List.mem_cons.mp h₂ with h₂ | h₂
      · cases h₂
        exact absurd h₁ (hnew _ _)
      · exact h.unique k r₁ b₁ r₂ b₂ h₁ h₂
  once := by
    refine List.nodup_cons.mpr ⟨fun hm => ?_, h.once⟩
    obtain ⟨r', b', hm⟩ := mem_deliveries.mp hm
    exact hnew r' b' hm
  invoked k value hk := by
    obtain ⟨r', hdel, hunpack⟩ := h.invoked k value (by simpa using hk)
    exact ⟨r', .tail _ hdel, hunpack⟩
  returned k hk := by
    obtain ⟨value, hinv⟩ := h.returned k (by simpa using hk)
    exact ⟨value, .tail _ hinv⟩

/-- The handler of a message is called. -/
theorem Ledger.invoke (h : Ledger unpack j) {r : R} {value : Val} (hdel : .delivered m r true ∈ j)
    (hunpack : unpack r = some value) : Ledger unpack (.invoked m value :: j) where
  unique k r₁ b₁ r₂ b₂ h₁ h₂ := h.unique k r₁ b₁ r₂ b₂ (by simpa using h₁) (by simpa using h₂)
  once := h.once
  invoked k v hk := by
    rcases List.mem_cons.mp hk with hk | hk
    · cases hk
      exact ⟨r, .tail _ hdel, hunpack⟩
    · obtain ⟨r', hdel', hunpack'⟩ := h.invoked k v hk
      exact ⟨r', .tail _ hdel', hunpack'⟩
  returned k hk := by
    obtain ⟨v, hinv⟩ := h.returned k (by simpa using hk)
    exact ⟨v, .tail _ hinv⟩

/-- The handler of a message returns. -/
theorem Ledger.return (h : Ledger unpack j) {value : Val} (hinv : .invoked m value ∈ j) :
    Ledger unpack (.returned m :: j) where
  unique k r₁ b₁ r₂ b₂ h₁ h₂ := h.unique k r₁ b₁ r₂ b₂ (by simpa using h₁) (by simpa using h₂)
  once := h.once
  invoked k v hk := by
    obtain ⟨r', hdel', hunpack'⟩ := h.invoked k v (by simpa using hk)
    exact ⟨r', .tail _ hdel', hunpack'⟩
  returned k hk := by
    rcases List.mem_cons.mp hk with hk | hk
    · cases hk
      exact ⟨value, .tail _ hinv⟩
    · obtain ⟨v, hv⟩ := h.returned k hk
      exact ⟨v, .tail _ hv⟩

end Ledger

/-- A consumer whose loop unpacks messages `R`. -/
structure Receiving (unpack : R → Option Val) (σ π ε : Type) where
  /-- The code. -/
  resume : Resume σ π ε
  /-- What is assumed of its callers. -/
  ok : Guard σ π ε
  /-- It has just been made. -/
  init : Loop σ π
  /-- What has happened. -/
  journal : σ → Journal R Val
  nothing : journal init.shared = []
  grows : ∀ {i s p ev r}, resume i s p ev = some r → journal s <:+ journal r.1
  ledger : ∀ {l}, Reach resume ok init l → Ledger unpack (journal l.shared)
  acked : ∀ {l}, Reach resume ok init l → ∀ i m, .settled i .ack m ∈ journal l.shared →
    .returned m ∈ journal l.shared

/-! ### The broker -/

/-- The messages that are taken, newest first. -/
def arrivals : Journal R Val → List (MsgId × R)
  | [] => []
  | .delivered m r _ :: j => (m, r) :: arrivals j
  | _ :: j => arrivals j

theorem mem_arrivals {m : MsgId} {r : R} {j : Journal R Val} :
    (m, r) ∈ arrivals j ↔ ∃ b, .delivered m r b ∈ j := by
  induction j with
  | nil => simp [arrivals]
  | cons e j ih => cases e <;> simp [arrivals, ih, exists_or]

theorem map_fst_arrivals (j : Journal R Val) : (arrivals j).map Prod.fst = deliveries j := by
  induction j with
  | nil => rfl
  | cons e j ih => cases e <;> simp [arrivals, deliveries, ih]

theorem arrivals_append (new j : Journal R Val) : arrivals (new ++ j) = arrivals new ++ arrivals j := by
  induction new with
  | nil => rfl
  | cons e new ih => cases e <;> simp [arrivals, ih]

/-- Producers, consumers, what has been published, and the broker. -/
structure Situation (M Ctx V H σ π σ' π' : Type) where
  /-- The producers. -/
  producers : ℕ → Loop σ π
  /-- The consumers. -/
  consumers : ℕ → Loop σ' π'
  /-- The publications so far: the producer, and its call. -/
  published : List (ℕ × ℕ × Publication M Ctx)
  /-- What the broker has stored, in order: the producer, its call, and the message. -/
  stored : List (ℕ × (ℕ × (V × H)))
  /-- To which consumer, and under which name there, which message has been offered. -/
  offered : List (ℕ × MsgId × ℕ)
  /-- The messages that the broker has received an ack for. -/
  gone : List ℕ

section Exchange

variable {unpack : R → Option Val} {cd : Serialiser M V H Ctx} (B : Sender cd σ π ε)
  (C : Receiving unpack σ' π' ε') (wire : V × H → R)

/-- What the broker stores when call `i` of producer `k` takes a step. -/
inductive Stores (k : ℕ) (l l' : Loop σ π) (i : ℕ) : List (ℕ × (ℕ × (V × H))) → Prop
  /-- What it acknowledges. -/
  | acknowledged {new} : B.acked l'.shared = new ++ B.acked l.shared →
    Stores k l l' i (new.reverse.map fun a => (k, a))
  /-- What has been sent, and is not acknowledged. -/
  | unacknowledged {p} : l.task i = B.task (.inl p) → B.acked l'.shared = B.acked l.shared →
    Stores k l l' i (p.acknowledged.toList.map fun m => (k, (i, m)))

/-- The broker has received no ack for the message `n`, and it arrives as `r`. -/
def Offers (w : Situation M Ctx V H σ π σ' π') (n : ℕ) (r : R) : Prop :=
  n ∉ w.gone ∧ ∃ x, w.stored[n]? = some x ∧ wire x.2.2 = r

/-- One step. -/
inductive Exchange (w : Situation M Ctx V H σ π σ' π') : Situation M Ctx V H σ π σ' π' → Prop
  /-- A producer takes a step. -/
  | send {k l i ev new} : (w.producers k).step B.resume i ev = some l →
    Stores B k (w.producers k) l i new →
    Exchange w { w with
      producers := Function.update w.producers k l
      published := (B.publication ev).toList.map (fun c => (k, i, c)) ++ w.published
      stored := w.stored ++ new }
  /-- A consumer takes a step. What it takes has been offered to it. -/
  | receive {k l i ev new} {offers : List (MsgId × ℕ)} : C.ok (w.consumers k) i ev →
    (w.consumers k).step C.resume i ev = some l →
    C.journal l.shared = new ++ C.journal (w.consumers k).shared →
    List.Forall₂ (fun a o => a.1 = o.1 ∧ Offers wire w o.2 a.2) (arrivals new) offers →
    Exchange w { w with
      consumers := Function.update w.consumers k l
      offered := offers.map (fun o => (k, o)) ++ w.offered }
  /-- The broker receives an ack. -/
  | acked {k i m n} : .settled i .ack m ∈ C.journal (w.consumers k).shared → (k, m, n) ∈ w.offered →
    Exchange w { w with gone := n :: w.gone }

/-- Nothing has happened. -/
def start : Situation M Ctx V H σ π σ' π' := ⟨fun _ => B.init, fun _ => C.init, [], [], [], []⟩

/-- The situations that are reached. -/
def Reached : Situation M Ctx V H σ π σ' π' → Prop :=
  Relation.ReflTransGen (Exchange B C wire) (start B C)

/-- Call `i` of producer `k` has published what this is made of. -/
def Published (cd : Serialiser M V H Ctx) (published : List (ℕ × ℕ × Publication M Ctx)) (k i : ℕ)
    (sent : V × H) (c : Publication M Ctx) (message : M) : Prop :=
  (k, i, c) ∈ published ∧ message ∈ c.messages ∧ cd.Makes c.ctx message sent

/-- What producers and consumers may rely on. -/
structure AtLeastOnce (w : Situation M Ctx V H σ π σ' π') : Prop where
  /-- What has been acknowledged to a producer is stored, in order and each time. -/
  stored : ∀ k, (B.acked (w.producers k).shared).reverse.Sublist
    ((w.stored.filter (·.1 = k)).map Prod.snd)
  /-- What is stored has been published, by the call that it names. -/
  made : ∀ x ∈ w.stored, ∃ c message, Published cd w.published x.1 x.2.1 x.2.2 c message
  /-- A name of a consumer stands for one message. -/
  once : ∀ k m n n', (k, m, n) ∈ w.offered → (k, m, n') ∈ w.offered → n = n'
  /-- What is acked has been offered to a consumer, and there a handler has been called with what it
  unpacks to, and has returned. -/
  handled : ∀ n ∈ w.gone, ∃ x, w.stored[n]? = some x ∧ ∃ k m value, (k, m, n) ∈ w.offered ∧
    .invoked m value ∈ C.journal (w.consumers k).shared ∧
    .returned m ∈ C.journal (w.consumers k).shared ∧ unpack (wire x.2.2) = some value
  /-- Handlers are called with what is stored and offered. -/
  authentic : ∀ k m value, .invoked m value ∈ C.journal (w.consumers k).shared →
    ∃ n x, (k, m, n) ∈ w.offered ∧ w.stored[n]? = some x ∧ unpack (wire x.2.2) = some value

/-- What has been published, what has been acknowledged, what is being sent, and what is stored. -/
structure Outbox (producers : ℕ → Loop σ π) (published : List (ℕ × ℕ × Publication M Ctx))
    (log : List (ℕ × (ℕ × (V × H)))) : Prop where
  /-- What has been acknowledged is stored. -/
  stored : ∀ k, (B.acked (producers k).shared).reverse.Sublist
    ((log.filter (·.1 = k)).map Prod.snd)
  /-- What a call is sending has been made of what it publishes. -/
  sending : ∀ k i p, (producers k).task i = B.task (.inl p) →
    ∃ c, (k, i, c) ∈ published ∧ p.Made cd c
  /-- And so has what is stored. -/
  made : ∀ x ∈ log, ∃ c message, Published cd published x.1 x.2.1 x.2.2 c message

/-- The broker's books. -/
structure Books (w : Situation M Ctx V H σ π σ' π') : Prop extends
    Outbox B w.producers w.published w.stored where
  /-- The consumers do what their code says. -/
  reach : ∀ k, Reach C.resume C.ok C.init (w.consumers k)
  /-- What has been offered has arrived. -/
  arrived : ∀ k m n, (k, m, n) ∈ w.offered → ∃ x, w.stored[n]? = some x ∧
    (m, wire x.2.2) ∈ arrivals (C.journal (w.consumers k).shared)
  /-- What has arrived has been offered. -/
  offered : ∀ k a, a ∈ arrivals (C.journal (w.consumers k).shared) →
    ∃ n x, (k, a.1, n) ∈ w.offered ∧ w.stored[n]? = some x ∧ wire x.2.2 = a.2
  /-- Each time under another name. -/
  names : ∀ k, (w.offered.filter (·.1 = k)).map (fun o => o.2.1) =
    deliveries (C.journal (w.consumers k).shared)
  /-- What is gone has been acked. -/
  acked : ∀ n ∈ w.gone, ∃ k i m, (k, m, n) ∈ w.offered ∧
    .settled i .ack m ∈ C.journal (w.consumers k).shared

variable {B C wire} {w w' : Situation M Ctx V H σ π σ' π'}

theorem outbox_start : Outbox B (fun _ => B.init) [] [] where
  stored k := by
    rw [B.nothing]
    exact List.nil_sublist _
  sending k i p hp := absurd (hp.symm.trans (B.idles i)) (B.rests p)
  made := nofun

theorem books_start : Books B C wire (start B C) where
  toOutbox := outbox_start
  reach _ := .refl
  arrived := nofun
  offered k a ha := by
    have harrived : a ∈ arrivals (C.journal C.init.shared) := ha
    rw [C.nothing] at harrived
    cases harrived
  names k := by
    change [] = deliveries (C.journal C.init.shared)
    rw [C.nothing]
    rfl
  acked := nofun

/-- What an offer is for. -/
theorem exists_of_forall₂ {α β : Type} {P : α → β → Prop} {xs : List α} {ys : List β} {y : β}
    (h : List.Forall₂ P xs ys) (hy : y ∈ ys) : ∃ x ∈ xs, P x y := by
  induction h with
  | nil => cases hy
  | cons hxy _ ih =>
    rcases List.mem_cons.mp hy with rfl | hy
    · exact ⟨_, List.mem_cons_self, hxy⟩
    · obtain ⟨x, hx, hP⟩ := ih hy
      exact ⟨x, .tail _ hx, hP⟩

/-- The publications of a run of producer `k`, newest first. -/
def publications (B : Sender cd σ π ε) (k : ℕ) (es : List (ℕ × ε)) :
    List (ℕ × ℕ × Publication M Ctx) :=
  (es.filterMap fun e => (B.publication e.2).map fun c => (k, e.1, c)).reverse

theorem publications_cons (k i : ℕ) (ev : ε) (es : List (ℕ × ε)) :
    publications B k ((i, ev) :: es) =
      publications B k es ++ (B.publication ev).toList.map fun c => (k, i, c) := by
  unfold publications
  rw [List.filterMap_cons]
  cases B.publication ev <;> simp

/-- A producer runs for a while, and the broker stores what it acknowledges. -/
theorem Reached.sends (h : Reached B C wire w) (k : ℕ) (es : List (ℕ × ε)) {l : Loop σ π}
    (hrun : (w.producers k).run B.resume es = some l) :
    ∃ new, B.acked l.shared = new ++ B.acked (w.producers k).shared ∧
      Reached B C wire { w with
        producers := Function.update w.producers k l
        published := publications B k es ++ w.published
        stored := w.stored ++ new.reverse.map fun a => (k, a) } := by
  induction es generalizing w with
  | nil =>
    obtain rfl := Option.some.inj hrun
    exact ⟨[], rfl, by simpa [publications] using h⟩
  | cons ie rest ih =>
    obtain ⟨i, ev⟩ := ie
    obtain ⟨l₁, hs, hrun⟩ := Option.bind_eq_some_iff.mp hrun
    have hone : ∃ new, B.acked l₁.shared = new ++ B.acked (w.producers k).shared := by
      obtain ⟨s, p, hr, rfl⟩ := Loop.step_eq_some_iff.mp hs
      obtain ⟨new, hnew, -⟩ := B.frame hr
      exact ⟨new, hnew⟩
    obtain ⟨new₁, hnew₁⟩ := hone
    have hnext := h.tail (.send hs (.acknowledged hnew₁))
    obtain ⟨new, hnew, hr⟩ := ih hnext (by simpa using hrun)
    simp only [Function.update_self, Function.update_idem] at hnew hr
    refine ⟨new ++ new₁, by rw [hnew, hnew₁, List.append_assoc], ?_⟩
    rw [publications_cons]
    simpa using hr

theorem Receiving.grows_run {es : List (ℕ × ε')} {l l' : Loop σ' π'}
    (hrun : l.run C.resume es = some l') : C.journal l.shared <:+ C.journal l'.shared := by
  induction es generalizing l with
  | nil =>
    obtain rfl := Option.some.inj hrun
    exact List.suffix_rfl
  | cons ie rest ih =>
    obtain ⟨i, ev⟩ := ie
    obtain ⟨l₁, hs, hrun⟩ := Option.bind_eq_some_iff.mp hrun
    obtain ⟨s, p, hr, rfl⟩ := Loop.step_eq_some_iff.mp hs
    exact (C.grows hr).trans (ih hrun)

/-- A consumer runs for a while, and what it takes has been offered to it. -/
theorem Reached.receives (h : Reached B C wire w) (k : ℕ) (es : List (ℕ × ε')) {l : Loop σ' π'}
    (hok : Admitted C.resume C.ok (w.consumers k) es)
    (hrun : (w.consumers k).run C.resume es = some l) (new : Journal R Val)
    (hnew : C.journal l.shared = new ++ C.journal (w.consumers k).shared) (offers : List (MsgId × ℕ))
    (hoffers : List.Forall₂ (fun a o => a.1 = o.1 ∧ Offers wire w o.2 a.2) (arrivals new) offers) :
    Reached B C wire { w with
      consumers := Function.update w.consumers k l
      offered := offers.map (fun o => (k, o)) ++ w.offered } := by
  induction es generalizing w new offers with
  | nil =>
    obtain rfl := Option.some.inj hrun
    obtain rfl := List.self_eq_append_left.mp hnew
    cases hoffers
    simpa using h
  | cons ie rest ih =>
    obtain ⟨i, ev⟩ := ie
    obtain ⟨l₁, hs, hrun⟩ := Option.bind_eq_some_iff.mp hrun
    have hgrows : C.journal (w.consumers k).shared <:+ C.journal l₁.shared := by
      obtain ⟨s, p, hr, rfl⟩ := Loop.step_eq_some_iff.mp hs
      exact C.grows hr
    obtain ⟨new₁, hnew₁⟩ := hgrows
    obtain ⟨new₂, hnew₂⟩ := C.grows_run hrun
    obtain rfl : new = new₂ ++ new₁ := by
      rw [← hnew₂, ← hnew₁, ← List.append_assoc] at hnew
      exact (List.append_cancel_right hnew).symm
    rw [arrivals_append] at hoffers
    -- what has been offered at the first step, and what after it
    have hlater := List.forall₂_take_append _ _ _ hoffers.flip
    have hfirst := List.forall₂_drop_append _ _ _ hoffers.flip
    have hnext := h.tail (.receive hok.1 hs hnew₁.symm hfirst.flip)
    have hrest := ih hnext (by simpa using hok.2 l₁ hs) (by simpa using hrun) new₂
      (by simpa using hnew₂.symm) _ hlater.flip
    simp only [Function.update_idem] at hrest
    rw [← List.append_assoc, ← List.map_append, List.take_append_drop] at hrest
    exact hrest

/-- What is stored stays where it is. -/
theorem getElem?_append_of_some {α : Type} {xs ys : List α} {n : ℕ} {x : α} (h : xs[n]? = some x) :
    (xs ++ ys)[n]? = some x := by
  obtain ⟨hn, -⟩ := List.getElem?_eq_some_iff.mp h
  rw [List.getElem?_append_left hn, h]

theorem Published.mono {published published' : List (ℕ × ℕ × Publication M Ctx)} {k i : ℕ}
    {sent : V × H} {c : Publication M Ctx} {message : M} (h : Published cd published k i sent c message)
    (hsub : published ⊆ published') : Published cd published' k i sent c message :=
  h.imp_left fun hc => hsub hc

/-- The step of a producer. -/
theorem Outbox.send {producers : ℕ → Loop σ π} {published : List (ℕ × ℕ × Publication M Ctx)}
    {log : List (ℕ × (ℕ × (V × H)))} (h : Outbox B producers published log) {k i : ℕ} {l : Loop σ π}
    {ev : ε} {new : List (ℕ × (ℕ × (V × H)))} (hs : (producers k).step B.resume i ev = some l)
    (hnew : Stores B k (producers k) l i new) :
    Outbox B (Function.update producers k l)
      ((B.publication ev).toList.map (fun c => (k, i, c)) ++ published) (log ++ new) where
  stored k' := by
    rw [List.filter_append, List.map_append]
    by_cases hk : k' = k
    · subst hk
      rw [Function.update_self]
      cases hnew with
      | @acknowledged new hacked =>
        have hmine : ((new.reverse.map fun a => (k', a)).filter (·.1 = k')).map Prod.snd =
            new.reverse := by
          rw [List.filter_map, List.map_map]
          simp [Function.comp_def]
        rw [hacked, List.reverse_append, hmine]
        exact (h.stored k').append (List.Sublist.refl _)
      | unacknowledged htask hsame =>
        rw [hsame]
        exact (h.stored k').trans (List.sublist_append_left _ _)
    · rw [Function.update_of_ne hk]
      exact (h.stored k').trans (List.sublist_append_left _ _)
  sending k' i' p hp := by
    have hold : ∀ {p}, (producers k').task i' = B.task (.inl p) → ∃ c,
        (k', i', c) ∈ (B.publication ev).toList.map (fun c => (k, i, c)) ++ published ∧
          p.Made cd c := fun hp => by
      obtain ⟨c, hc, hmade⟩ := h.sending k' i' _ hp
      exact ⟨c, List.mem_append_right _ hc, hmade⟩
    obtain ⟨s, p', hr, rfl⟩ := Loop.step_eq_some_iff.mp hs
    by_cases hk : k' = k
    · subst hk
      rw [Function.update_self] at hp
      by_cases hi : i' = i
      · subst hi
        rcases B.makes hr ((Function.update_self ..).symm.trans hp) with ⟨c, hc, hmade⟩ | ⟨q, hq, hmade⟩
        · exact ⟨c, List.mem_append_left _ (List.mem_map_of_mem (Option.mem_toList.mpr hc)), hmade⟩
        · obtain ⟨c, hc, hq⟩ := hold hq
          exact ⟨c, hc, hmade c hq⟩
      · exact hold ((Function.update_of_ne hi ..).symm.trans hp)
    · rw [Function.update_of_ne hk] at hp
      exact hold hp
  made x hx := by
    -- what call `i` was sending has been published before this step
    have hsent : ∀ {p sent}, (producers k).task i = B.task (.inl p) → p.acknowledged = some sent →
        ∃ c message, Published cd ((B.publication ev).toList.map (fun c => (k, i, c)) ++ published) k i
          sent c message := fun hp hsent => by
      obtain ⟨c, hc, hmade⟩ := h.sending k i _ hp
      obtain ⟨message, hmessage, hmakes⟩ := hmade.acknowledged hsent
      exact ⟨c, message, List.mem_append_right _ hc, hmessage, hmakes⟩
    rcases List.mem_append.mp hx with hx | hx
    · obtain ⟨c, message, hc⟩ := h.made x hx
      exact ⟨c, message, hc.mono (List.subset_append_right _ _)⟩
    · cases hnew with
      | @acknowledged new hacked =>
        obtain ⟨a, ha, rfl⟩ := List.mem_map.mp hx
        rw [List.mem_reverse] at ha
        obtain ⟨s, p', hr, rfl⟩ := Loop.step_eq_some_iff.mp hs
        rcases B.acknowledges hr with hsame | ⟨q, hq, hone⟩
        · obtain rfl := List.self_eq_append_left.mp (hsame.symm.trans hacked)
          cases ha
        · obtain rfl := List.append_cancel_right (hone.symm.trans hacked)
          obtain ⟨sent, hacknowledged, rfl⟩ := Option.map_eq_some_iff.mp (Option.mem_toList.mp ha)
          exact hsent hq hacknowledged
      | @unacknowledged p hp _ =>
        obtain ⟨sent, hacknowledged, rfl⟩ := List.mem_map.mp hx
        exact hsent hp (Option.mem_toList.mp hacknowledged)

theorem Books.send (h : Books B C wire w) {k i : ℕ} {l : Loop σ π}
    {ev : ε} {new : List (ℕ × (ℕ × (V × H)))} (hs : (w.producers k).step B.resume i ev = some l)
    (hnew : Stores B k (w.producers k) l i new) :
    Books B C wire { w with
      producers := Function.update w.producers k l
      published := (B.publication ev).toList.map (fun c => (k, i, c)) ++ w.published
      stored := w.stored ++ new } where
  toOutbox := h.toOutbox.send hs hnew
  reach := h.reach
  arrived k' m n hn := by
    obtain ⟨x, hx, harrived⟩ := h.arrived k' m n hn
    exact ⟨x, getElem?_append_of_some hx, harrived⟩
  offered k' a ha := by
    obtain ⟨n, x, hn, hx, hwire⟩ := h.offered k' a ha
    exact ⟨n, x, hn, getElem?_append_of_some hx, hwire⟩
  names := h.names
  acked := h.acked

/-- The step of a consumer. -/
theorem Books.receive (h : Books B C wire w) {k i : ℕ} {l : Loop σ' π'} {ev : ε'}
    {new : Journal R Val} {offers : List (MsgId × ℕ)} (hok : C.ok (w.consumers k) i ev)
    (hs : (w.consumers k).step C.resume i ev = some l)
    (hnew : C.journal l.shared = new ++ C.journal (w.consumers k).shared)
    (hoffers : List.Forall₂ (fun a o => a.1 = o.1 ∧ Offers wire w o.2 a.2) (arrivals new) offers) :
    Books B C wire { w with
      consumers := Function.update w.consumers k l
      offered := offers.map (fun o => (k, o)) ++ w.offered } where
  toOutbox := h.toOutbox
  reach k' := by
    dsimp only
    by_cases hk : k' = k
    · subst hk
      rw [Function.update_self]
      exact (h.reach k').tail hok hs
    · rw [Function.update_of_ne hk]
      exact h.reach k'
  arrived k' m n hn := by
    dsimp only
    rcases List.mem_append.mp hn with hn | hn
    · obtain ⟨o, ho, heq⟩ := List.mem_map.mp hn
      obtain ⟨rfl, rfl⟩ := Prod.mk.inj heq
      obtain ⟨a, ha, rfl, -, x, hx, hwire⟩ := exists_of_forall₂ hoffers ho
      refine ⟨x, hx, ?_⟩
      rw [Function.update_self, hnew, arrivals_append, hwire]
      exact List.mem_append_left _ ha
    · obtain ⟨x, hx, harrived⟩ := h.arrived k' m n hn
      refine ⟨x, hx, ?_⟩
      by_cases hk : k' = k
      · subst hk
        rw [Function.update_self, hnew, arrivals_append]
        exact List.mem_append_right _ harrived
      · rwa [Function.update_of_ne hk]
  offered k' a ha := by
    dsimp only at ha ⊢
    have hold : a ∈ arrivals (C.journal (w.consumers k').shared) → ∃ n x,
        (k', a.1, n) ∈ offers.map (fun o => (k, o)) ++ w.offered ∧ w.stored[n]? = some x ∧
          wire x.2.2 = a.2 := fun ha => by
      obtain ⟨n, x, hn, hx, hwire⟩ := h.offered k' a ha
      exact ⟨n, x, List.mem_append_right _ hn, hx, hwire⟩
    by_cases hk : k' = k
    · subst hk
      rw [Function.update_self, hnew, arrivals_append] at ha
      rcases List.mem_append.mp ha with ha | ha
      · obtain ⟨o, ho, hname, -, x, hx, hwire⟩ := exists_of_forall₂ hoffers.flip ha
        refine ⟨o.2, x, List.mem_append_left _ (List.mem_map.mpr ⟨o, ho, ?_⟩), hx, hwire⟩
        rw [hname]
      · exact hold ha
    · rw [Function.update_of_ne hk] at ha
      exact hold ha
  names k' := by
    dsimp only
    rw [List.filter_append, List.map_append, h.names k']
    by_cases hk : k' = k
    · subst hk
      have hmine : ((offers.map fun o => (k', o)).filter (·.1 = k')).map (fun o => o.2.1) =
          offers.map Prod.fst := by
        rw [List.filter_map, List.map_map]
        simp [Function.comp_def]
      have hnames : (arrivals new).map Prod.fst = offers.map Prod.fst :=
        List.forall₂_eq_eq_eq ▸ List.forall₂_map_left_iff.mpr
          (List.forall₂_map_right_iff.mpr (hoffers.imp fun _ _ ho => ho.1))
      rw [Function.update_self, hnew, hmine, ← hnames, ← map_fst_arrivals, ← map_fst_arrivals,
        arrivals_append, List.map_append]
    · have hothers : (offers.map fun o => (k, o)).filter (·.1 = k') = [] := by
        simp [List.filter_map, Function.comp_def, Ne.symm hk]
      rw [Function.update_of_ne hk, hothers, List.map_nil, List.nil_append]
  acked n hn := by
    obtain ⟨k', i', m, hoffered, hacked⟩ := h.acked n hn
    refine ⟨k', i', m, List.mem_append_right _ hoffered, ?_⟩
    dsimp only
    by_cases hk : k' = k
    · subst hk
      rw [Function.update_self, hnew]
      exact List.mem_append_right _ hacked
    · rwa [Function.update_of_ne hk]

/-- **One step** keeps the books. -/
theorem Books.step (h : Books B C wire w) (hs : Exchange B C wire w w') : Books B C wire w' := by
  cases hs with
  | send hstep hnew => exact h.send hstep hnew
  | receive hok hstep hnew hoffers => exact h.receive hok hstep hnew hoffers
  | @acked k i m n hacked hoffered =>
    refine ⟨h.toOutbox, h.reach, h.arrived, h.offered, h.names, fun n' hn' => ?_⟩
    rcases List.mem_cons.mp hn' with rfl | hn'
    · exact ⟨k, i, m, hoffered, hacked⟩
    · exact h.acked n' hn'

theorem books_of_reached (h : Reached B C wire w) : Books B C wire w := by
  induction h with
  | refl => exact books_start
  | tail _ hs ih => exact ih.step hs

/-- Of two messages that a consumer has been offered under one name, there is but one. -/
theorem Books.once (h : Books B C wire w) {k : ℕ} {m : MsgId} {n n' : ℕ}
    (hn : (k, m, n) ∈ w.offered) (hn' : (k, m, n') ∈ w.offered) : n = n' := by
  have hnodup : ((w.offered.filter (·.1 = k)).map fun o => o.2.1).Nodup := by
    rw [h.names k]
    exact (C.ledger (h.reach k)).once
  have hmine : ∀ {n}, (k, m, n) ∈ w.offered → (k, m, n) ∈ w.offered.filter (·.1 = k) :=
    fun hn => List.mem_filter.mpr ⟨hn, decide_eq_true rfl⟩
  have heq := List.inj_on_of_nodup_map hnodup (hmine hn) (hmine hn') rfl
  exact congrArg (fun o => o.2.2) heq

/-- **At least once**: what is told of the books, and of the journals. -/
theorem Books.atLeastOnce (h : Books B C wire w) : AtLeastOnce B C wire w where
  stored := h.stored
  made := h.made
  once _ _ _ _ := h.once
  handled n hn := by
    obtain ⟨k, i, m, hoffered, hacked⟩ := h.acked n hn
    obtain ⟨x, hx, harrived⟩ := h.arrived k m n hoffered
    obtain ⟨b, hdelivered⟩ := mem_arrivals.mp harrived
    have hledger := C.ledger (h.reach k)
    have hreturned := C.acked (h.reach k) i m hacked
    obtain ⟨value, hinvoked⟩ := hledger.returned m hreturned
    obtain ⟨r, hr, hunpack⟩ := hledger.invoked m value hinvoked
    obtain rfl := hledger.unique m _ _ _ _ hr hdelivered
    exact ⟨x, hx, k, m, value, hoffered, hinvoked, hreturned, hunpack⟩
  authentic k m value hinvoked := by
    obtain ⟨r, hr, hunpack⟩ := (C.ledger (h.reach k)).invoked m value hinvoked
    obtain ⟨n, x, hn, hx, rfl⟩ := h.offered k (m, r) (mem_arrivals.mpr ⟨true, hr⟩)
    exact ⟨n, x, hn, hx, hunpack⟩

end Exchange

end OpenframeAdapters.Queue
