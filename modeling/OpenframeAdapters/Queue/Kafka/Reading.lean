import OpenframeAdapters.Queue.Delivery
import OpenframeAdapters.Queue.Kafka.Sessions
import OpenframeAdapters.Store.Log

/-!
# How far a Kafka session has come

The positions that `commit()` takes over are those of a client, not of messages. This file says what a
session knows of the positions of its client.

## The model

* `Dealt` — the record at a place was taken, and its handler has returned, or it has failed.
* `Covers` — all that is behind the positions of the session's client has been dealt with, but for the
  message whose handler runs. The same holds of positions that are being committed.

## What is proved

* `Step.records`, `Step.prompt` — what a step writes: a message that unpacks is handed to the handler
  at once.
* `Step.covers`, `Step.commits` — a step that takes the next record keeps the positions covered, and
  commits nothing else.
-/

namespace OpenframeAdapters.Queue.Kafka

open Python OpenframeAdapters.Core Store

variable {P B T Ctx : Type} {cd : Codec B T Ctx} {i : ℕ} {s s' : Shared P B T Ctx} {p : Task P Ctx}
  {e : Ev P B Ctx} {r : Shared P B T Ctx × Task P Ctx}

/-! ### What a session writes -/

/-- Where a session stands. -/
def Task.desk {P Ctx : Type} : Task P Ctx → Desk
  | .idle | .starting .. => ⟨some 0, none⟩
  | .polling v | .committing v _ => ⟨some v.count, none⟩
  | .handling v m _ => ⟨some v.count, some m⟩
  | _ => ⟨none, none⟩

theorem runsOut_startFailed (x : PyExc) (stale : Bool) :
    RunsOut s.journal (startFailed s x stale).1.journal (startFailed s x stale).2.desk := by
  unfold startFailed
  split_ifs <;> exact runsOut_same

theorem runsOut_teardown (res : Outcome) :
    RunsOut s.journal (teardown i s res).1.journal (teardown i s res).2.desk := by
  unfold teardown
  split
  · exact runsOut_closed _ _
  · exact runsOut_same

theorem runsOut_close : RunsOut s.journal (close s).1.journal (close s).2.desk := by
  unfold close
  split <;> exact runsOut_same

theorem records_startLoop (own : ℕ) (ctx : Ctx) :
    Records (R := Record P B) cd.unpack i s.journal ⟨some 0, none⟩ (startLoop i s own ctx).1.journal
      (startLoop i s own ctx).2.desk := by
  unfold startLoop
  dsimp only
  split
  · exact records_same
  · exact (runsOut_teardown (s := { s.setClient own _ with running := true }) _).records

/-- `nack()` writes notes. -/
theorem notes_nack (v : Locals Ctx) :
    ∃ new, (nack i s v).1.journal = new ++ s.journal ∧ (∀ x ∈ new, x.note) ∧
      ((nack i s v).2.desk = ⟨some v.count, none⟩ ∨ (nack i s v).2.desk = ⟨none, none⟩) := by
  unfold nack
  split
  · next m _ => exact ⟨[.settled i .nack m], rfl, by simp [Entry.note], .inl rfl⟩
  · obtain ⟨new, hj, hnew, hdesk⟩ :=
      runsOut_teardown (i := i) (s := s) (.raised (.raw unboundLocalError) false)
    exact ⟨new, hj, note_of_connection hnew, .inr hdesk⟩

/-- A message that has been taken fails. -/
theorem records_failed {v : Locals Ctx} (rec : Record P B) (b : Bool) (w : Locals Ctx)
    (hw : w.count = v.count + 1) :
    Records cd.unpack i s.journal ⟨some v.count, none⟩
      (nack i ((s.record (.delivered ⟨i, v.count⟩ rec b)).record (.failed ⟨i, v.count⟩)) w).1.journal
      (nack i ((s.record (.delivered ⟨i, v.count⟩ rec b)).record (.failed ⟨i, v.count⟩)) w).2.desk := by
  obtain ⟨new, hj, hnew, hdesk⟩ := notes_nack (i := i)
    (s := (s.record (.delivered ⟨i, v.count⟩ rec b)).record (.failed ⟨i, v.count⟩)) w
  have hnotes : ∀ x ∈ new ++ [.failed ⟨i, v.count⟩], x.note := by
    intro x hx
    rcases List.mem_append.mp hx with hx | hx
    · exact hnew x hx
    · rw [List.mem_singleton.mp hx]
      trivial
  rw [hj]
  have hsplit : new ++ ((s.record (.delivered ⟨i, v.count⟩ rec b)).record
      (.failed ⟨i, v.count⟩)).journal =
      (new ++ [.failed ⟨i, v.count⟩]) ++ .delivered ⟨i, v.count⟩ rec b :: s.journal := by
    simp [Shared.record]
  rw [hsplit]
  rcases hdesk with hdesk | hdesk
  · rw [hdesk, hw]
    exact .takes _ rec b hnotes (.inl rfl)
  · rw [hdesk]
    exact .takes _ rec b hnotes (.inr rfl)

theorem records_takeMessage {v : Locals Ctx} (rec : Record P B) :
    Records cd.unpack i s.journal ⟨some v.count, none⟩ (takeMessage cd i s v rec).1.journal
      (takeMessage cd i s v rec).2.desk := by
  unfold takeMessage
  dsimp only
  split_ifs with hrunning
  · split
    · next value hvalue =>
      split
      · next ctx hctx =>
        have hrunning : s.running = true := hrunning
        have hunpack : cd.unpack rec = some (value, ctx) := by simp [Codec.unpack, hvalue, hctx]
        dsimp only [Shared.record]
        rw [hrunning]
        exact .invokes hunpack
      · exact records_failed rec _ _ rfl
    · exact records_failed rec _ _ rfl
  · exact (runsOut_teardown (s := s.record (.delivered ⟨i, v.count⟩ rec s.running)) _).takes

/-- A step writes what `Records` allows. -/
theorem Step.records [DecidableEq P] (hs : Step cd i s p e r) :
    Records cd.unpack i s.journal p.desk r.1.journal r.2.desk := by
  cases hs with
  | subscribe => exact .notes [.opened i s.made] (by simp [Entry.note]) (.inl rfl)
  | notConstructed | notStarted => exact (runsOut_startFailed _ _).records
  | started => exact records_startLoop _ _
  | message => exact records_takeMessage (s := s.advance _ _) _
  | stop | iteratorRaised | handlerCancelled | commitCancelled => exact (runsOut_teardown _).records
  | @handled v m token =>
    unfold ack
    dsimp only
    split
    all_goals exact .returns [.settled i .ack m] (by simp [Entry.note])
  | @handlerFailed v m token =>
    obtain ⟨new, hj, hnew, hdesk⟩ :=
      notes_nack (i := i) (s := s.record (.failed m)) { v with ctx := token }
    have hnotes : ∀ x ∈ new ++ [.failed m], x.note := by
      intro x hx
      rcases List.mem_append.mp hx with hx | hx
      · exact hnew x hx
      · rw [List.mem_singleton.mp hx]
        trivial
    have hsplit : new ++ (s.record (.failed m)).journal = (new ++ [.failed m]) ++ s.journal := by
      simp [Shared.record]
    rw [hj, hsplit]
    rcases hdesk with hdesk | hdesk
    · rw [hdesk]
      exact .notes _ hnotes (.inl rfl)
    · rw [hdesk]
      exact .notes _ hnotes (.inr rfl)
  | committed | commitFailed => exact records_same
  | close => exact runsOut_close.records
  | _ => exact runsOut_same.records

/-- The handler of every message that unpacks has been called. -/
def Prompt (cd : Codec B T Ctx) (j : Journal (Record P B) (T × Ctx)) : Prop :=
  ∀ m rec value, .delivered m rec true ∈ j → cd.unpack rec = some value → .invoked m value ∈ j

theorem Prompt.quiet (h : Prompt cd s.journal) (hq : Quiet s s') : Prompt cd s'.journal :=
  fun m rec value hm hunpack => hq.journal.subset (h m rec value (hq.delivered hm) hunpack)

theorem prompt_takeMessage (h : Prompt cd s.journal) (v : Locals Ctx) (rec : Record P B) :
    Prompt cd (takeMessage cd i s v rec).1.journal := by
  have hq : Quiet (s.record (.delivered ⟨i, v.count⟩ rec s.running)) (takeMessage cd i s v rec).1 :=
    quiet_takeMessage v rec
  intro m rec' value hm hunpack
  have hm := hq.delivered hm
  rcases List.mem_cons.mp hm with hm | hm
  · obtain ⟨rfl, rfl, hrunning⟩ := Entry.delivered.inj hm
    obtain ⟨message, hvalue, ctx, hctx, rfl⟩ : ∃ message, cd.deserialise rec'.value = some message ∧
        ∃ ctx, (cd.carrier rec'.headers).bind cd.extract = some ctx ∧ (message, ctx) = value := by
      simpa only [Codec.unpack, Option.bind_eq_some_iff, Option.map_eq_some_iff] using hunpack
    have htake : (takeMessage cd i s v rec').1.journal =
        .invoked ⟨i, v.count⟩ (message, ctx) :: .delivered ⟨i, v.count⟩ rec' s.running :: s.journal := by
      simp [takeMessage, Shared.record, ← hrunning, hvalue, hctx]
    rw [htake]
    exact List.mem_cons_self
  · exact hq.journal.subset (.tail _ (h m rec' value hm hunpack))

theorem Step.prompt [DecidableEq P] (hs : Step cd i s p e r) (h : Prompt cd s.journal) :
    Prompt cd r.1.journal := by
  have heffect := hs.effect
  generalize hr : r.1 = s' at heffect ⊢
  cases heffect with
  | construct =>
    exact fun m rec value hm hunpack =>
      .tail _ (h m rec value ((List.mem_cons.mp hm).resolve_left nofun) hunpack)
  | take =>
    cases hs with
    | message => exact hr ▸ prompt_takeMessage (s := s.advance _ _) h _ _
  | commit => exact h
  | quiet hq => exact h.quiet hq

/-! ### What has been dealt with -/

/-- The message is the record at that place, and has been taken while the consumer was running. -/
def TakenAt (j : Journal (Record P B) (T × Ctx)) (m : MsgId) (q : P) (o : ℕ) : Prop :=
  ∃ rec, rec.partition = q ∧ rec.offset = o ∧ .delivered m rec true ∈ j

/-- The handler of the message has returned, or unpacking it or its handler has raised. -/
def Finished (j : Journal (Record P B) (T × Ctx)) (m : MsgId) : Prop :=
  .returned m ∈ j ∨ .failed m ∈ j

/-- The record at that place has been dealt with. -/
def Dealt (j : Journal (Record P B) (T × Ctx)) (q : P) (o : ℕ) : Prop :=
  ∃ m, TakenAt j m q o ∧ Finished j m

section Dealt

variable {j j' : Journal (Record P B) (T × Ctx)} {m : MsgId} {q : P} {o : ℕ}

theorem TakenAt.subset (h : TakenAt j m q o) (hj : j ⊆ j') : TakenAt j' m q o := by
  obtain ⟨rec, hq, ho, hm⟩ := h
  exact ⟨rec, hq, ho, hj hm⟩

theorem Dealt.subset (h : Dealt j q o) (hj : j ⊆ j') : Dealt j' q o := by
  obtain ⟨m, htaken, hfinished⟩ := h
  exact ⟨m, htaken.subset hj, hfinished.imp (fun h => hj h) fun h => hj h⟩

end Dealt

/-! ### What the positions cover -/

variable {base : P → ℕ} {D D' : P → ℕ → Prop}

/-- The loop runs over the session's own client, and all behind the positions of that is so. -/
structure Covered (base : P → ℕ) (D : P → ℕ → Prop) (i : ℕ) (s : Shared P B T Ctx) (own iterator : ℕ) :
    Prop where
  /-- The loop runs over the session's own client. -/
  owns : LoopOwns i s own iterator
  /-- All behind its positions is so. -/
  below : Below base D (s.client own).position

/-- What session `i` knows of positions, if `D` has been dealt with. -/
def Covers (base : P → ℕ) (D : P → ℕ → Prop) (i : ℕ) (s : Shared P B T Ctx) : Task P Ctx → Prop
  | .starting own _ => Own i s own ∧ Below base D (s.client own).position
  | .polling v => Covered base D i s v.own v.iterator
  | .handling v m _ => Covered base (fun q o => D q o ∨ TakenAt s.journal m q o) i s v.own v.iterator
  | .committing v offsets => Covered base D i s v.own v.iterator ∧ Below base D offsets
  | _ => True

theorem Covered.mono {own iterator : ℕ} (h : Covered base D i s own iterator)
    (hD : ∀ q o, D q o → D' q o) : Covered base D' i s own iterator :=
  ⟨h.owns, h.below.mono hD⟩

theorem Covered.quiet {own iterator : ℕ} (h : Covered base D i s own iterator) (hq : Quiet s s') :
    Covered base D i s' own iterator :=
  ⟨h.owns.quiet hq, (hq.position own).symm ▸ h.below⟩

/-- Nothing is forgotten, and nothing that concerns the session happens. -/
theorem Covers.quiet (h : Covers base D i s p) (hq : Quiet s s') (hD : ∀ q o, D q o → D' q o) :
    Covers base D' i s' p := by
  cases p with
  | starting own ctx => exact ⟨h.1.quiet hq, (hq.position own).symm ▸ h.2.mono hD⟩
  | polling v => exact Covered.quiet (Covered.mono h hD) hq
  | handling v m token =>
    refine Covered.quiet (Covered.mono h ?_) hq
    rintro q o (hd | htaken)
    · exact .inl (hD q o hd)
    · exact .inr (htaken.subset hq.journal.subset)
  | committing v offsets => exact ⟨Covered.quiet (Covered.mono h.1 hD) hq, h.2.mono hD⟩
  | _ => trivial

theorem covers_of_not_active (h : ¬ p.active) : Covers base D i s p := by
  cases p with
  | starting | polling | handling | committing => exact absurd trivial h
  | _ => trivial

/-- The driver moves positions, and others commit. -/
theorem Covered.driver {own iterator : ℕ} (h : Covered base D i s own iterator)
    {client : ℕ → Client P} (hbelow : Below base D (client own).position) (committed : P → ℕ) :
    Covered base D i { s with client := client, committed := committed } own iterator :=
  ⟨⟨⟨h.owns.own.made, h.owns.own.opened, h.owns.own.consumer⟩, h.owns.iterator⟩, hbelow⟩

theorem Covers.driver (h : Covers base D i s p) {client : ℕ → Client P}
    (hbelow : ∀ (c : ℕ) (E : P → ℕ → Prop), (∀ q o, D q o → E q o) →
      Below base E (s.client c).position → Below base E (client c).position) (committed : P → ℕ) :
    Covers base D i { s with client := client, committed := committed } p := by
  have hsame (c : ℕ) (hc : Below base D (s.client c).position) : Below base D (client c).position :=
    hbelow c D (fun _ _ => id) hc
  cases p with
  | starting own ctx => exact ⟨⟨h.1.made, h.1.opened, h.1.consumer⟩, hsame own h.2⟩
  | polling v => exact Covered.driver h (hsame _ h.below) committed
  | handling v m token =>
    exact Covered.driver h (hbelow _ _ (fun _ _ => .inl) h.below) committed
  | committing v offsets => exact ⟨h.1.driver (hsame _ h.1.below) committed, h.2⟩
  | _ => trivial

theorem Covered.nack {v : Locals Ctx} (h : Covered base D i s v.own v.iterator) :
    Covers base D i (nack i s v).1 (nack i s v).2 := by
  have hq : Quiet s (Kafka.nack i s v).1 := quiet_nack v
  revert hq
  unfold Kafka.nack
  split
  · exact fun hq => h.quiet hq
  · exact fun _ => covers_of_not_active (not_active_teardown _)

/-- What `ack()` commits is covered. -/
theorem Covered.ack {v : Locals Ctx} (h : Covered base D i s v.own v.iterator) (m : MsgId) :
    Covers base D i (ack i s v m).1 (ack i s v m).2 := by
  have h' : Covered base D i (s.record (.settled i .ack m)) v.own v.iterator :=
    h.quiet (quiet_record s (by simp))
  unfold Kafka.ack
  dsimp only
  split
  next c hc =>
    obtain rfl : c = v.own := by simpa [hc] using h'.owns.own.consumer
    exact ⟨h', h'.below⟩
  next => exact h'

theorem covers_startLoop {own : ℕ} (h : Own i s own) (hbelow : Below base D (s.client own).position)
    (ctx : Ctx) : Covers base D i (startLoop i s own ctx).1 (startLoop i s own ctx).2 := by
  have hq : Quiet s (startLoop i s own ctx).1 := quiet_startLoop own ctx
  revert hq
  unfold startLoop
  dsimp only
  split
  next c hc =>
    have hc : s.consumer = some c := hc
    obtain rfl : c = own := by simpa [hc] using h.consumer
    exact fun hq => ⟨⟨h.quiet hq, rfl⟩, (hq.position c).symm ▸ hbelow⟩
  next => exact fun _ => covers_of_not_active (not_active_teardown _)

/-- A record that has been taken fails. -/
theorem covers_failed {v : Locals Ctx} {rec : Record P B} {m : MsgId}
    (h : Covered base (fun q o => D q o ∨ q = rec.partition ∧ o = rec.offset) i s v.own v.iterator)
    (hm : .delivered m rec true ∈ s.journal)
    (hdealt : ∀ q o, Dealt (nack i (s.record (.failed m)) v).1.journal q o → D q o) :
    Covers base D i (nack i (s.record (.failed m)) v).1 (nack i (s.record (.failed m)) v).2 := by
  refine Covered.nack ((h.quiet (quiet_record s (by simp))).mono ?_)
  rintro q o (hd | ⟨rfl, rfl⟩)
  · exact hd
  · have hfailed : Dealt (s.record (.failed m)).journal rec.partition rec.offset :=
      ⟨m, ⟨rec, rfl, rfl, .tail _ hm⟩, .inr List.mem_cons_self⟩
    exact hdealt _ _ (hfailed.subset (quiet_nack v).journal.subset)

/-- The record that is taken is in hand, or it has failed, or the session is over. -/
theorem covers_takeMessage {v : Locals Ctx} {rec : Record P B}
    (h : Covered base (fun q o => D q o ∨ q = rec.partition ∧ o = rec.offset) i s v.own v.iterator)
    (hdealt : ∀ q o, Dealt (takeMessage cd i s v rec).1.journal q o → D q o) :
    Covers base D i (takeMessage cd i s v rec).1 (takeMessage cd i s v rec).2 := by
  have hdelivered : Covered base (fun q o => D q o ∨ q = rec.partition ∧ o = rec.offset) i
      (s.record (.delivered ⟨i, v.count⟩ rec s.running)) v.own v.iterator :=
    ⟨⟨⟨h.owns.own.made, .tail _ h.owns.own.opened, h.owns.own.consumer⟩, h.owns.iterator⟩, h.below⟩
  have htaken (hrunning : s.running = true) : .delivered ⟨i, v.count⟩ rec true ∈
      (s.record (.delivered ⟨i, v.count⟩ rec s.running)).journal := by
    rw [hrunning]
    exact List.mem_cons_self
  revert hdealt
  unfold takeMessage
  dsimp only
  split_ifs with hrunning
  · split
    · split
      · intro _
        refine Covered.mono (hdelivered.quiet (quiet_record _ (by simp))) ?_
        rintro q o (hd | ⟨rfl, rfl⟩)
        · exact .inl hd
        · exact .inr ⟨rec, rfl, rfl, .tail _ (htaken hrunning)⟩
      · exact covers_failed hdelivered (htaken hrunning)
    · exact covers_failed hdelivered (htaken hrunning)
  · exact fun _ => covers_of_not_active (not_active_teardown _)

variable [DecidableEq P]

/-- **A step** that takes the next record keeps the positions covered. -/
theorem Step.covers (hs : Step cd i s p e r) (h : Covers base D i s p)
    (hkept : Below base D fun q => some (s.committed q))
    (hnext : ∀ v rec, p = .polling v → e = .message rec →
      rec.offset = ((s.client v.iterator).position rec.partition).getD (s.committed rec.partition))
    (hD : ∀ q o, D q o → D' q o) (hdealt : ∀ q o, Dealt r.1.journal q o → D' q o) :
    Covers base D' i r.1 r.2 := by
  cases hs with
  | subscribe =>
    refine ⟨Own.construct s i, ?_⟩
    have hposition : ((s.construct i).client s.made).position = fun _ => none := by
      simp [Shared.construct, Shared.setClient, Shared.record]
    rw [hposition]
    exact below_unset
  | notConstructed | notStarted => exact covers_of_not_active (not_active_startFailed _ _)
  | started => exact covers_startLoop h.1 (h.2.mono hD) _
  | @message v rec hadm =>
    have h : Covered base D i s v.own v.iterator := h
    refine covers_takeMessage (s := s.advance v.iterator rec) ⟨⟨⟨h.owns.own.made, h.owns.own.opened,
      h.owns.own.consumer⟩, h.owns.iterator⟩, ?_⟩ hdealt
    have hposition : ((s.advance v.iterator rec).client v.own).position =
        Function.update (s.client v.own).position rec.partition (some (rec.offset + 1)) := by
      simp [Shared.advance, Shared.setClient, h.owns.iterator]
    rw [hposition]
    have hwide (q : P) (o : ℕ) (hd : D q o) : D' q o ∨ q = rec.partition ∧ o = rec.offset :=
      .inl (hD q o hd)
    refine (h.below.mono hwide).advance (hkept.mono hwide) ?_ (.inr ⟨rfl, rfl⟩)
    rw [← h.owns.iterator]
    exact hnext v rec rfl rfl
  | stop | iteratorRaised | handlerCancelled | commitCancelled =>
    exact covers_of_not_active (not_active_teardown _)
  | @handled v m token =>
    have h : Covered base (fun q o => D q o ∨ TakenAt s.journal m q o) i s v.own v.iterator := h
    refine Covered.ack (v := { v with ctx := token })
      ((h.quiet (quiet_record s (by simp))).mono ?_) m
    rintro q o (hd | htaken)
    · exact hD q o hd
    · have hreturned : Dealt (s.record (.returned m)).journal q o :=
        ⟨m, htaken.subset (List.subset_cons_self ..), .inl List.mem_cons_self⟩
      exact hdealt q o (hreturned.subset (quiet_ack _ m).journal.subset)
  | @handlerFailed v m token =>
    have h : Covered base (fun q o => D q o ∨ TakenAt s.journal m q o) i s v.own v.iterator := h
    refine Covered.nack (v := { v with ctx := token })
      ((h.quiet (quiet_record s (by simp))).mono ?_)
    rintro q o (hd | htaken)
    · exact hD q o hd
    · have hfailed : Dealt (s.record (.failed m)).journal q o :=
        ⟨m, htaken.subset (List.subset_cons_self ..), .inr List.mem_cons_self⟩
      exact hdealt q o (hfailed.subset (quiet_nack _).journal.subset)
  | committed =>
    exact Covered.mono (h.1.driver h.1.below _) hD
  | commitFailed => exact Covered.mono h.1 hD
  | close => exact covers_of_not_active not_active_close
  | _ => trivial

/-- **What is committed** has been dealt with. -/
theorem Step.commits (hs : Step cd i s p e r) (h : Covers base D i s p)
    (hkept : Below base D fun q => some (s.committed q)) :
    Below base D fun q => some (r.1.committed q) := by
  have heffect := hs.effect
  generalize r.1 = s' at heffect ⊢
  cases heffect with
  | construct => exact hkept
  | take _ hq =>
    rw [hq.committed]
    exact hkept
  | commit => exact h.2.commit hkept
  | quiet hq =>
    rw [hq.committed]
    exact hkept

end OpenframeAdapters.Queue.Kafka
