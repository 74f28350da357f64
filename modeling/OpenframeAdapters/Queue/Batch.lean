import Mathlib.Data.List.Forall2
import OpenframeAdapters.Python.Tasks
import OpenframeAdapters.Queue.Producer

/-!
# Batches

`publish_batch()` of a producer, among any other calls of the same object. It reads the field with
the client again for every message.

## The model

* `Batch` — how far a batch has come, and what the broker has acknowledged of it so far.
* `Batching` — a producer, as far as its batches are concerned.
* `Acknowledges`, `PublishesPrefix` — what should hold of a batch at any time.
* `Spares` — the next message is accepted by `_serialise`, and the field is still set.
* `Careful` — the steps of a batch that find what they need.

## What is proved

* `Publisher.next_raises`, `Publisher.next_raw` — what the next message raises.
* `At.step` — a step of any call keeps it that the batch is `At` some point.
* `Run.acknowledges` — whatever the others do, and whatever fails, what the broker has acknowledged
  is a prefix of the messages.
* `Run.publishesPrefix` — all of them if the batch returns, and what is raised is an `AdapterError`,
  if every step is careful.
-/

namespace OpenframeAdapters.Queue

open Python OpenframeAdapters.Core

variable {M V H Ctx σ π ε : Type}

/-- `_serialise` and `_inject_trace_headers()` make that of the message. -/
def Serialiser.Makes (cd : Serialiser M V H Ctx) (ctx : Ctx) (message : M) (sent : V × H) : Prop :=
  cd.serialise message = .ok sent.1 ∧ sent.2 = cd.injectTraceHeaders ctx

/-- One after the other. -/
abbrev Serialiser.MakesAll (cd : Serialiser M V H Ctx) (ctx : Ctx) : List M → List (V × H) → Prop :=
  List.Forall₂ (cd.Makes ctx)

/-- The exception is one that the clauses around the sends of a batch name. -/
def Publisher.catches (P : Publisher) (exc : PyExc) : Prop :=
  (dispatch (P.errors "publish_batch") exc).isSome = true

/-- What a batch needs to go on with these messages. -/
def Publisher.Spares (P : Publisher) (cd : Serialiser M V H Ctx) (field : Option ℕ) :
    List M → Prop
  | [] => P.flushes = true → field ≠ none
  | message :: _ =>
    match cd.serialise message with
    | .error exc => P.catches exc
    | .ok _ => field ≠ none

/-- A batch of these messages: what the broker has acknowledged, and where the call is. -/
inductive Batch (cd : Serialiser M V H Ctx) (ctx : Ctx) (messages : List M) :
    List (V × H) → Progress M V H Ctx → Prop
  /-- It awaits a send. -/
  | sending {done message rest log sent} : messages = done ++ message :: rest →
    cd.MakesAll ctx done log → cd.Makes ctx message sent →
    Batch cd ctx messages log (.inl (.many sent rest ctx))
  /-- It awaits `flush()`. -/
  | flushing {log} : cd.MakesAll ctx messages log → Batch cd ctx messages log (.inl .flushing)
  /-- It has returned. -/
  | returned {log} : cd.MakesAll ctx messages log → Batch cd ctx messages log (.inr none)
  /-- It has raised. -/
  | raised {done rest log x} : messages = done ++ rest → cd.MakesAll ctx done log →
    Batch cd ctx messages log (.inr (some x))

section Batch

variable {P : Publisher} {cd : Serialiser M V H Ctx} {ctx : Ctx} {messages : List M}
  {log : List (V × H)}

/-! The cases of `next`. -/

theorem next_nil (h : P.flushes = false) (field : Option ℕ) :
    P.next cd field ctx [] = .inr none := by
  simp [Publisher.next, h]

theorem next_nil_none (h : P.flushes = true) :
    P.next cd none ctx [] = .inr (some (Core.translate (P.errors "publish_batch") attributeError)) := by
  simp [Publisher.next, h]

theorem next_nil_some (h : P.flushes = true) (c : ℕ) :
    P.next cd (some c) ctx [] = .inl .flushing := by
  simp [Publisher.next, h]

section Cons

variable {message : M} {rest : List M} {exc : PyExc} {value : V}

theorem next_cons_error (h : cd.serialise message = .error exc) (field : Option ℕ) :
    P.next cd field ctx (message :: rest) =
      .inr (some (Core.translate (P.errors "publish_batch") exc)) := by
  simp [Publisher.next, h]

theorem next_cons_none (h : cd.serialise message = .ok value) :
    P.next cd none ctx (message :: rest) =
      .inr (some (Core.translate (P.errors "publish_batch") attributeError)) := by
  simp [Publisher.next, h]

theorem next_cons_some (h : cd.serialise message = .ok value) (c : ℕ) :
    P.next cd (some c) ctx (message :: rest) =
      .inl (.many (value, cd.injectTraceHeaders ctx) rest ctx) := by
  simp [Publisher.next, h]

end Cons

/-- What has been acknowledged is a prefix. -/
theorem Batch.isPrefix {p : Progress M V H Ctx} (h : Batch cd ctx messages log p) :
    ∃ done rest, messages = done ++ rest ∧ cd.MakesAll ctx done log := by
  cases h with
  | @sending done message rest _ _ hmessages hlog _ => exact ⟨done, message :: rest, hmessages, hlog⟩
  | flushing hlog => exact ⟨messages, [], by simp, hlog⟩
  | returned hlog => exact ⟨messages, [], by simp, hlog⟩
  | @raised done rest _ _ hmessages hlog => exact ⟨done, rest, hmessages, hlog⟩

/-- **The next message** is the one after those that have been acknowledged. -/
theorem Batch.next {done rest : List M} (hmessages : messages = done ++ rest)
    (hlog : cd.MakesAll ctx done log) (field : Option ℕ) :
    Batch cd ctx messages log (P.next cd field ctx rest) := by
  cases rest with
  | nil =>
    have hall : cd.MakesAll ctx messages log := by
      rwa [hmessages, List.append_nil]
    cases hflushes : P.flushes with
    | false =>
      rw [next_nil hflushes]
      exact .returned hall
    | true =>
      cases field with
      | none =>
        rw [next_nil_none hflushes]
        exact .raised hmessages hlog
      | some c =>
        rw [next_nil_some hflushes]
        exact .flushing hall
  | cons message rest =>
    cases hvalue : cd.serialise message with
    | error exc =>
      rw [next_cons_error hvalue]
      exact .raised hmessages hlog
    | ok value =>
      cases field with
      | none =>
        rw [next_cons_none hvalue]
        exact .raised hmessages hlog
      | some c =>
        rw [next_cons_some hvalue]
        exact .sending hmessages hlog ⟨hvalue, rfl⟩

/-- The awaited send has been acknowledged. -/
theorem Batch.sent {p : Sending M V H Ctx} (h : Batch cd ctx messages log (.inl p))
    (field : Option ℕ) :
    Batch cd ctx messages (log ++ p.acknowledged.toList) (P.sent cd field p) := by
  cases h with
  | @sending done message rest _ sent hmessages hlog hsent =>
    have hmore : messages = (done ++ [message]) ++ rest := by
      rw [hmessages, List.append_assoc, List.singleton_append]
    have hlog' : cd.MakesAll ctx (done ++ [message]) (log ++ [sent]) :=
      List.rel_append hlog (.cons hsent .nil)
    exact .next hmore hlog' field
  | flushing hlog =>
    have hlog' : cd.MakesAll ctx messages (log ++ []) := by
      rwa [List.append_nil]
    exact .returned hlog'

/-- What the clauses name is translated. -/
theorem translate_of_catches {exc : PyExc} (h : P.catches exc) :
    ∃ err, Core.translate (P.errors "publish_batch") exc = .adapter err := by
  obtain ⟨err, herr⟩ := Option.isSome_iff_exists.mp h
  exact ⟨err, by rw [Core.translate, herr]⟩

/-- **What the next message raises** is an `AdapterError` if it finds what it needs. -/
theorem Publisher.next_raises {field : Option ℕ} {rest : List M} {x : Raised}
    (hspares : P.Spares cd field rest) (h : P.next cd field ctx rest = .inr (some x)) :
    ∃ err, x = .adapter err := by
  cases rest with
  | nil =>
    cases hflushes : P.flushes with
    | false =>
      rw [next_nil hflushes] at h
      cases h
    | true =>
      cases field with
      | none => exact absurd rfl (hspares hflushes)
      | some c =>
        rw [next_nil_some hflushes] at h
        cases h
  | cons message rest =>
    unfold Publisher.Spares at hspares
    cases hvalue : cd.serialise message with
    | error exc =>
      simp only [hvalue] at hspares
      rw [next_cons_error hvalue] at h
      obtain ⟨err, herr⟩ := translate_of_catches hspares
      obtain rfl := Option.some.inj (Sum.inr.inj h)
      exact ⟨err, herr⟩
    | ok value =>
      simp only [hvalue] at hspares
      cases field with
      | none => exact absurd rfl hspares
      | some c =>
        rw [next_cons_some hvalue] at h
        cases h

/-- Without that it raises something else, as long as the clauses do not name `AttributeError`. -/
theorem Publisher.next_raw {field : Option ℕ} {rest : List M} (hraw : ¬ P.catches attributeError)
    (h : ¬ P.Spares cd field rest) : ∃ exc, P.next cd field ctx rest = .inr (some (.raw exc)) := by
  have htranslate : ∀ {exc}, ¬ P.catches exc →
      Core.translate (P.errors "publish_batch") exc = .raw exc := by
    intro exc hexc
    have hnone : dispatch (P.errors "publish_batch") exc = none :=
      Option.not_isSome_iff_eq_none.mp hexc
    rw [Core.translate, hnone]
  cases rest with
  | nil =>
    have hneeds : P.flushes = true ∧ field = none := by
      simpa [Publisher.Spares] using h
    obtain ⟨hflushes, rfl⟩ := hneeds
    exact ⟨attributeError, by rw [next_nil_none hflushes, htranslate hraw]⟩
  | cons message rest =>
    unfold Publisher.Spares at h
    cases hvalue : cd.serialise message with
    | error exc =>
      simp only [hvalue] at h
      exact ⟨exc, by rw [next_cons_error hvalue, htranslate h]⟩
    | ok value =>
      simp only [hvalue, ne_eq, not_not] at h
      subst h
      exact ⟨attributeError, by rw [next_cons_none hvalue, htranslate hraw]⟩

end Batch

/-! ### Batches among other calls -/

/-- A producer that serialises with `cd`, as far as its batches are concerned. -/
structure Batching (cd : Serialiser M V H Ctx) (σ π ε : Type) where
  /-- Its clauses, and whether it flushes. -/
  publisher : Publisher
  /-- The code. -/
  resume : Resume σ π ε
  /-- The field that is read for every message. -/
  field : σ → Option ℕ
  /-- What the broker has acknowledged, each with the call it was sent by, newest first. -/
  acked : σ → List (ℕ × (V × H))
  /-- No call has been made. -/
  idle : π
  /-- `publish()` or `publish_batch()` is suspended, or a call is over. -/
  task : Progress M V H Ctx → π
  /-- `publish_batch()` is called. -/
  publishBatch : Ctx → List M → ε
  /-- The awaited call returns. -/
  ok : ε
  /-- The awaited call raises. -/
  raise : PyExc → ε
  tells : ∀ {p p'}, task p = task p' → p = p'
  begins : ∀ {i s ctx messages}, resume i s idle (publishBatch ctx messages) =
    some (s, task (publisher.publishBatch cd (field s) ctx messages))
  events : ∀ {i s p ev r}, resume i s (task (.inl p)) ev = some r →
    (ev = ok ∧ r.2 = task (publisher.sent cd (field s) p) ∧
      acked r.1 = (p.acknowledged.map fun m => (i, m)).toList ++ acked s) ∨
    ∃ exc, ev = raise exc ∧ r = (s, task (.inr (some (publisher.notSent exc p))))
  ended : ∀ {i s x ev}, resume i s (task (.inr x)) ev = none
  frame : ∀ {i s p ev r}, resume i s p ev = some r →
    ∃ new, acked r.1 = new ++ acked s ∧ ∀ a ∈ new, a.1 = i
  leaves : ∀ {i s p ev r}, resume i s p ev = some r → r.2 ≠ idle

namespace Batching

variable {cd : Serialiser M V H Ctx} (B : Batching cd σ π ε)

/-- What the broker has acknowledged of the messages of a call, in order. -/
def log (s : σ) (i : ℕ) : List (V × H) := ((B.acked s).filter (·.1 = i)).reverse.map Prod.snd

/-- The steps of call `i` that find what they need. A send fails with an exception that its clauses
name. -/
structure Careful (i : ℕ) (l : Loop σ π) (j : ℕ) (ev : ε) : Prop where
  /-- It is called. -/
  called : j = i → ∀ ctx messages, ev = B.publishBatch ctx messages → B.field l.shared ≠ none →
    B.publisher.Spares cd (B.field l.shared) messages
  /-- A send has returned. -/
  sent : j = i → ev = B.ok → ∀ sent rest ctx, l.task i = B.task (.inl (.many sent rest ctx)) →
    B.publisher.Spares cd (B.field l.shared) rest
  /-- A send has failed. -/
  failed : j = i → ∀ exc, ev = B.raise exc → B.publisher.catches exc

/-- `publish_batch(messages)` is called as call `i` in a state that calls have reached, where the
field is `field`, and then `l` is reached. The steps from the call on are those that `ok` admits. -/
inductive Run (ok : Guard σ π ε) (init : Loop σ π) (i : ℕ) (ctx : Ctx) (messages : List M) :
    Option ℕ → Loop σ π → Prop
  | mk {l₀ l₁ l} : Reach B.resume (fun _ _ _ => True) init l₀ → l₀.task i = B.idle →
    ok l₀ i (B.publishBatch ctx messages) →
    l₀.step B.resume i (B.publishBatch ctx messages) = some l₁ → Reach B.resume ok l₁ l →
    Run ok init i ctx messages (B.field l₀.shared) l

/-- What the broker has acknowledged is a prefix, and all of the messages if the call returns. -/
structure Acknowledges (i : ℕ) (ctx : Ctx) (messages : List M) (l : Loop σ π) : Prop where
  /-- In order, each of them once. -/
  isPrefix : ∃ done rest, messages = done ++ rest ∧ cd.MakesAll ctx done (B.log l.shared i)
  /-- All of them. -/
  returned : l.task i = B.task (.inr none) → cd.MakesAll ctx messages (B.log l.shared i)

/-- What should hold of a batch: what is raised is an `AdapterError`, or the `RuntimeError` of a
producer that is not started. -/
structure PublishesPrefix (i : ℕ) (ctx : Ctx) (messages : List M) (field : Option ℕ)
    (l : Loop σ π) : Prop extends B.Acknowledges i ctx messages l where
  /-- What is raised. -/
  raised : ∀ x, l.task i = B.task (.inr (some x)) →
    (∃ err, x = .adapter err) ∨ (x = .raw runtimeError ∧ field = none)

section Run

variable {B} {init l₀ l₁ l : Loop σ π} {ok : Guard σ π ε} {i : ℕ} {ctx : Ctx} {messages : List M}
  {field : Option ℕ}

theorem log_eq {s s' : σ} {new : List (ℕ × (V × H))} (h : B.acked s' = new ++ B.acked s) (i : ℕ) :
    B.log s' i = B.log s i ++ ((new.filter (·.1 = i)).reverse.map Prod.snd) := by
  simp [log, h]

/-- Nobody else's steps count. -/
theorem log_frame {j : ℕ} {s : σ} {p : π} {ev : ε} {r : σ × π} (h : B.resume j s p ev = some r)
    (hne : i ≠ j) : B.log r.1 i = B.log s i := by
  obtain ⟨new, hnew, hmine⟩ := B.frame h
  have hnone : new.filter (·.1 = i) = [] := by
    rw [List.filter_eq_nil_iff]
    intro a ha
    simp [hmine a ha, Ne.symm hne]
  simp [log_eq hnew, hnone]

/-- What is acknowledged to a call comes last. -/
theorem log_sent {s s' : σ} {sent : Option (V × H)}
    (h : B.acked s' = (sent.map fun m => (i, m)).toList ++ B.acked s) :
    B.log s' i = B.log s i ++ sent.toList := by
  rw [log_eq h]
  cases sent <;> simp

/-- A call that has not been made has sent nothing. -/
theorem log_of_idle (hinit : ∀ j, B.log init.shared j = [])
    (h : Reach B.resume (fun _ _ _ => True) init l) : l.task i = B.idle → B.log l.shared i = [] := by
  refine h.invariant (I := fun l => l.task i = B.idle → B.log l.shared i = []) (fun _ => hinit i) ?_
  intro l j ev s p _ hkept _ hstep hidle
  by_cases hj : i = j
  · subst hj
    have hleft : p = B.idle := (Function.update_self i p l.task).symm.trans hidle
    exact absurd hleft (B.leaves hstep)
  · have hstays : l.task i = B.idle := (Function.update_of_ne hj p l.task).symm.trans hidle
    have hlog : B.log s i = B.log l.shared i := log_frame hstep hj
    exact hlog.trans (hkept hstays)

/-- How far the batch has come. -/
structure At (B : Batching cd σ π ε) (i : ℕ) (ctx : Ctx) (messages : List M) (l : Loop σ π)
    (p : Progress M V H Ctx) : Prop where
  /-- Where it is. -/
  task : l.task i = B.task p
  /-- What has been acknowledged. -/
  batch : Batch cd ctx messages (B.log l.shared i) p

/-- The call is made. -/
theorem at_called (hlog : B.log l₀.shared i = []) (hidle : l₀.task i = B.idle)
    (hstep : l₀.step B.resume i (B.publishBatch ctx messages) = some l₁) :
    At B i ctx messages l₁ (B.publisher.publishBatch cd (B.field l₀.shared) ctx messages) := by
  obtain ⟨s, p, hresume, rfl⟩ := Loop.step_eq_some_iff.mp hstep
  rw [hidle, B.begins, Option.some.injEq, Prod.mk.injEq] at hresume
  obtain ⟨rfl, rfl⟩ := hresume
  refine ⟨Function.update_self .., ?_⟩
  have hnone : cd.MakesAll ctx [] (B.log l₀.shared i) := by
    rw [hlog]
    exact .nil
  unfold Publisher.publishBatch
  cases B.field l₀.shared with
  | none => exact .raised (List.nil_append messages).symm hnone
  | some c => exact .next (List.nil_append messages).symm hnone _

/-- **One step**: the batch goes on as its own code says, whoever runs. -/
theorem At.step {p : Progress M V H Ctx} (h : At B i ctx messages l p) {j : ℕ} {ev : ε} {s : σ}
    {q : π} (hresume : B.resume j l.shared (l.task j) ev = some (s, q)) :
    ∃ p', At B i ctx messages ⟨s, Function.update l.task j q⟩ p' ∧
      (p' = p ∨ ∃ sending, j = i ∧ p = .inl sending ∧
        ((ev = B.ok ∧ p' = B.publisher.sent cd (B.field l.shared) sending) ∨
          ∃ exc, ev = B.raise exc ∧ p' = .inr (some (B.publisher.notSent exc sending)))) := by
  by_cases hj : i = j
  · subst hj
    rw [h.task] at hresume
    cases p with
    | inr x => cases B.ended.symm.trans hresume
    | inl sending =>
      obtain ⟨hev, htask, hacked⟩ | ⟨exc, hev, hr⟩ := B.events hresume
      · have hlog : B.log s i = B.log l.shared i ++ sending.acknowledged.toList := log_sent hacked
        refine ⟨_, ⟨(Function.update_self i q l.task).trans htask, ?_⟩,
          .inr ⟨sending, rfl, rfl, .inl ⟨hev, rfl⟩⟩⟩
        exact hlog.symm ▸ h.batch.sent _
      · obtain ⟨rfl, rfl⟩ := Prod.mk.inj hr
        refine ⟨_, ⟨Function.update_self .., ?_⟩, .inr ⟨sending, rfl, rfl, .inr ⟨exc, hev, rfl⟩⟩⟩
        obtain ⟨done, rest, hmessages, hlog⟩ := h.batch.isPrefix
        exact .raised hmessages hlog
  · have hlog : B.log s i = B.log l.shared i := log_frame hresume hj
    refine ⟨p, ⟨(Function.update_of_ne hj q l.task).trans h.task, ?_⟩, .inl rfl⟩
    exact hlog.symm ▸ h.batch

/-- Where a batch has come to. -/
theorem Run.exists_at (hinit : ∀ j, B.log init.shared j = [])
    (h : Run B ok init i ctx messages field l) : ∃ p, At B i ctx messages l p := by
  obtain ⟨hreach, hidle, -, hstep, hrun⟩ := h
  refine hrun.invariant (I := fun l => ∃ p, At B i ctx messages l p)
    ⟨_, at_called (log_of_idle hinit hreach hidle) hidle hstep⟩ ?_
  rintro l j ev s q - ⟨p, hat⟩ - hresume
  obtain ⟨p', hat', -⟩ := hat.step hresume
  exact ⟨p', hat'⟩

/-- **Acknowledgements**: whatever the other calls do, and whatever fails. -/
theorem Run.acknowledges (hinit : ∀ j, B.log init.shared j = [])
    (h : Run B ok init i ctx messages field l) : B.Acknowledges i ctx messages l := by
  obtain ⟨p, hat⟩ := h.exists_at hinit
  refine ⟨hat.batch.isPrefix, fun hreturned => ?_⟩
  obtain rfl := B.tells (hat.task.symm.trans hreturned)
  cases hat.batch with
  | returned hlog => exact hlog

/-- What a batch has raised so far is as it should be. -/
def Fine (field : Option ℕ) (p : Progress M V H Ctx) : Prop :=
  ∀ x, p = .inr (some x) → (∃ err, x = .adapter err) ∨ (x = .raw runtimeError ∧ field = none)

/-- **What is raised**, if every step of the batch is careful. -/
theorem Run.publishesPrefix (hinit : ∀ j, B.log init.shared j = [])
    (h : Run B (B.Careful i) init i ctx messages field l) :
    B.PublishesPrefix i ctx messages field l := by
  refine ⟨h.acknowledges hinit, ?_⟩
  obtain ⟨hreach, hidle, hok, hstep, hrun⟩ := h
  rename_i l₀ l₁
  have hfine : ∃ p, At B i ctx messages l p ∧ Fine (B.field l₀.shared) p := by
    refine hrun.invariant
      (I := fun l => ∃ p, At B i ctx messages l p ∧ Fine (B.field l₀.shared) p) ?_ ?_
    · refine ⟨_, at_called (log_of_idle hinit hreach hidle) hidle hstep, fun x hx => ?_⟩
      cases hfield : B.field l₀.shared with
      | none =>
        rw [hfield] at hx
        exact .inr ⟨(Option.some.inj (Sum.inr.inj hx)).symm, rfl⟩
      | some c =>
        have hspares := hok.called rfl ctx messages rfl (by simp [hfield])
        rw [hfield] at hx hspares
        exact .inl (Publisher.next_raises hspares hx)
    · rintro l j ev s q - ⟨p, hat, hp⟩ hcareful hresume
      obtain ⟨p', hat', rfl | ⟨sending, rfl, rfl, hmoved⟩⟩ := hat.step hresume
      · exact ⟨p', hat', hp⟩
      · refine ⟨p', hat', fun x hx => .inl ?_⟩
        obtain ⟨rfl, rfl⟩ | ⟨exc, rfl, rfl⟩ := hmoved
        · cases hat.batch with
          | @sending done message rest _ sent hmessages hlog hsent =>
            exact Publisher.next_raises (hcareful.sent rfl rfl sent rest ctx hat.task) hx
          | flushing _ => cases hx
        · obtain rfl := Option.some.inj (Sum.inr.inj hx)
          have hcaught := hcareful.failed rfl exc rfl
          cases hat.batch with
          | sending _ _ _ => exact translate_of_catches hcaught
          | flushing _ => exact translate_of_catches hcaught
  obtain ⟨p, hat, hp⟩ := hfine
  intro x hx
  exact hp x (B.tells (hat.task.symm.trans hx))

end Run

end Batching

end OpenframeAdapters.Queue
