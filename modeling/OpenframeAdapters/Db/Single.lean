import OpenframeAdapters.Db.Merging
import OpenframeAdapters.Python.Atomic

/-!
# Requests that address one entity

All requests but `list()` address one entity. A repository that sends one command for such a request
leaves it to the server to keep its callers apart.

## The model

* `Single` — these requests.
* `Merging.one` — what the records answer, and `Merging.Kept` — what is never lost of that.
* `Serialised` — what should hold of a repository with many callers at the same time.

## What is proved

* `Merging.one_creator` — who of the callers has created an entity is not in doubt.
* `Merging.get_created` — an entity that has been created is found from then on.
* `serialised_of_refines` — a repository that refines the records, with one command for each request.
-/

namespace OpenframeAdapters.Db

open Python OpenframeAdapters.Core

open Store (Keyed)

variable {K T S β : Type}

/-- A request that addresses one entity. -/
inductive Single (K T : Type) where
  /-- `get(entity_id)`. -/
  | get (id : K)
  /-- `create(entity)`. -/
  | create (entity : T)
  /-- `update(entity)`. -/
  | update (entity : T)
  /-- `delete(entity_id)`. -/
  | delete (id : K)

/-- The request. -/
def Single.request : Single K T → Request K T
  | .get id => .get id
  | .create entity => .create entity
  | .update entity => .update entity
  | .delete id => .delete id

/-- The requests and what they return. -/
abbrev singles (K T : Type) : Driver where
  Call := Single K T
  Reply q := (operations K T).Reply q.request

section Records

variable [DecidableEq K] (M : Merging K T S) (O : Enumeration K S)

/-- The id of the entity that a request may change. -/
def Merging.changes : Single K T → Option K
  | .get _ => none
  | .create entity | .update entity => some (M.idOf entity)
  | .delete id => some id

/-- What the records answer. -/
def Merging.one : Backend (singles K T) Raised (Keyed K S) := fun m q r m' =>
  M.answer O q.request m = (r, m')

variable {M O} {D : Driver} {request : ℕ → Single K T} {m m' : Keyed K S} {l : List ℕ} {id : K}
  {h : List (Event ℕ (Answer D PyExc) (Answer (singles K T) Raised))}

/-- Other requests leave a record as it is. -/
theorem Merging.lookup_one {q : Single K T} {r : Except Raised ((singles K T).Reply q)}
    (hone : M.one O m q r m') (hother : M.changes q ≠ some id) : m'.lookup id = m.lookup id := by
  have hafter := Merging.lookup_after hone id
  rw [hafter]
  cases q with
  | get id' => rfl
  | create entity | update entity =>
    have hne : M.idOf entity ≠ id := fun heq => hother (congrArg some heq)
    cases r with
    | ok r => exact if_neg hne
    | error x => rfl
  | delete id' =>
    have hne : id' ≠ id := fun heq => hother (congrArg some heq)
    cases r with
    | ok r => exact if_neg hne
    | error x => rfl

/-- An entity that is there stays there, unless it is deleted. -/
theorem Merging.isSome_one {q : Single K T} {r : Except Raised ((singles K T).Reply q)}
    (hone : M.one O m q r m') (hdelete : q ≠ .delete id) (hid : (m.lookup id).isSome = true) :
    (m'.lookup id).isSome = true := by
  by_cases hother : M.changes q = some id
  · have hafter := Merging.lookup_after hone id
    rw [hafter]
    cases q with
    | get id' => cases hother
    | create entity =>
      cases r with
      | ok r => simp [Single.request, Merging.after, Option.some.inj hother]
      | error x => exact hid
    | update entity =>
      cases r with
      | ok r => simpa [Single.request, Merging.after, Option.some.inj hother] using hid
      | error x => exact hid
    | delete id' =>
      obtain rfl := Option.some.inj hother
      exact absurd rfl hdelete
  · rw [Merging.lookup_one hone hother]
    exact hid

/-- An entity that is created is there. -/
theorem Merging.stored_of_created {entity : T} {r : T} (hone : M.one O m (.create entity) (.ok r) m') :
    m'.lookup (M.idOf entity) = some (M.make entity) := by
  have hafter := Merging.lookup_after hone (M.idOf entity)
  simpa [Single.request, Merging.after] using hafter

/-- It was not there. -/
theorem Merging.lookup_of_created {entity : T} {r : T} (htaken : M.taken ≠ none)
    (hone : M.one O m (.create entity) (.ok r) m') : m.lookup (M.idOf entity) = none := by
  cases hm : m.lookup (M.idOf entity) with
  | none => rfl
  | some s =>
    obtain ⟨err, herr⟩ := Option.ne_none_iff_exists'.mp htaken
    have hanswer : M.create entity m = (.ok r, m') := hone
    rw [Merging.create_taken hm herr] at hanswer
    cases hanswer

/-- Others leave a record as it is, it stays there unless it is deleted, and one that is created is
there. -/
structure Merging.Kept (B : Backend (singles K T) Raised (Keyed K S)) : Prop where
  others : ∀ {m q r m' id}, B m q r m' → M.changes q ≠ some id → m'.lookup id = m.lookup id
  stays : ∀ {m q r m' id}, B m q r m' → q ≠ .delete id → (m.lookup id).isSome = true →
    (m'.lookup id).isSome = true
  fresh : ∀ {m entity r m'}, M.taken ≠ none → B m (.create entity) (.ok r) m' →
    m.lookup (M.idOf entity) = none
  created : ∀ {m entity r m'}, B m (.create entity) (.ok r) m' →
    m'.lookup (M.idOf entity) = some (M.make entity)

theorem Merging.kept_one : M.Kept (M.one O) where
  others := Merging.lookup_one
  stays := Merging.isSome_one
  fresh htaken hone := Merging.lookup_of_created htaken hone
  created hone := Merging.stored_of_created hone

variable {B : Backend (singles K T) Raised (Keyed K S)}

/-- While an entity is there, and nobody deletes it, it is not created. -/
theorem Merging.not_created (hB : M.Kept B) (htaken : M.taken ≠ none)
    (hleave : ∀ i a a', .leave i a ∈ h → .leave i a' ∈ h → a = a')
    (hdelete : ∀ i r, .leave i ⟨.delete id, r⟩ ∉ h)
    (hturn : InTurn (answering B request) h m l m') (hid : (m.lookup id).isSome = true)
    {i : ℕ} (hi : i ∈ l) {entity : T} {r : T} (hentity : M.idOf entity = id) :
    .leave i ⟨.create entity, .ok r⟩ ∉ h := by
  intro hcreated
  induction hturn with
  | nil m => cases hi
  | @cons j a m m₁ l m' ha hone _ ih =>
    obtain ⟨-, hone⟩ := hone
    rcases List.mem_cons.mp hi with rfl | hi
    · obtain rfl := hleave _ _ _ ha hcreated
      have hnone := hB.fresh htaken hone
      rw [hentity] at hnone
      rw [hnone] at hid
      cases hid
    · refine ih (hB.stays hone (fun heq => ?_) hid) hi
      obtain ⟨q, r⟩ := a
      obtain rfl : q = .delete id := heq
      exact hdelete j r ha

/-- **One creator**: of the calls that create an entity, while nobody deletes it, one returns. -/
theorem Merging.one_creator (hB : M.Kept B) (htaken : M.taken ≠ none)
    (hleave : ∀ i a a', .leave i a ∈ h → .leave i a' ∈ h → a = a')
    (hdelete : ∀ i r, .leave i ⟨.delete id, r⟩ ∉ h)
    (hturn : InTurn (answering B request) h m l m') {i j : ℕ} (hi : i ∈ l) (hj : j ∈ l)
    {e e' r r' : T} (he : M.idOf e = id) (he' : M.idOf e' = id)
    (hcreated : .leave i ⟨.create e, .ok r⟩ ∈ h) (hcreated' : .leave j ⟨.create e', .ok r'⟩ ∈ h) :
    i = j := by
  induction hturn with
  | nil m => cases hi
  | @cons k a m m₁ l m' ha hone hturn ih =>
    obtain ⟨-, hone⟩ := hone
    -- after the first one it is there
    have hfirst : ∀ {e r}, M.idOf e = id → .leave k ⟨.create e, .ok r⟩ ∈ h →
        (m₁.lookup id).isSome = true := by
      intro e r he hk
      obtain rfl := hleave _ _ _ ha hk
      rw [← he, hB.created hone]
      rfl
    rcases List.mem_cons.mp hi with rfl | hil
    · rcases List.mem_cons.mp hj with rfl | hjl
      · rfl
      · exact absurd hcreated' (Merging.not_created hB htaken hleave hdelete hturn
          (hfirst he hcreated) hjl he')
    · rcases List.mem_cons.mp hj with rfl | hjl
      · exact absurd hcreated (Merging.not_created hB htaken hleave hdelete hturn
          (hfirst he' hcreated') hil he)
      · exact ih hil hjl

variable {P : Except Raised (Option T) → Option T → Prop}

/-- What nobody changes is found. -/
theorem Merging.get_of_lookup (hB : M.Kept B)
    (hgot : ∀ {m r m'}, B m (.get id) r m' → P r ((m.lookup id).map (M.shown id)))
    (hleave : ∀ i a a', .leave i a ∈ h → .leave i a' ∈ h → a = a') {s : S}
    (hturn : InTurn (answering B request) h m l m') (hid : m.lookup id = some s)
    (hothers : ∀ i ∈ l, ∀ a, .leave i a ∈ h → M.changes a.call ≠ some id) {i : ℕ} (hi : i ∈ l)
    {r : Except Raised (Option T)} (hget : .leave i ⟨.get id, r⟩ ∈ h) :
    P r (some (M.shown id s)) := by
  induction hturn with
  | nil m => cases hi
  | @cons j a m m₁ l m' ha hone _ ih =>
    obtain ⟨-, hone⟩ := hone
    rcases List.mem_cons.mp hi with rfl | hi
    · obtain rfl := hleave _ _ _ ha hget
      have hfound := hgot hone
      rwa [hid] at hfound
    · refine ih ?_ (fun k hk => hothers k (List.mem_cons_of_mem _ hk)) hi
      rw [hB.others hone (hothers j (List.mem_cons_self ..) a ha)]
      exact hid

/-- **Found from then on**: who gets an entity after it has been created, while nobody else changes it,
gets what has been stored. -/
theorem Merging.get_created (hB : M.Kept B)
    (hgot : ∀ {m r m'}, B m (.get id) r m' → P r ((m.lookup id).map (M.shown id)))
    (hleave : ∀ i a a', .leave i a ∈ h → .leave i a' ∈ h → a = a')
    (hturn : InTurn (answering B request) h m l m') (hnodup : l.Nodup) {i j : ℕ}
    (hij : [i, j].Sublist l) {entity r : T} (hentity : M.idOf entity = id)
    (hcreated : .leave i ⟨.create entity, .ok r⟩ ∈ h)
    (hothers : ∀ k ≠ i, ∀ a, .leave k a ∈ h → M.changes a.call ≠ some id)
    {found : Except Raised (Option T)} (hget : .leave j ⟨.get id, found⟩ ∈ h) :
    P found (some (M.shown id (M.make entity))) := by
  induction hturn with
  | nil m => cases hij
  | @cons k a m m₁ l m' ha hone hturn ih =>
    obtain ⟨-, hone⟩ := hone
    obtain ⟨hk, hnodup⟩ := List.nodup_cons.mp hnodup
    by_cases hki : k = i
    · subst hki
      obtain rfl := hleave _ _ _ ha hcreated
      have hj : j ∈ l := by simpa using hij
      have hstored : m₁.lookup id = some (M.make entity) := hentity ▸ hB.created hone
      refine Merging.get_of_lookup hB hgot hleave hturn hstored (fun i hi => hothers i ?_) hj hget
      rintro rfl
      exact hk hi
    · refine ih hnodup ?_
      cases hij with
      | cons _ hij => exact hij
      | cons_cons => exact absurd rfl hki

end Records

/-- A repository with many callers at the same time. -/
structure Serialised [DecidableEq K] {D : Driver} {σ : Type} (M : Merging K T S) (O : Enumeration K S)
    (valid : Single K T → Prop) (code : (q : Single K T) → Operation D σ ((singles K T).Reply q))
    (B : Backend D PyExc β) (b₀ : β) : Prop where
  /-- Their requests are answered as if they came one at a time. -/
  explained : Explained (R := singles K T) valid code B (M.one O) b₀ ∅
  /-- If an id that is taken is refused, then of those that create an entity, while nobody deletes it,
  one can have succeeded. -/
  oneCreator : M.taken ≠ none → ∀ request h b, (∀ i, valid (request i)) →
    Crowd (R := singles K T) code B request b₀ h b → ∀ i j e e' r r', M.idOf e = M.idOf e' →
    (∀ k r, .leave k ⟨.delete (M.idOf e), r⟩ ∉ h) → .leave i ⟨.create e, .ok r⟩ ∈ h →
    .leave j ⟨.create e', .ok r'⟩ ∈ h → i = j
  /-- Who gets an entity after it has been created, while nobody else changes it, gets what has been
  stored. -/
  visible : ∀ request h b, (∀ i, valid (request i)) →
    Crowd (R := singles K T) code B request b₀ h b → ∀ i j e r found,
    [.leave i ⟨.create e, .ok r⟩, .invoke j].Sublist h →
    (∀ k ≠ i, ∀ a, .leave k a ∈ h → M.changes a.call ≠ some (M.idOf e)) →
    .leave j ⟨.get (M.idOf e), found⟩ ∈ h → found = .ok (some (M.shown (M.idOf e) (M.make e)))

/-- **Many callers** of a repository that sends one command for each of these requests. -/
theorem serialised_of_refines [DecidableEq K] {D : Driver} {σ : Type} {M : Merging K T S}
    {O : Enumeration K S} {valid : Single K T → Prop}
    {code : (q : Single K T) → Operation D σ ((singles K T).Reply q)} {B : Backend D PyExc β}
    {Rel : β → Keyed K S → Prop} {point : Answer D PyExc → Bool} {b₀ : β} (hquiet : Quiet B point)
    (hpoint : ∀ q, valid q → (code q).HasPoint B point)
    (h : Refines (D := singles K T) valid (served B code) (M.one O) Rel) (h₀ : Rel b₀ ∅) :
    Serialised M O valid code B b₀ := by
  have hexplained := explained_of_refines hquiet hpoint h h₀
  refine ⟨hexplained, ?_, ?_⟩
  · intro htaken request hist b hvalid hcrowd i j e e' r r' hid hdelete hcreated hcreated'
    obtain ⟨order, m, hlin⟩ := hexplained request hist b hvalid hcrowd
    have hmem : ∀ {k a}, .leave k a ∈ hist → k ∈ order := fun hk =>
      (hlin.calls _).mpr (hcrowd.complete.invoke_of_leave hk)
    exact Merging.one_creator Merging.kept_one htaken (fun i a a' => hcrowd.complete.leave_inj) hdelete
      hlin.inTurn (hmem hcreated) (hmem hcreated') rfl hid.symm hcreated hcreated'
  · intro request hist b hvalid hcrowd i j e r found hij hothers hget
    obtain ⟨order, m, hlin⟩ := hexplained request hist b hvalid hcrowd
    have hcreated : .leave i ⟨.create e, .ok r⟩ ∈ hist := hij.subset (List.mem_cons_self ..)
    refine Merging.get_created (P := fun r a => r = .ok a) Merging.kept_one (fun hone => ?_)
      (fun i a a' => hcrowd.complete.leave_inj) hlin.inTurn hlin.nodup (hlin.realTime i j _ hij) rfl
      hcreated hothers hget
    exact (Prod.mk.inj hone).1.symm

/-! ### A race -/

section Race

variable [DecidableEq K] {M : Merging K T S} {O : Enumeration K S} {valid : Single K T → Prop}
  {e e' : T} {id : K}

/-- Two callers create an entity at the same time, and a third one gets it afterwards. -/
def race (e e' : T) (id : K) : ℕ → Single K T
  | 0 => .create e
  | 1 => .create e'
  | _ => .get id

/-- A history of the race, in which both of the two are under way before they have their answers. -/
def Race {D : Driver} {σ : Type} (code : (q : Single K T) → Operation D σ ((singles K T).Reply q))
    (B : Backend D PyExc β) (b₀ : β) (e e' : T) (id : K)
    (h : List (Event ℕ (Answer D PyExc) (Answer (singles K T) Raised))) : Prop :=
  (∃ b, Crowd (R := singles K T) code B (race e e' id) b₀ h b) ∧ [.invoke 0, .invoke 1] <+: h

/-- Call `i` has created an entity, call `j` has had its answer, and an entity has been found. -/
def Raced {M : Type} (h : List (Event ℕ M (Answer (singles K T) Raised))) (i j : ℕ) (e e' : T)
    (r : Except Raised T) (id : K) (found : T) : Prop :=
  Left h [(i, ⟨.create e, .ok e⟩), (j, ⟨.create e', r⟩), (2, ⟨.get id, .ok (some found)⟩)]

/-- The answers, if the requests come one at a time. -/
def Merging.oneByOne (M : Merging K T S) (O : Enumeration K S) (qs : List (Single K T)) :
    List (Answer (singles K T) Raised) :=
  replies (D := singles K T) (fun q m => M.answer O q.request m) ∅ qs

/-- One of the two has been the first, and the third one has come after them. -/
theorem Merging.left_of_race {D : Driver} {B : Backend (singles K T) Raised (Keyed K S)}
    {h : List (Event ℕ (Answer D PyExc) (Answer (singles K T) Raised))} {m : Keyed K S} {order : List ℕ}
    (hB : ∀ {i m r m'}, B m (race e e' id i) r m' → M.answer O (race e e' id i).request m = (r, m'))
    (hlin : Linearises (answering B (race e e' id)) h ∅ m order)
    (hcalls : ∀ i, .invoke i ∈ h ↔ i ∈ [0, 1, 2])
    (hlater : ∀ i ∈ [0, 1], ∀ j ∈ [2], ∃ r, [.leave i r, .invoke j].Sublist h) :
    Left h ([0, 1, 2].zip (M.oneByOne O [.create e, .create e', .get id])) ∨
      Left h ([1, 0, 2].zip (M.oneByOne O [.create e', .create e, .get id])) := by
  have hleft : Left h (order.zip (M.oneByOne O (order.map (race e e' id)))) := by
    refine hlin.inTurn.left fun {i m a m'} hone => ?_
    obtain ⟨q, r⟩ := a
    obtain ⟨rfl, hone⟩ := hone
    exact ⟨rfl, hB hone⟩
  obtain rfl | rfl := hlin.order_of_two hcalls hlater
  · exact .inl hleft
  · exact .inr hleft

/-- **A race**: two calls are under way at the same time, and the answers are those of one order or of the
other one. -/
theorem Serialised.exists_race {D : Driver} {σ : Type} {code : (q : Single K T) → Operation D σ
      ((singles K T).Reply q)} {B : Backend D PyExc β} {b₀ : β} (h : Serialised M O valid code B b₀)
    (hserved : ∀ b q, ∃ r b', served (R := singles K T) B code b q r b')
    (hvalid : ∀ i, valid (race e e' id i)) :
    ∃ hist, Race code B b₀ e e' id hist ∧
      (Left hist ([0, 1, 2].zip (M.oneByOne O [.create e, .create e', .get id])) ∨
        Left hist ([1, 0, 2].zip (M.oneByOne O [.create e', .create e, .get id]))) := by
  have hnodup : ([0, 1] ++ [2] : List ℕ).Nodup := by decide
  obtain ⟨hist, b, hcrowd, hpre, hcalls, hlater⟩ := exists_crowd hserved (race e e' id) hnodup b₀
  obtain ⟨order, m, hlin⟩ := h.explained (race e e' id) hist b hvalid hcrowd
  exact ⟨hist, ⟨⟨b, hcrowd⟩, hpre⟩, Merging.left_of_race (fun hone => hone) hlin hcalls hlater⟩

end Race

end OpenframeAdapters.Db
