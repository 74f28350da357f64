import OpenframeAdapters.Db.Operations

/-!
# What a store of records is for

Not every repository keeps entities as they are. It makes a record of an entity that is created, an
`update()` merges the entity with the record that is there, and what is returned is what the record
shows. A vector store is searched as well.

## The model

* `Merging` — the records: how they are made, merged and shown.
* `Enumeration` and `Index` — in which order a server lists what it stores, and what it finds for a
  query vector.
* `Merging.backend` — what such a store answers. `searches` are the requests besides those of a
  repository.
* `Merging.told` — the record with an id, as it follows from what a client has been answered.
* `Recorded` and `Searched` — what should hold of a repository, and of a vector store.

## What is proved

* `Merging.get_of_search` — what is found is what is stored: `get()` returns it.
* `Merging.list_of_get` — a page is as long as it can be, and a page of everything has whatever `get()`
  returns.
* `Merging.lookup_told` — what is stored is what the answers tell.
* `recorded_of_refines`, `searched_of_refines` — a repository that refines the records is `Recorded`, and
  a vector store is `Searched`.
-/

namespace OpenframeAdapters.Db

open Python OpenframeAdapters.Core

open Store (Keyed)

variable {K T S V β : Type}

/-- Records `S` of entities `T`, under ids `K`. -/
structure Merging (K T S : Type) where
  /-- The id of an entity. -/
  idOf : T → K
  /-- The record of an entity that is created. -/
  make : T → S
  /-- The record after an update, which was there before. -/
  merge : T → S → S
  /-- What a record shows. -/
  shown : K → S → T
  /-- What `create()` and `update()` return of an entity, whose record is this one. -/
  returned : T → K → S → T
  /-- What `create()` raises where the id is taken; where this is `none`, it replaces the record. -/
  taken : Option AdapterError

/-- The order in which a server lists what it stores. -/
structure Enumeration (K S : Type) where
  /-- The ids in that order. -/
  listed : Keyed K S → List K
  mem_listed : ∀ {m id}, id ∈ listed m ↔ id ∈ m
  nodup_listed : ∀ m, (listed m).Nodup

/-- What a server finds for a query vector. -/
structure Index (K S V : Type) where
  /-- These are the ids for that vector and that number. -/
  nearest : Keyed K S → V → ℕ → List K → Prop
  length_nearest : ∀ {m v k ids}, nearest m v k ids → ids.length ≤ k
  exists_nearest : ∀ m v k, ∃ ids, nearest m v k ids

/-- Records in the order of their ids. -/
def Enumeration.sorted [LinearOrder K] : Enumeration K S where
  listed := Keyed.sortedKeys
  mem_listed := by simp [Finmap.mem_keys]
  nodup_listed m := m.keys.sort_nodup _

/-- A server that finds the record with the id that it is asked for. -/
def Index.exact : Index K S K where
  nearest _ v k ids := ids = [v].take k
  length_nearest := by
    rintro m v k _ rfl
    exact List.length_take_le ..
  exists_nearest _ _ _ := ⟨_, rfl⟩

/-- The requests to search, and what they return. -/
abbrev searches (V T : Type) : Driver where
  Call := V × ℤ
  Reply _ := List T

section Answers

variable [DecidableEq K] (M : Merging K T S) (O : Enumeration K S) (I : Index K S V)

/-- What is shown of the records with these ids. -/
def Merging.show (m : Keyed K S) (ids : List K) : List T :=
  ids.filterMap fun id => (m.lookup id).map (M.shown id)

/-- `create(entity)`. -/
def Merging.create (entity : T) (m : Keyed K S) : Except Raised T × Keyed K S :=
  match m.lookup (M.idOf entity), M.taken with
  | some _, some err => (.error (.adapter err), m)
  | _, _ => (.ok (M.returned entity (M.idOf entity) (M.make entity)),
      m.insert (M.idOf entity) (M.make entity))

/-- What the records answer. -/
def Merging.answer : (q : Request K T) → Keyed K S →
    Except Raised ((operations K T).Reply q) × Keyed K S
  | .get id, m => (.ok ((m.lookup id).map (M.shown id)), m)
  | .list limit offset, m =>
    (.ok (M.show m (((O.listed m).drop offset.toNat).take limit.toNat), (m.keys.card : ℤ)), m)
  | .create entity, m => M.create entity m
  | .update entity, m =>
    match m.lookup (M.idOf entity) with
    | some s =>
      (.ok (some (M.returned entity (M.idOf entity) (M.merge entity s))),
        m.insert (M.idOf entity) (M.merge entity s))
    | none => (.ok none, m)
  | .delete id, m => (.ok (m.lookup id).isSome, m.erase id)

/-- What is found. -/
def Merging.finds : Backend (searches V T) Raised (Keyed K S) := fun m q r m' =>
  m' = m ∧ ∃ ids, I.nearest m q.1 q.2.toNat ids ∧ r = .ok (M.show m ids)

/-- The records, as something that answers requests and is searched. -/
def Merging.backend : Backend ((operations K T).sum (searches V T)) Raised (Keyed K S) :=
  (Backend.of (M.answer O)).sum (M.finds I)

/-- What the records answer, where a search finds the record with that id. -/
def Merging.answerExact : (q : ((operations K T).sum (searches K T)).Call) → Keyed K S →
    Except Raised (((operations K T).sum (searches K T)).Reply q) × Keyed K S
  | .inl q, m => M.answer O q m
  | .inr q, m => (.ok (M.show m ([q.1].take q.2.toNat)), m)

variable {M O I}

/-! The cases of `answer`. -/

section Cases

variable {m : Keyed K S} {entity : T} {id : K} {s : S}

theorem Merging.create_free (h : M.taken = none) : M.create entity m =
    (.ok (M.returned entity (M.idOf entity) (M.make entity)),
      m.insert (M.idOf entity) (M.make entity)) := by
  unfold Merging.create
  rw [h]
  cases m.lookup (M.idOf entity) <;> rfl

theorem Merging.create_new (h : m.lookup (M.idOf entity) = none) : M.create entity m =
    (.ok (M.returned entity (M.idOf entity) (M.make entity)),
      m.insert (M.idOf entity) (M.make entity)) := by
  unfold Merging.create
  rw [h]

theorem Merging.create_taken {err : AdapterError} (h : m.lookup (M.idOf entity) = some s)
    (herr : M.taken = some err) : M.create entity m = (.error (.adapter err), m) := by
  unfold Merging.create
  rw [h, herr]

theorem Merging.update_some (h : m.lookup (M.idOf entity) = some s) : M.answer O (.update entity) m =
    (.ok (some (M.returned entity (M.idOf entity) (M.merge entity s))),
      m.insert (M.idOf entity) (M.merge entity s)) := by
  unfold Merging.answer
  dsimp only
  rw [h]

theorem Merging.update_none (h : m.lookup (M.idOf entity) = none) :
    M.answer O (.update entity) m = (.ok none, m) := by
  unfold Merging.answer
  dsimp only
  rw [h]

theorem Merging.delete_some (h : m.lookup id = some s) :
    M.answer O (.delete id) m = (.ok true, m.erase id) := by
  unfold Merging.answer
  dsimp only
  rw [h, Option.isSome_some]

theorem Merging.delete_none (h : m.lookup id = none) :
    M.answer O (.delete id) m = (.ok false, m) := by
  unfold Merging.answer
  dsimp only
  rw [h, Option.isSome_none, Keyed.erase_of_lookup h]

end Cases

/-- What is found is stored. -/
theorem Merging.get_of_search {m m' : Keyed K S} {v : V} {k : ℤ} {found : List T}
    (h : M.backend O I m (.inr (v, k)) (.ok found) m') :
    m' = m ∧ found.length ≤ k.toNat ∧
      ∀ e ∈ found, ∃ id, M.answer O (.get id) m = (.ok (some e), m) := by
  obtain ⟨hm, ids, hids, hfound⟩ := h
  obtain rfl : found = M.show m ids := Except.ok.inj hfound
  refine ⟨hm, ?_, fun e he => ?_⟩
  · exact (List.length_filterMap_le _ _).trans (I.length_nearest hids)
  · obtain ⟨id, -, hshown⟩ := List.mem_filterMap.mp he
    exact ⟨id, by rw [Merging.answer, hshown]⟩

omit [DecidableEq K] in
theorem Enumeration.length_listed (m : Keyed K S) : (O.listed m).length = m.keys.card := by
  classical
  rw [← List.toFinset_card_of_nodup (O.nodup_listed m)]
  congr 1
  ext id
  rw [List.mem_toFinset, O.mem_listed, Finmap.mem_keys]

/-- Whatever is stored is shown. -/
theorem Merging.length_show {m : Keyed K S} {ids : List K} (h : ∀ id ∈ ids, id ∈ m) :
    (M.show m ids).length = ids.length := by
  unfold Merging.show
  rw [List.length_filterMap_eq_countP, List.countP_eq_length]
  intro id hid
  rw [Option.isSome_map]
  exact Finmap.lookup_isSome.mpr (h id hid)

/-- What is on a page. -/
theorem Merging.list_of_get {m m' : Keyed K S} {limit offset : ℤ} {page : List T} {total : ℤ}
    (h : M.answer O (.list limit offset) m = (.ok (page, total), m')) :
    m' = m ∧ page.length = min limit.toNat (total.toNat - offset.toNat) ∧
      (offset = 0 → total ≤ limit → ∀ id e, M.answer O (.get id) m = (.ok (some e), m) → e ∈ page) := by
  obtain ⟨hreply, rfl⟩ := Prod.mk.inj h
  obtain ⟨rfl, rfl⟩ := Prod.mk.inj (Except.ok.inj hreply)
  refine ⟨rfl, ?_, ?_⟩
  · have hstored : ∀ id ∈ ((O.listed m).drop offset.toNat).take limit.toNat, id ∈ m := fun id hid =>
      O.mem_listed.mp (List.mem_of_mem_drop (List.mem_of_mem_take hid))
    rw [Merging.length_show hstored, List.length_take, List.length_drop, O.length_listed,
      Int.toNat_natCast]
  · rintro rfl hlimit id e hget
    have hshown : (m.lookup id).map (M.shown id) = some e := Except.ok.inj (Prod.mk.inj hget).1
    have hmem : id ∈ m := by
      obtain ⟨s, hs, -⟩ := Option.map_eq_some_iff.mp hshown
      exact Finmap.mem_of_lookup_eq_some hs
    have hall : ((O.listed m).drop (0 : ℤ).toNat).take limit.toNat = O.listed m := by
      have hlength := O.length_listed m
      rw [Int.toNat_zero, List.drop_zero, List.take_of_length_le]
      omega
    rw [hall]
    exact List.mem_filterMap.mpr ⟨id, O.mem_listed.mpr hmem, hshown⟩

/-- What an answer makes of the record with an id. -/
def Merging.after (id : K) (s : Option S) : Answer (operations K T) Raised → Option S
  | ⟨.create entity, .ok _⟩ => if M.idOf entity = id then some (M.make entity) else s
  | ⟨.update entity, .ok _⟩ => if M.idOf entity = id then s.map (M.merge entity) else s
  | ⟨.delete id', .ok _⟩ => if id' = id then none else s
  | _ => s

/-- The record with an id, as the answers tell. -/
def Merging.told (M : Merging K T S) (id : K) (l : List (Answer (operations K T) Raised)) : Option S :=
  l.foldl (M.after id) none

/-- **One answer** tells what becomes of a record. -/
theorem Merging.lookup_after {m m' : Keyed K S} {q : Request K T}
    {r : Except Raised ((operations K T).Reply q)} (h : M.answer O q m = (r, m')) (id : K) :
    m'.lookup id = M.after id (m.lookup id) ⟨q, r⟩ := by
  cases q with
  | get | list =>
    obtain ⟨rfl, rfl⟩ := Prod.mk.inj h
    rfl
  | create entity =>
    have hcreate : M.create entity m = (r, m') := h
    unfold Merging.create at hcreate
    split at hcreate
    · obtain ⟨rfl, rfl⟩ := Prod.mk.inj hcreate
      rfl
    · obtain ⟨rfl, rfl⟩ := Prod.mk.inj hcreate
      simp only [Merging.after, Keyed.lookup_insert_eq, eq_comm]
  | update entity =>
    cases hs : m.lookup (M.idOf entity) with
    | none =>
      rw [Merging.update_none hs] at h
      obtain ⟨rfl, rfl⟩ := Prod.mk.inj h
      by_cases hid : M.idOf entity = id
      · subst hid
        simp [Merging.after, hs]
      · simp [Merging.after, hid]
    | some s =>
      rw [Merging.update_some hs] at h
      obtain ⟨rfl, rfl⟩ := Prod.mk.inj h
      by_cases hid : M.idOf entity = id
      · subst hid
        simp [Merging.after, hs]
      · simp [Merging.after, hid, Finmap.lookup_insert_of_ne _ (Ne.symm hid)]
  | delete id' =>
    obtain ⟨rfl, rfl⟩ := Prod.mk.inj h
    simp only [Merging.after, Keyed.lookup_erase_eq, eq_comm]

/-- **All answers** tell what is stored. -/
theorem Merging.lookup_told {m : Keyed K S} {l : List (Answer (operations K T) Raised)}
    (h : Session (Backend.of (M.answer O)) ∅ l m) (id : K) : m.lookup id = M.told id l := by
  suffices hall : ∀ m₀, Session (Backend.of (M.answer O)) m₀ l m →
      m.lookup id = l.foldl (M.after id) (m₀.lookup id) by
    exact hall ∅ h
  clear h
  intro m₀ h
  induction h with
  | nil m => rfl
  | @cons m₀ a m₁ l m hB _ ih =>
    rw [ih, List.foldl_cons, Merging.lookup_after hB id]

end Answers

section Recorded

variable [DecidableEq K]

/-- A repository keeps records. -/
structure Recorded (M : Merging K T S) (O : Enumeration K S) (valid : Request K T → Prop)
    (B : Backend (operations K T) Raised β) (b₀ : β) : Prop where
  /-- All requests are answered. -/
  answers : ∀ qs, ∃ l b, Session B b₀ l b ∧ l.map Answer.call = qs
  /-- They are answered as the records would be. -/
  refines : ∀ l b, Session B b₀ l b → (∀ a ∈ l, valid a.call) →
    ∃ m, Session (Backend.of (M.answer O)) ∅ l m
  /-- At any time, `get()` returns what the answers so far have told of an entity. -/
  current : ∀ l b, Session B b₀ l b → (∀ a ∈ l, valid a.call) → ∀ id r b₁, valid (.get id) →
    B b (.get id) r b₁ → r = .ok ((M.told id l).map (M.shown id))
  /-- At any time, a page is as long as it can be, and a page of everything has whatever `get()`
  returns then. -/
  complete : ∀ l b, Session B b₀ l b → (∀ a ∈ l, valid a.call) → ∀ limit offset page total b₁,
    valid (.list limit offset) → B b (.list limit offset) (.ok (page, total)) b₁ →
    page.length = min limit.toNat (total.toNat - offset.toNat) ∧
      (offset = 0 → total ≤ limit → ∀ id e b₂, valid (.get id) → B b₁ (.get id) (.ok (some e)) b₂ →
        e ∈ page)

/-- **A repository** that answers as the records would. -/
theorem recorded_of_refines {M : Merging K T S} {O : Enumeration K S} {valid : Request K T → Prop}
    {B : Backend (operations K T) Raised β} {Rel : β → Keyed K S → Prop} {b₀ : β}
    (h : Refines valid B (Backend.of (M.answer O)) Rel) (h₀ : Rel b₀ ∅)
    (hB : ∀ b q, ∃ r b', B b q r b') : Recorded M O valid B b₀ where
  answers qs := exists_session hB qs b₀
  refines l b hl hvalid := by
    obtain ⟨m, hm, -⟩ := h.session hl hvalid h₀
    exact ⟨m, hm⟩
  current l b hl hvalid id r b₁ hid hget := by
    obtain ⟨m, hm, hrel⟩ := h.session hl hvalid h₀
    obtain ⟨m₁, hgot, -⟩ := h b m _ _ b₁ hrel hid hget
    have hreply : M.answer O (.get id) m = (r, m₁) := hgot
    rw [← Merging.lookup_told hm id]
    exact (Prod.mk.inj hreply).1.symm
  complete l b hl hvalid limit offset page total b₁ hv hpage := by
    obtain ⟨m, -, hrel⟩ := h.session hl hvalid h₀
    obtain ⟨m₁, hlist, hrel₁⟩ := h b m _ _ b₁ hrel hv hpage
    obtain ⟨rfl, hlength, hall⟩ := Merging.list_of_get hlist
    refine ⟨hlength, fun hoffset hlimit id e b₂ hid hgot => ?_⟩
    obtain ⟨m₂, hget, -⟩ := h b₁ m₁ _ _ b₂ hrel₁ hid hgot
    have hreply : M.answer O (.get id) m₁ = (.ok (some e), m₂) := hget
    obtain rfl : m₁ = m₂ := (Prod.mk.inj hreply).2
    exact hall hoffset hlimit id e hreply

/-- A run of such a repository. -/
theorem Recorded.exists_run {M : Merging K T S} {O : Enumeration K S} {valid : Request K T → Prop}
    {B : Backend (operations K T) Raised β} {b₀ : β} (h : Recorded M O valid B b₀)
    {qs : List (Request K T)} (hvalid : ∀ q ∈ qs, valid q) :
    ∃ b, Session B b₀ (replies (D := operations K T) (M.answer O) ∅ qs) b := by
  obtain ⟨l, b, hl, rfl⟩ := h.answers qs
  obtain ⟨m, hm⟩ := h.refines l b hl fun a ha => hvalid _ (List.mem_map_of_mem ha)
  exact ⟨b, hm.eq_replies id ▸ hl⟩

end Recorded

section Searched

variable [DecidableEq K]

/-- A vector store keeps records, and a search finds what is stored. -/
structure Searched (M : Merging K T S) (O : Enumeration K S) (I : Index K S V)
    (valid : ((operations K T).sum (searches V T)).Call → Prop)
    (B : Backend ((operations K T).sum (searches V T)) Raised β) (b₀ : β) : Prop where
  /-- All requests are answered. -/
  answers : ∀ qs, ∃ l b, Session B b₀ l b ∧ l.map Answer.call = qs
  /-- They are answered as the records would be. -/
  refines : ∀ l b, Session B b₀ l b → (∀ a ∈ l, valid a.call) → ∃ m, Session (M.backend O I) ∅ l m
  /-- At any time, a search returns so many entities at most, each of which `get()` returns then. -/
  fresh : ∀ l b, Session B b₀ l b → (∀ a ∈ l, valid a.call) → ∀ v k found b₁, valid (.inr (v, k)) →
    B b (.inr (v, k)) (.ok found) b₁ → found.length ≤ k.toNat ∧
      ∀ e ∈ found, ∃ id, ∀ r b₂, B b₁ (.inl (.get id)) r b₂ → r = .ok (some e)
  /-- At any time, a page is as long as it can be, and a page of everything has whatever `get()`
  returns then. -/
  complete : ∀ l b, Session B b₀ l b → (∀ a ∈ l, valid a.call) → ∀ limit offset page total b₁,
    valid (.inl (.list limit offset)) → B b (.inl (.list limit offset)) (.ok (page, total)) b₁ →
    page.length = min limit.toNat (total.toNat - offset.toNat) ∧
      (offset = 0 → total ≤ limit → ∀ id e b₂, B b₁ (.inl (.get id)) (.ok (some e)) b₂ → e ∈ page)

/-- **A vector store** that answers as the records would. -/
theorem searched_of_refines {M : Merging K T S} {O : Enumeration K S} {I : Index K S V}
    {valid : ((operations K T).sum (searches V T)).Call → Prop}
    {B : Backend ((operations K T).sum (searches V T)) Raised β} {Rel : β → Keyed K S → Prop} {b₀ : β}
    (h : Refines valid B (M.backend O I) Rel) (h₀ : Rel b₀ ∅) (hget : ∀ id, valid (.inl (.get id)))
    (hB : ∀ b q, ∃ r b', B b q r b') : Searched M O I valid B b₀ where
  answers qs := exists_session hB qs b₀
  refines l b hl hvalid := by
    obtain ⟨m, hm, -⟩ := h.session hl hvalid h₀
    exact ⟨m, hm⟩
  fresh l b hl hvalid v k found b₁ hk hfound := by
    obtain ⟨m, -, hrel⟩ := h.session hl hvalid h₀
    obtain ⟨m₁, hsearch, hrel₁⟩ := h b m _ _ b₁ hrel hk hfound
    obtain ⟨rfl, hlength, hall⟩ := Merging.get_of_search hsearch
    refine ⟨hlength, fun e he => ?_⟩
    obtain ⟨id, hid⟩ := hall e he
    refine ⟨id, fun r b₂ hr => ?_⟩
    obtain ⟨m₂, hgot, -⟩ := h b₁ m₁ _ _ b₂ hrel₁ (hget id) hr
    have hboth : M.answer O (.get id) m₁ = (r, m₂) := hgot
    exact (Prod.mk.inj (hboth.symm.trans hid)).1
  complete l b hl hvalid limit offset page total b₁ hv hpage := by
    obtain ⟨m, -, hrel⟩ := h.session hl hvalid h₀
    obtain ⟨m₁, hlist, hrel₁⟩ := h b m _ _ b₁ hrel hv hpage
    obtain ⟨rfl, hlength, hall⟩ := Merging.list_of_get hlist
    refine ⟨hlength, fun hoffset hlimit id e b₂ hgot => ?_⟩
    obtain ⟨m₂, hget, -⟩ := h b₁ m₁ _ _ b₂ hrel₁ (hget id) hgot
    have hreply : M.answer O (.get id) m₁ = (.ok (some e), m₂) := hget
    obtain rfl : m₁ = m₂ := (Prod.mk.inj hreply).2
    exact hall hoffset hlimit id e hreply

/-- A run of such a vector store. -/
theorem Searched.exists_run {M : Merging K T S} {O : Enumeration K S}
    {valid : ((operations K T).sum (searches K T)).Call → Prop}
    {B : Backend ((operations K T).sum (searches K T)) Raised β} {b₀ : β}
    (h : Searched M O .exact valid B b₀) {qs : List ((operations K T).sum (searches K T)).Call}
    (hvalid : ∀ q ∈ qs, valid q) :
    ∃ b, Session B b₀ (replies (D := (operations K T).sum (searches K T)) (M.answerExact O) ∅ qs) b := by
  obtain ⟨l, b, hl, rfl⟩ := h.answers qs
  obtain ⟨m, hm⟩ := h.refines l b hl fun a ha => hvalid _ (List.mem_map_of_mem ha)
  refine ⟨b, hm.eq_replies (fun {m q r m'} hanswer => ?_) ▸ hl⟩
  cases q with
  | inl q => exact hanswer
  | inr q =>
    obtain ⟨rfl, ids, rfl, rfl⟩ := hanswer
    rfl

end Searched

end OpenframeAdapters.Db
