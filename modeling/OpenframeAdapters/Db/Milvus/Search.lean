import OpenframeAdapters.Db.Merging
import OpenframeAdapters.Db.Milvus.Concurrent
import Mathlib.Data.String.Basic

/-!
# Searching a Milvus collection

`list()` and `search()` of `MilvusRepository`, among the other operations. In which order the collection
lists its rows, and what it finds for a query vector, are parameters (`Enumeration`, `Index`); so is
whether it answers a query that has neither a filter nor a limit (`unbounded`), as `list()` makes one
to count the rows.

## What is proved

* `refines_records` — the rows of a collection are records, and a search shows what is found of them.
* `milvus_searched` — so a search finds what is stored at the time, under any mapping of entities.
-/

namespace OpenframeAdapters.Db.Milvus

open Python OpenframeAdapters.Core

open Store (Keyed)

variable {V T : Type} [DecidableEq V]

/-- A collection that is listed and searched. -/
def searching (collection : Collection) (unbounded : Bool) (O : Enumeration V (Dict String V))
    (I : Index V (Dict String V) V) : Backend (commands V) PyExc (Rows V)
  | m, .page _ name limit offset => fun r m' => m' = m ∧
    if name = collection.name ∧ 0 ≤ limit ∧ 0 ≤ offset then
      r = .ok ((((O.listed m).drop offset.toNat).take limit.toNat).filterMap m.lookup)
    else r = .error milvusException
  | m, .query _ name => fun r m' => m' = m ∧
    if name = collection.name ∧ unbounded = true then r = .ok ((O.listed m).filterMap m.lookup)
    else r = .error milvusException
  | m, .search _ name data limit => fun r m' => m' = m ∧
    if name = collection.name ∧ 0 < limit then
      ∃ found, List.Forall₂ (fun v ids => I.nearest m v limit.toNat ids) data found ∧
        r = .ok (found.map fun ids => ids.filterMap m.lookup)
    else r = .error milvusException
  | m, q => fun r m' => answer collection q m = (r, m')

/-- What a request runs. -/
def asked (settings : MilvusSettings) (collection : Collection) (mapping : Mapping V T) :
    (q : ((operations V T).sum (searches V T)).Call) →
      Operation (driver V) (Option ℕ) (((operations V T).sum (searches V T)).Reply q)
  | .inl (.get id) => get settings collection mapping id
  | .inl (.list limit offset) => list settings collection mapping limit offset
  | .inl (.create entity) => create settings collection mapping entity
  | .inl (.update entity) => update settings collection mapping entity
  | .inl (.delete id) => delete settings collection mapping id
  | .inr q => search settings collection mapping q.1 q.2

/-- The repository together with its collection. -/
def searchedStore (settings : MilvusSettings) (collection : Collection) (mapping : Mapping V T)
    (unbounded : Bool) (O : Enumeration V (Dict String V)) (I : Index V (Dict String V) V) :
    Backend ((operations V T).sum (searches V T)) Raised (Rows V) :=
  served (connected (searching collection unbounded O I)) (asked settings collection mapping)

/-- The rows of entities have their ids, a page is one that the server gives, and a search asks for
something. -/
def ValidAsked (collection : Collection) (mapping : Mapping V T) (unbounded : Bool) :
    ((operations V T).sum (searches V T)).Call → Prop
  | .inl (.get _) | .inl (.delete _) => True
  | .inl (.list limit offset) => unbounded = true ∧ 0 ≤ limit ∧ 0 ≤ offset
  | .inl (.create entity) | .inl (.update entity) => ∃ id, idOf collection mapping entity = some id
  | .inr q => 0 < q.2

/-- The rows are the records, and are replaced. -/
def records [Inhabited V] (collection : Collection) (mapping : Mapping V T) :
    Merging V T (Dict String V) where
  idOf entity := (idOf collection mapping entity).getD default
  make := mapping.entityToRow
  merge entity _ := mapping.entityToRow entity
  shown _ := mapping.rowToEntity
  returned entity _ _ := entity
  taken := none

section Records

variable {settings : MilvusSettings} {collection : Collection} {mapping : Mapping V T}
  {unbounded : Bool} {O : Enumeration V (Dict String V)} {I : Index V (Dict String V) V} {m : Rows V}

/-- The calls that address rows by their ids. -/
theorem wpIn_send {q : Command V} {Q : (commands V).Reply q → Rows V → Prop}
    {E : Raised → Rows V → Prop} (hpage : ∀ client name limit offset, q ≠ .page client name limit offset)
    (hquery : ∀ client name, q ≠ .query client name)
    (hsearch : ∀ client name data limit, q ≠ .search client name data limit)
    (h : Coro.Promised Q (fun exc m => E (.raw exc) m) (answer collection q m).2
      (answer collection q m).1) :
    (send q).wpIn (connected (searching collection unbounded O I)).shared Q E m := by
  refine wpIn_command fun r m' hr => ?_
  have hanswer : answer collection q m = (r, m') := by
    cases q with
    | page => exact absurd rfl (hpage _ _ _ _)
    | query => exact absurd rfl (hquery _ _)
    | search => exact absurd rfl (hsearch _ _ _ _)
    | _ => exact hr
  rwa [hanswer] at h

theorem wpIn_get_row {id : V} {Q : Option T → Rows V → Prop} {E : Raised → Rows V → Prop}
    (hQ : Q ((m.lookup id).map mapping.rowToEntity) m) :
    (getBy settings collection mapping (some id)).wpIn
      (connected (searching collection unbounded O I)).shared Q E m := by
  unfold getBy
  refine Coro.wpIn_bind.mpr ((connects_connected _).wpIn_getClient rfl fun client => ?_)
  refine Coro.wpIn_bind.mpr (wpIn_tryExcept.mpr (wpIn_send nofun nofun nofun ?_))
  rw [answer_get]
  cases hm : m.lookup id with
  | none => rwa [hm] at hQ
  | some row => rwa [hm] at hQ

/-- The row of an entity is put in. -/
theorem wpIn_upsert_row {entity : T} {id : V} (hid : idOf collection mapping entity = some id)
    {client : ℕ} {errors : Clauses Cls AdapterError} {Q : Unit → Rows V → Prop}
    {E : Raised → Rows V → Prop} (hQ : Q () (m.insert id (mapping.entityToRow entity))) :
    (tryExcept errors (send (.upsert client collection.name [mapping.entityToRow entity]))).wpIn
      (connected (searching collection unbounded O I)).shared Q E m := by
  refine wpIn_tryExcept.mpr (wpIn_send nofun nofun nofun ?_)
  rw [answer_upsert hid]
  exact hQ

theorem wpIn_list_rows [Inhabited V] {limit offset : ℤ} (hunbounded : unbounded = true)
    (hlimit : 0 ≤ limit) (hoffset : 0 ≤ offset) {Q : List T × ℤ → Rows V → Prop}
    {E : Raised → Rows V → Prop}
    (hQ : Q ((records collection mapping).show m (((O.listed m).drop offset.toNat).take limit.toNat),
      (m.keys.card : ℤ)) m) :
    (list settings collection mapping limit offset).wpIn
      (connected (searching collection unbounded O I)).shared Q E m := by
  unfold list
  refine Coro.wpIn_bind.mpr ((connects_connected _).wpIn_getClient rfl fun client => ?_)
  refine Coro.wpIn_bind.mpr (wpIn_tryExcept.mpr (Coro.wpIn_bind.mpr (wpIn_command fun r m' hr => ?_)))
  obtain ⟨rfl, hr⟩ := hr
  rw [if_pos ⟨rfl, hlimit, hoffset⟩] at hr
  subst hr
  refine Coro.wpIn_bind.mpr (wpIn_command fun r m'' hr => ?_)
  obtain ⟨rfl, hr⟩ := hr
  rw [if_pos ⟨rfl, hunbounded⟩] at hr
  subst hr
  have htotal : ((O.listed m'').filterMap m''.lookup).length = m''.keys.card := by
    have hlength : ((records collection mapping).show m'' (O.listed m'')).length = _ :=
      Merging.length_show fun id hid => O.mem_listed.mp hid
    rw [O.length_listed] at hlength
    rw [← hlength, Merging.show, ← List.length_map (mapping.rowToEntity), List.map_filterMap]
    rfl
  have hshow : ((((O.listed m'').drop offset.toNat).take limit.toNat).filterMap m''.lookup).map
      mapping.rowToEntity = (records collection mapping).show m''
        (((O.listed m'').drop offset.toNat).take limit.toNat) := List.map_filterMap ..
  rw [← hshow, ← htotal] at hQ
  exact hQ

/-- What is found is what the collection has found for the one vector. -/
theorem wpIn_search_rows {v : V} {k : ℤ} (hk : 0 < k) {Q : List T → Rows V → Prop}
    {E : Raised → Rows V → Prop} (hQ : ∀ ids, I.nearest m v k.toNat ids →
      Q ((ids.filterMap m.lookup).map mapping.rowToEntity) m) :
    (search settings collection mapping v k).wpIn
      (connected (searching collection unbounded O I)).shared Q E m := by
  unfold search
  refine Coro.wpIn_bind.mpr ((connects_connected _).wpIn_getClient rfl fun client => ?_)
  refine Coro.wpIn_bind.mpr (wpIn_tryExcept.mpr (wpIn_command fun r m' hr => ?_))
  obtain ⟨rfl, hr⟩ := hr
  rw [if_pos ⟨rfl, hk⟩] at hr
  obtain ⟨found, hfound, rfl⟩ := hr
  obtain ⟨ids, rest, hids, hrest, rfl⟩ := List.forall₂_cons_left_iff.mp hfound
  exact hQ ids hids

variable [Inhabited V]

omit [DecidableEq V] in
theorem records_idOf {entity : T} {id : V} (hid : idOf collection mapping entity = some id) :
    (records collection mapping).idOf entity = id := by
  change (idOf collection mapping entity).getD default = id
  rw [hid, Option.getD_some]

/-- **The rows are the records**, and what is found is shown. -/
theorem refines_records : Refines (ValidAsked collection mapping unbounded)
    (searchedStore settings collection mapping unbounded O I)
    ((records collection mapping).backend O I) Eq := by
  refine refines_of_wpIn ?_
  rintro m _ (q | ⟨v, k⟩) rfl hq
  · cases q with
    | get id => exact wpIn_get_row ⟨m, rfl, rfl⟩
    | list limit offset => exact wpIn_list_rows hq.1 hq.2.1 hq.2.2 ⟨m, rfl, rfl⟩
    | create entity =>
      obtain ⟨id, hid⟩ := hq
      have hidOf := records_idOf hid
      have hanswer : (records collection mapping).create entity m = _ := Merging.create_free rfl
      rw [hidOf] at hanswer
      refine Coro.wpIn_bind.mpr ((connects_connected _).wpIn_getClient rfl fun client => ?_)
      exact Coro.wpIn_bind.mpr (wpIn_upsert_row hid ⟨_, hanswer, rfl⟩)
    | update entity =>
      obtain ⟨id, hid⟩ := hq
      have hidOf := records_idOf hid
      change (update settings collection mapping entity).wpIn _ _ _ m
      unfold update
      dsimp only
      rw [show (mapping.entityToRow entity).get? collection.idField = some id from hid]
      refine Coro.wpIn_bind.mpr (wpIn_get_row ?_)
      cases hm : m.lookup id with
      | none => exact ⟨m, Merging.update_none (hidOf ▸ hm), rfl⟩
      | some row =>
        have hanswer := Merging.update_some (M := records collection mapping) (O := O) (hidOf ▸ hm)
        rw [hidOf] at hanswer
        refine Coro.wpIn_bind.mpr ((connects_connected _).wpIn_getClient rfl fun client => ?_)
        exact Coro.wpIn_bind.mpr (wpIn_upsert_row hid ⟨_, hanswer, rfl⟩)
    | delete id =>
      refine Coro.wpIn_bind.mpr (wpIn_get_row ?_)
      cases hm : m.lookup id with
      | none => exact ⟨m, Merging.delete_none hm, rfl⟩
      | some row =>
        refine Coro.wpIn_bind.mpr ((connects_connected _).wpIn_getClient rfl fun client => ?_)
        refine Coro.wpIn_bind.mpr (wpIn_tryExcept.mpr (wpIn_send nofun nofun nofun ?_))
        rw [answer_delete]
        exact ⟨_, Merging.delete_some hm, rfl⟩
  · refine wpIn_search_rows hq fun ids hids => ⟨m, ⟨rfl, ids, hids, ?_⟩, rfl⟩
    rw [List.map_filterMap]
    rfl

omit [Inhabited V] in
/-- Every request is answered. -/
theorem exists_searchedStore (b : Rows V) (q : ((operations V T).sum (searches V T)).Call) :
    ∃ r b', searchedStore settings collection mapping unbounded O I b q r b' := by
  refine Coro.exists_endsIn (exists_connected fun m q => ?_) (fun _ => ⟨none, trivial⟩)
    (asked settings collection mapping q) b
  cases q with
  | page client name limit offset =>
    by_cases h : name = collection.name ∧ 0 ≤ limit ∧ 0 ≤ offset
    · exact ⟨_, m, rfl, by rw [if_pos h]⟩
    · exact ⟨_, m, rfl, by rw [if_neg h]⟩
  | query client name =>
    by_cases h : name = collection.name ∧ unbounded = true
    · exact ⟨_, m, rfl, by rw [if_pos h]⟩
    · exact ⟨_, m, rfl, by rw [if_neg h]⟩
  | search client name data limit =>
    by_cases h : name = collection.name ∧ 0 < limit
    · choose ids hids using fun v => I.exists_nearest m v limit.toNat
      have hall : List.Forall₂ (fun v ids => I.nearest m v limit.toNat ids) data (data.map ids) :=
        List.forall₂_map_right_iff.mpr (List.forall₂_same.mpr fun v _ => hids v)
      exact ⟨_, m, rfl, by rw [if_pos h]; exact ⟨_, hall, rfl⟩⟩
    · exact ⟨_, m, rfl, by rw [if_neg h]⟩
  | _ => exact ⟨_, _, rfl⟩

end Records

/-! ### One row -/

/-- A row with a name. -/
def user (name : String) : Dict String String := (Dict.empty.set "id" "7").set "name" name

/-- It is created, found, changed and deleted. -/
def userSearches :
    List ((operations String (Dict String String)).sum (searches String (Dict String String))).Call :=
  [.inl (.create (user "Ada")), .inr ("7", 1), .inl (.list 0 0), .inl (.update (user "Grace")),
    .inr ("7", 1), .inl (.delete "7"), .inr ("7", 1), .inl (.update (user "Eve"))]

end OpenframeAdapters.Db.Milvus
