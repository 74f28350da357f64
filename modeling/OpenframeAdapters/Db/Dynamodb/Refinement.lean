import OpenframeAdapters.Db.Dynamodb.Paging
import OpenframeAdapters.Db.Merging
import Mathlib.Data.String.Basic

/-!
# A DynamoDB table keeps entities

All operations of a `DynamoDBRepository`: those that address one item, and `list()`, which scans.

## The model

* `tabled` — the server, with finitely many items.
* `store` — the repository together with its table. The items are scanned in some order (`Enumeration`),
  and are cut into any pages.
* `records` — the items, which `create()` and `update()` replace.

## What is proved

* `refines_records` — the repository answers as the records would.
* `dynamodb_recorded` — so what is read at any time follows from what was answered before.
-/

namespace OpenframeAdapters.Db.Dynamodb

open Python OpenframeAdapters.Core

open Store (Keyed)

variable {V T P : Type} [DecidableEq V] [DecidableEq P]

/-- The server, with finitely many items. -/
def tabled (idColumn : String) : Backend (commands V) PyExc (Keyed V (Dict String V)) :=
  fun m q r m' => answer idColumn q m.lookup = (r, m'.lookup)

/-- The code of a `ClientError` is its text. -/
def coded (mapping : Mapping V T) : Mapping V T := { mapping with errorCode := Exc.text }

/-- How often the loops of a scan go round. -/
def Table.rounds (t : Table V P) : ℕ := max t.scanned.init.length t.counted.init.length + 1

/-- What a request is answered. A table is scanned in pages whose `LastEvaluatedKey` is a `P`. -/
def store (P : Type) [DecidableEq P] (settings : DynamoDBSettings) (idColumn : String)
    (mapping : Mapping V T) (O : Enumeration V (Dict String V)) :
    Backend (operations V T) Raised (Keyed V (Dict String V))
  | m, .get id, r, m' =>
    (get settings idColumn (coded mapping) id).EndsIn (connected (tabled idColumn)).shared m r m'
  | m, .list limit offset, r, m' => m' = m ∧
    ∃ (t : Table V P) (scanned : Except Raised (Option (List T × ℕ))),
      t.scanned.items = (O.listed m).filterMap m.lookup ∧
      (list settings (coded mapping) t.rounds limit offset).EndsIn scannedTable t scanned t ∧
      r.map some = scanned.map (Option.map fun page => (page.1, (page.2 : ℤ)))
  | m, .create entity, r, m' =>
    (create settings (coded mapping) entity).EndsIn (connected (tabled idColumn)).shared m r m'
  | m, .update entity, r, m' =>
    (update settings idColumn (coded mapping) entity).EndsIn (connected (tabled idColumn)).shared m r
      m'
  | m, .delete id, r, m' =>
    (delete settings idColumn (coded mapping) id).EndsIn (connected (tabled idColumn)).shared m r m'

/-- An entity has an id, and a page a place where it could be. -/
def ValidAsked (idColumn : String) (mapping : Mapping V T) : Request V T → Prop
  | .get _ | .delete _ => True
  | .list limit offset => 0 ≤ limit ∧ 0 ≤ offset
  | .create entity | .update entity => ∃ id, (mapping.entityToRow entity).get? idColumn = some id

/-- The items are the records, and are replaced. -/
def records [Inhabited V] (idColumn : String) (mapping : Mapping V T) :
    Merging V T (Dict String V) where
  idOf entity := ((mapping.entityToRow entity).get? idColumn).getD default
  make := mapping.entityToRow
  merge entity _ := mapping.entityToRow entity
  shown _ := mapping.rowToEntity
  returned entity _ _ := entity
  taken := none

/-- Every item has its id. -/
def HasIds (idColumn : String) (m : Keyed V (Dict String V)) : Prop :=
  ∀ id item, m.lookup id = some item → item.get? idColumn = some id

section Refinement

variable {settings : DynamoDBSettings} {idColumn : String} {mapping : Mapping V T}
  {O : Enumeration V (Dict String V)} {m : Keyed V (Dict String V)} {id : V}
  {item : Dict String V} {E : Raised → Keyed V (Dict String V) → Prop}

theorem HasIds.insert (h : HasIds idColumn m) (hid : item.get? idColumn = some id) :
    HasIds idColumn (m.insert id item) := by
  intro id' item' hlookup
  rw [Keyed.lookup_insert_eq] at hlookup
  split_ifs at hlookup with hsame
  · cases hlookup
    rw [hsame, hid]
  · exact h id' item' hlookup

theorem HasIds.erase (h : HasIds idColumn m) : HasIds idColumn (m.erase id) := by
  intro id' item' hlookup
  rw [Keyed.lookup_erase_eq] at hlookup
  split_ifs at hlookup
  exact h id' item' hlookup

theorem lookup_put : (m.insert id item).lookup = Items.put m.lookup id item := by
  funext id'
  rw [Keyed.lookup_insert_eq, Items.put, Function.update_apply]

theorem lookup_remove : (m.erase id).lookup = Function.update m.lookup id none := by
  funext id'
  rw [Keyed.lookup_erase_eq, Function.update_apply]

/-- A `PutItem` whose condition holds. -/
theorem answer_putItem_some {items : Items V} {table : ℕ} {attributeExists : Option String}
    (hid : item.get? idColumn = some id) (h : condition (items id) attributeExists = true) :
    answer idColumn (.putItem table item attributeExists) items = (.ok (), items.put id item) := by
  rw [answer, hid]
  exact if_pos h

/-- A `PutItem` whose condition fails. -/
theorem answer_putItem_failed {items : Items V} {table : ℕ} {attributeExists : Option String}
    (hid : item.get? idColumn = some id) (h : ¬ condition (items id) attributeExists = true) :
    answer idColumn (.putItem table item attributeExists) items =
      (.error (clientError "ConditionalCheckFailedException"), items) := by
  rw [answer, hid]
  exact if_neg h

/-- **Commands** to the table. -/
theorem wpIn_tabled (m' : Keyed V (Dict String V)) {q : Command V} {Q : (commands V).Reply q → Keyed V (Dict String V) → Prop}
    {r : Except PyExc ((commands V).Reply q)} (hanswer : answer idColumn q m.lookup = (r, m'.lookup))
    (h : Coro.Promised Q (fun exc m => E (.raw exc) m) m' r) :
    (send q).wpIn (connected (tabled idColumn)).shared Q E m := by
  refine wpIn_command fun r₁ m₁ hr => ?_
  obtain ⟨rfl, hlookup⟩ := Prod.mk.inj (hanswer.symm.trans hr)
  obtain rfl : m' = m₁ := Finmap.ext_lookup fun id => congrFun hlookup id
  exact h

/-- Every command is answered. -/
theorem exists_tabled (m : Keyed V (Dict String V)) (q : Command V) :
    ∃ r m', tabled idColumn m q r m' := by
  cases q with
  | getItem table key =>
    by_cases hkey : key.1 = idColumn
    · exact ⟨_, m, if_pos hkey⟩
    · exact ⟨_, m, if_neg hkey⟩
  | putItem table item attributeExists =>
    cases hid : item.get? idColumn with
    | none =>
      refine ⟨.error (clientError "ValidationException"), m, ?_⟩
      show answer idColumn (.putItem table item attributeExists) m.lookup = _
      rw [answer, hid]
    | some id =>
      by_cases hcondition : condition (m.lookup id) attributeExists = true
      · refine ⟨.ok (), m.insert id item, ?_⟩
        show answer idColumn (.putItem table item attributeExists) m.lookup = _
        rw [lookup_put]
        exact answer_putItem_some hid hcondition
      · exact ⟨_, m, answer_putItem_failed hid hcondition⟩
  | deleteItem table key =>
    by_cases hkey : key.1 = idColumn
    · refine ⟨.ok (m.lookup key.2), m.erase key.2, ?_⟩
      show answer idColumn (.deleteItem table key) m.lookup = _
      rw [answer, if_pos hkey, lookup_remove]
    · exact ⟨_, m, if_neg hkey⟩

/-! One item. -/

theorem wpIn_get (id : V) : (get settings idColumn (coded mapping) id).wpIn
    (connected (tabled idColumn)).shared (fun o m' => o = (m.lookup id).map mapping.rowToEntity ∧
      m' = m) E m := by
  unfold get
  refine Coro.wpIn_bind.mpr ((connects_connected _).wpIn_getClient rfl fun table => ?_)
  refine Coro.wpIn_bind.mpr (wpIn_tryExcept.mpr (wpIn_tabled m (if_pos rfl) ?_))
  exact ⟨rfl, rfl⟩

theorem wpIn_create {entity : T} (hid : (mapping.entityToRow entity).get? idColumn = some id) :
    (create settings (coded mapping) entity).wpIn (connected (tabled idColumn)).shared
      (fun e m' => e = entity ∧ m' = m.insert id (mapping.entityToRow entity)) E m := by
  unfold create
  refine Coro.wpIn_bind.mpr ((connects_connected _).wpIn_getClient rfl fun table => ?_)
  refine Coro.wpIn_bind.mpr (wpIn_tryExcept.mpr ?_)
  refine wpIn_tabled (m.insert id (mapping.entityToRow entity)) (r := .ok ()) ?_ ⟨rfl, rfl⟩
  rw [lookup_put]
  exact answer_putItem hid table _

/-- **`update()`** replaces the item that is there. -/
theorem wpIn_update_some (hm : HasIds idColumn m) {entity : T} {old : Dict String V}
    (hid : (mapping.entityToRow entity).get? idColumn = some id) (hold : m.lookup id = some old) :
    (update settings idColumn (coded mapping) entity).wpIn (connected (tabled idColumn)).shared
      (fun o m' => o = some entity ∧ m' = m.insert id (mapping.entityToRow entity)) E m := by
  unfold update
  refine Coro.wpIn_bind.mpr ((connects_connected _).wpIn_getClient rfl fun table => ?_)
  refine Coro.wpIn_tryCatch.mpr (Coro.wpIn_bind.mpr ?_)
  refine wpIn_tabled (m.insert id (mapping.entityToRow entity)) (r := .ok ()) ?_ ⟨rfl, rfl⟩
  have hcondition : condition (m.lookup id) (some idColumn) = true := by
    simp [condition, hold, hm id old hold]
  rw [lookup_put]
  exact answer_putItem_some hid hcondition

/-- **`update()`** of an item that is not there. -/
theorem wpIn_update_none {entity : T} (hid : (mapping.entityToRow entity).get? idColumn = some id)
    (hnone : m.lookup id = none) :
    (update settings idColumn (coded mapping) entity).wpIn (connected (tabled idColumn)).shared
      (fun o m' => o = none ∧ m' = m) E m := by
  unfold update
  refine Coro.wpIn_bind.mpr ((connects_connected _).wpIn_getClient rfl fun table => ?_)
  refine Coro.wpIn_tryCatch.mpr (Coro.wpIn_bind.mpr ?_)
  have hcondition : ¬ condition (m.lookup id) (some idColumn) = true := by simp [condition, hnone]
  refine wpIn_tabled m (answer_putItem_failed hid hcondition) ?_
  exact ⟨rfl, rfl⟩

theorem wpIn_delete (id : V) : (delete settings idColumn (coded mapping) id).wpIn
    (connected (tabled idColumn)).shared (fun o m' => o = (m.lookup id).isSome ∧
      m' = m.erase id) E m := by
  unfold delete
  refine Coro.wpIn_bind.mpr ((connects_connected _).wpIn_getClient rfl fun table => ?_)
  refine Coro.wpIn_bind.mpr (wpIn_tryExcept.mpr ?_)
  refine wpIn_tabled (m.erase id) (r := .ok (m.lookup id)) ?_ ⟨rfl, rfl⟩
  rw [answer, if_pos rfl, lookup_remove]

/-! All of them. -/

omit [DecidableEq V] [DecidableEq P] in
theorem lt_rounds (t : Table V P) :
    t.scanned.init.length < t.rounds ∧ t.counted.init.length < t.rounds := by
  unfold Table.rounds
  omega

omit [DecidableEq V] in
/-- A scan that goes round often enough gives a page. -/
theorem wpIn_list_some (t : Table V P) (limit offset : ℤ) :
    (list settings mapping t.rounds limit offset).wpIn scannedTable
      (fun r t' => r.isSome = true ∧ t' = t) (fun _ _ => False) t := by
  obtain ⟨hscanned, hcounted⟩ := lt_rounds t
  refine Coro.wpIn_bind.mpr ((connects_connected _).wpIn_getClient rfl fun table => ?_)
  refine Coro.wpIn_bind.mpr (wpIn_tryExcept.mpr (Coro.wpIn_bind.mpr ?_))
  refine Coro.wpIn_mono ?_ (fun _ _ hx => hx) (collect_items t table hscanned _)
  rintro _ _ ⟨items, rfl, rfl, -⟩
  refine Coro.wpIn_bind.mpr (Coro.wpIn_mono ?_ (fun _ _ hx => hx) (countItems_count _ table hcounted))
  rintro _ _ ⟨count, rfl, rfl, -⟩
  exact ⟨rfl, rfl⟩

omit [DecidableEq P] in
/-- All items that are listed are there. -/
theorem isSome_listed (id : V) (hid : id ∈ O.listed m) : (m.lookup id).isSome = true :=
  Finmap.lookup_isSome.mpr (O.mem_listed.mp hid)

omit [DecidableEq P] in
/-- A page of what is scanned. -/
theorem map_page [Inhabited V] (limit offset : ℕ) :
    ((((O.listed m).filterMap m.lookup).drop offset).take limit).map mapping.rowToEntity =
      (records idColumn mapping).show m (((O.listed m).drop offset).take limit) := by
  rw [Keyed.take_drop_filterMap isSome_listed]
  exact List.map_filterMap ..

omit [DecidableEq P] in
theorem length_page : ((O.listed m).filterMap m.lookup).length = m.keys.card := by
  rw [List.length_filterMap_eq_countP, List.countP_eq_length.mpr isSome_listed, O.length_listed]

/-- **The items are the records.** -/
theorem refines_records [Inhabited V] : Refines (ValidAsked idColumn mapping)
    (store P settings idColumn mapping O)
    (Backend.of (D := operations V T) ((records idColumn mapping).answer O))
    (fun m m' => m = m' ∧ HasIds idColumn m) := by
  rintro m _ q r m' ⟨rfl, hids⟩ hq hr
  cases q with
  | get id =>
    obtain ⟨rfl, rfl⟩ := Coro.EndsIn.returned hr (wpIn_get id)
    exact ⟨m', rfl, rfl, hids⟩
  | list limit offset =>
    obtain ⟨rfl, t, scanned, hitems, hend, hpage⟩ := hr
    obtain ⟨limit, rfl⟩ := Int.eq_ofNat_of_zero_le hq.1
    obtain ⟨offset, rfl⟩ := Int.eq_ofNat_of_zero_le hq.2
    obtain ⟨rfl, -⟩ := hend.returned
      (wpIn_list settings (coded mapping) t limit offset (lt_rounds t).1 (lt_rounds t).2)
    cases r with
    | error x => cases hpage
    | ok page =>
      obtain rfl := Option.some.inj (Except.ok.inj hpage)
      have hanswer : (records idColumn mapping).answer O (.list limit offset) m' =
          (.ok ((records idColumn mapping).show m' (((O.listed m').drop offset).take limit),
            (m'.keys.card : ℤ)), m') := rfl
      rw [← map_page, ← length_page (O := O)] at hanswer
      refine ⟨m', ?_, rfl, hids⟩
      rw [hitems]
      exact hanswer
  | create entity =>
    obtain ⟨id, hid⟩ := hq
    have hidOf : (records idColumn mapping).idOf entity = id := by simp [records, hid]
    have hanswer : (records idColumn mapping).create entity m = _ := Merging.create_free rfl
    rw [hidOf] at hanswer
    obtain ⟨rfl, rfl⟩ := Coro.EndsIn.returned hr (wpIn_create hid)
    exact ⟨_, hanswer, rfl, hids.insert hid⟩
  | update entity =>
    obtain ⟨id, hid⟩ := hq
    have hidOf : (records idColumn mapping).idOf entity = id := by simp [records, hid]
    cases hm : m.lookup id with
    | none =>
      obtain ⟨rfl, rfl⟩ := Coro.EndsIn.returned hr (wpIn_update_none hid hm)
      exact ⟨m', Merging.update_none (hidOf ▸ hm), rfl, hids⟩
    | some old =>
      have hanswer := Merging.update_some (M := records idColumn mapping) (O := O) (hidOf ▸ hm)
      rw [hidOf] at hanswer
      obtain ⟨rfl, rfl⟩ := Coro.EndsIn.returned hr (wpIn_update_some hids hid hm)
      exact ⟨_, hanswer, rfl, hids.insert hid⟩
  | delete id =>
    obtain ⟨rfl, rfl⟩ := Coro.EndsIn.returned hr (wpIn_delete id)
    exact ⟨_, rfl, rfl, hids.erase⟩

/-- Every request is answered. -/
theorem exists_store (m : Keyed V (Dict String V)) (q : Request V T) :
    ∃ r m', store P settings idColumn mapping O m q r m' := by
  have hends {α : Type} (p : Operation (driver V) (Option ℕ) α) :
      ∃ o m', p.EndsIn (connected (tabled idColumn)).shared m o m' :=
    Coro.exists_endsIn (exists_connected exists_tabled) (fun _ => ⟨none, trivial⟩) p m
  cases q with
  | get | create | update | delete => exact hends _
  | list limit offset =>
    -- one page with all items
    let pages : Pages V P := ⟨[], (O.listed m).filterMap m.lookup, .nil⟩
    let t : Table V P := ⟨pages, pages, rfl⟩
    obtain ⟨scanned, t', hend⟩ := exists_end answerScan
      (list settings (coded mapping) t.rounds limit offset) t
    have hsome := hend.of_wpIn (wpIn_list_some t limit offset)
    cases scanned with
    | error x => exact hsome.elim
    | ok scanned =>
      obtain ⟨hsome, rfl⟩ := hsome
      obtain ⟨page, rfl⟩ := Option.isSome_iff_exists.mp hsome
      exact ⟨.ok (page.1, (page.2 : ℤ)), m, rfl, t, _, rfl, hend, rfl⟩

end Refinement

/-! ### Items -/

/-- An item with a string as its id. -/
def item (key value : String) : Dict String String :=
  (Dict.empty.set "id" "1").set key value

/-- An item is created, and asked for in all ways. -/
def itemRequests : List (Request String (Dict String String)) :=
  [.create (item "name" "Ada"), .create (item "name" "Eve"), .update (item "born" "1815"), .get "1",
    .list 0 0, .delete "1", .update (item "name" "Ada"), .get "1"]

end OpenframeAdapters.Db.Dynamodb
