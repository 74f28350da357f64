import Mathlib.Data.Bool.AllAny
import OpenframeAdapters.Db.Operations
import OpenframeAdapters.Db.Redis.Server

/-!
# The Redis repository is a map

## The model

* `Holds` — what the server holds for a map of entities.
* `Valid` — requests with entities that JSON gives back, and with ids that can be stored.

## What is proved

* `refines` — a `RedisRepository` that has the server for itself answers as the map does.
* `refines_reference` — and so it does in every sequence of requests.
-/

namespace OpenframeAdapters.Db.Redis

open Python OpenframeAdapters.Core

open Store (Keyed)

section Keys

variable {F : Type} {settings : Settings F}

theorem toList_makeKey (id : String) :
    (makeKey settings id).toList = (settings.keyPrefix ++ ":").toList ++ id.toList := by
  rw [makeKey, String.toList_append]

/-- A key tells its id. -/
theorem makeKey_inj {a b : String} : makeKey settings a = makeKey settings b ↔ a = b := by
  rw [← String.toList_inj, toList_makeKey, toList_makeKey, List.append_cancel_left_eq,
    String.toList_inj]

/-- Keys are in the order of their ids. -/
theorem makeKey_le {a b : String} : makeKey settings a ≤ makeKey settings b ↔ a ≤ b := by
  have h : ∀ l : List Char, l ++ a.toList ≤ l ++ b.toList ↔ a.toList ≤ b.toList := by
    intro l
    induction l with
    | nil => rfl
    | cons c l ih =>
      rw [List.cons_append, List.cons_append, ← ih, ← not_lt, ← not_lt, List.cons_lt_cons_iff]
      simp
  rw [String.le_iff_toList_le, toList_makeKey, toList_makeKey, h, String.le_iff_toList_le]

end Keys

section Refines

variable {F J T : Type} (settings : Settings F) (mapping : Mapping J T)

/-- What is stored of an entity. -/
def entry (entity : T) : Entry := ⟨mapping.dumps (mapping.entityToDict entity), none⟩

/-- The id of an entity. -/
def idOf (entity : T) : String := entityId mapping (mapping.entityToDict entity)

/-- `json.loads` inverts `json.dumps` on an entity. -/
def RoundTrips (entity : T) : Prop :=
  decode mapping (mapping.dumps (mapping.entityToDict entity)) = .ok entity

/-- The requests: JSON gives their entities back, a new entity has an id, and pages do not begin
before the first entity. -/
def Valid : Request String T → Prop
  | .get _ | .delete _ => True
  | .list limit offset => 0 ≤ limit ∧ 0 ≤ offset
  | .create entity => RoundTrips mapping entity ∧ idOf mapping entity ≠ ""
  | .update entity => RoundTrips mapping entity

/-- The map that the repository is: an id that is taken is not created again. -/
def reference : Reference String T := ⟨idOf mapping, some ⟨.query, "create", none⟩⟩

/-- The server holds these entities, and nothing else. -/
structure Holds (b : Server) (m : Keyed String T) : Prop where
  /-- Each under its key. -/
  stored : ∀ id, b.entries.lookup (makeKey settings id) = (m.lookup id).map (entry mapping)
  /-- There are no other keys. -/
  own : ∀ key ∈ b.entries, ∃ id, key = makeKey settings id
  /-- JSON gives them back. -/
  roundTrips : ∀ id entity, m.lookup id = some entity → RoundTrips mapping entity

variable {settings mapping} {glob : String → String → Bool} {b : Server} {m : Keyed String T}

/-- What is stored does not go away. -/
theorem Holds.alive (h : Holds settings mapping b m) (now : ℤ) (id : String) :
    Redis.alive now b.entries (makeKey settings id) =
      (m.lookup id).map fun entity => mapping.dumps (mapping.entityToDict entity) := by
  rw [Redis.alive, h.stored]
  cases m.lookup id <;> rfl

/-- Any time may come. -/
theorem Holds.at_time (h : Holds settings mapping b m) {b' : Server} (hb : b'.entries = b.entries) :
    Holds settings mapping b' m :=
  ⟨fun id => hb ▸ h.stored id, fun key hkey => h.own key (hb ▸ hkey), h.roundTrips⟩

/-- An entity is put under its id. -/
theorem Holds.insert (h : Holds settings mapping b m) {entity : T} (he : RoundTrips mapping entity)
    {b' : Server} (hb : b'.entries = b.entries.insert (makeKey settings (idOf mapping entity))
      (entry mapping entity)) : Holds settings mapping b' (m.insert (idOf mapping entity) entity) where
  stored id := by
    rw [hb, Keyed.lookup_insert_eq, Keyed.lookup_insert_eq]
    simp only [makeKey_inj, h.stored]
    split_ifs <;> rfl
  own key hkey := by
    rw [hb, Finmap.mem_insert] at hkey
    rcases hkey with rfl | hkey
    · exact ⟨_, rfl⟩
    · exact h.own key hkey
  roundTrips id entity' he' := by
    rw [Keyed.lookup_insert_eq] at he'
    split_ifs at he' with hid
    · exact Option.some.inj he' ▸ he
    · exact h.roundTrips id entity' he'

/-- An entity is removed. -/
theorem Holds.erase (h : Holds settings mapping b m) (id : String) {b' : Server}
    (hb : b'.entries = b.entries.erase (makeKey settings id)) :
    Holds settings mapping b' (m.erase id) where
  stored id' := by
    rw [hb, Keyed.lookup_erase_eq, Keyed.lookup_erase_eq]
    simp only [makeKey_inj, h.stored]
    split_ifs <;> rfl
  own key hkey := by
    rw [hb, Finmap.mem_erase] at hkey
    exact h.own key hkey.2
  roundTrips id' entity' he' := by
    rw [Keyed.lookup_erase_eq] at he'
    split_ifs at he'
    exact h.roundTrips id' entity' he'

/-! ### Pages -/

/-- The keys of a repository that has no special characters in its prefix. -/
def Plain (settings : Settings F) : Prop :=
  ∀ c ∈ settings.keyPrefix.toList, c ∉ ['*', '?', '[', ']', '\\']

theorem glob_iff (hglob : Globs glob) (hplain : Plain settings) {key : String} :
    glob (settings.keyPrefix ++ ":*") key = true ↔ ∃ id, key = makeKey settings id := by
  have hpattern : settings.keyPrefix ++ ":*" = (settings.keyPrefix ++ ":") ++ "*" := by
    rw [String.append_assoc]
    rfl
  have hstart : ∀ c ∈ (settings.keyPrefix ++ ":").toList, c ∉ ['*', '?', '[', ']', '\\'] := by
    intro c hc
    rw [String.toList_append, List.mem_append] at hc
    rcases hc with hc | hc
    · exact hplain c hc
    · rw [List.mem_singleton.mp hc]
      decide
  rw [hpattern, hglob _ hstart]
  constructor
  · rintro ⟨l, hl⟩
    exact ⟨String.ofList l, String.toList_inj.mp (by rw [toList_makeKey, String.toList_ofList, hl])⟩
  · rintro ⟨id, rfl⟩
    exact ⟨id.toList, (toList_makeKey id).symm⟩

/-- Sorted, the keys of all entities stand in the order of the ids. -/
theorem sort_of_mem_iff {keys : List String} (hnodup : keys.Nodup)
    (hmem : ∀ key, key ∈ keys ↔ ∃ id, id ∈ m ∧ makeKey settings id = key) :
    keys.mergeSort (· ≤ ·) = (m.keys.sort (· ≤ ·)).map (makeKey settings) := by
  have hmem' : ∀ key, key ∈ keys ↔ key ∈ (m.keys.sort (· ≤ ·)).map (makeKey settings) := by
    intro key
    simp only [hmem, List.mem_map, Finset.mem_sort, Finmap.mem_keys]
  have hsorted : ((m.keys.sort (· ≤ ·)).map (makeKey settings)).Pairwise (· ≤ ·) :=
    List.pairwise_map.mpr ((Finset.pairwise_sort m.keys (· ≤ ·)).imp makeKey_le.mpr)
  have hnodup' : ((m.keys.sort (· ≤ ·)).map (makeKey settings)).Nodup :=
    (Finset.sort_nodup m.keys (· ≤ ·)).map fun _ _ heq => makeKey_inj.mp heq
  have hperm := (keys.mergeSort_perm (· ≤ ·)).trans
    ((List.perm_ext_iff_of_nodup hnodup hnodup').mpr hmem')
  exact hperm.eq_of_pairwise' (List.pairwise_mergeSort' _ _) hsorted

/-- Sorted, the keys of `SCAN` are those of the map. -/
theorem Holds.sort_keys (h : Holds settings mapping b m) (hglob : Globs glob)
    (hplain : Plain settings) {now : ℤ} {keys : List String} (hnodup : keys.Nodup)
    (hkeys : ∀ key, key ∈ keys ↔ (Redis.alive now b.entries key).isSome = true ∧
      glob (settings.keyPrefix ++ ":*") key = true) :
    keys.mergeSort (· ≤ ·) = (m.keys.sort (· ≤ ·)).map (makeKey settings) := by
  refine sort_of_mem_iff hnodup fun key => ?_
  rw [hkeys, glob_iff hglob hplain]
  constructor
  · rintro ⟨halive, id, rfl⟩
    rw [h.alive, Option.isSome_map] at halive
    exact ⟨id, Finmap.lookup_isSome.mp halive, rfl⟩
  · rintro ⟨id, hid, rfl⟩
    rw [h.alive, Option.isSome_map]
    exact ⟨Finmap.lookup_isSome.mpr hid, id, rfl⟩

/-- The values under some of the keys, decoded. -/
theorem decode_values {value : String → Option String}
    (hvalue : ∀ id, value (makeKey settings id) =
      (m.lookup id).map fun entity => mapping.dumps (mapping.entityToDict entity))
    (hround : ∀ id entity, m.lookup id = some entity → RoundTrips mapping entity)
    {ids : List String} (hids : ∀ id ∈ ids, id ∈ m) :
    (((ids.map (makeKey settings)).map value).filterMap id).mapM (decode mapping) =
      .ok (ids.filterMap m.lookup) := by
  induction ids with
  | nil => rfl
  | cons i ids ih =>
    obtain ⟨entity, hentity⟩ := Finmap.mem_iff.mp (hids i (List.mem_cons_self ..))
    have ih := ih fun j hj => hids j (List.mem_cons_of_mem _ hj)
    have hdecode : decode mapping (mapping.dumps (mapping.entityToDict entity)) = .ok entity :=
      hround i entity hentity
    rw [List.map_cons, List.map_cons, hvalue, hentity, Option.map_some,
      List.filterMap_cons_some (f := id) rfl, List.mapM_cons, hdecode, ih,
      List.filterMap_cons_some (f := fun i => m.lookup i) hentity]
    rfl

/-! ### Requests -/

/-- What is asked of a request, when it returns and when it raises. -/
def Agrees (settings : Settings F) (mapping : Mapping J T) (m : Keyed String T)
    (q : Request String T) (o : Except Raised ((operations String T).Reply q)) (b' : Server) : Prop :=
  ∃ m', (reference mapping).backend m q o m' ∧ Holds settings mapping b' m'

variable (hb : Holds settings mapping b m)

include hb

theorem wpIn_get (id : String) : (get settings mapping id).wpIn (connected (server glob)).shared
    (fun r => Agrees settings mapping m (.get id) (.ok r))
    (fun x => Agrees settings mapping m (.get id) (.error x)) b := by
  unfold get
  refine Coro.wpIn_bind.mpr ((connects_connected _).wpIn_getClient rfl fun client => ?_)
  refine Coro.wpIn_bind.mpr (wpIn_tryExcept.mpr (wpIn_command fun r b' hr => ?_))
  obtain ⟨-, rfl, hentries⟩ := hr
  have hb' := hb.at_time hentries
  rw [hb.alive]
  cases hm : m.lookup id with
  | none => exact ⟨m, Prod.ext (congrArg Except.ok hm) rfl, hb'⟩
  | some entity =>
    have hdecode : decode mapping (mapping.dumps (mapping.entityToDict entity)) = .ok entity :=
      hb.roundTrips id entity hm
    refine Coro.wpIn_bind.mpr ?_
    rw [hdecode]
    exact ⟨m, Prod.ext (congrArg Except.ok hm) rfl, hb'⟩

theorem wpIn_delete (id : String) :
    (delete settings id).wpIn (connected (server glob)).shared
      (fun r => Agrees settings mapping m (.delete id) (.ok r))
      (fun x => Agrees settings mapping m (.delete id) (.error x)) b := by
  unfold delete
  refine Coro.wpIn_bind.mpr ((connects_connected _).wpIn_getClient rfl fun client => ?_)
  refine Coro.wpIn_bind.mpr (wpIn_tryExcept.mpr (wpIn_command fun r b' hr => ?_))
  obtain ⟨-, rfl, hentries⟩ := hr
  refine ⟨m.erase id, Prod.ext (congrArg Except.ok ?_) rfl, hb.erase id hentries⟩
  rw [hb.alive]
  cases m.lookup id <;> rfl

/-- `SET` without a time to live: it depends on what the map has. -/
theorem wpIn_set {F' : Type} {client : ℕ} (id : String) {value : String} {nx xx : Bool}
    {Q : Option Bool → Server → Prop} {E : Raised → Server → Prop}
    (hno : refused nx xx ((m.lookup id).map fun e => mapping.dumps (mapping.entityToDict e)) = true →
      ∀ b', b'.entries = b.entries → Q none b')
    (hyes : refused nx xx ((m.lookup id).map fun e => mapping.dumps (mapping.entityToDict e)) = false →
      ∀ b', b'.entries = b.entries.insert (makeKey settings id) ⟨value, none⟩ → Q (some true) b') :
    (send (F := F') (.set client (makeKey settings id) value nx xx none)).wpIn
      (connected (server glob)).shared Q E b := by
  refine wpIn_command fun r b' ⟨_, hr⟩ => ?_
  have hr : if refused nx xx (Redis.alive b'.now b.entries (makeKey settings id)) = true
      then r = .ok none ∧ b'.entries = b.entries
      else r = .ok (some true) ∧ b'.entries = b.entries.insert (makeKey settings id) ⟨value, none⟩ := hr
  rw [hb.alive] at hr
  split_ifs at hr with hrefused
  · obtain ⟨rfl, hentries⟩ := hr
    exact hno hrefused b' hentries
  · obtain ⟨rfl, hentries⟩ := hr
    exact hyes (Bool.not_eq_true _ ▸ hrefused) b' hentries

theorem wpIn_create (httl : settings.defaultTtl = 0) {entity : T}
    (hentity : RoundTrips mapping entity) (hid : idOf mapping entity ≠ "") :
    (create settings mapping entity).wpIn (connected (server glob)).shared
      (fun r => Agrees settings mapping m (.create entity) (.ok r))
      (fun x => Agrees settings mapping m (.create entity) (.error x)) b := by
  unfold create
  refine Coro.wpIn_bind.mpr ((connects_connected _).wpIn_getClient rfl fun client => ?_)
  dsimp only
  rw [if_neg (show entityId mapping (mapping.entityToDict entity) ≠ "" from hid), ttl, if_pos httl]
  refine Coro.wpIn_bind.mpr (wpIn_tryExcept.mpr (wpIn_set hb (idOf mapping entity)
    (fun hno b' hentries => ?_) fun hyes b' hentries => ?_))
  · refine ⟨m, ?_, hb.at_time hentries⟩
    cases hm : m.lookup (idOf mapping entity) with
    | none => simp [hm, refused] at hno
    | some old => simp [Reference.backend, Backend.of, Reference.answer, Reference.create, reference, hm]
  · refine ⟨m.insert (idOf mapping entity) entity, ?_, hb.insert hentity hentries⟩
    cases hm : m.lookup (idOf mapping entity) with
    | none => simp [Reference.backend, Backend.of, Reference.answer, Reference.create, reference, hm]
    | some old => simp [hm, refused] at hyes

theorem wpIn_update (httl : settings.defaultTtl = 0) {entity : T}
    (hentity : RoundTrips mapping entity) :
    (update settings mapping entity).wpIn (connected (server glob)).shared
      (fun r => Agrees settings mapping m (.update entity) (.ok r))
      (fun x => Agrees settings mapping m (.update entity) (.error x)) b := by
  unfold update
  refine Coro.wpIn_bind.mpr ((connects_connected _).wpIn_getClient rfl fun client => ?_)
  dsimp only
  rw [ttl, if_pos httl]
  refine Coro.wpIn_bind.mpr (wpIn_tryExcept.mpr (wpIn_set hb (idOf mapping entity)
    (fun hno b' hentries => ?_) fun hyes b' hentries => ?_))
  · refine ⟨m, ?_, hb.at_time hentries⟩
    cases hm : m.lookup (idOf mapping entity) with
    | none => simp [Reference.backend, Backend.of, Reference.answer, reference, hm]
    | some old => simp [hm, refused] at hno
  · refine ⟨m.insert (idOf mapping entity) entity, ?_, hb.insert hentity hentries⟩
    cases hm : m.lookup (idOf mapping entity) with
    | none => simp [hm, refused] at hyes
    | some old => simp [Reference.backend, Backend.of, Reference.answer, reference, hm]

/-- What `MGET` gives for some of the keys, decoded. -/
theorem decode_mget (now : ℤ) {ids : List String} (hids : ∀ id ∈ ids, id ∈ m) :
    (((ids.map (makeKey settings)).map (Redis.alive now b.entries)).filterMap id).mapM
      (decode mapping) = .ok (ids.filterMap m.lookup) :=
  decode_values (hb.alive now) hb.roundTrips hids

theorem wpIn_list (hglob : Globs glob) (hplain : Plain settings) {limit offset : ℤ}
    (hlimit : 0 ≤ limit) (hoffset : 0 ≤ offset) :
    (list settings mapping limit offset).wpIn (connected (server glob)).shared
      (fun r => Agrees settings mapping m (.list limit offset) (.ok r))
      (fun x => Agrees settings mapping m (.list limit offset) (.error x)) b := by
  obtain ⟨limit, rfl⟩ := Int.eq_ofNat_of_zero_le hlimit
  obtain ⟨offset, rfl⟩ := Int.eq_ofNat_of_zero_le hoffset
  unfold list
  refine Coro.wpIn_bind.mpr ((connects_connected _).wpIn_getClient rfl fun client => ?_)
  refine Coro.wpIn_bind.mpr (wpIn_tryExcept.mpr (Coro.wpIn_bind.mpr (wpIn_command fun r b₁ hr => ?_)))
  obtain ⟨-, ⟨keys, rfl, hnodup, hkeys⟩, hentries⟩ := hr
  have hb₁ := hb.at_time hentries
  have hsort := hb.sort_keys hglob hplain hnodup hkeys
  have hlength : keys.length = m.keys.card := by
    rw [← (keys.mergeSort_perm (· ≤ ·)).length_eq, hsort, List.length_map, Finset.length_sort]
  have hpage : slice (keys.mergeSort (· ≤ ·)) offset (offset + limit) =
      (((m.keys.sort (· ≤ ·)).drop offset).take limit).map (makeKey settings) := by
    rw [slice_natCast, hsort, ← List.map_drop, ← List.map_take]
  have hanswer : ∀ {b'}, Holds settings mapping b' m → Agrees settings mapping m
      (.list limit offset) (.ok ((((m.keys.sort (· ≤ ·)).drop offset).take limit).filterMap m.lookup,
        (keys.length : ℤ))) b' := by
    intro b' hb'
    refine ⟨m, ?_, hb'⟩
    rw [hlength, ← Keyed.take_drop_inOrder]
    rfl
  dsimp only [Coro.Promised]
  rw [hpage]
  split_ifs with hempty
  · have hids : ((m.keys.sort (· ≤ ·)).drop offset).take limit = [] := by
      simpa using hempty
    have h := hanswer hb₁
    rw [hids] at h
    exact h
  · refine Coro.wpIn_bind.mpr (wpIn_command fun r b₂ hr => ?_)
    obtain ⟨-, rfl, hentries₂⟩ := hr
    refine Coro.wpIn_bind.mpr ?_
    rw [decode_mget hb₁ b₂.now fun id hid => ?_]
    · exact hanswer (hb₁.at_time hentries₂)
    · have hmem := List.mem_of_mem_drop (List.mem_of_mem_take hid)
      exact Finmap.mem_keys.mp ((Finset.mem_sort _).mp hmem)

end Refines

section Sessions

variable {F J T : Type} {settings : Settings F} {mapping : Mapping J T}
  {glob : String → String → Bool}

theorem refines (hglob : Globs glob) (hplain : Plain settings) (httl : settings.defaultTtl = 0) :
    Refines (Valid mapping) ((repository settings mapping).onServer (connected (server glob)))
      (reference mapping).backend (Holds settings mapping) := by
  refine refines_of_wpIn fun b m q hb hq => ?_
  cases q with
  | get id => exact wpIn_get hb id
  | list limit offset => exact wpIn_list hb hglob hplain hq.1 hq.2
  | create entity => exact wpIn_create hb httl hq.1 hq.2
  | update entity => exact wpIn_update hb httl hq
  | delete id => exact wpIn_delete hb id

/-- An empty server holds no entities. -/
theorem holds_empty {b : Server} (hb : b.entries = ∅) : Holds settings mapping b ∅ where
  stored _ := by
    rw [hb]
    rfl
  own key hkey := absurd (hb ▸ hkey) Finmap.notMem_empty
  roundTrips _ _ h := nomatch h

/-- **A `RedisRepository` is a map from ids to entities**: in every sequence of requests it answers as
the map does. -/
theorem refines_reference (hglob : Globs glob) (hplain : Plain settings)
    (httl : settings.defaultTtl = 0) {b : Server} (hb : b.entries = ∅) :
    (∀ qs : List (Request String T), ∃ l b',
      Session ((repository settings mapping).onServer (connected (server glob))) b l b' ∧
        l.map Answer.call = qs) ∧
    ∀ l b', Session ((repository settings mapping).onServer (connected (server glob))) b l b' →
      (∀ a ∈ l, Valid mapping a.call) → ∃ m, Session (reference mapping).backend ∅ l m := by
  constructor
  · exact fun qs => exists_session (D := operations String T)
      (exists_served (exists_connected (exists_server glob)) _) qs b
  · intro l b' hl hvalid
    obtain ⟨m, hm, -⟩ := (refines hglob hplain httl).session hl hvalid (holds_empty hb)
    exact ⟨m, hm⟩

end Sessions

/-! ### One item -/

/-- What is read from JSON: a text, or an object that has nothing but an id. -/
inductive Doc where
  /-- A string. -/
  | text (s : String)
  /-- An object. -/
  | object (id : String)

/-- Items are told apart by their ids, and have nothing else. -/
def itemMapping : Mapping Doc String where
  entityToDict id := Dict.empty.set "id" (.text id)
  dictToEntity
    | .object id | .text id => id
  dumps data :=
    match data.get? "id" with
    | some (.text id) => "\x7b\"id\": \"" ++ id ++ "\"\x7d"
    | _ => "\x7b\x7d"
  loads s := .ok (.object (String.ofList ((s.toList.drop 8).dropLast.dropLast)))
  str
    | .text id | .object id => id

/-- Settings for a server on this host. -/
def redisLocal : Settings ℕ := ⟨⟨"redis://localhost:6379", 10, 5, 5⟩, "openframe", 0⟩

/-- A final `*` matches everything. -/
def starGlob (pattern key : String) : Bool :=
  if pattern.toList.getLast? = some '*' then pattern.toList.dropLast.isPrefixOf key.toList
  else pattern == key

theorem globs_starGlob : Globs starGlob := by
  intro start _ key
  have hstar : (start ++ "*").toList = start.toList ++ ['*'] := String.toList_append ..
  rw [starGlob, hstar, if_pos List.getLast?_concat, List.dropLast_concat, List.isPrefixOf_iff_prefix]

/-- An item is created, refused, found, listed and deleted. -/
def itemRequests : List (Request String String) :=
  [.create "7", .create "7", .get "7", .list 10 0, .delete "7"]

/-- The five requests are answered as the map answers them. -/
theorem refines_reference_item : ∃ l b' m,
    Session ((repository redisLocal itemMapping).onServer (connected (server starGlob))) ⟨0, ∅⟩ l b' ∧
    l.map Answer.call = itemRequests ∧ Session (reference itemMapping).backend ∅ l m := by
  have h := @refines_reference _ _ _ redisLocal itemMapping _ globs_starGlob
    (List.all_iff_forall_prop.mp (by decide)) rfl (b := ⟨0, ∅⟩) rfl
  obtain ⟨l, b', hl, hcalls⟩ := h.1 itemRequests
  have hvalid : ∀ q ∈ itemRequests, Valid itemMapping q := by
    have hitem : RoundTrips itemMapping "7" ∧ idOf itemMapping "7" ≠ "" := ⟨rfl, by decide⟩
    simp [itemRequests, Valid, hitem]
  obtain ⟨m, hm⟩ := h.2 l b' hl fun a ha => hvalid _ (hcalls ▸ List.mem_map_of_mem ha)
  exact ⟨l, b', m, hl, hcalls, hm⟩

end OpenframeAdapters.Db.Redis
