import OpenframeAdapters.Db.Redis.Refinement

/-!
# Paging through a Redis repository

`SCAN` gives every key at least once, and possibly more often. `list(limit, offset)` counts, sorts
and slices what it has been given, and each page has a `SCAN` of its own.

## The model

* `Scanned` — a server where the entities do not change, and `SCAN` gives keys as it pleases. What
  each call of `SCAN` is going to give is a part of its state.
* `PagesThrough` — one page after the other, each entity is listed once, in the order of the keys,
  and the total is the number of entities.

## What is proved

* `wpIn_list_scanned` — what `list(limit, offset)` returns.
* `replies_of_session` — and what all the pages are.
* `pagesThrough_of_nodup`, `nodup_of_pagesThrough` — no `SCAN` may give a key twice.
-/

namespace OpenframeAdapters.Db.Redis

open Python OpenframeAdapters.Core

open Store (Keyed)

/-! ### The server -/

/-- The state of the server. -/
structure Scanned where
  /-- What the next calls of `SCAN` give. -/
  scans : ℕ → List String
  /-- What has been stored. -/
  entries : Keyed String Entry

/-- The state after so many calls of `SCAN`. -/
def Scanned.after (b : Scanned) (n : ℕ) : Scanned := ⟨fun k => b.scans (n + k), b.entries⟩

@[simp] theorem Scanned.after_zero (b : Scanned) : b.after 0 = b := by
  simp [after]

theorem Scanned.after_one (b : Scanned) (n : ℕ) : (b.after n).after 1 = b.after (n + 1) := by
  simp only [after, Nat.add_assoc]

/-- The server: `SCAN` gives what it is going to give, and time passes before any other command. -/
def scanning (glob : String → String → Bool) : Backend commands PyExc Scanned
  | b, .scanIter _ _, r, b' => r = .ok (b.scans 0) ∧ b' = b.after 1
  | b, q, r, b' => b'.scans = b.scans ∧ ∃ now, Answers glob now b.entries q r b'.entries

theorem exists_scanning (glob : String → String → Bool) (b : Scanned) (q : Command) :
    ∃ r b', scanning glob b q r b' := by
  cases q with
  | scanIter => exact ⟨_, _, rfl, rfl⟩
  | get | mget | set | delete =>
    obtain ⟨r, m', h⟩ := exists_answers glob 0 b.entries _
    exact ⟨r, ⟨b.scans, m'⟩, rfl, 0, h⟩

section Pages

variable {F J T : Type} (settings : Settings F) (mapping : Mapping J T)

/-- The id in a key. -/
def idOfKey (key : String) : String :=
  String.ofList (key.toList.drop (settings.keyPrefix ++ ":").toList.length)

/-- The server has these entities under the keys of the repository, at any time. -/
structure Stores (entries : Keyed String Entry) (m : Keyed String T) : Prop where
  /-- Each under its key. -/
  alive : ∀ now id, Redis.alive now entries (makeKey settings id) =
    (m.lookup id).map fun entity => mapping.dumps (mapping.entityToDict entity)
  /-- JSON gives them back. -/
  roundTrips : ∀ id entity, m.lookup id = some entity → RoundTrips mapping entity

/-- `SCAN` gives the keys of these entities, each at least once. -/
def ScansAll (b : Scanned) (m : Keyed String T) : Prop :=
  ∀ n key, key ∈ b.scans n ↔ ∃ id ∈ m, key = makeKey settings id

/-- The entities of a page, given what `SCAN` has given. -/
def pageOf (m : Keyed String T) (keys : List String) (limit offset : ℕ) : List T :=
  ((((keys.mergeSort (· ≤ ·)).map (idOfKey settings)).drop offset).take limit).filterMap m.lookup

/-- The requests for the first pages. -/
def pageRequests (limit n : ℕ) : List (Request String T) :=
  (List.range n).map fun i => .list limit (i * limit : ℕ)

/-- The object gives the entities in so many pages: there is an end to it, each entity is on one page,
in the order of the list, and every page has the number of all entities with it. -/
def PagesThrough {β : Type} (B : Backend (operations String T) Raised β) (b : β) (limit n : ℕ)
    (entities : List T) : Prop :=
  (∃ l b', Session B b l b' ∧ l.map Answer.call = pageRequests limit n) ∧
    ∀ l b', Session B b l b' → l.map Answer.call = pageRequests limit n →
      ∃ page : ℕ → List T, (List.range n).flatMap page = entities ∧
        l = (List.range n).map fun i =>
          ⟨.list limit (i * limit : ℕ), .ok (page i, (entities.length : ℤ))⟩

variable {settings mapping} {glob : String → String → Bool} {b : Scanned} {m : Keyed String T}

/-- A server that holds the entities has them under their keys. -/
theorem Holds.stores {b : Server} (h : Holds settings mapping b m) :
    Stores settings mapping b.entries m := ⟨h.alive, h.roundTrips⟩

@[simp] theorem idOfKey_makeKey (id : String) : idOfKey settings (makeKey settings id) = id := by
  rw [idOfKey, toList_makeKey, List.drop_left, String.ofList_toList]

/-- The keys on a page are keys of entities. -/
theorem exists_ids {keys : List String} (hkeys : ∀ key ∈ keys, ∃ id ∈ m, key = makeKey settings id) :
    keys = (keys.map (idOfKey settings)).map (makeKey settings) ∧
      ∀ id ∈ keys.map (idOfKey settings), id ∈ m := by
  constructor
  · rw [List.map_map]
    refine (List.map_id keys).symm.trans (List.map_congr_left fun key hkey => ?_)
    obtain ⟨id, -, rfl⟩ := hkeys key hkey
    rw [Function.comp_apply, idOfKey_makeKey, id_eq]
  · intro id hid
    obtain ⟨key, hkey, rfl⟩ := List.mem_map.mp hid
    obtain ⟨id, hid, rfl⟩ := hkeys key hkey
    rwa [idOfKey_makeKey]

/-! ### One page -/

theorem wpIn_list_scanned (hb : Stores settings mapping b.entries m)
    (hscan : ScansAll settings b m) (limit offset : ℕ) :
    (list settings mapping limit offset).wpIn (connected (scanning glob)).shared
      (fun r b' => r = (pageOf settings m (b.scans 0) limit offset, ((b.scans 0).length : ℤ)) ∧
        b' = b.after 1) (fun _ _ => False) b := by
  have hkeys : ∀ key ∈ slice ((b.scans 0).mergeSort (· ≤ ·)) offset (offset + limit),
      ∃ id ∈ m, key = makeKey settings id := by
    intro key hkey
    rw [slice_natCast] at hkey
    have hmem := List.mem_of_mem_drop (List.mem_of_mem_take hkey)
    exact (hscan 0 key).mp ((List.mergeSort_perm _ _).mem_iff.mp hmem)
  obtain ⟨hpage, hids⟩ := exists_ids hkeys
  have hentities : (((slice ((b.scans 0).mergeSort (· ≤ ·)) offset (offset + limit)).map
      (idOfKey settings))).filterMap m.lookup = pageOf settings m (b.scans 0) limit offset := by
    rw [pageOf, slice_natCast, List.map_take, List.map_drop]
  unfold list
  refine Coro.wpIn_bind.mpr ((connects_connected _).wpIn_getClient rfl fun client => ?_)
  refine Coro.wpIn_bind.mpr (wpIn_tryExcept.mpr (Coro.wpIn_bind.mpr (wpIn_command fun r b₁ hr => ?_)))
  obtain ⟨rfl, rfl⟩ := hr
  dsimp only [Coro.Promised]
  split_ifs with hempty
  · rw [List.isEmpty_iff.mp hempty] at hentities
    exact ⟨Prod.ext hentities rfl, rfl⟩
  · refine Coro.wpIn_bind.mpr (wpIn_command fun r b₂ ⟨hscans, now, hr, hentries⟩ => ?_)
    cases hr
    have hb₂ : b₂ = b.after 1 := by
      obtain ⟨scans, entries⟩ := b₂
      cases hscans
      cases hentries
      rfl
    have hdecode := decode_values (hb.alive now) hb.roundTrips hids
    rw [← hpage, hentities] at hdecode
    refine Coro.wpIn_bind.mpr ?_
    rw [show (b.after 1).entries = b.entries from rfl, hdecode]
    exact ⟨rfl, hb₂⟩

/-! ### All pages -/

/-- **Pages, one after the other**: each is made of what its own `SCAN` gives. -/
theorem replies_of_session (hb : Stores settings mapping b.entries m)
    (hscan : ScansAll settings b m) {limit n k : ℕ}
    {l : List (Answer (operations String T) Raised)} {b' : Scanned}
    (hl : Session ((repository settings mapping).onServer (connected (scanning glob))) (b.after k) l
      b')
    (hcalls : l.map Answer.call =
      (List.range' k n).map fun i => .list limit (i * limit : ℕ)) :
    l = (List.range' k n).map fun i => ⟨.list limit (i * limit : ℕ),
      .ok (pageOf settings m (b.scans i) limit (i * limit), ((b.scans i).length : ℤ))⟩ := by
  induction n generalizing k l with
  | zero => exact List.map_eq_nil_iff.mp hcalls
  | succ n ih =>
    rw [List.range'_succ, List.map_cons] at hcalls
    cases hl with
    | nil => cases hcalls
    | @cons _ a b₁ l _ hserve hl =>
      obtain ⟨call, reply⟩ := a
      rw [List.map_cons, List.cons.injEq] at hcalls
      obtain ⟨rfl, hcalls⟩ := hcalls
      have hreply := Coro.EndsIn.of_wpIn hserve (wpIn_list_scanned (b := b.after k) hb
        (fun n key => hscan (k + n) key) limit (k * limit))
      cases reply with
      | error x => exact hreply.elim
      | ok r =>
        obtain ⟨rfl, rfl⟩ := hreply
        rw [Scanned.after_one] at hl
        rw [List.range'_succ, List.map_cons, ← ih hl hcalls]
        rfl

/-- The pages of a list are the list. -/
theorem flatMap_pages {α : Type} (xs : List α) (limit n : ℕ) :
    ((List.range n).flatMap fun i => (xs.drop (i * limit)).take limit) = xs.take (n * limit) := by
  induction n with
  | zero => simp
  | succ n ih =>
    rw [List.range_succ, List.flatMap_append, ih, List.flatMap_singleton, Nat.succ_mul,
      List.take_add]

/-- The keys of the entities, in order. -/
theorem sort_scan (hscan : ScansAll settings b m) {n : ℕ} (hnodup : (b.scans n).Nodup) :
    (b.scans n).mergeSort (· ≤ ·) = (m.keys.sort (· ≤ ·)).map (makeKey settings) := by
  refine sort_of_mem_iff hnodup fun key => ?_
  simp only [hscan n key, eq_comm]

/-- A `SCAN` that gives as many keys as there are entities gives none twice. -/
theorem nodup_of_length (hscan : ScansAll settings b m) {n : ℕ}
    (hlength : (b.scans n).length = m.keys.card) : (b.scans n).Nodup := by
  have hkeys : (b.scans n).toFinset = m.keys.image (makeKey settings) := by
    ext key
    simp only [List.mem_toFinset, hscan n key, Finset.mem_image, Finmap.mem_keys, eq_comm]
  have hcard := congrArg Finset.card hkeys
  rw [Finset.card_image_of_injective _ fun _ _ heq => makeKey_inj.mp heq, List.card_toFinset,
    ← hlength] at hcard
  rw [← (List.dedup_sublist _).eq_of_length hcard]
  exact List.nodup_dedup _

theorem exists_pages (b : Scanned) (limit n : ℕ) : ∃ l b',
    Session ((repository settings mapping).onServer (connected (scanning glob))) b l b' ∧
      l.map Answer.call = pageRequests limit n :=
  exists_session (D := operations String T)
    (exists_served (exists_connected (exists_scanning glob)) _) (pageRequests limit n) b

/-- Where no `SCAN` gives a key twice, the pages are what they should be. -/
theorem pagesThrough_of_nodup (hb : Stores settings mapping b.entries m)
    (hscan : ScansAll settings b m) {limit n : ℕ} (hn : m.keys.card ≤ n * limit)
    (hnodup : ∀ i < n, (b.scans i).Nodup) :
    PagesThrough ((repository settings mapping).onServer (connected (scanning glob))) b limit n
      m.inOrder := by
  refine ⟨exists_pages b limit n, fun l b' hl hcalls => ?_⟩
  refine ⟨fun i => (m.inOrder.drop (i * limit)).take limit, ?_, ?_⟩
  · rw [flatMap_pages, List.take_of_length_le (by rwa [Keyed.length_inOrder])]
  · have hreplies := replies_of_session (k := 0) hb hscan (by rwa [Scanned.after_zero])
      (by rwa [← List.range_eq_range'])
    rw [hreplies, ← List.range_eq_range']
    refine List.map_congr_left fun i hi => ?_
    have hsort := sort_scan hscan (hnodup i (List.mem_range.mp hi))
    have hids : ((m.keys.sort (· ≤ ·)).map (makeKey settings)).map (idOfKey settings) =
        m.keys.sort (· ≤ ·) := by
      rw [List.map_map]
      exact (List.map_congr_left fun id _ => idOfKey_makeKey id).trans (List.map_id _)
    have hlength : (b.scans i).length = m.inOrder.length := by
      rw [← (List.mergeSort_perm _ (· ≤ ·)).length_eq, hsort, List.length_map, Finset.length_sort,
        Keyed.length_inOrder]
    rw [pageOf, hsort, hids, ← Keyed.take_drop_inOrder, hlength]

/-- A page whose `SCAN` gives a key twice has a total that is too high. -/
theorem nodup_of_pagesThrough (hb : Stores settings mapping b.entries m)
    (hscan : ScansAll settings b m) {limit n : ℕ}
    (h : PagesThrough ((repository settings mapping).onServer (connected (scanning glob))) b limit n
      m.inOrder) : ∀ i < n, (b.scans i).Nodup := by
  intro i hi
  obtain ⟨⟨l, b', hl, hcalls⟩, hall⟩ := h
  obtain ⟨page, -, hpages⟩ := hall l b' hl hcalls
  have hreplies := replies_of_session (k := 0) hb hscan (by rwa [Scanned.after_zero])
    (by rwa [← List.range_eq_range'])
  rw [hpages, ← List.range_eq_range'] at hreplies
  have hreply := List.map_inj_left.mp hreplies i (List.mem_range.mpr hi)
  injection hreply with _ hreply
  have htotal := congrArg Prod.snd (Except.ok.inj hreply)
  refine nodup_of_length hscan ?_
  rw [← Keyed.length_inOrder]
  exact (Int.ofNat_inj.mp htotal).symm

end Pages

/-- **Paging**: the pages list each entity once, with the number of all entities, exactly where no
`SCAN` of theirs gives a key twice. -/
theorem pagesThrough_iff_nodup {F J T : Type} (settings : Settings F) (mapping : Mapping J T)
    (glob : String → String → Bool) (b : Scanned) (m : Keyed String T) (limit n : ℕ)
    (hb : Stores settings mapping b.entries m) (hscan : ScansAll settings b m)
    (hn : m.keys.card ≤ n * limit) :
    PagesThrough ((repository settings mapping).onServer (connected (scanning glob))) b limit n
      m.inOrder ↔ ∀ i < n, (b.scans i).Nodup :=
  ⟨nodup_of_pagesThrough hb hscan, pagesThrough_of_nodup hb hscan hn⟩

/-! ### Two items -/

/-- Two items. -/
def twoItems : Keyed String String := (Finmap.insert "b" "b" ∅).insert "a" "a"

/-- The server has both, and the second `SCAN` gives one of them twice. -/
def scannedTwice : Scanned where
  scans n := if n = 1 then ["openframe:a", "openframe:a", "openframe:b"]
    else ["openframe:b", "openframe:a"]
  entries := (Finmap.insert "openframe:b" (entry itemMapping "b") ∅).insert "openframe:a"
    (entry itemMapping "a")

theorem stores_twoItems : Stores redisLocal itemMapping scannedTwice.entries twoItems := by
  have hempty : Holds redisLocal itemMapping ⟨0, ∅⟩ ∅ := holds_empty rfl
  have hb : Holds redisLocal itemMapping
      ⟨0, Finmap.insert "openframe:b" (entry itemMapping "b") ∅⟩ (Finmap.insert "b" "b" ∅) :=
    hempty.insert (show RoundTrips itemMapping "b" from rfl) rfl
  have ha : Holds redisLocal itemMapping ⟨0, scannedTwice.entries⟩ twoItems :=
    hb.insert (show RoundTrips itemMapping "a" from rfl) rfl
  exact ha.stores

theorem scansAll_twoItems : ScansAll redisLocal scannedTwice twoItems := by
  have hitems : ∀ id, id ∈ twoItems ↔ id = "a" ∨ id = "b" := by
    simp [twoItems, Finmap.mem_insert, Finmap.notMem_empty]
  have ha : makeKey redisLocal "a" = "openframe:a" := rfl
  have hb : makeKey redisLocal "b" = "openframe:b" := rfl
  intro n key
  simp only [hitems, or_and_right, exists_or, exists_eq_left, ha, hb, scannedTwice]
  split_ifs
  · simp
  · simp [or_comm]

/-- Two items are paged through if and only if no scan names one of them twice. -/
theorem pagesThrough_iff_nodup_item :
    PagesThrough ((repository redisLocal itemMapping).onServer (connected (scanning starGlob)))
      scannedTwice 2 1 twoItems.inOrder ↔ ∀ i < 1, (scannedTwice.scans i).Nodup :=
  pagesThrough_iff_nodup redisLocal itemMapping starGlob scannedTwice twoItems 2 1 stores_twoItems
    scansAll_twoItems (by decide)

/-- On pages of one item each, the first item comes twice and the second one never. -/
theorem not_pagesThrough :
    ¬ PagesThrough ((repository redisLocal itemMapping).onServer (connected (scanning starGlob)))
      scannedTwice 1 2 twoItems.inOrder := by
  intro h
  have hnodup := nodup_of_pagesThrough stores_twoItems scansAll_twoItems h 1 (by decide)
  revert hnodup
  decide

end OpenframeAdapters.Db.Redis
