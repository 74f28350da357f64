import OpenframeAdapters.Db.Falkordb.Ids
import OpenframeAdapters.Db.Merging
import OpenframeAdapters.Store.Listing
import Mathlib.Data.String.Basic

/-!
# A FalkorDB graph keeps entities

All operations of a `FalkorDBRepository`, for entities whose ids are strings.

## The model

* `records` — the nodes with the label, by their ids. `update()` adds properties to a node.
* `Sorts` — what `ORDER BY n.id` does to such nodes.

## What is proved

* `lists_…` — the nodes stay a list of records with different ids.
* `refines_records` — the repository answers as the records would.
* `falkordb_recorded` — so what is read at any time follows from what was answered before.
-/

namespace OpenframeAdapters.Db.Falkordb

open Python OpenframeAdapters.Core

open Store (Keyed Lists)

variable {F V T : Type}

/-! ### Ids -/

/-- The id of a node, where it is a string. -/
def Values.keyOf (values : Values V) (node : Node V) : Option String :=
  (node.get? "id").bind fun v =>
    if values.equal (values.string (values.str v)) v then some (values.str v) else none

/-- The nodes are put in the order of their ids. -/
structure Server.Sorts (server : Server V) : Prop where
  perm : ∀ nodes, (server.sorted nodes).Perm nodes
  ordered : ∀ nodes, (server.sorted nodes).Pairwise fun v w =>
    ∀ a b, server.values.keyOf v = some a → server.values.keyOf w = some b → a ≤ b

section Ids

variable {server : Server V} {nodes : List (Node V)} {node : Node V} {s : String}
  {m : Keyed String (Node V)} {properties : Dict String V}

theorem keyOf_eq_some_iff {values : Values V} :
    values.keyOf node = some s ↔ node.get? "id" = some (values.string s) := by
  unfold Values.keyOf
  cases hid : node.get? "id" with
  | none => simp
  | some v =>
    rw [Option.bind_some, Option.some.injEq]
    split_ifs with hequal
    · have hv := (values.equal_string _ v).mp hequal
      rw [Option.some.injEq]
      constructor
      · rintro rfl
        exact hv
      · rintro rfl
        exact values.str_string s
    · constructor
      · rintro ⟨⟩
      · rintro rfl
        rw [values.str_string] at hequal
        exact absurd ((values.equal_string s _).mpr rfl) hequal

theorem hasId_str : server.hasId (.str s) node = decide (server.values.keyOf node = some s) := by
  have hiff : server.hasId (.str s) node = true ↔ server.values.keyOf node = some s := by
    rw [keyOf_eq_some_iff]
    cases hid : node.get? "id" with
    | none => simp [Server.hasId_none hid]
    | some w =>
      rw [Server.hasId_eq (v := server.values.string s) rfl hid, server.values.equal_string,
        Option.some.injEq]
  by_cases hkey : server.values.keyOf node = some s
  · rw [hiff.mpr hkey, decide_eq_true hkey]
  · rw [decide_eq_false hkey]
    simpa [hkey] using hiff

/-- What is found by an id. -/
theorem found_str (h : Lists server.values.keyOf nodes m) (s : String) :
    server.found nodes (.str s) = (m.lookup s).toList := by
  rw [← h.filter_key s]
  exact List.filter_congr fun node _ => hasId_str

/-- Two nodes with string ids clash where the ids are the same. -/
theorem clash_iff {node' : Node V} {t : String} (h : server.values.keyOf node = some s)
    (h' : server.values.keyOf node' = some t) : server.clash node node' = true ↔ s = t := by
  rw [keyOf_eq_some_iff] at h h'
  unfold Server.clash
  rw [h, h']
  dsimp only
  rw [server.values.equal_string]
  constructor
  · intro heq
    rw [← server.values.str_string s, ← heq, server.values.str_string]
  · rintro rfl
    rfl

/-- Listed nodes are accepted. -/
theorem unique_of_lists (h : Lists server.values.keyOf nodes m) : server.Unique nodes := by
  refine h.distinct.imp_of_mem fun {v w} hv hw hne => ?_
  obtain ⟨a, ha⟩ := h.keyed v hv
  obtain ⟨b, hb⟩ := h.keyed w hw
  rw [← Bool.not_eq_true, clash_iff ha hb]
  rintro rfl
  exact hne (ha.trans hb.symm)

/-- A node whose id is taken is not. -/
theorem not_unique_append (h : Lists server.values.keyOf nodes m) {old : Node V}
    (hold : m.lookup s = some old) (hnode : server.values.keyOf node = some s) :
    ¬ server.Unique (nodes ++ [node]) := by
  obtain ⟨hmem, hkey⟩ := (h.lookup s old).mp hold
  intro hunique
  have hclash := (Server.unique_append.mp hunique).2 old hmem
  rw [← Bool.not_eq_true, clash_iff hkey hnode] at hclash
  exact hclash rfl

/-- The id is stored, and is kept. -/
theorem keyOf_stored (h : properties.get? "id" = some (server.values.string s)) :
    server.values.keyOf (server.stored properties) = some s :=
  keyOf_eq_some_iff.mpr (Server.get?_stored h (server.values.isNull_string s))

theorem keyOf_merge (h : properties.get? "id" = some (server.values.string s)) :
    server.values.keyOf (server.merge node properties) = some s :=
  keyOf_eq_some_iff.mpr (Server.get?_merge h (server.values.isNull_string s))

/-! What becomes of the nodes. -/

theorem lists_create (h : Lists server.values.keyOf nodes m) (hs : m.lookup s = none)
    (hid : properties.get? "id" = some (server.values.string s)) :
    Lists server.values.keyOf (nodes ++ [server.stored properties])
      (m.insert s (server.stored properties)) :=
  h.append hs (keyOf_stored hid)

theorem lists_update (h : Lists server.values.keyOf nodes m) (hs : m.lookup s = some node)
    (hid : properties.get? "id" = some (server.values.string s)) :
    Lists server.values.keyOf (server.updated nodes (.str s) properties)
      (m.insert s (server.merge node properties)) := by
  have hreplaced := h.replace (fun node => server.merge node properties)
    (fun _ _ => keyOf_merge hid) hs
  have hupdated : server.updated nodes (.str s) properties = nodes.map fun node =>
      if server.values.keyOf node = some s then server.merge node properties else node := by
    unfold Server.updated
    refine List.map_congr_left fun node _ => ?_
    rw [hasId_str]
    by_cases hkey : server.values.keyOf node = some s
    · simp [hkey]
    · simp [hkey]
  rwa [hupdated]

theorem updated_of_none (h : Lists server.values.keyOf nodes m) (hs : m.lookup s = none) :
    server.updated nodes (.str s) properties = nodes := by
  refine Server.updated_of_hasId fun node hnode => ?_
  rw [hasId_str]
  simpa using h.key_ne hs hnode

theorem lists_delete (h : Lists server.values.keyOf nodes m) (s : String) :
    Lists server.values.keyOf (nodes.filter fun node => !server.hasId (.str s) node) (m.erase s) := by
  have hremoved := h.remove s
  have hfilter : (nodes.filter fun node => !server.hasId (.str s) node) =
      nodes.filter fun node => server.values.keyOf node ≠ some s := by
    refine List.filter_congr fun node _ => ?_
    rw [hasId_str]
    simp
  rwa [hfilter]

/-- The nodes in the order of their ids. -/
theorem sorted_eq (hsorts : server.Sorts) (h : Lists server.values.keyOf nodes m) :
    server.sorted nodes = m.inOrder :=
  h.eq_inOrder (hsorts.perm nodes) (hsorts.ordered nodes)

end Ids

/-! ### The operations -/

/-- The nodes are the records. `update()` adds properties. -/
def records (server : Server V) (mapping : Mapping V T) : Merging String T (Node V) where
  idOf entity := entityId (server.mapped mapping) (mapping.entityToProperties entity)
  make entity := server.stored (mapping.entityToProperties entity)
  merge entity node := server.merge node (mapping.entityToProperties entity)
  shown _ node := mapping.nodeToEntity node
  returned _ _ node := mapping.nodeToEntity node
  taken := some ⟨.query, "create", some responseError⟩

/-- The repository together with its graph. -/
def store (server : Server V) (settings : Settings F) (mapping : Mapping V T) :
    Backend (operations String T) Raised (List (Node V)) :=
  (repository settings (server.mapped mapping)).onServer
    (connected (Backend.of (answer server settings.nodeLabel)))

/-- An entity that can be stored, and has a string as its id. -/
def IsNode (server : Server V) (mapping : Mapping V T) (entity : T) : Prop :=
  server.refuses (mapping.entityToProperties entity) = none ∧
    ∃ s ≠ "", (mapping.entityToProperties entity).get? "id" = some (server.values.string s)

/-- A page has a place where it could be. -/
def ValidAsked (server : Server V) (mapping : Mapping V T) : Request String T → Prop
  | .get _ | .delete _ => True
  | .list limit offset => 0 ≤ limit ∧ 0 ≤ offset
  | .create entity | .update entity => IsNode server mapping entity

section Refinement

variable {server : Server V} {settings : Settings F} {mapping : Mapping V T}
  {nodes : List (Node V)} {entity : T} {E : Raised → List (Node V) → Prop}

/-- **`create()`** of an entity whose id is taken. -/
theorem wpIn_create_taken (h : entityId mapping (mapping.entityToProperties entity) ≠ "")
    (hrefusal : server.refusal (mapping.entityToProperties entity)
      (nodes ++ [server.stored (mapping.entityToProperties entity)]) = some responseError) :
    (create settings mapping entity).wpIn (session server settings.nodeLabel) (fun _ _ => False)
      (fun x nodes' => x = .adapter ⟨.query, "create", some responseError⟩ ∧ nodes' = nodes)
      nodes := by
  unfold create
  refine Coro.wpIn_bind.mpr (wpIn_ensureReady ?_)
  dsimp only
  rw [if_neg h]
  refine Coro.wpIn_bind.mpr (wpIn_getGraph fun graph => ?_)
  refine Coro.wpIn_bind.mpr (wpIn_tryExcept.mpr (wpIn_command_of.mpr ?_))
  have hrun : answer server settings.nodeLabel (.nodes graph (createQuery settings.nodeLabel)
      [("props", .props (mapping.entityToProperties entity))]) nodes =
        (.error responseError, nodes) := by
    refine (if_pos rfl).trans ?_
    rw [hrefusal]
  rw [hrun]
  exact ⟨rfl, rfl⟩

/-- **`list()`**. -/
theorem wpIn_list (limit offset : ℤ) :
    (list settings mapping limit offset).wpIn (session server settings.nodeLabel) (fun o nodes' =>
      o = (((((server.sorted nodes).drop offset.toNat).take limit.toNat).map mapping.nodeToEntity),
        (nodes.length : ℤ)) ∧ nodes' = nodes) (fun _ _ => False) nodes := by
  unfold list
  refine Coro.wpIn_bind.mpr (wpIn_ensureReady (Coro.wpIn_bind.mpr (wpIn_getGraph fun graph => ?_)))
  refine Coro.wpIn_bind.mpr (wpIn_tryExcept.mpr (Coro.wpIn_bind.mpr (wpIn_command_of.mpr ?_)))
  have hrows : answer server settings.nodeLabel (.nodes graph (rowsQuery settings.nodeLabel)
      [("offset", .int offset), ("limit", .int limit)]) nodes =
        (.ok (((server.sorted nodes).drop offset.toNat).take limit.toNat), nodes) := if_pos rfl
  rw [hrows]
  refine Coro.wpIn_bind.mpr (wpIn_command_of.mpr ?_)
  have hcount : answer server settings.nodeLabel (.count graph (countQuery settings.nodeLabel)) nodes =
      (.ok [(nodes.length : ℤ)], nodes) := if_pos rfl
  rw [hcount]
  exact ⟨rfl, rfl⟩

/-- **The nodes are the records.** -/
theorem refines_records (hsorts : server.Sorts) : Refines (ValidAsked server mapping)
    (store server settings mapping)
    (Backend.of (D := operations String T) ((records server mapping).answer .sorted))
    (Lists server.values.keyOf) := by
  refine refines_of_wpIn ?_
  intro nodes m q hlists hq
  cases q with
  | get id =>
    refine Coro.wpIn_mono ?_ (fun _ _ hx => hx.elim) (wpIn_getBy (.str id))
    rintro _ _ ⟨rfl, rfl⟩
    refine ⟨m, ?_, hlists⟩
    rw [found_str hlists]
    cases hm : m.lookup id with
    | none => simp [Backend.of, Merging.answer, hm]
    | some node =>
      simp [Backend.of, Merging.answer, hm]
      rfl
  | list limit offset =>
    refine Coro.wpIn_mono ?_ (fun _ _ hx => hx.elim) (wpIn_list limit offset)
    rintro _ _ ⟨rfl, rfl⟩
    have hshow : ((m.inOrder.drop offset.toNat).take limit.toNat).map mapping.nodeToEntity =
        (records server mapping).show m ((m.sortedKeys.drop offset.toNat).take limit.toNat) := by
      rw [Keyed.take_drop_inOrder]
      exact List.map_filterMap ..
    have hanswer : (records server mapping).answer .sorted (.list limit offset) m =
        (.ok ((records server mapping).show m ((m.sortedKeys.drop offset.toNat).take limit.toNat),
          (m.keys.card : ℤ)), m) := rfl
    rw [← hshow] at hanswer
    refine ⟨m, ?_, hlists⟩
    rw [sorted_eq hsorts hlists, hlists.length]
    exact hanswer
  | create entity =>
    obtain ⟨hrefuses, s, hs, hid⟩ := hq
    have hidOf : (records server mapping).idOf entity = s := by
      change entityId (server.mapped mapping) _ = s
      rw [entityId_eq hid, server.values.str_string]
    have hne : entityId (server.mapped mapping) (mapping.entityToProperties entity) ≠ "" := by
      rw [entityId_eq hid, server.values.str_string]
      exact hs
    cases hm : m.lookup s with
    | none =>
      have hrefusal := Server.refusal_eq_none_iff.mpr
        ⟨hrefuses, unique_of_lists (lists_create hlists hm hid)⟩
      have hanswer : (records server mapping).create entity m = _ := Merging.create_new (hidOf ▸ hm)
      refine Coro.wpIn_mono ?_ (fun _ _ hx => hx.elim) (wpIn_create hne hrefusal)
      rintro _ _ ⟨rfl, rfl⟩
      refine ⟨_, hanswer, ?_⟩
      rw [hidOf]
      exact lists_create hlists hm hid
    | some old =>
      have hunique := not_unique_append hlists hm (keyOf_stored hid)
      have hrefusal : server.refusal (mapping.entityToProperties entity)
          (nodes ++ [server.stored (mapping.entityToProperties entity)]) = some responseError := by
        simp [Server.refusal, hrefuses, hunique]
      have hanswer : (records server mapping).create entity m = _ :=
        Merging.create_taken (hidOf ▸ hm) rfl
      refine Coro.wpIn_mono (fun _ _ ha => ha.elim) ?_ (wpIn_create_taken hne hrefusal)
      rintro _ _ ⟨rfl, rfl⟩
      exact ⟨m, hanswer, hlists⟩
  | update entity =>
    obtain ⟨hrefuses, s, hs, hid⟩ := hq
    have hidOf : (records server mapping).idOf entity = s := by
      change entityId (server.mapped mapping) _ = s
      rw [entityId_eq hid, server.values.str_string]
    have hupdated : updateOf server (server.mapped mapping) entity nodes =
        server.updated nodes (.str s) (mapping.entityToProperties entity) := by
      unfold updateOf
      rw [Server.mapped_entityToProperties, entityId_eq hid, server.values.str_string]
    cases hm : m.lookup s with
    | none =>
      have hrefusal : server.refusal (mapping.entityToProperties entity)
          (updateOf server (server.mapped mapping) entity nodes) = none := by
        rw [hupdated, updated_of_none hlists hm]
        exact Server.refusal_eq_none_iff.mpr ⟨hrefuses, unique_of_lists hlists⟩
      refine Coro.wpIn_mono ?_ (fun _ _ hx => hx.elim) (wpIn_update hrefusal)
      rintro _ _ ⟨rfl, rfl⟩
      refine ⟨m, ?_, ?_⟩
      · have hfound := found_str hlists s
        rw [hm] at hfound
        rw [Server.mapped_entityToProperties, entityId_eq hid, server.values.str_string, hfound]
        exact Merging.update_none (hidOf ▸ hm)
      · rw [hupdated, updated_of_none hlists hm]
        exact hlists
    | some old =>
      have hrefusal : server.refusal (mapping.entityToProperties entity)
          (updateOf server (server.mapped mapping) entity nodes) = none := by
        rw [hupdated]
        exact Server.refusal_eq_none_iff.mpr
          ⟨hrefuses, unique_of_lists (lists_update hlists hm hid)⟩
      have hanswer := Merging.update_some (M := records server mapping) (O := .sorted) (hidOf ▸ hm)
      rw [hidOf] at hanswer
      refine Coro.wpIn_mono ?_ (fun _ _ hx => hx.elim) (wpIn_update hrefusal)
      rintro _ _ ⟨rfl, rfl⟩
      refine ⟨m.insert s (server.merge old (mapping.entityToProperties entity)), ?_, ?_⟩
      · have hfound := found_str hlists s
        rw [hm] at hfound
        rw [Server.mapped_entityToProperties, entityId_eq hid, server.values.str_string, hfound]
        exact hanswer
      · rw [hupdated]
        exact lists_update hlists hm hid
  | delete id =>
    refine Coro.wpIn_mono ?_ (fun _ _ hx => hx.elim) (wpIn_deleteBy (.str id))
    rintro _ _ ⟨rfl, rfl⟩
    refine ⟨m.erase id, ?_, lists_delete hlists id⟩
    rw [found_str hlists]
    cases hm : m.lookup id with
    | none => simp [Backend.of, Merging.answer, hm]
    | some node => simp [Backend.of, Merging.answer, hm]

/-- **The graph**: requests in any order are answered as a map of nodes would answer them, where the ids
are strings. `update()` adds properties to a node, and an id that is taken is refused. -/
theorem falkordb_recorded {server : Server V} (hsorts : server.Sorts) (settings : Settings F)
    (mapping : Mapping V T) : Recorded (records server mapping) .sorted (ValidAsked server mapping)
      (store server settings mapping) [] :=
  recorded_of_refines (refines_records hsorts) Lists.nil
    (exists_served (exists_connected fun _ _ => ⟨_, _, rfl⟩) _)

end Refinement

/-- A server that sorts. -/
def sortingServer : Server Value :=
  { graphServer with
    sorted := fun nodes => nodes.mergeSort fun v w =>
      decide ((valuesByType.keyOf v).getD "" ≤ (valuesByType.keyOf w).getD "") }

theorem sorts_sortingServer : sortingServer.Sorts where
  perm nodes := List.mergeSort_perm _ _
  ordered nodes := by
    have hsorted : (sortingServer.sorted nodes).Pairwise fun v w =>
        decide ((valuesByType.keyOf v).getD "" ≤ (valuesByType.keyOf w).getD "") = true := by
      refine List.pairwise_mergeSort (fun u v w h h' => ?_) (fun v w => ?_) nodes
      · simp only [decide_eq_true_eq] at h h' ⊢
        exact h.trans h'
      · simpa using le_total _ _
    refine hsorted.imp fun {v w} h a b ha hb => ?_
    rw [show valuesByType.keyOf v = some a from ha, show valuesByType.keyOf w = some b from hb] at h
    simpa using h

/-- An entity with a string as its id. -/
def person (key value : String) : Dict String Value :=
  (Dict.empty.set "id" (.str "1")).set key (.str value)

/-- A person is created, and asked for in all ways. -/
def personRequests : List (Request String (Dict String Value)) :=
  [.create (person "name" "Ada"), .create (person "name" "Eve"), .update (person "born" "1815"), .get "1",
    .list 0 0, .delete "1", .update (person "name" "Ada"), .get "1"]

/-- A node is created once, `update()` adds to what `create()` has stored, and after `delete()` there is
nothing to update or to find. -/
theorem falkordb_recorded_dicts : ∃ nodes, Session (store sortingServer graphLocal dictMapping) []
    [⟨.create (person "name" "Ada"), .ok (person "name" "Ada")⟩,
      ⟨.create (person "name" "Eve"), .error (.adapter ⟨.query, "create", some responseError⟩)⟩,
      ⟨.update (person "born" "1815"), .ok (some ((person "name" "Ada").set "born" (.str "1815")))⟩,
      ⟨.get "1", .ok (some ((person "name" "Ada").set "born" (.str "1815")))⟩,
      ⟨.list 0 0, .ok ([], 1)⟩,
      ⟨.delete "1", .ok true⟩,
      ⟨.update (person "name" "Ada"), .ok none⟩,
      ⟨.get "1", .ok none⟩] nodes := by
  have hperson : ∀ key value, key ≠ "id" → IsNode sortingServer dictMapping (person key value) :=
    fun key value hkey => ⟨rfl, "1", by decide, Dict.get?_set.trans (if_neg hkey.symm)⟩
  have hvalid : ∀ q ∈ personRequests, ValidAsked sortingServer dictMapping q := by
    simp [personRequests, ValidAsked, hperson]
  exact (falkordb_recorded sorts_sortingServer graphLocal dictMapping).exists_run hvalid

end OpenframeAdapters.Db.Falkordb
