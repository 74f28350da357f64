import OpenframeAdapters.Db.Falkordb.Repository
import OpenframeAdapters.Db.Server

/-!
# A FalkorDB graph

The nodes with the label of a `FalkorDBRepository`.

## The model

* `Values` — the values of properties: what Python's `str` makes of them, and when Cypher takes two
  of them for equal.
* `Server.stored`, `Server.merge` — `SET n = $props` and `SET n += $props`. A property that is set to
  null is removed.
* `Server.refusal` — a query that would give two nodes the same id is refused, by the constraint that
  the first operation of a repository has made.
* `answer` — what becomes of the queries of the repository, which are recognised by their texts.
  Queries of the caller are left out, and refused.

## What is proved

* `found_append` — the node that has been created last is the only one with its id.
* `wpIn_getBy`, `wpIn_deleteBy`, `wpIn_create`, `wpIn_update` — what the operations do.
-/

namespace OpenframeAdapters.Db.Falkordb

open Python OpenframeAdapters.Core

/-- `redis.exceptions.ResponseError`. -/
def responseError : PyExc := redisResponseError

/-! ### Values -/

/-- The values of properties, in Python and in Cypher. -/
structure Values (V : Type) where
  /-- `str(v)`. -/
  str : V → String
  /-- A string. -/
  string : String → V
  /-- `None` is null. -/
  isNull : V → Bool
  /-- `v = w` is true. -/
  equal : V → V → Bool
  /-- A string is its own `str`. -/
  str_string : ∀ s, str (string s) = s
  /-- A string is not null. -/
  isNull_string : ∀ s, isNull (string s) = false
  /-- A string is equal to nothing but itself. -/
  equal_string : ∀ s v, equal (string s) v = true ↔ v = string s
  /-- Two values are equal in any order. -/
  equal_comm : ∀ v w, equal v w = equal w v
  /-- Null is equal to nothing. -/
  equal_null : ∀ v w, isNull v = true → equal v w = false

/-! ### Nodes -/

/-- What the server decides by itself. -/
structure Server (V : Type) where
  /-- The values. -/
  values : Values V
  /-- The nodes in the order of their ids. -/
  sorted : List (Node V) → List (Node V)
  /-- Properties that cannot be stored. -/
  refuses : Dict String V → Option PyExc

namespace Server

variable {V : Type} (server : Server V)

/-- The properties that are not null. -/
def stored (properties : Dict String V) : Node V :=
  properties.filter fun key => !(properties.get? key).any server.values.isNull

/-- `SET n += $props`. -/
def merge (node : Node V) (properties : Dict String V) : Node V :=
  server.stored (node.update properties)

/-- The value of a parameter. -/
def valueOf : Param V → Option V
  | .str s => some (server.values.string s)
  | .value v => some v
  | .int _ | .props _ => none

/-- `n.id = $id`. -/
def hasId (id : Param V) (node : Node V) : Bool :=
  match server.valueOf id, node.get? "id" with
  | some v, some w => server.values.equal v w
  | _, _ => false

/-- The nodes with an id. -/
def found (nodes : List (Node V)) (id : Param V) : List (Node V) := nodes.filter (server.hasId id)

/-- The nodes after an update. -/
def updated (nodes : List (Node V)) (id : Param V) (properties : Dict String V) : List (Node V) :=
  nodes.map fun node => if server.hasId id node then server.merge node properties else node

/-- Two nodes have the same id. -/
def clash (m n : Node V) : Bool :=
  match m.get? "id", n.get? "id" with
  | some v, some w => server.values.equal v w
  | _, _ => false

/-- No two nodes have the same id. -/
def Unique (nodes : List (Node V)) : Prop := nodes.Pairwise fun m n => server.clash m n = false

instance (nodes : List (Node V)) : Decidable (server.Unique nodes) :=
  inferInstanceAs (Decidable (nodes.Pairwise _))

/-- Why a query that sets properties, and would lead to these nodes, is refused. -/
def refusal (properties : Dict String V) (nodes : List (Node V)) : Option PyExc :=
  match server.refuses properties with
  | some exc => some exc
  | none => if server.Unique nodes then none else some responseError

/-- What a query that returns nodes does. -/
def runNodes (label query : String) (params : List (String × Param V)) (nodes : List (Node V)) :
    Except PyExc (List (Node V)) × List (Node V) :=
  match params with
  | [("id", id)] =>
    if query = getQuery label then (.ok ((server.found nodes id).take 1), nodes)
    else (.error responseError, nodes)
  | [("props", .props properties)] =>
    if query = createQuery label then
      match server.refusal properties (nodes ++ [server.stored properties]) with
      | some exc => (.error exc, nodes)
      | none => (.ok [server.stored properties], nodes ++ [server.stored properties])
    else (.error responseError, nodes)
  | [("id", id), ("props", .props properties)] =>
    if query = updateQuery label then
      match server.refusal properties (server.updated nodes id properties) with
      | some exc => (.error exc, nodes)
      | none => (.ok ((server.found nodes id).map fun node => server.merge node properties),
          server.updated nodes id properties)
    else (.error responseError, nodes)
  | [("offset", .int offset), ("limit", .int limit)] =>
    if query = rowsQuery label then
      (.ok (((server.sorted nodes).drop offset.toNat).take limit.toNat), nodes)
    else (.error responseError, nodes)
  | _ => (.error responseError, nodes)

variable {server} {properties : Dict String V} {node : Node V} {nodes : List (Node V)} {v : V}

/-- A property that is not null is stored. -/
theorem get?_stored {key : String} (h : properties.get? key = some v)
    (hv : server.values.isNull v = false) : (server.stored properties).get? key = some v := by
  rw [stored, Dict.get?_filter, h, Option.any_some, hv]
  rfl

theorem get?_merge {key : String} (h : properties.get? key = some v)
    (hv : server.values.isNull v = false) : (server.merge node properties).get? key = some v := by
  refine get?_stored ?_ hv
  rw [Dict.get?_update, h]
  rfl

theorem hasId_eq {id : Param V} {w : V} (hid : server.valueOf id = some v)
    (h : node.get? "id" = some w) : server.hasId id node = server.values.equal v w := by
  unfold hasId
  rw [hid, h]

theorem hasId_none {id : Param V} (h : node.get? "id" = none) : server.hasId id node = false := by
  unfold hasId
  rw [h]
  cases server.valueOf id <;> rfl

/-- A node without a clash does not have the id. -/
theorem hasId_of_clash {id : Param V} {m : Node V} (hid : server.valueOf id = some v)
    (h : node.get? "id" = some v) (hclash : server.clash m node = false) :
    server.hasId id m = false := by
  cases hm : m.get? "id" with
  | none => exact hasId_none hm
  | some w =>
    rw [hasId_eq hid hm, server.values.equal_comm]
    unfold clash at hclash
    rwa [hm, h] at hclash

theorem unique_append : server.Unique (nodes ++ [node]) ↔
    server.Unique nodes ∧ ∀ m ∈ nodes, server.clash m node = false := by
  unfold Unique
  rw [List.pairwise_append]
  simp

/-- **The last node** is the only one with its id. -/
theorem found_append {id : Param V} (hid : server.valueOf id = some v)
    (h : node.get? "id" = some v) (hv : server.values.equal v v = true)
    (hunique : server.Unique (nodes ++ [node])) : server.found (nodes ++ [node]) id = [node] := by
  have hothers : nodes.filter (server.hasId id) = [] := by
    apply List.filter_eq_nil_iff.mpr
    intro m hm
    rw [hasId_of_clash hid h ((unique_append.mp hunique).2 m hm)]
    exact Bool.false_ne_true
  have hlast : server.hasId id node = true := (hasId_eq hid h).trans hv
  unfold found
  rw [List.filter_append, hothers, List.nil_append, List.filter_singleton, hlast]
  rfl

theorem updated_append {id : Param V} : server.updated (nodes ++ [node]) id properties =
    server.updated nodes id properties ++
      [if server.hasId id node = true then server.merge node properties else node] := by
  unfold updated
  rw [List.map_append, List.map_singleton]

theorem updated_of_hasId {id : Param V} (h : ∀ m ∈ nodes, server.hasId id m = false) :
    server.updated nodes id properties = nodes := by
  unfold updated
  calc _ = nodes.map fun node => node := List.map_congr_left fun m hm => if_neg (by
          rw [h m hm]
          exact Bool.false_ne_true)
    _ = nodes := List.map_id' nodes

/-- **Another node** cannot be given the id of the last one. -/
theorem not_unique_updated {id : Param V} {m : Node V} (hm : m ∈ nodes)
    (hhas : server.hasId id m = true) (hnode : server.hasId id node = false)
    (h : node.get? "id" = some v) (hproperties : properties.get? "id" = some v)
    (hnull : server.values.isNull v = false) (hequal : server.values.equal v v = true) :
    ¬ server.Unique (server.updated (nodes ++ [node]) id properties) := by
  rw [updated_append, hnode, if_neg Bool.false_ne_true, unique_append]
  rintro ⟨-, hclash⟩
  have hboth := hclash (server.merge m properties)
    (List.mem_map.mpr ⟨m, hm, if_pos hhas⟩)
  unfold clash at hboth
  rw [get?_merge hproperties hnull, h] at hboth
  exact Bool.noConfusion (hequal.symm.trans hboth)

theorem refusal_eq_none_iff : server.refusal properties nodes = none ↔
    server.refuses properties = none ∧ server.Unique nodes := by
  unfold refusal
  cases server.refuses properties with
  | some exc => simp
  | none => simp

end Server

/-! ### The operations -/

section Session

variable {F V T α : Type} (server : Server V) (label : String)

/-- The server. -/
def answer : (q : Command V) → List (Node V) → Except PyExc ((commands V).Reply q) × List (Node V)
  | .createNodeUniqueConstraint .., nodes => (.ok (), nodes)
  | .nodes _ query params, nodes => server.runNodes label query params nodes
  | .count _ query, nodes =>
    if query = countQuery label then (.ok [(nodes.length : ℤ)], nodes)
    else (.error responseError, nodes)
  | .deleteNodes _ query params, nodes =>
    match params with
    | [("id", id)] =>
      if query = deleteQuery label then
        (.ok ((server.found nodes id).length : ℤ),
          nodes.filter fun node => !server.hasId id node)
      else (.error responseError, nodes)
    | _ => (.error responseError, nodes)
  | .traverse .., nodes => (.error responseError, nodes)

instance : Nonempty Shared := ⟨⟨none, false⟩⟩

/-- The server, as an operation sees it. -/
abbrev session : World (driver F V) PyExc Shared (List (Node V)) :=
  (connected (Backend.of (answer server label))).shared

variable {server} {settings : Settings F} {mapping : Mapping V T} {nodes : List (Node V)}
  {E : Raised → List (Node V) → Prop}

/-- A graph is got without a query. -/
theorem wpIn_getGraph {Q : Graph → List (Node V) → Prop} (h : ∀ graph, Q graph nodes) :
    (getGraph settings).wpIn (session server settings.nodeLabel) Q E nodes := by
  unfold getGraph
  exact Coro.wpIn_bind.mpr ((connects_connected _).wpIn_getClient rfl fun client => h _)

/-- Making the constraint changes no node. -/
theorem wpIn_ensureReady {Q : Unit → List (Node V) → Prop} (h : Q () nodes) :
    (ensureReady settings).wpIn (session server settings.nodeLabel) Q E nodes := by
  unfold ensureReady
  refine Coro.wpIn_bind.mpr (Coro.wpIn_get.mpr fun s _ => ?_)
  split_ifs
  · exact h
  · refine Coro.wpIn_bind.mpr (wpIn_getGraph fun graph => ?_)
    exact Coro.wpIn_bind.mpr (Coro.wpIn_tryCatch.mpr (wpIn_command_of.mpr h))

/-- **`get()`**. -/
theorem wpIn_getBy (id : Param V) :
    (getBy settings mapping id).wpIn (session server settings.nodeLabel) (fun o nodes' =>
      o = (server.found nodes id).head?.map mapping.nodeToEntity ∧ nodes' = nodes)
      (fun _ _ => False) nodes := by
  unfold getBy
  refine Coro.wpIn_bind.mpr (wpIn_ensureReady (Coro.wpIn_bind.mpr (wpIn_getGraph fun graph => ?_)))
  refine Coro.wpIn_bind.mpr (wpIn_tryExcept.mpr (wpIn_command_of.mpr ?_))
  have hrun : answer server settings.nodeLabel
      (.nodes graph (getQuery settings.nodeLabel) [("id", id)]) nodes =
        (.ok ((server.found nodes id).take 1), nodes) := if_pos rfl
  rw [hrun]
  refine ⟨?_, rfl⟩
  cases server.found nodes id <;> rfl

/-- **`delete()`**. -/
theorem wpIn_deleteBy (id : Param V) :
    (deleteBy settings id).wpIn (session server settings.nodeLabel) (fun o nodes' =>
      o = decide (0 < ((server.found nodes id).length : ℤ)) ∧
        nodes' = nodes.filter fun node => !server.hasId id node) (fun _ _ => False) nodes := by
  unfold deleteBy
  refine Coro.wpIn_bind.mpr (wpIn_ensureReady (Coro.wpIn_bind.mpr (wpIn_getGraph fun graph => ?_)))
  refine Coro.wpIn_bind.mpr (wpIn_tryExcept.mpr (wpIn_command_of.mpr ?_))
  have hrun : answer server settings.nodeLabel
      (.deleteNodes graph (deleteQuery settings.nodeLabel) [("id", id)]) nodes =
        (.ok ((server.found nodes id).length : ℤ),
          nodes.filter fun node => !server.hasId id node) := if_pos rfl
  rw [hrun]
  exact ⟨rfl, rfl⟩

variable {entity : T}

/-- **`create()`** of an entity without an id writes nothing. -/
theorem wpIn_create_rejected (h : entityId mapping (mapping.entityToProperties entity) = "") :
    (create settings mapping entity).wpIn (session server settings.nodeLabel) (fun _ _ => False)
      (fun x nodes' => (∃ err, x = .adapter err) ∧ nodes' = nodes) nodes := by
  unfold create
  refine Coro.wpIn_bind.mpr (wpIn_ensureReady ?_)
  dsimp only
  rw [if_pos h]
  exact Coro.wpIn_bind.mpr (wpIn_fail.mpr ⟨⟨_, rfl⟩, rfl⟩)

/-- **`create()`** of an entity that the server refuses. -/
theorem wpIn_create_refused {exc : PyExc}
    (h : entityId mapping (mapping.entityToProperties entity) ≠ "")
    (hrefusal : server.refusal (mapping.entityToProperties entity)
      (nodes ++ [server.stored (mapping.entityToProperties entity)]) = some exc) :
    (create settings mapping entity).wpIn (session server settings.nodeLabel) (fun _ _ => False)
      (fun _ nodes' => nodes' = nodes) nodes := by
  unfold create
  refine Coro.wpIn_bind.mpr (wpIn_ensureReady ?_)
  dsimp only
  rw [if_neg h]
  refine Coro.wpIn_bind.mpr (wpIn_getGraph fun graph => ?_)
  refine Coro.wpIn_bind.mpr (wpIn_tryExcept.mpr (wpIn_command_of.mpr ?_))
  have hrun : answer server settings.nodeLabel (.nodes graph (createQuery settings.nodeLabel)
      [("props", .props (mapping.entityToProperties entity))]) nodes = (.error exc, nodes) := by
    refine (if_pos rfl).trans ?_
    rw [hrefusal]
  rw [hrun]
  exact rfl

/-- **`create()`** of an entity that the server accepts adds a node, and returns it. -/
theorem wpIn_create (h : entityId mapping (mapping.entityToProperties entity) ≠ "")
    (hrefusal : server.refusal (mapping.entityToProperties entity)
      (nodes ++ [server.stored (mapping.entityToProperties entity)]) = none) :
    (create settings mapping entity).wpIn (session server settings.nodeLabel) (fun e nodes' =>
      e = mapping.nodeToEntity (server.stored (mapping.entityToProperties entity)) ∧
        nodes' = nodes ++ [server.stored (mapping.entityToProperties entity)])
      (fun _ _ => False) nodes := by
  unfold create
  refine Coro.wpIn_bind.mpr (wpIn_ensureReady ?_)
  dsimp only
  rw [if_neg h]
  refine Coro.wpIn_bind.mpr (wpIn_getGraph fun graph => ?_)
  refine Coro.wpIn_bind.mpr (wpIn_tryExcept.mpr (wpIn_command_of.mpr ?_))
  have hrun : answer server settings.nodeLabel (.nodes graph (createQuery settings.nodeLabel)
      [("props", .props (mapping.entityToProperties entity))]) nodes =
        (.ok [server.stored (mapping.entityToProperties entity)],
          nodes ++ [server.stored (mapping.entityToProperties entity)]) := by
    refine (if_pos rfl).trans ?_
    rw [hrefusal]
  rw [hrun]
  exact ⟨rfl, rfl⟩

/-- The nodes that `update()` leaves. -/
def updateOf (server : Server V) (mapping : Mapping V T) (entity : T) (nodes : List (Node V)) :
    List (Node V) :=
  server.updated nodes (.str (entityId mapping (mapping.entityToProperties entity)))
    (mapping.entityToProperties entity)

/-- **`update()`** of an entity that the server refuses. -/
theorem wpIn_update_refused {exc : PyExc} (hrefusal : server.refusal
      (mapping.entityToProperties entity) (updateOf server mapping entity nodes) = some exc) :
    (update settings mapping entity).wpIn (session server settings.nodeLabel) (fun _ _ => False)
      (fun _ nodes' => nodes' = nodes) nodes := by
  unfold update
  refine Coro.wpIn_bind.mpr (wpIn_ensureReady ?_)
  refine Coro.wpIn_bind.mpr (wpIn_getGraph fun graph => ?_)
  refine Coro.wpIn_bind.mpr (wpIn_tryExcept.mpr (wpIn_command_of.mpr ?_))
  have hrun : answer server settings.nodeLabel (.nodes graph (updateQuery settings.nodeLabel)
      [("id", .str (entityId mapping (mapping.entityToProperties entity))),
        ("props", .props (mapping.entityToProperties entity))]) nodes = (.error exc, nodes) := by
    refine (if_pos rfl).trans ?_
    unfold updateOf at hrefusal
    rw [hrefusal]
  rw [hrun]
  exact rfl

/-- **`update()`** of an entity that the server accepts returns the first node with its id. -/
theorem wpIn_update (hrefusal : server.refusal (mapping.entityToProperties entity)
      (updateOf server mapping entity nodes) = none) :
    (update settings mapping entity).wpIn (session server settings.nodeLabel) (fun o nodes' =>
      o = (server.found nodes (.str (entityId mapping
          (mapping.entityToProperties entity)))).head?.map (fun node =>
            mapping.nodeToEntity (server.merge node (mapping.entityToProperties entity))) ∧
        nodes' = updateOf server mapping entity nodes) (fun _ _ => False) nodes := by
  unfold update
  refine Coro.wpIn_bind.mpr (wpIn_ensureReady ?_)
  refine Coro.wpIn_bind.mpr (wpIn_getGraph fun graph => ?_)
  refine Coro.wpIn_bind.mpr (wpIn_tryExcept.mpr (wpIn_command_of.mpr ?_))
  have hrun : answer server settings.nodeLabel (.nodes graph (updateQuery settings.nodeLabel)
      [("id", .str (entityId mapping (mapping.entityToProperties entity))),
        ("props", .props (mapping.entityToProperties entity))]) nodes =
      (.ok ((server.found nodes (.str (entityId mapping (mapping.entityToProperties entity)))).map
          fun node => server.merge node (mapping.entityToProperties entity)),
        updateOf server mapping entity nodes) := by
    refine (if_pos rfl).trans ?_
    unfold updateOf at hrefusal ⊢
    rw [hrefusal]
  rw [hrun]
  refine ⟨?_, rfl⟩
  rw [List.head?_map, Option.map_map]
  rfl

end Session

end OpenframeAdapters.Db.Falkordb
