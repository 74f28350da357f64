import OpenframeAdapters.Db.Falkordb.Server

/-!
# The ids of FalkorDB nodes

`create()` stores the id of an entity as it is, and `update()` looks for its `str`.

## The model

* `Agrees` — `create()` rejects an entity without an id before anything is written, and otherwise
  `update()` of the same entity, and `get()` and `delete()` with its id, find the node that has been
  created.

## What is proved

* `Agrees.string_of_accepts`, `agrees_of_string` — the operations agree on the ids that are strings.
  A node whose id is a number or a boolean is not found by `update()`, and one whose id is `None` is
  stored without an id, and found by nothing.
* `agrees_iff` — so they agree exactly where the id is a string, if `create()` accepts the entity.
-/

namespace OpenframeAdapters.Db.Falkordb

open Python OpenframeAdapters.Core

section Ids

variable {F V T : Type} (server : Server V) (settings : Settings F) (mapping : Mapping V T)

namespace Server

/-- What a subclass maps entities with, where `str` is that of the values. -/
def mapped : Mapping V T := { mapping with str := server.values.str }

@[simp] theorem mapped_entityToProperties (entity : T) :
    (server.mapped mapping).entityToProperties entity = mapping.entityToProperties entity := rfl

/-- The query of `create()` is accepted. -/
def Accepts (nodes : List (Node V)) (properties : Dict String V) : Prop :=
  server.refusal properties (nodes ++ [server.stored properties]) = none

/-- The value is a string. -/
def IsString (v : V) : Prop := ∃ s, v = server.values.string s

end Server

/-- The operations agree on the id of an entity. -/
structure Agrees (nodes : List (Node V)) (entity : T) : Prop where
  /-- Without an id, or with an empty one, it is rejected, and nothing is written. -/
  rejects : entityId (server.mapped mapping) (mapping.entityToProperties entity) = "" →
    ∀ {o nodes'}, (create settings (server.mapped mapping) entity).EndsIn
      (session server settings.nodeLabel) nodes o nodes' →
        (∃ err, o = .error (.adapter err)) ∧ nodes' = nodes
  /-- `update()` of the entity returns what has been created, with the properties of the entity. -/
  updates : ∀ {e nodes'}, (create settings (server.mapped mapping) entity).EndsIn
      (session server settings.nodeLabel) nodes (.ok e) nodes' →
    ∀ {o nodes''}, (update settings (server.mapped mapping) entity).EndsIn
      (session server settings.nodeLabel) nodes' o nodes'' →
        o = .ok (some (mapping.nodeToEntity (server.merge
          (server.stored (mapping.entityToProperties entity)) (mapping.entityToProperties entity))))
  /-- `get()` with its id returns what has been created. -/
  gets : ∀ {e nodes'}, (create settings (server.mapped mapping) entity).EndsIn
      (session server settings.nodeLabel) nodes (.ok e) nodes' →
    ∀ id, (mapping.entityToProperties entity).get? "id" = some id →
      ∀ {o nodes''}, (getBy settings (server.mapped mapping) (.value id)).EndsIn
        (session server settings.nodeLabel) nodes' o nodes'' → o = .ok (some e)
  /-- `delete()` with its id finds it. -/
  deletes : ∀ {e nodes'}, (create settings (server.mapped mapping) entity).EndsIn
      (session server settings.nodeLabel) nodes (.ok e) nodes' →
    ∀ id, (mapping.entityToProperties entity).get? "id" = some id →
      ∀ {o nodes''}, (deleteBy settings (.value id)).EndsIn
        (session server settings.nodeLabel) nodes' o nodes'' → o = .ok true

variable {server settings mapping} {nodes : List (Node V)} {entity : T} {id : V}

theorem entityId_eq (hid : (mapping.entityToProperties entity).get? "id" = some id) :
    entityId (server.mapped mapping) (mapping.entityToProperties entity) = server.values.str id := by
  unfold entityId
  rw [hid]
  rfl

/-- An entity that is created has an id, and is accepted. -/
theorem created_of_ok {e : T} {nodes' : List (Node V)}
    (h : (create settings (server.mapped mapping) entity).EndsIn
      (session server settings.nodeLabel) nodes (.ok e) nodes') :
    (∃ id, (mapping.entityToProperties entity).get? "id" = some id) ∧
      entityId (server.mapped mapping) (mapping.entityToProperties entity) ≠ "" ∧
      server.Accepts nodes (mapping.entityToProperties entity) ∧
      e = mapping.nodeToEntity (server.stored (mapping.entityToProperties entity)) ∧
      nodes' = nodes ++ [server.stored (mapping.entityToProperties entity)] := by
  by_cases hempty : entityId (server.mapped mapping) (mapping.entityToProperties entity) = ""
  · exact (h.of_wpIn (wpIn_create_rejected hempty)).elim
  cases haccepts : server.refusal (mapping.entityToProperties entity)
      (nodes ++ [server.stored (mapping.entityToProperties entity)]) with
  | some exc => exact (h.of_wpIn (wpIn_create_refused hempty haccepts)).elim
  | none =>
    refine ⟨?_, hempty, haccepts, h.of_wpIn (wpIn_create hempty haccepts)⟩
    cases hid : (mapping.entityToProperties entity).get? "id" with
    | some id => exact ⟨id, rfl⟩
    | none =>
      have hnone : entityId (server.mapped mapping) (mapping.entityToProperties entity) = "" := by
        unfold entityId
        rw [hid]
      exact absurd hnone hempty

/-! ### Strings -/

section Strings

variable {s : String}

/-- `update()` looks for a string as it is. -/
theorem valueOf_entityId
    (hid : (mapping.entityToProperties entity).get? "id" = some (server.values.string s)) :
    server.valueOf (.str (entityId (server.mapped mapping) (mapping.entityToProperties entity))) =
      some (server.values.string s) := by
  rw [entityId_eq hid, server.values.str_string]
  rfl

/-- The node that has been created is the only one with its id. -/
theorem found_of_accepts {id : Param V}
    (hid : (mapping.entityToProperties entity).get? "id" = some (server.values.string s))
    (haccepts : server.Accepts nodes (mapping.entityToProperties entity))
    (hvalue : server.valueOf id = some (server.values.string s)) :
    server.found (nodes ++ [server.stored (mapping.entityToProperties entity)]) id =
      [server.stored (mapping.entityToProperties entity)] :=
  Server.found_append hvalue (Server.get?_stored hid (server.values.isNull_string s))
    ((server.values.equal_string s _).mpr rfl) (Server.refusal_eq_none_iff.mp haccepts).2

/-- The update of the node that has been created is accepted. -/
theorem refusal_updateOf
    (hid : (mapping.entityToProperties entity).get? "id" = some (server.values.string s))
    (haccepts : server.Accepts nodes (mapping.entityToProperties entity)) :
    server.refusal (mapping.entityToProperties entity) (updateOf server (server.mapped mapping) entity
      (nodes ++ [server.stored (mapping.entityToProperties entity)])) = none := by
  obtain ⟨hrefuses, hunique⟩ := Server.refusal_eq_none_iff.mp haccepts
  have hvalue := valueOf_entityId hid
  have hstored := Server.get?_stored hid (server.values.isNull_string s)
  obtain ⟨hnodes, hclash⟩ := Server.unique_append.mp hunique
  have hothers : server.updated nodes (.str (entityId (server.mapped mapping)
      (mapping.entityToProperties entity))) (mapping.entityToProperties entity) = nodes :=
    Server.updated_of_hasId fun m hm => Server.hasId_of_clash hvalue hstored (hclash m hm)
  have hself : server.hasId (.str (entityId (server.mapped mapping)
      (mapping.entityToProperties entity))) (server.stored (mapping.entityToProperties entity)) =
        true :=
    (Server.hasId_eq hvalue hstored).trans ((server.values.equal_string s _).mpr rfl)
  have hupdated : updateOf server (server.mapped mapping) entity
      (nodes ++ [server.stored (mapping.entityToProperties entity)]) =
      nodes ++ [server.merge (server.stored (mapping.entityToProperties entity))
        (mapping.entityToProperties entity)] := by
    unfold updateOf
    rw [Server.mapped_entityToProperties, Server.updated_append, hothers, if_pos hself]
  rw [hupdated, Server.refusal_eq_none_iff, Server.unique_append]
  refine ⟨hrefuses, hnodes, fun m hm => ?_⟩
  have hclash' := hclash m hm
  unfold Server.clash at hclash' ⊢
  rw [Server.get?_merge hid (server.values.isNull_string s)]
  rwa [hstored] at hclash'

end Strings

/-- **Strings** are found by all operations. -/
theorem agrees_of_string (h : ∀ id, (mapping.entityToProperties entity).get? "id" = some id →
    server.values.str id ≠ "" → server.Accepts nodes (mapping.entityToProperties entity) →
      server.IsString id) :
    Agrees server settings mapping nodes entity := by
  refine ⟨fun hempty o nodes' hend => ?_, fun hcreate o nodes'' hend => ?_,
    fun hcreate id hid o nodes'' hend => ?_, fun hcreate id hid o nodes'' hend => ?_⟩
  · have hrejected := hend.of_wpIn (wpIn_create_rejected hempty)
    cases o with
    | ok e => exact hrejected.elim
    | error x =>
      obtain ⟨⟨err, rfl⟩, hnodes⟩ := hrejected
      exact ⟨⟨err, rfl⟩, hnodes⟩
  · obtain ⟨⟨id, hid⟩, hne, haccepts, -, rfl⟩ := created_of_ok hcreate
    obtain ⟨s, rfl⟩ := h id hid (entityId_eq hid ▸ hne) haccepts
    have hreturned := hend.of_wpIn (wpIn_update (refusal_updateOf hid haccepts))
    cases o with
    | error x => exact hreturned.elim
    | ok o =>
      have ho := hreturned.1
      have hsame : (server.mapped mapping).entityToProperties entity =
        mapping.entityToProperties entity := rfl
      rw [hsame, found_of_accepts hid haccepts (valueOf_entityId hid)] at ho
      exact congrArg Except.ok ho
  · obtain ⟨-, hne, haccepts, rfl, rfl⟩ := created_of_ok hcreate
    obtain ⟨s, rfl⟩ := h id hid (entityId_eq hid ▸ hne) haccepts
    have hreturned := hend.of_wpIn (wpIn_getBy (.value (server.values.string s)))
    rw [found_of_accepts hid haccepts rfl] at hreturned
    cases o with
    | error x => exact hreturned.elim
    | ok o => exact congrArg Except.ok hreturned.1
  · obtain ⟨-, hne, haccepts, rfl, rfl⟩ := created_of_ok hcreate
    obtain ⟨s, rfl⟩ := h id hid (entityId_eq hid ▸ hne) haccepts
    have hreturned := hend.of_wpIn (wpIn_deleteBy (.value (server.values.string s)))
    rw [found_of_accepts hid haccepts rfl] at hreturned
    cases o with
    | error x => exact hreturned.elim
    | ok o => exact congrArg Except.ok hreturned.1

/-! ### Other values -/

/-- A node that is created and found by its id is stored with it. -/
theorem Agrees.equal_of_accepts (h : Agrees server settings mapping nodes entity)
    (hid : (mapping.entityToProperties entity).get? "id" = some id)
    (hempty : entityId (server.mapped mapping) (mapping.entityToProperties entity) ≠ "")
    (haccepts : server.Accepts nodes (mapping.entityToProperties entity)) :
    server.values.isNull id = false ∧ server.values.equal id id = true := by
  obtain ⟨o₁, nodes₁, hcreate⟩ := exists_end (answer server settings.nodeLabel)
    (create settings (server.mapped mapping) entity) nodes
  have hcreated := hcreate.of_wpIn (wpIn_create hempty haccepts)
  cases o₁ with
  | error x => exact hcreated.elim
  | ok e =>
    obtain ⟨-, hnodes₁⟩ := hcreated
    subst hnodes₁
    obtain ⟨o, nodes', hget⟩ := exists_end (answer server settings.nodeLabel)
      (getBy settings (server.mapped mapping) (.value id)) _
    have ho := h.gets hcreate id hid hget
    subst ho
    obtain ⟨hfirst, -⟩ := hget.of_wpIn (wpIn_getBy (.value id))
    obtain ⟨node, hhead, -⟩ := Option.map_eq_some_iff.mp hfirst.symm
    obtain ⟨hmem, hhas⟩ := List.mem_filter.mp (List.mem_of_mem_head? hhead)
    have hnull : server.values.isNull id = false := by
      rw [← Bool.not_eq_true]
      intro hnull
      cases hnode : node.get? "id" with
      | none => rw [Server.hasId_none hnode] at hhas; cases hhas
      | some w =>
        rw [Server.hasId_eq (v := id) rfl hnode, server.values.equal_null id w hnull] at hhas
        cases hhas
    refine ⟨hnull, ?_⟩
    have hvalue : server.valueOf (.value id) = some id := rfl
    have hstored := Server.get?_stored hid hnull
    rcases List.mem_append.mp hmem with hold | hnew
    · -- another node with the id would have clashed with the new one
      have hclash := (Server.unique_append.mp (Server.refusal_eq_none_iff.mp haccepts).2).2 node hold
      rw [Server.hasId_of_clash hvalue hstored hclash] at hhas
      cases hhas
    · rw [List.mem_singleton.mp hnew, Server.mapped_entityToProperties] at hhas
      rwa [Server.hasId_eq hvalue hstored] at hhas

/-- **Other values** are not found by `update()`: it finds no node, or one that cannot be given the
id. -/
theorem Agrees.string_of_accepts (h : Agrees server settings mapping nodes entity)
    (hid : (mapping.entityToProperties entity).get? "id" = some id)
    (hempty : entityId (server.mapped mapping) (mapping.entityToProperties entity) ≠ "")
    (haccepts : server.Accepts nodes (mapping.entityToProperties entity)) :
    server.IsString id := by
  obtain ⟨hnull, hequal⟩ := h.equal_of_accepts hid hempty haccepts
  by_contra hstring
  obtain ⟨hrefuses, hunique⟩ := Server.refusal_eq_none_iff.mp haccepts
  have hstored := Server.get?_stored hid hnull
  have hnew : server.hasId (.str (entityId (server.mapped mapping)
      (mapping.entityToProperties entity))) (server.stored (mapping.entityToProperties entity)) =
        false := by
    rw [Server.hasId_eq rfl hstored, ← Bool.not_eq_true, server.values.equal_string]
    exact fun hs => hstring ⟨_, hs⟩
  obtain ⟨o₁, nodes₁, hcreate⟩ := exists_end (answer server settings.nodeLabel)
    (create settings (server.mapped mapping) entity) nodes
  have hcreated := hcreate.of_wpIn (wpIn_create hempty haccepts)
  cases o₁ with
  | error x => exact hcreated.elim
  | ok e =>
    obtain ⟨-, hnodes₁⟩ := hcreated
    subst hnodes₁
    obtain ⟨o, nodes', hupdate⟩ := exists_end (answer server settings.nodeLabel)
      (update settings (server.mapped mapping) entity)
      (nodes ++ [server.stored (mapping.entityToProperties entity)])
    have ho := h.updates hcreate hupdate
    subst ho
    cases hrefusal : server.refusal (mapping.entityToProperties entity)
        (updateOf server (server.mapped mapping) entity
          (nodes ++ [server.stored (mapping.entityToProperties entity)])) with
    | some exc => exact hupdate.of_wpIn (wpIn_update_refused hrefusal)
    | none =>
      obtain ⟨hfirst, -⟩ := hupdate.of_wpIn (wpIn_update hrefusal)
      obtain ⟨node, hhead, -⟩ := Option.map_eq_some_iff.mp hfirst.symm
      obtain ⟨hmem, hhas⟩ := List.mem_filter.mp (List.mem_of_mem_head? hhead)
      rcases List.mem_append.mp hmem with hold | hlast
      · -- the other node would have been given the id of the new one
        exact Server.not_unique_updated hold hhas hnew hstored hid hnull hequal
          (Server.refusal_eq_none_iff.mp hrefusal).2
      · rw [List.mem_singleton.mp hlast] at hhas
        exact Bool.noConfusion (hhas.symm.trans hnew)

end Ids

/-- **The operations agree** on an entity exactly where its id is a string, if it is accepted. -/
theorem agrees_iff {F V T : Type} (server : Server V) (settings : Settings F)
    (mapping : Mapping V T) (nodes : List (Node V)) (entity : T) :
    Agrees server settings mapping nodes entity ↔
      ∀ id, (mapping.entityToProperties entity).get? "id" = some id →
        server.values.str id ≠ "" → server.Accepts nodes (mapping.entityToProperties entity) →
          server.IsString id := by
  constructor
  · intro h id hid hne haccepts
    refine h.string_of_accepts hid ?_ haccepts
    rwa [entityId_eq hid]
  · intro h
    exact agrees_of_string h

/-! ### An integer -/

/-- A value of a property. -/
inductive Value where
  /-- `None`, or null. -/
  | none
  /-- A boolean. -/
  | bool (b : Bool)
  /-- An integer. -/
  | int (n : ℤ)
  /-- A string. -/
  | str (s : String)
  deriving DecidableEq

/-- Values are equal if they have the same type and the same value. -/
def valuesByType : Values Value where
  str
    | .none => "None"
    | .bool true => "True"
    | .bool false => "False"
    | .int n => toString n
    | .str s => s
  string := .str
  isNull v := v = .none
  equal v w := v ≠ .none ∧ v = w
  str_string _ := rfl
  isNull_string _ := rfl
  equal_string s v := by simp [eq_comm]
  equal_comm v w := by
    rw [decide_eq_decide]
    constructor
    · rintro ⟨hv, rfl⟩
      exact ⟨hv, rfl⟩
    · rintro ⟨hv, rfl⟩
      exact ⟨hv, rfl⟩
  equal_null v w h := by
    rw [decide_eq_true_eq] at h
    rw [h]
    rfl

/-- A server that stores everything. -/
def graphServer : Server Value where
  values := valuesByType
  sorted nodes := nodes
  refuses _ := none

/-- A graph on this host. -/
def graphLocal : Settings ℕ where
  host := "localhost"
  port := 6379
  password := none
  ssl := false
  socketTimeout := 5
  socketConnectTimeout := 5
  graphName := "openframe"
  nodeLabel := "Entity"

/-- The base mapping. -/
def dictMapping : Mapping Value (Dict String Value) where
  entityToProperties entity := entity
  nodeToEntity node := node
  valueToEntity _ := .empty
  str := valuesByType.str

/-- An entity with the number `1` as its id. -/
def numbered : Dict String Value := ⟨[("id", .int 1), ("name", .str "Ada")], by simp⟩

/-- **The number `1`** as an id is created, and not found by `update()`, which looks for a string. -/
theorem not_agrees : ¬ Agrees graphServer graphLocal dictMapping [] numbered := by
  intro h
  have hempty : entityId (graphServer.mapped dictMapping) (dictMapping.entityToProperties numbered) ≠
      "" := by decide
  have haccepts : graphServer.Accepts [] (dictMapping.entityToProperties numbered) :=
    Server.refusal_eq_none_iff.mpr ⟨rfl, List.pairwise_singleton _ _⟩
  obtain ⟨s, hs⟩ := h.string_of_accepts rfl hempty haccepts
  cases hs

end OpenframeAdapters.Db.Falkordb
