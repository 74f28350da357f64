import OpenframeAdapters.Db.Mongo.Ids

/-!
# The caller's entity

`MongoRepository` maps a `dict` to a copy of it, but any other object to `vars(entity)`, the dictionary
that holds the object's attributes. `create()` and `update()` go on to change what they were given.

## The model

* `Kind` — whether the entity is a `dict` or an object.
* `Memory` — the dictionaries that a call works on, and `Ref`, one of them. The entity is in memory,
  and so `create` and `update` are written here once more, as they change it in place.
* `anything` — a server that may reply and raise what it likes.
* `Unchanged` — however a call ends, the entity is what it was.

## What is proved

* `wpIn_create_inPlace`, `wpIn_update_inPlace` — the calls of the driver, and what is returned, are
  those of `Mongo.create` and `Mongo.update`.
* `unchanged_iff` — the entities that are unchanged.
* `not_unchanged` — an object with an `id`, which is gone after a timeout.
-/

namespace OpenframeAdapters.Db.Mongo

open Python OpenframeAdapters.Core

/-- What the entity is. -/
inductive Kind where
  /-- A `dict`. -/
  | dict
  /-- An object with attributes. -/
  | object

/-- What a call works on. -/
structure Memory (V : Type) where
  /-- The entry of `_client_cache`. -/
  client : Option ℕ
  /-- The items of the entity, or its attributes. -/
  entity : Doc V
  /-- The copy that `dict(entity)` makes. -/
  copy : Doc V

/-- A dictionary in memory. -/
inductive Ref where
  /-- The entity's own. -/
  | entity
  /-- The copy. -/
  | copy

section Memory

variable {V : Type}

/-- Only the client is replaced. -/
def Memory.setClient (client : Option ℕ) (m : Memory V) : Memory V := { m with client := client }

@[simp] theorem Memory.client_setClient (client : Option ℕ) (m : Memory V) :
    (m.setClient client).client = client := rfl

@[simp] theorem Memory.entity_setClient (client : Option ℕ) (m : Memory V) :
    (m.setClient client).entity = m.entity := rfl

/-- What the dictionary holds. -/
def Ref.load (m : Memory V) : Ref → Doc V
  | .entity => m.entity
  | .copy => m.copy

/-- The dictionary is changed in place. -/
def Ref.update (f : Doc V → Doc V) (m : Memory V) : Ref → Memory V
  | .entity => { m with entity := f m.entity }
  | .copy => { m with copy := f m.copy }

@[simp] theorem Ref.load_update (f : Doc V → Doc V) (m : Memory V) (r : Ref) :
    r.load (r.update f m) = f (r.load m) := by cases r <;> rfl

@[simp] theorem Ref.client_update (f : Doc V → Doc V) (m : Memory V) (r : Ref) :
    (r.update f m).client = m.client := by cases r <;> rfl

/-- What `insert_one` adds to the dictionary that it is given, if anything. -/
def addId (adds : Option ObjectId) (doc : Doc V) : Doc V :=
  match adds, doc.get? "_id" with
  | some id, none => doc.set "_id" (.oid id)
  | _, _ => doc

end Memory

/-! ### Operations -/

namespace InPlace

section Operations

variable {V : Type} (settings : MongoSettings) (collName : String) (str : V → String)
  (bool : V → Bool)

/-- `_get_collection()`. -/
def getCollection : Operation (driver V) (Memory V) Collection :=
  (Mongo.getCollection settings collName).zoom Memory.client Memory.setClient

/-- `_entity_to_doc(entity)`. -/
def entityToDoc : Kind → Operation (driver V) (Memory V) Ref
  -- `dict(entity)`
  | .dict => do
    .modify fun m => { m with copy := m.entity }
    return .copy
  -- `vars(entity)`
  | .object => return .entity

/-- `col.insert_one(doc)`. Whether the `_id` that is missing comes from here or from the server is the
same to the server. -/
def insertOne (adds : Option ObjectId) (col : Collection) (doc : Ref) :
    Operation (driver V) (Memory V) (Value V) := do
  let fields : Doc V := doc.load (← .get)
  .modify (doc.update (addId adds))
  command (C := commands V) (.insertOne col fields)

/-- `create(entity)`. -/
def create (adds : Option ObjectId) (kind : Kind) : Operation (driver V) (Memory V) (Doc V) := do
  let col ← getCollection settings collName
  let doc ← entityToDoc kind
  .modify (doc.update (docToInsert (baseMapping str bool)))
  let inserted : Option (Doc V) ← tryExcept (commandErrors "create") do
    let insertedId : Value V ← insertOne adds col doc
    command (C := commands V) (.findOne col insertedId)
  match inserted with
  | some doc => return toEntity (baseMapping str bool) doc
  -- `dict(None)`
  | none => eval (.error typeError)

/-- `doc.pop("_id", None) or doc.pop("id", None)`. -/
def popId (doc : Ref) : Operation (driver V) (Memory V) (Value V) := do
  let fields : Doc V := doc.load (← .get)
  .modify (doc.update fun fields => (Mongo.popId (baseMapping str bool) fields).2)
  return (Mongo.popId (baseMapping str bool) fields).1

/-- `update(entity)`. -/
def update (kind : Kind) : Operation (driver V) (Memory V) (Option (Doc V)) := do
  let col ← getCollection settings collName
  let doc ← entityToDoc kind
  match ← popId str bool doc with
  | .none => fail ⟨.query, "update", none⟩
  | id =>
    let fields : Doc V := doc.load (← .get)
    let result : Option (Doc V) ← tryExcept (commandErrors "update")
      (command (C := commands V) (.findOneAndUpdate col (normaliseId (id.toText str)) fields))
    return result.map (toEntity (baseMapping str bool))

end Operations

end InPlace

/-! ### Changes -/

section Changes

variable {V : Type}

/-- The server may reply and raise what it likes. -/
def anything : Backend (driver V) PyExc Unit := fun _ _ _ _ => True

/-- However the call ends, the entity has the same items or attributes as before. The rest of the
memory is not in question: a further call with the entity begins as this one did. -/
def Unchanged {α : Type} (p : Operation (driver V) (Memory V) α) (entity : Doc V) : Prop :=
  ∀ {m : Memory V} {o b m'}, m.entity = entity → p.EndsIn anything.alone ((), m) o (b, m') →
    m'.entity = entity

/-- The dictionary that an entity is mapped to. -/
def Kind.ref : Kind → Ref
  | .dict => .copy
  | .object => .entity

/-- The memory, when the entity has been mapped. -/
def Kind.mapped (m : Memory V) : Kind → Memory V
  | .dict => { m with copy := m.entity }
  | .object => m

/-- What becomes of an entity, if the dictionary that it is mapped to is changed in this way. -/
def Kind.after (f : Doc V → Doc V) : Kind → Doc V → Doc V
  | .dict, entity => entity
  | .object, entity => f entity

variable {f : Doc V → Doc V} {kind : Kind} {entity : Doc V} {m : Memory V}

@[simp] theorem Kind.load_mapped : kind.ref.load (kind.mapped m) = m.entity := by
  cases kind <;> rfl

@[simp] theorem Kind.client_mapped : (kind.mapped m).client = m.client := by cases kind <;> rfl

@[simp] theorem Kind.entity_update : (kind.ref.update f (kind.mapped m)).entity =
    kind.after f m.entity := by cases kind <;> rfl

@[simp] theorem Ref.update_update {g : Doc V → Doc V} (r : Ref) :
    r.update g (r.update f m) = r.update (g ∘ f) m := by cases r <;> rfl

theorem Kind.after_eq_iff : kind.after f entity = entity ↔ kind = .dict ∨ f entity = entity := by
  cases kind with
  | dict => exact ⟨fun _ => .inl rfl, fun _ => rfl⟩
  | object =>
    constructor
    · exact .inr
    · rintro (h | h)
      · cases h
      · exact h

/-! ### Rules -/

section Rules

variable {σ τ : Type} {B : Backend (driver V) PyExc Unit} {b : Unit}

/-- **Commands** leave the memory alone. -/
theorem wpIn_command_alone {q : Command V} {Q : (commands V).Reply q → Unit × σ → Prop}
    {E : Raised → Unit × σ → Prop} {s : σ} (hQ : ∀ a b', Q a (b', s))
    (hE : ∀ exc b', E (.raw exc) (b', s)) :
    (command (C := commands V) q : Operation (driver V) σ _).wpIn B.alone Q E (b, s) := by
  refine Coro.wpIn_call.mpr ⟨?_, ?_⟩
  · rintro a ⟨b', s'⟩ ⟨-, rfl⟩
    exact hQ a b'
  · rintro exc ⟨b', s'⟩ ⟨-, rfl⟩
    exact hE exc b'

/-- The same command in two memories. -/
theorem wpIn_command_congr {q : Command V} {Q : (commands V).Reply q → Unit × σ → Prop}
    {Q' : (commands V).Reply q → Unit × τ → Prop} {E : Raised → Unit × σ → Prop}
    {E' : Raised → Unit × τ → Prop} {s : σ} {t : τ} (hQ : ∀ a b', Q a (b', s) ↔ Q' a (b', t))
    (hE : ∀ exc b', E (.raw exc) (b', s) ↔ E' (.raw exc) (b', t)) :
    (command (C := commands V) q : Operation (driver V) σ _).wpIn B.alone Q E (b, s) ↔
      (command (C := commands V) q : Operation (driver V) τ _).wpIn B.alone Q' E' (b, t) := by
  refine Coro.wpIn_call.trans (Iff.trans ?_ Coro.wpIn_call.symm)
  constructor
  · rintro ⟨hok, herror⟩
    constructor
    · rintro a ⟨b', t'⟩ ⟨hr, rfl⟩
      exact (hQ a b').mp (hok a _ ⟨hr, rfl⟩)
    · rintro exc ⟨b', t'⟩ ⟨hr, rfl⟩
      exact (hE exc b').mp (herror exc _ ⟨hr, rfl⟩)
  · rintro ⟨hok, herror⟩
    constructor
    · rintro a ⟨b', s'⟩ ⟨hr, rfl⟩
      exact (hQ a b').mpr (hok a _ ⟨hr, rfl⟩)
    · rintro exc ⟨b', s'⟩ ⟨hr, rfl⟩
      exact (hE exc b').mpr (herror exc _ ⟨hr, rfl⟩)

/-- **Mapping** the entity awaits nothing. -/
@[simp] theorem wpIn_entityToDoc {Q : Ref → Unit × Memory V → Prop}
    {E : Raised → Unit × Memory V → Prop} :
    (InPlace.entityToDoc kind).wpIn B.alone Q E (b, m) ↔ Q kind.ref (b, kind.mapped m) := by
  cases kind <;> exact .rfl

end Rules

end Changes

section Operations

variable {V : Type} {settings : MongoSettings} {collName : String} {str : V → String}
  {bool : V → Bool} {B : Backend (driver V) PyExc Unit} {kind : Kind} {m : Memory V} {b : Unit}

/-- **Collections**: fetching one changes the cache only. -/
theorem wpIn_getCollection_inPlace {Q : Collection → Unit × Memory V → Prop}
    {E : Raised → Unit × Memory V → Prop} :
    (InPlace.getCollection settings collName).wpIn B.alone Q E (b, m) ↔
      (Mongo.getCollection settings collName).wpIn B.alone
        (fun col g => Q col (g.1, m.setClient g.2)) (fun x g => E x (g.1, m.setClient g.2))
        (b, m.client) := by
  unfold InPlace.getCollection
  refine Coro.wpIn_zoom ?_ ?_ ?_
  · exact fun client m => rfl
  · exact fun m => rfl
  · exact fun client client' m => rfl

/-- **`create()` in place** makes the same calls, and they have the same outcome. -/
theorem wpIn_create_inPlace {adds : Option ObjectId} {Q : Doc V → Unit × Option ℕ → Prop}
    {E : Raised → Unit × Option ℕ → Prop} :
    (InPlace.create settings collName str bool adds kind).wpIn B.alone
        (fun a g => Q a (g.1, g.2.client)) (fun x g => E x (g.1, g.2.client)) (b, m) ↔
      (Mongo.create settings collName (baseMapping str bool) m.entity).wpIn B.alone Q E
        (b, m.client) := by
  unfold InPlace.create Mongo.create InPlace.insertOne send
  simp only [Coro.wpIn_bind, wpIn_getCollection_inPlace, wpIn_entityToDoc, Coro.wpIn_modify,
    Coro.writes_alone, wpIn_tryExcept, Coro.wpIn_get_alone, Memory.client_setClient]
  refine Coro.wpIn_congr (fun col g => ?_) (fun x g => .rfl)
  rw [Ref.load_update, Kind.load_mapped, Memory.entity_setClient]
  refine wpIn_command_congr (fun insertedId b' => ?_) (fun exc b' => ?_)
  · refine wpIn_command_congr (fun found b' => ?_) (fun exc b' => ?_)
    · cases found with
      | some doc => simp
      | none => simp
    · simp
  · simp

/-- **`update()` in place** makes the same calls, and they have the same outcome. -/
theorem wpIn_update_inPlace {Q : Option (Doc V) → Unit × Option ℕ → Prop}
    {E : Raised → Unit × Option ℕ → Prop} :
    (InPlace.update settings collName str bool kind).wpIn B.alone
        (fun a g => Q a (g.1, g.2.client)) (fun x g => E x (g.1, g.2.client)) (b, m) ↔
      (Mongo.update settings collName (baseMapping str bool) m.entity).wpIn B.alone Q E
        (b, m.client) := by
  unfold InPlace.update InPlace.popId Mongo.update send
  simp only [Coro.wpIn_bind, wpIn_getCollection_inPlace, wpIn_entityToDoc, Coro.wpIn_modify,
    Coro.writes_alone, Coro.wpIn_pure, Coro.wpIn_get_alone, Memory.client_setClient, Kind.load_mapped,
    Memory.entity_setClient]
  refine Coro.wpIn_congr (fun col g => ?_) (fun x g => .rfl)
  have hentity : (baseMapping str bool).entityToDoc m.entity = m.entity := rfl
  rw [hentity]
  obtain ⟨id, fields, hpop⟩ : ∃ id fields, popId (baseMapping str bool) m.entity = (id, fields) :=
    ⟨_, _, rfl⟩
  rw [hpop]
  cases id with
  | none => simp
  | _ =>
    simp only [Coro.wpIn_bind, Coro.wpIn_get_alone, wpIn_tryExcept]
    rw [Ref.load_update, Kind.load_mapped, Memory.entity_setClient, hpop]
    refine wpIn_command_congr (fun found b' => ?_) (fun exc b' => ?_)
    · simp
    · simp

/-! ### The entity -/

/-- Fetching a collection leaves the entity alone, and it fails only where there is no client. -/
theorem wpIn_getCollection_entity :
    (InPlace.getCollection settings collName).wpIn B.alone (fun _ g => g.2.entity = m.entity)
      (fun _ g => g.2.entity = m.entity ∧ m.client = none) (b, m) := by
  refine wpIn_getCollection_inPlace.mpr ?_
  unfold getCollection getMongoClient
  refine Coro.wpIn_bind.mpr (Coro.wpIn_bind.mpr (Coro.wpIn_get_alone.mpr ?_))
  cases hclient : m.client with
  | some client => exact rfl
  | none =>
    refine Coro.wpIn_bind.mpr (wpIn_tryExcept.mpr (Coro.wpIn_call.mpr ⟨?_, ?_⟩))
    · exact fun client g' h => rfl
    · exact fun exc g' h => ⟨rfl, rfl⟩

/-- **`create()`** changes an entity as it changes what it is mapped to. -/
theorem wpIn_create_entity {adds : Option ObjectId} :
    (InPlace.create settings collName str bool adds kind).wpIn B.alone
      (fun _ g => g.2.entity = kind.after (addId adds ∘ docToInsert (baseMapping str bool)) m.entity)
      (fun _ g =>
        g.2.entity = kind.after (addId adds ∘ docToInsert (baseMapping str bool)) m.entity ∨
          g.2.entity = m.entity ∧ m.client = none) (b, m) := by
  unfold InPlace.create InPlace.insertOne
  refine Coro.wpIn_bind.mpr (Coro.wpIn_mono ?_ (fun x g h => .inr h) wpIn_getCollection_entity)
  rintro col ⟨b', m'⟩ (hsame : m'.entity = m.entity)
  simp only [Coro.wpIn_bind, wpIn_entityToDoc, Coro.wpIn_modify, Coro.writes_alone, wpIn_tryExcept,
    Coro.wpIn_get_alone, Ref.update_update]
  have hentity : (kind.ref.update (addId adds ∘ docToInsert (baseMapping str bool))
      (kind.mapped m')).entity =
        kind.after (addId adds ∘ docToInsert (baseMapping str bool)) m.entity := by
    rw [Kind.entity_update, hsame]
  refine wpIn_command_alone (fun insertedId b' => ?_) (fun exc b' => ?_)
  · refine wpIn_command_alone (fun found b' => ?_) (fun exc b' => ?_)
    · cases found with
      | some doc => exact hentity
      | none => exact .inl hentity
    · exact .inl hentity
  · exact .inl hentity

/-- **`update()`** does so too. -/
theorem wpIn_update_entity :
    (InPlace.update settings collName str bool kind).wpIn B.alone
      (fun _ g => g.2.entity = kind.after (fun fields => (popId (baseMapping str bool) fields).2)
        m.entity)
      (fun _ g =>
        g.2.entity = kind.after (fun fields => (popId (baseMapping str bool) fields).2) m.entity ∨
          g.2.entity = m.entity ∧ m.client = none) (b, m) := by
  unfold InPlace.update InPlace.popId
  refine Coro.wpIn_bind.mpr (Coro.wpIn_mono ?_ (fun x g h => .inr h) wpIn_getCollection_entity)
  rintro col ⟨b', m'⟩ (hsame : m'.entity = m.entity)
  simp only [Coro.wpIn_bind, wpIn_entityToDoc, Coro.wpIn_modify, Coro.writes_alone, Coro.wpIn_pure,
    Coro.wpIn_get_alone, Kind.load_mapped]
  have hentity : (kind.ref.update (fun fields => (popId (baseMapping str bool) fields).2)
      (kind.mapped m')).entity =
        kind.after (fun fields => (popId (baseMapping str bool) fields).2) m.entity := by
    rw [Kind.entity_update, hsame]
  rw [hsame]
  cases (popId (baseMapping str bool) m.entity).1 with
  | none => exact .inl hentity
  | _ =>
    simp only [Coro.wpIn_bind, Coro.wpIn_get_alone, wpIn_tryExcept]
    refine wpIn_command_alone (fun found b' => ?_) (fun exc b' => ?_)
    · exact hentity
    · exact .inl hentity

/-- A call that changes an entity as it changes what it is mapped to, leaves it unchanged exactly if
that change is none. -/
theorem unchanged_iff_after {α : Type} {p : Operation (driver V) (Memory V) α}
    {f : Doc V → Doc V} {entity : Doc V}
    (h : ∀ m : Memory V, p.wpIn anything.alone (fun _ g => g.2.entity = kind.after f m.entity)
      (fun _ g => g.2.entity = kind.after f m.entity ∨ g.2.entity = m.entity ∧ m.client = none)
      ((), m)) :
    Unchanged p entity ↔ kind = .dict ∨ f entity = entity := by
  refine Iff.trans ?_ Kind.after_eq_iff
  constructor
  · intro hunchanged
    -- there is a client, so that the call gets as far as the entity
    obtain ⟨o, ⟨b', m'⟩, hend⟩ := Coro.exists_endsIn (W := anything.alone)
      (fun g q => ⟨.error timeoutError, g, trivial, rfl⟩) (fun g => ⟨g.2, rfl⟩) p
      ((), ⟨some 0, entity, entity⟩)
    have hsame := hunchanged rfl hend
    have hafter := hend.of_wpIn (h _)
    cases o with
    | ok a => exact hafter.symm.trans hsame
    | error x =>
      obtain hafter | ⟨-, hclient⟩ := hafter
      · exact hafter.symm.trans hsame
      · cases hclient
  · rintro hsame m o b' m' rfl hend
    have hafter := hend.of_wpIn (h m)
    cases o with
    | ok a => exact hafter.trans hsame
    | error x =>
      obtain hafter | ⟨hafter, -⟩ := hafter
      · exact hafter.trans hsame
      · exact hafter

theorem unchanged_create_iff {adds : Option ObjectId} {entity : Doc V} :
    Unchanged (InPlace.create settings collName str bool adds kind) entity ↔
      kind = .dict ∨ addId adds (docToInsert (baseMapping str bool) entity) = entity :=
  unchanged_iff_after fun _ => wpIn_create_entity

theorem unchanged_update_iff {entity : Doc V} :
    Unchanged (InPlace.update settings collName str bool kind) entity ↔
      kind = .dict ∨ (popId (baseMapping str bool) entity).2 = entity :=
  unchanged_iff_after fun _ => wpIn_update_entity

end Operations

/-! ### Which entities -/

section Entities

variable {V : Type} {str : V → String} {bool : V → Bool} {entity : Doc V}

/-- What is inserted is the entity, whatever the driver does, if it has an `_id`. -/
theorem addId_docToInsert_iff :
    (∀ adds, addId adds (docToInsert (baseMapping str bool) entity) = entity) ↔
      (entity.get? "_id").isSome = true := by
  constructor
  · intro h
    let oid : ObjectId := ⟨"000000000000000000000000", by decide⟩
    rw [← h (some oid)]
    unfold addId
    cases hid : (docToInsert (baseMapping str bool) entity).get? "_id" with
    | some id => simp [hid]
    | none => simp
  · intro h adds
    obtain ⟨id, hid⟩ := Option.isSome_iff_exists.mp h
    have hinsert : docToInsert (baseMapping str bool) entity = entity := by
      unfold docToInsert
      rw [hid]
      cases entity.get? "id" <;> rfl
    rw [hinsert]
    unfold addId
    rw [hid]
    cases adds <;> rfl

/-- What is left to be set is the entity, if it has neither id. -/
theorem popId_eq_self_iff : (popId (baseMapping str bool) entity).2 = entity ↔
    entity.get? "_id" = none ∧ entity.get? "id" = none := by
  constructor
  · intro h
    have hunder : entity.get? "_id" = none := h ▸ get?_popId entity
    have hpop : (popId (baseMapping str bool) entity).2 = (entity.erase "_id").erase "id" := by
      unfold popId
      rw [hunder]
      rfl
    refine ⟨hunder, ?_⟩
    rw [← h, hpop]
    simp
  · rintro ⟨hunder, hid⟩
    unfold popId
    rw [hunder, Dict.erase_eq_self hunder, Dict.erase_eq_self hid]
    rfl

end Entities

/-- **The entities that are unchanged**: a `dict`; an object that is created with an `_id`; and an
object that is updated without any id, which is refused. -/
theorem unchanged_iff {V : Type} (settings : MongoSettings) (collName : String) (str : V → String)
    (bool : V → Bool) (kind : Kind) (entity : Doc V) :
    ((∀ adds, Unchanged (InPlace.create settings collName str bool adds kind) entity) ↔
      kind = .dict ∨ (entity.get? "_id").isSome = true) ∧
    (Unchanged (InPlace.update settings collName str bool kind) entity ↔
      kind = .dict ∨ entity.get? "_id" = none ∧ entity.get? "id" = none) := by
  constructor
  · refine (forall_congr' fun adds => unchanged_create_iff).trans ?_
    rw [forall_or_left, addId_docToInsert_iff]
  · rw [unchanged_update_iff, popId_eq_self_iff]

/-- **An object with an `id`** is another when the call has failed: the `id` is gone. -/
theorem not_unchanged :
    (¬ Unchanged (InPlace.create mongoLocal "people" Nat.repr (· ≠ 0) none .object)
      (IdField.id.entity "a")) ∧
    ¬ Unchanged (InPlace.update mongoLocal "people" Nat.repr (· ≠ 0) .object)
      (IdField.id.entity "a") := by
  constructor
  · rw [unchanged_create_iff]
    rintro (h | h)
    · cases h
    · have hid := congrArg (fun doc : Doc ℕ => doc.get? "id") h
      simp [addId, docToInsert, IdField.entity] at hid
  · rw [unchanged_update_iff]
    rintro (h | h)
    · cases h
    · cases (popId_eq_self_iff.mp h).2

end OpenframeAdapters.Db.Mongo
