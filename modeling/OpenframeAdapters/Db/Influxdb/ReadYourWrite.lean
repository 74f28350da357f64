import OpenframeAdapters.Db.Influxdb.Escaping
import OpenframeAdapters.Db.Influxdb.Points

/-!
# Reading what has been written to InfluxDB

`_entity_to_point()` leaves out the id tag and the time, `_record_to_entity()` leaves out the internal
columns, a point that takes the place of another one keeps the fields of the old one that it does
not mention, and a record has a null column for each field that only other points of the id have. So
a repository need not give back what it has been given.

## The model

* `stored` — an entity as it should come back: without its time.
* `ReadsCreated` — after `create(entity)`, `get()` returns the entity.
* `ReadsUpdated` — and so it does after an `update(entity)` that returns the entity.
* `Readable` — the id is a string, and neither the id tag nor a field is named like an internal column.
* `Covers` — the entity has all fields that there are columns for.

## What is proved

* `alike_iff` — which records are an entity.
* `readsCreated_iff`, `readsUpdated_iff` — when the repository gives back what it has been given.
-/

namespace OpenframeAdapters.Db.Influxdb

open Python OpenframeAdapters.Core

section ReadYourWrite

variable {V Time : Type} [LinearOrder Time] (influx : Influx V Time) (values : Values V Time)
  (settings : Settings) (src : Source)

/-- The entity as it should be read: the time is that of the point. -/
def stored (entity : Dict String V) : Dict String V :=
  entity.filter fun key => key == src.idTag || key != "time"

/-- An entity that keeps its names and its id on the way. -/
structure Readable (entity : Dict String V) : Prop where
  /-- The id is a string. -/
  idText : ∀ v, entity.get? src.idTag = some v → values.text (values.str v) = v
  /-- The id tag is not left out. -/
  idTag : src.idTag ∉ internalColumns
  /-- No field is left out. -/
  fields : ∀ key, (fieldsOf src entity).get? key ≠ none → key ∉ internalColumns

/-- No column for a field is left that the entity has no field for, apart from those that are not
returned anyway. -/
def Covers (entity : Dict String V) (columns : List String) : Prop :=
  ∀ key ∈ columns, (fieldsOf src entity).get? key = none →
    key ∈ internalColumns ∨ key = src.idTag

variable {influx values settings src} {b : Bucket V Time} {entity : Dict String V} {v : V}

theorem get?_stored {key : String} : (stored src entity).get? key =
    if key = src.idTag then entity.get? key else (fieldsOf src entity).get? key := by
  rw [stored, Dict.get?_filter, get?_fieldsOf]
  by_cases hid : key = src.idTag
  · simp [hid]
  · by_cases htime : key = "time" <;> simp [hid, htime]

/-- One item that is read, where the record has the value `F` and the entity the value `f`. -/
theorem item_iff {key : String} {F f : Option V} (hF : f ≠ none → F = f) :
    (if key ∈ internalColumns then none else F) = f ↔
      (f ≠ none → key ∉ internalColumns) ∧ (F ≠ none → f = none → key ∈ internalColumns) := by
  by_cases hkey : key ∈ internalColumns
  · rw [if_pos hkey]
    constructor
    · rintro rfl
      exact ⟨fun h => absurd rfl h, fun _ _ => hkey⟩
    · rintro ⟨hfields, -⟩
      by_contra hne
      exact hfields (Ne.symm hne) hkey
  · rw [if_neg hkey]
    constructor
    · rintro rfl
      exact ⟨fun _ => hkey, fun hne hnone => absurd hnone hne⟩
    · rintro ⟨-, hleft⟩
      by_cases hf : f = none
      · rw [hf]
        by_contra hne
        exact hkey (hleft hne hf)
      · exact hF hf

omit [LinearOrder Time] in
/-- The id that is read. -/
theorem id_iff {id : String} :
    (if src.idTag ∈ internalColumns then none else some (values.text id)) = some v ↔
      src.idTag ∉ internalColumns ∧ id = values.str v ∧ values.text (values.str v) = v := by
  by_cases htag : src.idTag ∈ internalColumns
  · simp [htag]
  · rw [if_neg htag, Option.some.injEq]
    constructor
    · rintro rfl
      rw [values.str_text]
      exact ⟨htag, rfl, rfl⟩
    · rintro ⟨-, rfl, htext⟩
      exact htext

omit [LinearOrder Time] in
/-- **Records that are an entity**: the id is the same, nothing is left out, and the columns that there
are besides are left out. -/
theorem alike_iff (hid : entity.get? src.idTag = some v) {id : String} {columns : List String}
    {time : Time} {fields : Dict String V}
    (hfields : ∀ key, (fieldsOf src entity).get? key ≠ none →
      fields.get? key = (fieldsOf src entity).get? key)
    (hcolumns : ∀ key, fields.get? key ≠ none → key ∈ columns) :
    (recordToEntity (pivoted influx values src id columns (time, fields))).Alike
        (stored src entity) ↔
      (id = values.str v ∧ Readable values src entity) ∧ Covers src entity columns := by
  have htagField : (fieldsOf src entity).get? src.idTag = none := by simp
  have hsome : ∀ key, (fields.get? key).or (if key ∈ columns then some values.null else none) ≠ none ↔
      key ∈ columns := by
    intro key
    rw [ne_eq, Option.or_eq_none_iff, not_and_or]
    by_cases hkey : key ∈ columns
    · simp [hkey]
    · simpa [hkey] using fun h => hkey (hcolumns key h)
  have hvalue : ∀ key, (fieldsOf src entity).get? key ≠ none →
      (fields.get? key).or (if key ∈ columns then some values.null else none) =
        (fieldsOf src entity).get? key := by
    intro key hkey
    obtain ⟨value, hv⟩ := Option.ne_none_iff_exists'.mp hkey
    rw [hfields key hkey, hv, Option.some_or]
  have hitem : ∀ key,
      (recordToEntity (pivoted influx values src id columns (time, fields))).get? key =
      (stored src entity).get? key ↔ if key = src.idTag then
        src.idTag ∉ internalColumns ∧ id = values.str v ∧ values.text (values.str v) = v
      else ((fieldsOf src entity).get? key ≠ none → key ∉ internalColumns) ∧
        (key ∈ columns → (fieldsOf src entity).get? key = none → key ∈ internalColumns) := by
    intro key
    rw [get?_recordToEntity, get?_stored]
    by_cases hkey : key = src.idTag
    · subst hkey
      rw [if_pos rfl, if_pos rfl, if_pos rfl, hid]
      exact id_iff
    · rw [if_neg hkey, if_neg hkey, if_neg hkey, item_iff (hvalue key), hsome]
  unfold Dict.Alike
  simp only [hitem]
  constructor
  · intro h
    have htag := h src.idTag
    rw [if_pos rfl] at htag
    obtain ⟨hcolumn, rfl, htext⟩ := htag
    refine ⟨⟨rfl, ?_, hcolumn, fun key hkey => ?_⟩, fun key hkey hnone => ?_⟩
    · intro w hw
      rw [hid, Option.some.injEq] at hw
      rwa [← hw]
    · have hne : key ≠ src.idTag := fun heq => hkey (heq ▸ htagField)
      have hrest := h key
      rw [if_neg hne] at hrest
      exact hrest.1 hkey
    · by_cases hkeyTag : key = src.idTag
      · exact .inr hkeyTag
      · have hrest := h key
        rw [if_neg hkeyTag] at hrest
        exact .inl (hrest.2 hkey hnone)
  · rintro ⟨⟨rfl, hreadable⟩, hcovers⟩ key
    split_ifs with hkey
    · exact ⟨hreadable.idTag, rfl, hreadable.idText v hid⟩
    · exact ⟨hreadable.fields key, fun hmem hnone => (hcovers key hmem hnone).resolve_right hkey⟩

omit [LinearOrder Time] in
theorem id_of_alike (hid : entity.get? src.idTag = some v) {id : String} {columns : List String}
    {point : Time × Dict String V}
    (h : (recordToEntity (pivoted influx values src id columns point)).Alike (stored src entity)) :
    id = values.str v := by
  have htag := h src.idTag
  rw [get?_recordToEntity, get?_stored, if_pos rfl, if_pos rfl, hid] at htag
  exact (id_iff.mp htag).2.1

/-- The columns that writing the entity adds are columns of its own fields. -/
theorem covers_mergePoint {inRange : Time → Bool} {series : Store.Keyed Time (Dict String V)}
    {time : Time} (hrange : inRange time = true) :
    Covers src entity (fieldColumns inRange (mergePoint series time (fieldsOf src entity))) ↔
      Covers src entity (fieldColumns inRange series) := by
  constructor
  · intro h key hkey
    exact h key ((mem_fieldColumns_mergePoint hrange).mpr (.inl hkey))
  · intro h key hkey hnone
    exact h key (((mem_fieldColumns_mergePoint hrange).mp hkey).resolve_right
      fun hne => hne hnone) hnone

/-! ### The operations -/

variable (influx values settings src) [DecidableEq V]

/-- The server, as an operation sees it. -/
abbrev pointWorld : World (driver (Point V Time) (FluxRecord V Time)) PyExc (Option ℕ)
    (Bucket V Time) := (connected (pointServer influx values src)).shared

/-- `await repo.create(entity)`, and then `await repo.get(entity_id)`. -/
def createThenGet (entity : Dict String V) (id : String) :
    Operation (driver (Point V Time) (FluxRecord V Time)) (Option ℕ) (Option (Dict String V)) := do
  let _ ← create settings src (baseMapping values src) entity
  get settings src (baseMapping values src) id

/-- `await repo.update(entity)`, and then `await repo.get(entity_id)`. -/
def updateThenGet (entity : Dict String V) (id : String) :
    Operation (driver (Point V Time) (FluxRecord V Time)) (Option ℕ)
      (Option (Dict String V) × Option (Dict String V)) := do
  let updated ← update settings src (baseMapping values src) entity
  return (updated, ← get settings src (baseMapping values src) id)

/-- After `create(entity)`, `get()` returns the id and the fields of the entity. -/
def ReadsCreated (b : Bucket V Time) (entity : Dict String V) (id : String) : Prop :=
  ∃ d b', (createThenGet values settings src entity id).Returns (pointWorld influx values src) b
    (some d) b' ∧ d.Alike (stored src entity)

/-- After an `update(entity)` that returns the entity, `get()` returns its id and its fields. -/
def ReadsUpdated (b : Bucket V Time) (entity : Dict String V) (id : String) : Prop :=
  ∀ updated found b', (updateThenGet values settings src entity id).EndsIn
      (pointWorld influx values src) b (.ok (updated, found)) b' →
    updated = some entity → ∃ d, found = some d ∧ d.Alike (stored src entity)

/-- The time of the point that `create()` writes. -/
def timeOf (influx : Influx V Time) (values : Values V Time) (entity : Dict String V) : Time :=
  ((entity.get? "time").bind values.timestamp).getD influx.now

/-- The bucket with a point for the entity. -/
def written (src : Source) (b : Bucket V Time) (id : String) (time : Time) (entity : Dict String V) :
    Bucket V Time :=
  Function.update b id (mergePoint (b id) time (fieldsOf src entity))

variable {influx values settings src} {E : Raised → Bucket V Time → Prop}

theorem wpIn_queryLatest {id : String}
    {Q : Option (FluxRecord V Time) → Bucket V Time → Prop}
    (hsome : ∀ asked, influx.asks (fluxGetLatest settings src id) = some asked →
      Q ((latestPoint influx.inRange (b asked)).map (pivoted influx values src asked
        (fieldColumns influx.inRange (b asked)))) b)
    (hnone : influx.asks (fluxGetLatest settings src id) = none → ∀ x, E x b) :
    (queryLatestRecord (P := Point V Time) settings src id).wpIn (pointWorld influx values src) Q E
      b := by
  refine Coro.wpIn_bind.mpr ((connects_connected _).wpIn_getClient rfl fun client => ?_)
  refine Coro.wpIn_bind.mpr (wpIn_tryExcept.mpr (wpIn_command fun r b' hr => ?_))
  obtain ⟨rfl, rfl⟩ := hr
  unfold queryPoints
  cases hasks : influx.asks (fluxGetLatest settings src id) with
  | none => exact hnone hasks _
  | some asked =>
    have hfirst : ([((latestPoint influx.inRange (b' asked)).map (pivoted influx values src asked
        (fieldColumns influx.inRange (b' asked)))).toList].flatten).head? =
        (latestPoint influx.inRange (b' asked)).map (pivoted influx values src asked
          (fieldColumns influx.inRange (b' asked))) := by
      cases latestPoint influx.inRange (b' asked) <;> rfl
    refine (congrArg (Q · b') hfirst).mpr (hsome asked hasks)

theorem wpIn_get {id : String} {Q : Option (Dict String V) → Bucket V Time → Prop}
    (hsome : ∀ asked, influx.asks (fluxGetLatest settings src id) = some asked →
      Q ((latestPoint influx.inRange (b asked)).map fun point => recordToEntity
        (pivoted influx values src asked (fieldColumns influx.inRange (b asked)) point)) b)
    (hnone : influx.asks (fluxGetLatest settings src id) = none → ∀ x, E x b) :
    (get settings src (baseMapping values src) id).wpIn (pointWorld influx values src) Q E b := by
  refine Coro.wpIn_bind.mpr (wpIn_queryLatest (fun asked hasks => ?_) hnone)
  have h := hsome asked hasks
  rw [Coro.wpIn_pure, Option.map_map]
  exact h

/-- A write of a point that has fields, none of which is `None`. -/
theorem wpIn_write {client : ℕ} {bucket org : String} {point : Point V Time}
    (hpoint : point.fields.items ≠ []) (hnull : ∀ key, point.fields.get? key ≠ some values.null) {Q : Unit → Bucket V Time → Prop}
    (hQ : Q () (Function.update b point.tag.2
      (mergePoint (b point.tag.2) (point.time.getD influx.now) point.fields))) :
    (send (R := FluxRecord V Time) (.write client bucket org point)).wpIn
      (pointWorld influx values src) Q E b := by
  refine wpIn_command fun r b' hr => ?_
  obtain ⟨rfl, rfl⟩ := hr
  rw [writePoint, lineFields_eq_self hnull, if_neg hpoint]
  exact hQ

omit [LinearOrder Time] [DecidableEq V] in
/-- The point of an entity that has the id tag. -/
theorem toPoint_eq (hid : entity.get? src.idTag = some v) (timeOverride : Option Time) :
    toPoint (R := FluxRecord V Time) (baseMapping values src) entity timeOverride = pure
      { measurement := src.measurement
        tag := (src.idTag, values.str v)
        fields := fieldsOf src entity
        time := timeOverride.or ((entity.get? "time").bind values.timestamp) } := by
  simp [toPoint, baseMapping, entityToPoint, hid]

theorem wpIn_create (hid : entity.get? src.idTag = some v)
    (hfields : (fieldsOf src entity).items ≠ [])
    (hnull : ∀ key, (fieldsOf src entity).get? key ≠ some values.null)
    {Q : Dict String V → Bucket V Time → Prop}
    (hQ : Q entity (written src b (values.str v) (timeOf influx values entity) entity)) :
    (create settings src (baseMapping values src) entity).wpIn (pointWorld influx values src) Q E
      b := by
  refine Coro.wpIn_bind.mpr ((connects_connected _).wpIn_getClient rfl fun client => ?_)
  rw [toPoint_eq hid]
  exact Coro.wpIn_bind.mpr (Coro.wpIn_bind.mpr (wpIn_tryExcept.mpr (wpIn_write hfields hnull hQ)))

theorem wpIn_update (hid : entity.get? src.idTag = some v)
    (hfields : (fieldsOf src entity).items ≠ [])
    (hnull : ∀ key, (fieldsOf src entity).get? key ≠ some values.null)
    {Q : Option (Dict String V) → Bucket V Time → Prop}
    (hfound : ∀ asked time old,
      influx.asks (fluxGetLatest settings src (values.str v)) = some asked →
      latestPoint influx.inRange (b asked) = some (time, old) →
        Q (some entity) (written src b (values.str v) time entity))
    (hmissing : ∀ asked, influx.asks (fluxGetLatest settings src (values.str v)) = some asked →
      latestPoint influx.inRange (b asked) = none → Q none b)
    (hnone : influx.asks (fluxGetLatest settings src (values.str v)) = none → ∀ x, E x b) :
    (update settings src (baseMapping values src) entity).wpIn (pointWorld influx values src) Q E
      b := by
  have hentity : (baseMapping values src : Mapping (Point V Time) (FluxRecord V Time) Time
      (Dict String V)).entityId entity = some (values.str v) := by
    simp [baseMapping, hid]
  unfold update
  rw [hentity]
  refine Coro.wpIn_bind.mpr (wpIn_queryLatest (fun asked hasks => ?_) hnone)
  cases hlatest : latestPoint influx.inRange (b asked) with
  | none => exact hmissing asked hasks hlatest
  | some point =>
    obtain ⟨time, old⟩ := point
    refine Coro.wpIn_bind.mpr ((connects_connected _).wpIn_getClient rfl fun client => ?_)
    rw [toPoint_eq hid]
    refine Coro.wpIn_bind.mpr (Coro.wpIn_bind.mpr (wpIn_tryExcept.mpr (wpIn_write hfields hnull ?_)))
    exact hfound asked time old hasks hlatest

/-! ### Reading -/

omit [DecidableEq V] in
/-- The series of an id, after a point has been written to it. -/
theorem written_self (id : String) (time : Time) : written src b id time entity id =
    mergePoint (b id) time (fieldsOf src entity) := Function.update_self ..

omit [DecidableEq V] in
/-- What `get()` returns after the point of an entity has become the latest one. -/
theorem written_alike_iff (hid : entity.get? src.idTag = some v) {time : Time}
    {fields : Dict String V}
    (hlatest : latestPoint influx.inRange
      (written src b (values.str v) time entity (values.str v)) = some (time, fields))
    (hfields : ∀ key, (fieldsOf src entity).get? key ≠ none →
      fields.get? key = (fieldsOf src entity).get? key) :
    (recordToEntity (pivoted influx values src (values.str v) (fieldColumns influx.inRange
      (written src b (values.str v) time entity (values.str v))) (time, fields))).Alike
        (stored src entity) ↔
      Readable values src entity ∧
        Covers src entity (fieldColumns influx.inRange (b (values.str v))) := by
  have hrange := (latest_eq_some_iff.mp hlatest).2.1
  rw [alike_iff hid hfields fun key => mem_fieldColumns_of_latest hlatest, and_iff_right rfl,
    written_self, covers_mergePoint hrange]

/-- **Reading what has been created**: exactly where the query asks for the id, the entity is
readable, and it has all fields that points of the id have. -/
theorem readsCreated_iff (hid : entity.get? src.idTag = some v)
    (hfields : (fieldsOf src entity).items ≠ [])
    (hnull : ∀ key, (fieldsOf src entity).get? key ≠ some values.null)
    (hrange : influx.inRange (timeOf influx values entity) = true)
    (hnew : ∀ t ∈ b (values.str v), t < timeOf influx values entity) :
    ReadsCreated influx values settings src b entity (values.str v) ↔
      influx.asks (fluxGetLatest settings src (values.str v)) = some (values.str v) ∧
        Readable values src entity ∧
        Covers src entity (fieldColumns influx.inRange (b (values.str v))) := by
  have hlatest : latestPoint influx.inRange
      (written src b (values.str v) (timeOf influx values entity) entity (values.str v)) =
      some (timeOf influx values entity, fieldsOf src entity) := by
    rw [written_self]
    exact latest_write_new hrange hnew
  have halike := written_alike_iff hid hlatest fun _ _ => rfl
  constructor
  · rintro ⟨d, b', hreturns, hd⟩
    have hfound := hreturns.endsIn.of_wpIn (Q := fun r _ => ∃ asked,
        influx.asks (fluxGetLatest settings src (values.str v)) = some asked ∧
        r = (latestPoint influx.inRange (written src b (values.str v)
          (timeOf influx values entity) entity asked)).map fun point => recordToEntity
            (pivoted influx values src asked (fieldColumns influx.inRange (written src b
              (values.str v) (timeOf influx values entity) entity asked)) point))
      (Coro.wpIn_bind.mpr (wpIn_create (E := fun _ _ => True) hid hfields hnull
        (wpIn_get (fun asked hasks => ⟨asked, hasks, rfl⟩) fun _ _ => trivial)))
    obtain ⟨asked, hasks, hsome⟩ := hfound
    obtain ⟨point, hpoint, rfl⟩ := Option.map_eq_some_iff.mp hsome.symm
    obtain rfl := id_of_alike hid hd
    rw [hlatest, Option.some.injEq] at hpoint
    subst hpoint
    exact ⟨hasks, halike.mp hd⟩
  · rintro ⟨hasks, hcond⟩
    refine ⟨_, written src b (values.str v) (timeOf influx values entity) entity,
      returns_of_wpIn (exists_pointServer influx values src)
      (Coro.wpIn_bind.mpr (wpIn_create hid hfields hnull (wpIn_get (fun asked hasked => ?_) ?_))),
      halike.mpr hcond⟩
    · rw [hasks, Option.some.injEq] at hasked
      subst hasked
      rw [hlatest]
      exact ⟨rfl, rfl⟩
    · intro hnone
      rw [hasks] at hnone
      cases hnone

/-- What `update()` and `get()` return, where there is a point to overwrite. -/
theorem updateThenGet_returns (hid : entity.get? src.idTag = some v)
    (hfields : (fieldsOf src entity).items ≠ [])
    (hnull : ∀ key, (fieldsOf src entity).get? key ≠ some values.null) {asked : String} {time : Time}
    {old : Dict String V}
    (hasks : influx.asks (fluxGetLatest settings src (values.str v)) = some asked)
    (hlatest : latestPoint influx.inRange (b asked) = some (time, old)) :
    (updateThenGet values settings src entity (values.str v)).Returns (pointWorld influx values src) b
      (some entity, (latestPoint influx.inRange
        (written src b (values.str v) time entity asked)).map fun point => recordToEntity
          (pivoted influx values src asked (fieldColumns influx.inRange
            (written src b (values.str v) time entity asked)) point))
      (written src b (values.str v) time entity) := by
  have hasksNot : influx.asks (fluxGetLatest settings src (values.str v)) ≠ none := by
    rw [hasks]
    exact Option.some_ne_none _
  refine returns_of_wpIn (exists_pointServer influx values src)
    (Coro.wpIn_bind.mpr (wpIn_update hid hfields hnull ?_ ?_ fun hnone => absurd hnone hasksNot))
  · intro asked' time' old' hasks' hlatest'
    rw [hasks, Option.some.injEq] at hasks'
    subst hasks'
    rw [hlatest, Option.some.injEq] at hlatest'
    cases hlatest'
    refine Coro.wpIn_bind.mpr (wpIn_get (fun asked' hasks' => ?_) fun hnone => absurd hnone hasksNot)
    rw [hasks, Option.some.injEq] at hasks'
    subst hasks'
    exact ⟨rfl, rfl⟩
  · intro asked' hasks' hmissing
    rw [hasks, Option.some.injEq] at hasks'
    subst hasks'
    rw [hlatest] at hmissing
    cases hmissing

/-- What `get()` finds after an update that has found a point to overwrite. -/
theorem readsUpdated_iff_found (hid : entity.get? src.idTag = some v)
    (hfields : (fieldsOf src entity).items ≠ [])
    (hnull : ∀ key, (fieldsOf src entity).get? key ≠ some values.null) {asked : String} {time : Time}
    {old : Dict String V}
    (hasks : influx.asks (fluxGetLatest settings src (values.str v)) = some asked)
    (hlatest : latestPoint influx.inRange (b asked) = some (time, old)) :
    ReadsUpdated influx values settings src b entity (values.str v) ↔
      ∃ d, (latestPoint influx.inRange (written src b (values.str v) time entity asked)).map
        (fun point => recordToEntity (pivoted influx values src asked (fieldColumns influx.inRange
          (written src b (values.str v) time entity asked)) point)) = some d ∧
          d.Alike (stored src entity) := by
  have hreturns := updateThenGet_returns hid hfields hnull hasks hlatest
  constructor
  · intro h
    exact h _ _ _ hreturns.endsIn rfl
  · intro h updated found b' hend _
    cases (hreturns.2 _ _ hend).1
    exact h

/-- An update that finds a point to overwrite is read, exactly where the query has asked for the id,
the entity is readable, and it has all fields that points of the id have. -/
theorem readsUpdated_iff_of_latest (hid : entity.get? src.idTag = some v)
    (hfields : (fieldsOf src entity).items ≠ [])
    (hnull : ∀ key, (fieldsOf src entity).get? key ≠ some values.null) {asked : String} {time : Time}
    {old : Dict String V}
    (hasks : influx.asks (fluxGetLatest settings src (values.str v)) = some asked)
    (hlatest : latestPoint influx.inRange (b asked) = some (time, old)) :
    ReadsUpdated influx values settings src b entity (values.str v) ↔
      asked = values.str v ∧ Readable values src entity ∧
        Covers src entity (fieldColumns influx.inRange (b asked)) := by
  rw [readsUpdated_iff_found hid hfields hnull hasks hlatest]
  by_cases hasked : asked = values.str v
  · subst hasked
    have hmerged : latestPoint influx.inRange
        (written src b (values.str v) time entity (values.str v)) =
        some (time, old.update (fieldsOf src entity)) := by
      rw [written_self]
      exact latest_write hlatest
    have halike := written_alike_iff hid hmerged fun key hkey => Dict.get?_update_of_ne_none hkey
    rw [hmerged, and_iff_right rfl, ← halike]
    constructor
    · rintro ⟨d, hd, hdAlike⟩
      rwa [← Option.some.inj hd] at hdAlike
    · intro hdAlike
      exact ⟨_, rfl, hdAlike⟩
  · constructor
    · rintro ⟨d, hd, halike⟩
      obtain ⟨point, -, rfl⟩ := Option.map_eq_some_iff.mp hd
      exact absurd (id_of_alike hid halike) hasked
    · rintro ⟨rfl, -⟩
      exact absurd rfl hasked

/-- **Reading what has been updated**: exactly where there is nothing to overwrite, or what is
overwritten is a point of the id, the entity is readable, and it has all fields that points of the id
have. -/
theorem readsUpdated_iff (hid : entity.get? src.idTag = some v)
    (hfields : (fieldsOf src entity).items ≠ [])
    (hnull : ∀ key, (fieldsOf src entity).get? key ≠ some values.null) :
    ReadsUpdated influx values settings src b entity (values.str v) ↔
      ∀ asked time old, influx.asks (fluxGetLatest settings src (values.str v)) = some asked →
        latestPoint influx.inRange (b asked) = some (time, old) →
        asked = values.str v ∧ Readable values src entity ∧
          Covers src entity (fieldColumns influx.inRange (b asked)) := by
  constructor
  · intro h asked time old hasks hlatest
    exact (readsUpdated_iff_of_latest hid hfields hnull hasks hlatest).mp h
  · intro h updated found b' hend hupdated
    -- An update that returns the entity has found a point.
    have hfound := hend.of_wpIn (Q := fun r _ => r.1 = some entity → ∃ asked time old,
        influx.asks (fluxGetLatest settings src (values.str v)) = some asked ∧
        latestPoint influx.inRange (b asked) = some (time, old))
      (Coro.wpIn_bind.mpr (wpIn_update (E := fun _ _ => True) hid hfields hnull
        (fun asked time old hasks hlatest => Coro.wpIn_bind.mpr (wpIn_get
          (fun _ _ _ => ⟨asked, time, old, hasks, hlatest⟩) fun _ _ => trivial))
        (fun _ _ _ => Coro.wpIn_bind.mpr (wpIn_get (fun _ _ hsome => nomatch hsome)
          fun _ _ => trivial))
        fun _ _ => trivial))
    obtain ⟨asked, time, old, hasks, hlatest⟩ := hfound hupdated
    exact (readsUpdated_iff_of_latest hid hfields hnull hasks hlatest).mpr (h asked time old hasks hlatest)
      updated found b' hend hupdated

end ReadYourWrite

/-- Values are strings or `None`, and times are numbers. -/
def strings : Values (Option String) ℕ where
  str v := v.getD "None"
  text := some
  str_text _ := rfl
  null := none
  timestamp v := v.bind String.toNat?

/-- The server knows the query for the sensor `hall`, and everything is within the lookback. -/
def hallInflux : Influx (Option String) ℕ where
  asks text := if text = fluxGetLatest influxLocal readings "hall" then some "hall" else none
  inRange _ := true
  now := 8
  column _ := some ""

/-- A reading of the temperature. -/
def warm : Dict String (Option String) :=
  ⟨[("sensor", some "hall"), ("temperature", some "21")], by decide⟩

/-- A reading with a field that is called `table`. -/
def atTable : Dict String (Option String) :=
  ⟨[("sensor", some "hall"), ("table", some "3")], by decide⟩

/-- A point that has a note. -/
def noted : Dict String (Option String) :=
  ⟨[("temperature", some "20"), ("note", some "window open")], by decide⟩

/-- The sensor has one point. -/
def oneNoted : Bucket (Option String) ℕ :=
  Function.update (fun _ => ∅) "hall" (mergePoint ∅ 3 noted)

theorem latest_oneNoted :
    latestPoint hallInflux.inRange (oneNoted "hall") = some (3, noted) :=
  latest_write_new rfl fun _ ht => absurd ht Finmap.notMem_empty

theorem asks_hall :
    hallInflux.asks (fluxGetLatest influxLocal readings "hall") = some "hall" := by
  simp only [hallInflux, if_true]

/-- There is a column for the note. -/
theorem not_covers_warm :
    ¬ Covers readings warm (fieldColumns hallInflux.inRange (oneNoted "hall")) := by
  intro h
  have hnote := h "note" (mem_fieldColumns_of_latest latest_oneNoted (by decide)) (by decide)
  revert hnote
  decide

theorem fieldsOf_warm (key : String) :
    (fieldsOf readings warm).get? key ≠ some strings.null := by
  intro h
  have hmem := Dict.get?_eq_some_iff.mp h
  have hnull : ∀ item ∈ (fieldsOf readings warm).items, item.2 ≠ strings.null := by decide
  exact hnull _ hmem rfl

theorem new_warm : ∀ t ∈ oneNoted "hall", t < timeOf hallInflux strings warm := by
  intro t ht
  have hpoint : t ∈ mergePoint (∅ : Store.Keyed ℕ (Dict String (Option String))) 3 noted := ht
  rcases Finmap.mem_insert.mp hpoint with rfl | ht
  · decide
  · exact absurd ht Finmap.notMem_empty

end OpenframeAdapters.Db.Influxdb
