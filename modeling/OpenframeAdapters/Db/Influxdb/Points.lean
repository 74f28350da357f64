import Mathlib.Logic.Function.Basic
import OpenframeAdapters.Db.Influxdb.Repository
import OpenframeAdapters.Db.Server
import OpenframeAdapters.Python.Dict
import OpenframeAdapters.Store.Keyed

/-!
# Points of InfluxDB

The base implementation of `_entity_to_point()` and `_record_to_entity()`, for entities that are
dictionaries, and the server behind it.

## The model

* `entityToPoint` and `recordToEntity` — how an entity becomes a point, and a record an entity.
* `Bucket` — the points of the measurement, by their id and time. A point that is written where there
  is one keeps the fields of the old point that it has no value for.
* `fieldColumns` — the columns that Flux makes for fields: one for each field that any point within
  the range has. Where the latest point does not have it, the column is null.
* `Influx` — the rest of the server: how a query is read, what is within the lookback, and what the
  columns that are not of the point hold.

## What is proved

* `latest_eq_some_iff` — the latest point of a series.
* `latest_write`, `latest_write_new` — and after a point is written.
* `mem_fieldColumns_mergePoint` — the columns after a point is written.
* `get?_recordToEntity` — the items of an entity that is read.
-/

namespace OpenframeAdapters.Db.Influxdb

open Python OpenframeAdapters.Core

open Store (Keyed)

/-! ### Entities, points and records -/

/-- What is done with the values of a dictionary. -/
structure Values (V Time : Type) where
  /-- `str(value)`. -/
  str : V → String
  /-- A string is a value. -/
  text : String → V
  /-- `str` of a string. -/
  str_text : ∀ s, str (text s) = s
  /-- `None`. -/
  null : V
  /-- The time that `Point.time(value)` sets, where the value is not `None`. -/
  timestamp : V → Option Time

/-- `Point`. -/
structure Point (V Time : Type) where
  /-- `Point(measurement)`. -/
  measurement : String
  /-- `.tag(key, value)`. -/
  tag : String × String
  /-- `.field(key, value)`. -/
  fields : Dict String V
  /-- `.time(time)`. -/
  time : Option Time

/-- `FluxRecord`. -/
structure FluxRecord (V Time : Type) where
  /-- `record.values`. -/
  values : Dict String V
  /-- `record.get_time()`. -/
  time : Time

/-- `_INTERNAL_COLUMNS`. -/
def internalColumns : List String := ["_time", "_start", "_stop", "_measurement", "result", "table"]

section Mapping

variable {V Time : Type} (values : Values V Time) (src : Source)

/-- The fields of an entity: its items, but for the id tag and the time. -/
def fieldsOf (entity : Dict String V) : Dict String V :=
  entity.filter fun key => !(key == src.idTag || key == "time")

/-- `_entity_to_point(entity, time_override=…)`, for a `dict`. -/
def entityToPoint (entity : Dict String V) (timeOverride : Option Time) :
    Except AdapterError (Point V Time) :=
  match entity.get? src.idTag with
  | none => .error ⟨.query, "write", none⟩
  | some id => .ok
    { measurement := src.measurement
      tag := (src.idTag, values.str id)
      fields := fieldsOf src entity
      time := timeOverride.or ((entity.get? "time").bind values.timestamp) }

/-- `_record_to_entity(record)`. -/
def recordToEntity (record : FluxRecord V Time) : Dict String V :=
  record.values.filter fun key => !internalColumns.contains key

/-- The mapping of the base class. -/
def baseMapping : Mapping (Point V Time) (FluxRecord V Time) Time (Dict String V) where
  entityToPoint := entityToPoint values src
  recordToEntity := recordToEntity
  getTime := FluxRecord.time
  entityId entity := (entity.get? src.idTag).map values.str

variable {src}

@[simp] theorem get?_fieldsOf {entity : Dict String V} {key : String} :
    (fieldsOf src entity).get? key =
      if key = src.idTag ∨ key = "time" then none else entity.get? key := by
  rw [fieldsOf, Dict.get?_filter]
  by_cases hid : key = src.idTag
  · simp [hid]
  · by_cases htime : key = "time" <;> simp [hid, htime]

end Mapping

/-! ### The server -/

section Server

variable {V Time : Type} [LinearOrder Time]

/-- The points of a measurement: for each id, the fields at each time. -/
abbrev Bucket (V Time : Type) := String → Keyed Time (Dict String V)

/-- A point is written to a series. Where there is one at that time, they are merged. -/
def mergePoint (series : Keyed Time (Dict String V)) (time : Time) (fields : Dict String V) :
    Keyed Time (Dict String V) :=
  series.insert time <|
    match series.lookup time with
    | some old => old.update fields
    | none => fields

/-- The latest point of a series, of those in the range. -/
def latestPoint (inRange : Time → Bool) (series : Keyed Time (Dict String V)) :
    Option (Time × Dict String V) :=
  (series.sortedKeys.filter inRange).getLast?.bind fun time =>
    (series.lookup time).map fun fields => (time, fields)

/-- The names of the fields of the points in the range. -/
def fieldColumns (inRange : Time → Bool) (series : Keyed Time (Dict String V)) : List String :=
  (series.sortedKeys.filter inRange).flatMap fun time =>
    (series.lookup time).elim [] fun fields => fields.items.map Prod.fst

/-- What there is to know about the server. -/
structure Influx (V Time : Type) where
  /-- The id that a query asks for the latest point of; `none` where it is no such query. -/
  asks : String → Option String
  /-- The times within the lookback. -/
  inRange : Time → Bool
  /-- The time of a point that is written without one. -/
  now : Time
  /-- The values of the columns that are not of the point. -/
  column : String → V

variable (influx : Influx V Time) (values : Values V Time) (src : Source)

/-- The columns of a pivoted record, in a table with the given columns for fields. Those that the
point does not have are null. A tag is not hidden by a field of its name. -/
def pivoted (id : String) (columns : List String) (point : Time × Dict String V) :
    FluxRecord V Time where
  values := (((Dict.ofPairs (internalColumns.map fun c => (c, influx.column c))).update
    (Dict.ofPairs (columns.map fun c => (c, values.null)))).update
    point.2).set src.idTag (values.text id)
  time := point.1

/-- `ApiException`, for a request that is malformed. -/
def badRequest : PyExc := { Exc.of [.apiException, .exception] (by decide) with code := some 400 }

/-- What a query gives: the table of the id that it asks for, with the latest point. -/
def queryPoints (b : Bucket V Time) (text : String) :
    Except PyExc (List (List (FluxRecord V Time))) :=
  match influx.asks text with
  | some id =>
    .ok [((latestPoint influx.inRange (b id)).map
      (pivoted influx values src id (fieldColumns influx.inRange (b id)))).toList]
  | none => .error badRequest

/-- The fields in the line of a point: those that are not `None`. -/
def lineFields [DecidableEq V] (fields : Dict String V) : Dict String V :=
  fields.filter fun key => fields.get? key != some values.null

/-- What a write does. There is no point without fields. -/
def writePoint [DecidableEq V] (b : Bucket V Time) (point : Point V Time) :
    Except PyExc Unit × Bucket V Time :=
  let fields := lineFields values point.fields
  if fields.items = [] then (.error badRequest, b)
  else (.ok (), Function.update b point.tag.2
    (mergePoint (b point.tag.2) (point.time.getD influx.now) fields))

/-- The server. Nothing is said about deletions. -/
def pointServer [DecidableEq V] :
    Backend (commands (Point V Time) (FluxRecord V Time)) PyExc (Bucket V Time)
  | b, .query _ text _, r, b' => r = queryPoints influx values src b text ∧ b' = b
  | b, .write _ _ _ point, r, b' => r = (writePoint influx values b point).1 ∧
    b' = (writePoint influx values b point).2
  | _, .delete .., _, _ => True

theorem exists_pointServer [DecidableEq V] (b : Bucket V Time) (q : Command (Point V Time)) :
    ∃ r b', pointServer influx values src b q r b' := by
  cases q with
  | query | write => exact ⟨_, _, rfl, rfl⟩
  | delete => exact ⟨.ok (), b, trivial⟩

/-! ### The latest point -/

variable {influx values src} {inRange : Time → Bool} {series : Keyed Time (Dict String V)}
  {time : Time} {fields : Dict String V}

/-- The last element of a sorted list is its greatest. -/
theorem getLast?_eq_some_iff {l : List Time} (h : l.Pairwise (· ≤ ·)) :
    l.getLast? = some time ↔ time ∈ l ∧ ∀ t ∈ l, t ≤ time := by
  have hlast : ∀ t, l.getLast? = some t → t ∈ l ∧ ∀ t' ∈ l, t' ≤ t := by
    intro t ht
    obtain ⟨before, rfl⟩ := List.getLast?_eq_some_iff.mp ht
    refine ⟨by simp, fun t' ht' => ?_⟩
    rcases List.mem_append.mp ht' with ht' | ht'
    · exact (List.pairwise_append.mp h).2.2 t' ht' t (List.mem_singleton.mpr rfl)
    · exact le_of_eq (List.mem_singleton.mp ht')
  constructor
  · exact hlast time
  · rintro ⟨hmem, hmax⟩
    obtain ⟨t, ht⟩ := Option.ne_none_iff_exists'.mp
      (fun hnone => List.ne_nil_of_mem hmem (List.getLast?_eq_none_iff.mp hnone))
    rw [ht, le_antisymm (hmax t (hlast t ht).1) ((hlast t ht).2 time hmem)]

theorem latest_eq_some_iff : latestPoint inRange series = some (time, fields) ↔
    series.lookup time = some fields ∧ inRange time = true ∧
      ∀ t ∈ series, inRange t = true → t ≤ time := by
  have hsorted : ((series.keys.sort (· ≤ ·)).filter inRange).Pairwise (· ≤ ·) :=
    (Finset.pairwise_sort series.keys (· ≤ ·)).filter _
  have hmem : ∀ t, t ∈ (series.keys.sort (· ≤ ·)).filter inRange ↔ t ∈ series ∧ inRange t = true := by
    intro t
    rw [List.mem_filter, Finset.mem_sort, Finmap.mem_keys]
  have htime : ((series.keys.sort (· ≤ ·)).filter inRange).getLast? = some time ↔
      time ∈ series ∧ inRange time = true ∧ ∀ t ∈ series, inRange t = true → t ≤ time := by
    rw [getLast?_eq_some_iff hsorted]
    simp only [hmem, and_assoc, and_imp]
  unfold latestPoint
  rw [Option.bind_eq_some_iff]
  constructor
  · rintro ⟨t, ht, hfields⟩
    obtain ⟨fields', hlookup, heq⟩ := Option.map_eq_some_iff.mp hfields
    cases heq
    exact ⟨hlookup, (htime.mp ht).2⟩
  · rintro ⟨hlookup, hrange⟩
    exact ⟨time, htime.mpr ⟨Finmap.mem_iff.mpr ⟨_, hlookup⟩, hrange⟩, by rw [hlookup]; rfl⟩

/-- A point that is newer than all the others is the latest one. -/
theorem latest_write_new (hrange : inRange time = true) (hnew : ∀ t ∈ series, t < time) :
    latestPoint inRange (mergePoint series time fields) = some (time, fields) := by
  have hfree : series.lookup time = none :=
    Finmap.lookup_eq_none.mpr fun hmem => lt_irrefl time (hnew time hmem)
  rw [latest_eq_some_iff, mergePoint, hfree]
  refine ⟨Finmap.lookup_insert .., hrange, fun t ht _ => ?_⟩
  rcases Finmap.mem_insert.mp ht with rfl | ht
  · exact le_rfl
  · exact le_of_lt (hnew t ht)

/-- The latest point is overwritten, and stays the latest one. -/
theorem latest_write {old : Dict String V}
    (h : latestPoint inRange series = some (time, old)) :
    latestPoint inRange (mergePoint series time fields) = some (time, old.update fields) := by
  obtain ⟨hlookup, hrange, hmax⟩ := latest_eq_some_iff.mp h
  rw [latest_eq_some_iff, mergePoint, hlookup]
  refine ⟨Finmap.lookup_insert .., hrange, fun t ht => ?_⟩
  rcases Finmap.mem_insert.mp ht with rfl | ht
  · exact fun _ => le_rfl
  · exact hmax t ht

/-! ### The columns -/

theorem mem_fieldColumns {key : String} : key ∈ fieldColumns inRange series ↔
    ∃ time fields, inRange time = true ∧ series.lookup time = some fields ∧
      fields.get? key ≠ none := by
  unfold fieldColumns
  rw [List.mem_flatMap]
  constructor
  · rintro ⟨time, htime, hkey⟩
    cases hlookup : series.lookup time with
    | none => simp [hlookup] at hkey
    | some fields =>
      rw [hlookup] at hkey
      exact ⟨time, fields, (List.mem_filter.mp htime).2, hlookup,
        fun hnone => Dict.get?_eq_none_iff.mp hnone hkey⟩
  · rintro ⟨time, fields, hrange, hlookup, hkey⟩
    have hmem : time ∈ series := Finmap.mem_iff.mpr ⟨fields, hlookup⟩
    refine ⟨time, List.mem_filter.mpr ⟨?_, hrange⟩, ?_⟩
    · rwa [Finset.mem_sort, Finmap.mem_keys]
    · rw [hlookup]
      exact not_not.mp fun hnot => hkey (Dict.get?_eq_none_iff.mpr hnot)

/-- There is a column for each field of the latest point. -/
theorem mem_fieldColumns_of_latest (h : latestPoint inRange series = some (time, fields))
    {key : String} (hkey : fields.get? key ≠ none) : key ∈ fieldColumns inRange series := by
  obtain ⟨hlookup, hrange, -⟩ := latest_eq_some_iff.mp h
  exact mem_fieldColumns.mpr ⟨time, fields, hrange, hlookup, hkey⟩

/-- Writing a point adds columns for its fields. -/
theorem mem_fieldColumns_mergePoint (hrange : inRange time = true) {key : String} :
    key ∈ fieldColumns inRange (mergePoint series time fields) ↔
      key ∈ fieldColumns inRange series ∨ fields.get? key ≠ none := by
  have hlookup : ∀ t, (mergePoint series time fields).lookup t = if t = time then
      some (match series.lookup time with
        | some old => old.update fields
        | none => fields) else series.lookup t := fun t => Keyed.lookup_insert_eq
  simp only [mem_fieldColumns, hlookup]
  constructor
  · rintro ⟨t, found, ht, hfound, hkey⟩
    split_ifs at hfound with heq
    · subst heq
      cases hold : series.lookup t with
      | none =>
        rw [hold, Option.some.injEq] at hfound
        change fields = found at hfound
        exact .inr (hfound ▸ hkey)
      | some old =>
        rw [hold, Option.some.injEq] at hfound
        change old.update fields = found at hfound
        by_cases hnone : fields.get? key = none
        · rw [← hfound, Dict.get?_update_of_none hnone] at hkey
          exact .inl ⟨t, old, ht, hold, hkey⟩
        · exact .inr hnone
    · exact .inl ⟨t, found, ht, hfound, hkey⟩
  · rintro (⟨t, found, ht, hfound, hkey⟩ | hkey)
    · by_cases heq : t = time
      · subst heq
        refine ⟨t, _, ht, if_pos rfl, ?_⟩
        rw [hfound]
        change (found.update fields).get? key ≠ none
        rw [Dict.get?_update]
        exact fun hor => hkey (Option.or_eq_none_iff.mp hor).2
      · exact ⟨t, found, ht, by rwa [if_neg heq], hkey⟩
    · refine ⟨time, _, hrange, if_pos rfl, ?_⟩
      cases series.lookup time with
      | none => exact hkey
      | some old =>
        change (old.update fields).get? key ≠ none
        rwa [Dict.get?_update_of_ne_none hkey]

omit [LinearOrder Time] in
/-- The items of an entity that is read: those of the point that are not internal, and `None` for the
fields of other points. -/
theorem get?_recordToEntity (id : String) (columns : List String) (key : String) :
    (recordToEntity (pivoted influx values src id columns (time, fields))).get? key =
      if key ∈ internalColumns then none
      else if key = src.idTag then some (values.text id)
      else (fields.get? key).or (if key ∈ columns then some values.null else none) := by
  unfold recordToEntity pivoted
  rw [Dict.get?_filter, Dict.get?_set, Dict.get?_update, Dict.get?_update, Dict.get?_ofPairs_map,
    Dict.get?_ofPairs_map]
  by_cases hkey : key ∈ internalColumns
  · simp [hkey]
  · simp [hkey]

omit [LinearOrder Time] in
/-- A point without `None` among its fields is written as it is. -/
theorem lineFields_eq_self [DecidableEq V] (h : ∀ key, fields.get? key ≠ some values.null) :
    lineFields values fields = fields := by
  have hitems : (lineFields values fields).items = fields.items := by
    refine List.filter_eq_self.mpr fun item _ => ?_
    exact bne_iff_ne.mpr (h item.1)
  obtain ⟨items, hnodup⟩ := fields
  exact Dict.mk.injEq .. ▸ hitems

end Server

end OpenframeAdapters.Db.Influxdb
