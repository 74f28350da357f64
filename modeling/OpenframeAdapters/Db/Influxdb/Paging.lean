import OpenframeAdapters.Db.Influxdb.Repository
import OpenframeAdapters.Db.Server
import OpenframeAdapters.Store.Rank

/-!
# Listing the points of InfluxDB

Flux groups the points by series, so that the query of `list()` gives one table for each value of the
id tag, and `sort` sorts each of them on its own. `list(limit, offset)` slices the tables one after
the other.

## The model

* `Grouped` — the tables of a query: each is of one id, and in the order of time.
* `listServer` — a server that answers the query of `list()` with these tables.
* `ListsSlice` — `list(limit, offset)` returns the slice of a sequence, whatever records are mapped
  to. The sequence is meant to be one of all points in the order of time (`TimeOrder`).

## What is proved

* `list_returns` — what `list(limit, offset)` returns.
* `slices_iff_inPlace` — it is a slice of the points in the order of time, exactly where each of its
  points stands in its place; and all slices are of one sequence, exactly where each table ends before
  the next one begins.
-/

namespace OpenframeAdapters.Db.Influxdb

open Python OpenframeAdapters.Core

open Store (SliceInPlace)

/-- The tables of a query. -/
structure Grouped {R Time : Type} [LinearOrder Time] (idOf : R → String) (time : R → Time) where
  /-- One after the other. -/
  tables : List (List R)
  /-- A table is of one id. -/
  oneId : ∀ t ∈ tables, ∀ x ∈ t, ∀ y ∈ t, idOf x = idOf y
  /-- Each table is of another id. -/
  apart : tables.Pairwise fun t t' => ∀ x ∈ t, ∀ y ∈ t', idOf x ≠ idOf y
  /-- A table is sorted. -/
  sorted : ∀ t ∈ tables, t.Pairwise fun x y => time x ≤ time y

section Listing

variable {P R Time : Type} [LinearOrder Time] {idOf : R → String} {time : R → Time}

/-- The records of all tables. -/
def Grouped.records (g : Grouped idOf time) : List R := g.tables.flatten

/-- All points, in the order of time. -/
def Grouped.TimeOrder (g : Grouped idOf time) (seq : List R) : Prop :=
  seq.Perm g.records ∧ seq.Pairwise fun x y => time x ≤ time y

variable (P) (settings : Settings) (src : Source)

/-- The server answers the query of `list()`. Nothing is said about other calls. -/
def listServer : Backend (commands P R) PyExc (Grouped idOf time)
  | g, .query _ query _, r, g' => query = fluxListAll settings src → r = .ok g.tables ∧ g' = g
  | _, .write .., _, _ => True
  | _, .delete .., _, _ => True

theorem exists_listServer (g : Grouped idOf time) (q : Command P) :
    ∃ r g', listServer P settings src g q r g' := by
  cases q with
  | query => exact ⟨.ok g.tables, g, fun _ => ⟨rfl, rfl⟩⟩
  | write => exact ⟨.ok (), g, trivial⟩
  | delete => exact ⟨.ok (), g, trivial⟩

/-- `list(limit, offset)` returns the slice of a sequence, and the number of all points. -/
def ListsSlice (g : Grouped idOf time) (seq : List R) (limit offset : ℕ) : Prop :=
  ∀ (T : Type) (mapping : Mapping P R Time T),
    (list settings src mapping limit offset).Returns (connected (listServer P settings src)).shared g
      (((seq.drop offset).take limit).map mapping.recordToEntity, (g.records.length : ℤ)) g

variable {P settings src}

/-- **What `list(limit, offset)` returns**: the slice of the tables, one after the other. -/
theorem list_returns (g : Grouped idOf time) (limit offset : ℕ) :
    ListsSlice P settings src g g.records limit offset := by
  intro T mapping
  refine returns_of_wpIn (exists_listServer P settings src) ?_
  refine Coro.wpIn_bind.mpr ((connects_connected _).wpIn_getClient rfl fun client => ?_)
  refine Coro.wpIn_bind.mpr (wpIn_tryExcept.mpr (wpIn_command fun r g' hr => ?_))
  obtain ⟨rfl, rfl⟩ := hr rfl
  rw [← slice_natCast]
  exact ⟨rfl, rfl⟩

/-- Entities are records. -/
def plainRecords (P : Type) (time : R → Time) : Mapping P R Time R where
  entityToPoint _ _ := .error ⟨.query, "write", none⟩
  recordToEntity record := record
  getTime := time
  entityId _ := none

/-- Of two sequences, the slices are the same. -/
theorem listsSlice_iff {g : Grouped idOf time} {seq : List R} {limit offset : ℕ} :
    ListsSlice P settings src g seq limit offset ↔
      (seq.drop offset).take limit = (g.records.drop offset).take limit := by
  constructor
  · intro h
    have hsame := ((h R (plainRecords P time)).unique (list_returns g limit offset R _)).1
    have hpage := congrArg Prod.fst hsame
    rwa [show (plainRecords P time).recordToEntity = id from rfl, List.map_id, List.map_id] at hpage
  · intro h T mapping
    rw [h]
    exact list_returns g limit offset T mapping

/-- The slice is one of the points in the order of time, exactly where its points are in place. -/
theorem listsInTime_iff (g : Grouped idOf time) (limit offset : ℕ) :
    (∃ seq, g.TimeOrder seq ∧ ListsSlice P settings src g seq limit offset) ↔
      SliceInPlace time g.records limit offset := by
  rw [← Store.exists_sorted_slice_iff]
  simp only [listsSlice_iff, Grouped.TimeOrder, and_assoc]

/-- All slices are of one sequence, exactly where the tables are in the order of time as a whole. -/
theorem listsOneSequence_iff (g : Grouped idOf time) :
    (∃ seq, g.TimeOrder seq ∧ ∀ limit offset, ListsSlice P settings src g seq limit offset) ↔
      g.tables.Pairwise fun t t' => ∀ x ∈ t, ∀ y ∈ t', time x ≤ time y := by
  have hrecords : (g.records.Pairwise fun x y => time x ≤ time y) ↔
      g.tables.Pairwise fun t t' => ∀ x ∈ t, ∀ y ∈ t', time x ≤ time y :=
    List.pairwise_flatten.trans (and_iff_right g.sorted)
  rw [← hrecords]
  constructor
  · rintro ⟨seq, ⟨hperm, hsorted⟩, hslices⟩
    have hall := listsSlice_iff.mp (hslices g.records.length 0)
    rw [List.drop_zero, List.drop_zero, List.take_length, ← hperm.length_eq, List.take_length] at hall
    exact hall ▸ hsorted
  · intro hsorted
    exact ⟨g.records, ⟨List.Perm.refl _, hsorted⟩, list_returns g⟩

end Listing

/-- **Paging**: `list(limit, offset)` returns a slice of the points in the order of time, exactly where
in the tables one after the other each point of the slice stands in a place that its time gives it;
and all slices are of one sequence, exactly where no point is later than one in a table after it. -/
theorem slices_iff_inPlace {R Time : Type} [LinearOrder Time] (P : Type) (settings : Settings)
    (src : Source) (idOf : R → String) (time : R → Time) (g : Grouped idOf time) :
    (∀ limit offset : ℕ,
      (∃ seq, g.TimeOrder seq ∧ ListsSlice P settings src g seq limit offset) ↔
        SliceInPlace time g.records limit offset) ∧
    ((∃ seq, g.TimeOrder seq ∧ ∀ limit offset, ListsSlice P settings src g seq limit offset) ↔
      g.tables.Pairwise fun t t' => ∀ x ∈ t, ∀ y ∈ t', time x ≤ time y) :=
  ⟨listsInTime_iff g, listsOneSequence_iff g⟩

/-- A point has an id and a time. Those of the sensors `a` and `b` alternate. -/
def interleaved : Grouped (Prod.fst : String × ℕ → String) Prod.snd where
  tables := [[("a", 1), ("a", 3)], [("b", 2)]]
  oneId := by decide
  apart := by decide
  sorted := by decide

/-- Settings for a server on this host. -/
def readingsLocal : Settings := ⟨⟨"http://localhost:8086", "token", "org", 5⟩, "-30d"⟩

/-- Of points at the times `1`, `2`, `3`, the second one is not among the first two that are listed. -/
theorem not_listsInTime :
    ¬ ∃ seq, interleaved.TimeOrder seq ∧
      ListsSlice Unit readingsLocal ⟨"readings", "id", "bucket"⟩ interleaved seq 2 0 := by
  intro h
  have hplace := (listsInTime_iff interleaved 2 0).mp h 1 (by decide) (by decide) (by decide)
  revert hplace
  decide

end OpenframeAdapters.Db.Influxdb
