import OpenframeAdapters.Db.Cassandra.Server

/-!
# Paging through a Cassandra table

The driver fetches a result page by page. `execute_async()` calls back with the first page, and with
another one only when it is requested; the adapter makes the callback an `asyncio.Future`, and
requests nothing.

## The model

* `responseFutureToAsyncio` — what becomes of the future, given the callbacks.
* `ResponseFuture` — a result in pages of `fetch_size` rows, and the callbacks it makes.
* `pagedAnswer` — the server, together with the driver, as far as the statements of `list()` go. Its
  state is the rows, in the order in which they are selected.

## What is proved

* `responseFutureToAsyncio_callbacks` — the future has the first page, whatever is requested.
* `list_returns` — what `list(limit, offset)` returns.
* `slices_iff_fits` — it is the slice, exactly where all its rows are on the first page.
-/

namespace OpenframeAdapters.Db.Cassandra

open Python OpenframeAdapters.Core

open Postgres (Table Param)

variable {R V T : Type}

/-! ### The driver -/

/-- `_set_result_threadsafe` and `_set_exception_threadsafe`: a future that is done stays as it is. -/
def setUnlessDone {α : Type} (aioFuture : Option α) (event : α) : Option α :=
  if aioFuture.isNone then some event else aioFuture

/-- `_response_future_to_asyncio`: the state of the future, after the callbacks. -/
def responseFutureToAsyncio {α : Type} (callbacks : List α) : Option α :=
  callbacks.foldl setUnlessDone none

/-- `cassandra.cluster.ResponseFuture`. -/
structure ResponseFuture (R : Type) where
  /-- All rows that the statement selects. -/
  result : Except PyExc (List R)
  /-- How many rows there are on a page. -/
  fetchSize : ℕ

/-- What the driver calls back with, if so many further pages are requested. -/
def ResponseFuture.callbacks (future : ResponseFuture R) (requested : ℕ) :
    List (Except PyExc (List R)) :=
  match future.result with
  | .error exc => [.error exc]
  | .ok rows => (List.range (requested + 1)).map fun page =>
    .ok ((rows.drop (page * future.fetchSize)).take future.fetchSize)

theorem foldl_setUnlessDone_some {α : Type} (a : α) (callbacks : List α) :
    callbacks.foldl setUnlessDone (some a) = some a := by
  induction callbacks with
  | nil => rfl
  | cons event callbacks ih => exact ih

/-- The future has the first page, and no other one. -/
theorem responseFutureToAsyncio_callbacks (future : ResponseFuture R) (requested : ℕ) :
    responseFutureToAsyncio (future.callbacks requested) =
      some (future.result.map fun rows => rows.take future.fetchSize) := by
  unfold responseFutureToAsyncio ResponseFuture.callbacks
  cases future.result with
  | error exc => rfl
  | ok rows =>
    rw [List.range_succ_eq_map]
    refine (foldl_setUnlessDone_some _ _).trans ?_
    simp [Except.map]

/-! ### The server -/

/-- What the statements of `list()` select. -/
inductive Selection where
  /-- The first rows. -/
  | rows (limit : ℤ)
  /-- The number of rows. -/
  | count

/-- The statements that the server knows. -/
def selection (t : Table) (query : String) : Option (List (Param V)) → Option Selection
  | some [.int limit] =>
    if query = "SELECT * FROM " ++ t.name ++ " LIMIT %s" then some (.rows limit) else none
  | none => if query = "SELECT COUNT(*) FROM " ++ t.name then some .count else none
  | _ => none

/-- The rows that are selected. A limit has to be positive. -/
def Selection.result (countRow : ℕ → R) (rows : List R) : Selection → Except PyExc (List R)
  | .rows limit => if 0 < limit then .ok (rows.take limit.toNat) else .error invalidRequest
  | .count => .ok [countRow rows.length]

/-- The result of a statement. -/
def selected (t : Table) (countRow : ℕ → R) (rows : List R) (query : String)
    (params : Option (List (Param V))) : Except PyExc (List R) :=
  match selection t query params with
  | some selection => selection.result countRow rows
  | none => .error invalidRequest

/-- The server and the driver. No further page is requested, since the adapter never does. -/
def pagedAnswer (t : Table) (countRow : ℕ → R) (fetchSize : ℕ) :
    Backend (commands R V) PyExc (List R)
  | rows, .execute _ query params, r, rows' =>
    responseFutureToAsyncio
      (ResponseFuture.callbacks ⟨selected t countRow rows query params, fetchSize⟩ 0) = some r ∧
      rows' = rows

theorem selected_rows (t : Table) (countRow : ℕ → R) (rows : List R) {limit : ℕ} (h : 0 < limit) :
    selected t countRow rows (rowsQuery t) (some [(.int limit : Param V)]) =
      .ok (rows.take limit) := by
  have hquery : selection t (rowsQuery t) (some [(.int limit : Param V)]) =
      some (.rows limit) := if_pos rfl
  have hlimit : (0 : ℤ) < limit := by omega
  unfold selected
  rw [hquery]
  exact if_pos hlimit

theorem selected_count (t : Table) (countRow : ℕ → R) (rows : List R) :
    selected t countRow rows (countQuery t) (none : Option (List (Param V))) =
      .ok [countRow rows.length] := by
  have hquery : selection t (countQuery t) (none : Option (List (Param V))) = some .count :=
    if_pos rfl
  unfold selected
  rw [hquery]
  rfl

/-! ### The operation -/

section List

variable {settings : CassandraSettings} {mapping : Mapping R V T} {t : Table} {countRow : ℕ → R}
  {fetchSize : ℕ} {rows : List R}

/-- Of what a statement selects, an operation gets the first page. -/
theorem wpIn_execute_page (hs : settings.contactPoints ≠ []) {query : String}
    {params : Option (List (Param V))} {operation : String} {result : List R}
    (hresult : selected t countRow rows query params = .ok result)
    {Q : List R → List R → Prop} {E : Raised → List R → Prop}
    (hQ : Q (result.take fetchSize) rows) :
    (execute settings query params operation).wpIn
      (connected (pagedAnswer t countRow fetchSize)).shared Q E rows := by
  refine Coro.wpIn_bind.mpr
    ((connects_connected _).wpIn_getClient (if_neg (by simpa using hs)) fun session => ?_)
  refine wpIn_tryExcept.mpr (wpIn_command ?_)
  rintro r rows' ⟨hr, rfl⟩
  rw [responseFutureToAsyncio_callbacks, hresult] at hr
  cases hr
  exact hQ

/-- **What `list(limit, offset)` returns**: the slice of the first page, and the number of all
rows. -/
theorem list_returns (hs : settings.contactPoints ≠ []) (hf : 1 ≤ fetchSize)
    (hcount : ∀ n, mapping.countOf (countRow n) = .ok (n : ℤ)) {limit offset : ℕ}
    (hpos : 0 < limit + offset) :
    (list settings mapping t limit offset).Returns
      (connected (pagedAnswer t countRow fetchSize)).shared rows
      (((((rows.take (limit + offset)).take fetchSize).drop offset).take limit).map
        mapping.rowToEntity, (rows.length : ℤ)) rows := by
  refine returns_of_wpIn (fun b q => ⟨_, b, responseFutureToAsyncio_callbacks _ _, rfl⟩) ?_
  refine Coro.wpIn_bind.mpr (wpIn_execute_page hs (selected_rows t countRow rows hpos) ?_)
  refine Coro.wpIn_bind.mpr (wpIn_execute_page hs (selected_count t countRow rows) ?_)
  have hfirst : ([countRow rows.length].take fetchSize).head? = some (countRow rows.length) := by
    rw [List.take_of_length_le hf]
    rfl
  rw [hfirst, extractCount, hcount]
  refine ⟨?_, rfl⟩
  rw [slice_natCast]

/-- The rows that are not on the first page are missing from the slice, if it has any. -/
theorem slice_page_iff {α β : Type} (f : α → β) (xs : List α) (limit offset fetchSize : ℕ) :
    ((((xs.take (limit + offset)).take fetchSize).drop offset).take limit).map f =
      ((xs.drop offset).take limit).map f ↔
        min (limit + offset) xs.length ≤ max fetchSize offset := by
  have hslice : ((xs.take (limit + offset)).drop offset).take limit =
      (xs.drop offset).take limit := by
    rw [List.drop_take, Nat.add_sub_cancel, List.take_take, Nat.min_self]
  constructor
  · intro h
    have hlength := congrArg List.length h
    simp only [List.length_map, List.length_take, List.length_drop] at hlength
    omega
  · intro h
    by_cases hfits : min (limit + offset) xs.length ≤ fetchSize
    · have hpage : (xs.take (limit + offset)).take fetchSize = xs.take (limit + offset) :=
        List.take_of_length_le (by rwa [List.length_take])
      rw [hpage, hslice]
    · -- Nothing of the slice is there, on no page.
      have hnone : min (limit + offset) xs.length ≤ offset := by omega
      rw [← hslice, List.drop_eq_nil_of_le (by rw [List.length_take, List.length_take]; omega),
        List.drop_eq_nil_of_le (by rwa [List.length_take])]

end List

/-- **Paging**: `list(limit, offset)` returns the slice exactly where its last row is on the first
page, or it has no rows. -/
theorem slices_iff_fits (settings : CassandraSettings) (mapping : Mapping R V T) (t : Table)
    (countRow : ℕ → R) (fetchSize : ℕ) (rows : List R) (limit offset : ℕ)
    (hs : settings.contactPoints ≠ []) (hf : 1 ≤ fetchSize) (hpos : 0 < limit + offset)
    (hcount : ∀ n, mapping.countOf (countRow n) = .ok (n : ℤ)) :
    (list settings mapping t limit offset).Returns
      (connected (pagedAnswer t countRow fetchSize)).shared rows
      (((rows.drop offset).take limit).map mapping.rowToEntity, (rows.length : ℤ)) rows ↔
        min (limit + offset) rows.length ≤ max fetchSize offset := by
  refine (list_returns hs hf hcount hpos).iff_eq.trans ?_
  rw [Prod.mk.injEq, slice_page_iff]
  exact and_iff_left rfl

/-- Rows are numbers. -/
def numbers : Mapping ℕ String ℕ where
  rowToEntity row := row
  dictToEntity _ := 0
  entityToRow _ := ⟨[], by decide⟩
  countOf row := .ok row

/-- Two of three rows are listed, where a page has two, if and only if they fit on it. -/
theorem slices_iff_fits_two :
    (list cassandraLocal numbers users (2 : ℕ) (0 : ℕ)).Returns
      (connected (pagedAnswer users id 2)).shared [5, 6, 7]
      ((([5, 6, 7].drop 0).take 2).map numbers.rowToEntity, (([5, 6, 7].length : ℕ) : ℤ))
      [5, 6, 7] ↔ min (2 + 0) [5, 6, 7].length ≤ max 2 0 :=
  slices_iff_fits cassandraLocal numbers users id 2 [5, 6, 7] 2 0 (by decide) (by decide) (by decide)
    fun _ => rfl

/-- With more rows than are on a page, not all of them can be listed at once. -/
theorem not_slices_of_lt {fetchSize n : ℕ} (hf : 1 ≤ fetchSize) (hn : fetchSize < n) :
    ¬ (list cassandraLocal numbers users n (0 : ℕ)).Returns
      (connected (pagedAnswer users id fetchSize)).shared (List.range n)
      ((((List.range n).drop 0).take n).map numbers.rowToEntity, ((List.range n).length : ℤ))
      (List.range n) := by
  intro h
  have hreturns : (list cassandraLocal numbers users n (0 : ℕ)).Returns _ (List.range n) _ _ :=
    list_returns (by decide) hf (fun _ => rfl) (by omega)
  have hpage := congrArg Prod.fst (hreturns.unique h).1
  have hfits := (slice_page_iff _ _ _ _ _).mp hpage
  rw [List.length_range] at hfits
  omega

/-- Pages have 5000 rows, and of 6000 rows the last 1000 never come. -/
theorem not_slices :
    ¬ (list cassandraLocal numbers users (6000 : ℕ) (0 : ℕ)).Returns
      (connected (pagedAnswer users id 5000)).shared (List.range 6000)
      ((((List.range 6000).drop 0).take 6000).map numbers.rowToEntity,
        ((List.range 6000).length : ℤ)) (List.range 6000) :=
  not_slices_of_lt (by omega) (by omega)

end OpenframeAdapters.Db.Cassandra
