import OpenframeAdapters.Db.Dynamodb.Server
import OpenframeAdapters.Python.Loop
import OpenframeAdapters.Python.Sequence

/-!
# Paging through a DynamoDB table

A `Scan` gives a table page by page, as the server pleases: pages are of any length, and may be
empty. `list(limit, offset)` scans until it has as many items as it needs, scans again for the
number of items, and slices what it has.

## The model

* `list` — the operation, with its two loops. They take fuel.
* `Pages` — a table, as it is cut into pages. No two pages have the same `LastEvaluatedKey`, so that
  a scan that starts after a key knows where to go on.
* `Table` — the server: what is scanned for the items, and for the number of items, is the same
  table, in any pages.

## What is proved

* `collect_items` — the first loop has all items, or as many as are needed.
* `countItems_count` — the second loop counts all items.
* `list_slices` — `list(limit, offset)` terminates, with the slice and the number of all items.
-/

namespace OpenframeAdapters.Db.Dynamodb

open Python OpenframeAdapters.Core

/-! ### The operation -/

/-- The keyword arguments of a `scan`. -/
structure ScanKwargs (K : Type) where
  /-- `Select`. -/
  select : Option String := none
  /-- `ExclusiveStartKey`. -/
  exclusiveStartKey : Option K := none

/-- The response to a `scan`. -/
structure ScanResponse (V K : Type) where
  /-- `response.get("Items")`. -/
  items : Option (List (Dict String V))
  /-- `response.get("Count")`. -/
  count : Option ℕ
  /-- `response.get("LastEvaluatedKey")`. -/
  lastEvaluatedKey : Option K

/-- `table.scan(**kwargs)`. -/
abbrev scans (V K : Type) : Driver where
  Call := ℕ × ScanKwargs K
  Reply _ := ScanResponse V K

/-- An operation that scans. -/
abbrev Scanning (V K α : Type) :=
  Operation (connecting DynamoDBArguments (scans V K)) (Option ℕ) α

section Operation

variable {V K T : Type}

/-- Await a scan. -/
def scan (table : ℕ) (kwargs : ScanKwargs K) : Scanning V K (ScanResponse V K) :=
  command (C := scans V K) (table, kwargs)

/-- A round of the first loop: what it goes on with is `items` and `scan_kwargs`. -/
def collect (table : ℕ) (needed : ℤ) (s : List (Dict String V) × ScanKwargs K) :
    Scanning V K (List (Dict String V) × ScanKwargs K ⊕ List (Dict String V)) := do
  let response ← scan table s.2
  let items := s.1 ++ response.items.getD []
  match response.lastEvaluatedKey with
  | none => return .inr items
  | some lastKey =>
    if needed ≤ items.length then return .inr items
    else return .inl (items, { s.2 with exclusiveStartKey := some lastKey })

/-- A round of the second loop: what it goes on with is `count` and `count_kwargs`. -/
def countItems (table : ℕ) (s : ℕ × ScanKwargs K) : Scanning V K (ℕ × ScanKwargs K ⊕ ℕ) := do
  let countResponse ← scan table s.2
  let count := s.1 + countResponse.count.getD 0
  match countResponse.lastEvaluatedKey with
  | none => return .inr count
  | some lastKey => return .inl (count, { s.2 with exclusiveStartKey := some lastKey })

/-- Both loops, one after the other. It is `none` where the fuel has run out. -/
def scanTable (fuel table : ℕ) (needed : ℤ) :
    Scanning V K (Option (List (Dict String V) × ℕ)) := do
  match ← Coro.whileTrue (collect table needed) fuel ([], {}) with
  | none => return none
  | some items =>
    let count ← Coro.whileTrue (countItems table) fuel (0, { select := some "COUNT" })
    return count.map fun count => (items, count)

/-- `list(limit, offset)`. It is `none` where the fuel has run out. -/
def list (settings : DynamoDBSettings) (mapping : Mapping V T) (fuel : ℕ) (limit offset : ℤ) :
    Scanning V K (Option (List T × ℕ)) := do
  let table ← getDynamodbTable.getClient settings id fun c _ => some c
  let scanned ← tryExcept (commandErrors mapping "list") (scanTable fuel table (offset + limit))
  return scanned.map fun (items, count) =>
    ((slice items offset (offset + limit)).map mapping.rowToEntity, count)

end Operation

/-! ### The server -/

/-- A table in pages. -/
structure Pages (V K : Type) where
  /-- The pages before the last, each with its `LastEvaluatedKey`. -/
  init : List (List (Dict String V) × K)
  /-- The last page. -/
  last : List (Dict String V)
  /-- Where a scan has come to is told by the key alone. -/
  nodup : (init.map Prod.snd).Nodup

namespace Pages

variable {V K : Type}

/-- All items, in the order in which they are scanned. -/
def items (p : Pages V K) : List (Dict String V) := (p.init.map Prod.fst).flatten ++ p.last

variable [DecidableEq K]

/-- The pages before the last that a scan has still to give. -/
def after (p : Pages V K) : Option K → Option (List (List (Dict String V) × K))
  | none => some p.init
  | some key => (p.init.dropWhile fun page => page.2 ≠ key).tail?

/-- The page that is next, with its key. -/
def next (p : Pages V K) : List (List (Dict String V) × K) → List (Dict String V) × Option K
  | [] => (p.last, none)
  | page :: _ => (page.1, some page.2)

/-- A scan that starts after the key has been given some pages, and not yet others. -/
structure Reached (p : Pages V K) (start : Option K) (done rest : List (List (Dict String V) × K)) :
    Prop where
  /-- All of them are the pages. -/
  split : p.init = done ++ rest
  /-- The key says so. -/
  after : p.after start = some rest

theorem reached_start (p : Pages V K) : p.Reached none [] p.init := ⟨rfl, rfl⟩

/-- With the key of a page, the scan goes on right after it. -/
theorem Reached.next {p : Pages V K} {start : Option K}
    {done rest : List (List (Dict String V) × K)} {page : List (Dict String V) × K}
    (h : p.Reached start done (page :: rest)) :
    p.Reached (some page.2) (done ++ [page]) rest := by
  have hbefore : ∀ other ∈ done, decide (other.2 ≠ page.2) = true := by
    intro other hother
    have hnodup := p.nodup
    rw [h.split, List.map_append, List.nodup_append] at hnodup
    have hne := hnodup.2.2 other.2 (List.mem_map_of_mem hother) page.2 (by simp)
    simpa using hne
  constructor
  · rw [h.split, List.append_assoc, List.singleton_append]
  · rw [Pages.after, h.split, List.dropWhile_append_of_pos hbefore]
    simp

end Pages

/-- A table that is scanned for its items, and for their number. -/
structure Table (V K : Type) where
  /-- The pages of a scan for the items. -/
  scanned : Pages V K
  /-- The pages of a scan with `Select="COUNT"`. -/
  counted : Pages V K
  /-- They are the same items. -/
  same : counted.items = scanned.items

variable {V K T : Type} [DecidableEq K]

/-- The response to a scan of these pages. A key that is not one of theirs is refused. -/
def Pages.respond (p : Pages V K) (kwargs : ScanKwargs K)
    (response : List (Dict String V) × Option K → ScanResponse V K) :
    Except PyExc (ScanResponse V K) :=
  match p.after kwargs.exclusiveStartKey with
  | none => .error (clientError "ValidationException")
  | some rest => .ok (response (p.next rest))

/-- The server. -/
def answerScan : (q : (scans V K).Call) → Table V K →
    Except PyExc ((scans V K).Reply q) × Table V K
  | (_, kwargs), t =>
    if kwargs.select = some "COUNT" then
      (t.counted.respond kwargs fun page => ⟨none, some page.1.length, page.2⟩, t)
    else (t.scanned.respond kwargs fun page => ⟨some page.1, some page.1.length, page.2⟩, t)

theorem Pages.Reached.respond {p : Pages V K} {kwargs : ScanKwargs K}
    {done rest : List (List (Dict String V) × K)}
    (h : p.Reached kwargs.exclusiveStartKey done rest)
    (response : List (Dict String V) × Option K → ScanResponse V K) :
    p.respond kwargs response = .ok (response (p.next rest)) := by
  rw [Pages.respond, h.after]

/-! ### The loops -/

section Loops

variable {E : Raised → Table V K → Prop} (t : Table V K) (table : ℕ)

/-- The server, as an operation sees it. -/
abbrev scannedTable : World (connecting DynamoDBArguments (scans V K)) PyExc (Option ℕ) (Table V K) :=
  (connected (Backend.of answerScan)).shared

/-- The first loop has the items of the pages that it has been given. -/
def Collecting (n : ℕ) (s : List (Dict String V) × ScanKwargs K) (t' : Table V K) : Prop :=
  t' = t ∧ s.2.select = none ∧ ∃ done rest, t.scanned.Reached s.2.exclusiveStartKey done rest ∧
    s.1 = (done.map Prod.fst).flatten ∧ rest.length = n

/-- The first loop is left with all items, or with as many as are needed. -/
def Collected (needed : ℤ) (items : List (Dict String V)) (t' : Table V K) : Prop :=
  t' = t ∧ ∃ rest, t.scanned.items = items ++ rest ∧ (rest = [] ∨ needed ≤ items.length)

theorem wpIn_collect {needed : ℤ} {n : ℕ} {s : List (Dict String V) × ScanKwargs K}
    {t' : Table V K} (h : Collecting t n s t') :
    (collect table needed s).wpIn scannedTable
      (Coro.Round (Collecting t) (Collected t needed) n) E t' := by
  obtain ⟨items, kwargs⟩ := s
  obtain ⟨rfl, hselect, done, rest, hreached, rfl, hn⟩ := h
  have hanswer : answerScan (table, kwargs) t' = (.ok ⟨some (t'.scanned.next rest).1,
      some (t'.scanned.next rest).1.length, (t'.scanned.next rest).2⟩, t') := by
    have hnot : ¬ kwargs.select = some "COUNT" := by
      rw [show kwargs.select = none from hselect]
      simp
    rw [answerScan, if_neg hnot, hreached.respond]
  rw [collect, scan, Coro.wpIn_bind, wpIn_command_of, hanswer]
  cases rest with
  | nil =>
    -- The last page: nothing is left.
    refine ⟨rfl, [], ?_, .inl rfl⟩
    rw [List.append_nil, Pages.items, hreached.split, List.append_nil]
    rfl
  | cons page rest =>
    have hdone : ((done ++ [page]).map Prod.fst).flatten = (done.map Prod.fst).flatten ++ page.1 := by
      simp
    change Coro.wpIn scannedTable (if needed ≤ ((done.map Prod.fst).flatten ++ page.1).length
      then _ else _) _ E t'
    by_cases hneeded : needed ≤ ((done.map Prod.fst).flatten ++ page.1).length
    · rw [if_pos hneeded]
      refine ⟨rfl, (rest.map Prod.fst).flatten ++ t'.scanned.last, ?_, .inr hneeded⟩
      rw [Pages.items, hreached.split]
      simp [Pages.next]
    · rw [if_neg hneeded]
      refine ⟨rest.length, ?_, rfl, hselect, done ++ [page], rest, hreached.next, hdone.symm, rfl⟩
      simp only [List.length_cons] at hn
      omega

/-- **The first loop**: it ends, with all items or with as many as are needed. -/
theorem collect_items {fuel : ℕ} (hfuel : t.scanned.init.length < fuel) (needed : ℤ) :
    (Coro.whileTrue (collect table needed) fuel ([], {})).wpIn scannedTable
      (fun o t' => ∃ items, o = some items ∧ Collected t needed items t') E t :=
  Coro.wpIn_whileTrue (fun _ _ _ h => wpIn_collect t table h) hfuel
    ⟨rfl, rfl, [], t.scanned.init, t.scanned.reached_start, rfl, rfl⟩

/-- The second loop has counted the items of the pages that it has been given. -/
def Counting (n : ℕ) (s : ℕ × ScanKwargs K) (t' : Table V K) : Prop :=
  t' = t ∧ s.2.select = some "COUNT" ∧ ∃ done rest,
    t.counted.Reached s.2.exclusiveStartKey done rest ∧
    s.1 = (done.map Prod.fst).flatten.length ∧ rest.length = n

theorem wpIn_countItems {n : ℕ} {s : ℕ × ScanKwargs K} {t' : Table V K} (h : Counting t n s t') :
    (countItems table s).wpIn scannedTable
      (Coro.Round (Counting t) (fun count t' => t' = t ∧ count = t.scanned.items.length) n) E
      t' := by
  obtain ⟨count, kwargs⟩ := s
  obtain ⟨rfl, hselect, done, rest, hreached, rfl, hn⟩ := h
  have hanswer : answerScan (table, kwargs) t' = (.ok ⟨none,
      some (t'.counted.next rest).1.length, (t'.counted.next rest).2⟩, t') := by
    rw [answerScan, if_pos hselect, hreached.respond]
  rw [countItems, scan, Coro.wpIn_bind, wpIn_command_of, hanswer]
  cases rest with
  | nil =>
    refine ⟨rfl, ?_⟩
    rw [← t'.same, Pages.items, hreached.split, List.append_nil, List.length_append]
    rfl
  | cons page rest =>
    refine ⟨rest.length, ?_, rfl, hselect, done ++ [page], rest, hreached.next, ?_, rfl⟩
    · simp only [List.length_cons] at hn
      omega
    · simp [Pages.next]

/-- **The second loop**: it ends with the number of all items. -/
theorem countItems_count {fuel : ℕ} (hfuel : t.counted.init.length < fuel) :
    (Coro.whileTrue (countItems table) fuel (0, { select := some "COUNT" })).wpIn scannedTable
      (fun o t' => ∃ count, o = some count ∧ t' = t ∧ count = t.scanned.items.length) E t :=
  Coro.wpIn_whileTrue (fun _ _ _ h => wpIn_countItems t table h) hfuel
    ⟨rfl, rfl, [], t.counted.init, t.counted.reached_start, rfl, rfl⟩

end Loops

/-! ### The operation on the table -/

/-- The early exit loses no item of the slice. -/
theorem slice_collected {α : Type} {items rest : List α} {limit offset : ℕ}
    (h : rest = [] ∨ ((offset + limit : ℕ) : ℤ) ≤ items.length) :
    slice items offset (offset + limit) = ((items ++ rest).drop offset).take limit := by
  rw [slice_natCast]
  obtain rfl | h := h
  · rw [List.append_nil]
  · have hlimit : limit ≤ (items.drop offset).length := by
      rw [List.length_drop]
      omega
    rw [List.drop_append_of_le_length (by omega), List.take_append_of_le_length hlimit]

theorem wpIn_list (settings : DynamoDBSettings) (mapping : Mapping V T) (t : Table V K)
    (limit offset : ℕ) {fuel : ℕ} (hscanned : t.scanned.init.length < fuel)
    (hcounted : t.counted.init.length < fuel) :
    (list settings mapping fuel limit offset).wpIn scannedTable
      (fun r t' => r = some (((t.scanned.items.drop offset).take limit).map mapping.rowToEntity,
        t.scanned.items.length) ∧ t' = t) (fun _ _ => False) t := by
  refine Coro.wpIn_bind.mpr ((connects_connected _).wpIn_getClient rfl fun table => ?_)
  refine Coro.wpIn_bind.mpr (wpIn_tryExcept.mpr (Coro.wpIn_bind.mpr ?_))
  refine Coro.wpIn_mono ?_ (fun _ _ hx => hx) (collect_items t table hscanned _)
  rintro _ _ ⟨items, rfl, rfl, rest, hitems, hneeded⟩
  refine Coro.wpIn_bind.mpr (Coro.wpIn_mono ?_ (fun _ _ hx => hx) (countItems_count _ table hcounted))
  rintro _ _ ⟨count, rfl, rfl, rfl⟩
  refine ⟨?_, rfl⟩
  rw [← Int.natCast_add] at hneeded
  simp only [Option.map_some, slice_collected hneeded, hitems]

/-- **Paging**: with fuel enough, `list(limit, offset)` returns the items of the slice and the
number of all items, whatever the pages are. -/
theorem list_slices (settings : DynamoDBSettings) (mapping : Mapping V T) (t : Table V K)
    (limit offset : ℕ) :
    ∃ rounds, ∀ fuel > rounds,
      (list settings mapping fuel limit offset).Returns scannedTable t
        (some (((t.scanned.items.drop offset).take limit).map mapping.rowToEntity,
          t.scanned.items.length)) t :=
  ⟨max t.scanned.init.length t.counted.init.length, fun _ hfuel =>
    returns_of_wpIn (fun _ _ => ⟨_, _, rfl⟩)
      (wpIn_list settings mapping t limit offset (by omega) (by omega))⟩

end OpenframeAdapters.Db.Dynamodb
