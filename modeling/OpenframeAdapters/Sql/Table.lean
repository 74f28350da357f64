import OpenframeAdapters.Sql.Reader
import OpenframeAdapters.Store.Keyed

/-!
# Tables

What a server does to one table, whose rows are told apart by one column.

## The model

* `Query` — a statement, a page of the rows in the order of a column, or the number of the rows.
  `readQuery` is what a text with its values means.
* `Schema` — what a server decides by itself: what a value is equal to, which values it takes, and what
  it makes of them. The ids come from the statements.
* `Schema.exec` — what a statement does to the rows, and the rows it is about.
* `pageOf` — the rows of a page.

## What is proved

* `lex_append` — a text is read from any place where no word goes on.
* `readQuery_pageText`, `readQuery_countText` — the two texts that are about all rows.
* `exec_insert_new`, …, `exec_select` — what each statement does.
-/

namespace OpenframeAdapters.Sql

open Store (Keyed)

variable {P K S : Type}

/-! ### Texts that are about all rows -/

/-- What a text means. -/
inductive Query (P : Type) where
  /-- A statement. -/
  | stmt (s : Stmt P)
  /-- The rows in the order of a column, up to a limit, without the first ones. -/
  | page (table column : String) (limit offset : P)
  /-- The number of the rows. -/
  | count (table : String)

section Read

variable (style : Style)

/-- `SELECT * FROM … ORDER BY … LIMIT … OFFSET …`. -/
def readPage (vs : List P) : List Token → Option (Query P)
  | [.word kw₁, .symbol '*', .word kw₂, .word table, .word kw₃, .word kw₄, .word a, .word kw₅,
      .symbol c, .word w, .word kw₆, .symbol c', .word w'] =>
    if [kw₁, kw₂, kw₃, kw₄, kw₅, kw₆] =
        ["SELECT", "FROM", "ORDER", "BY", "LIMIT", "OFFSET"].map String.toList then
      match style.mark c w, style.mark c' w' with
      | some m, some m' =>
        match bindAll [m, m'] vs with
        | some [limit, offset] =>
          some (.page (String.ofList table) (String.ofList a) limit offset)
        | _ => none
      | _, _ => none
    else none
  | _ => none

/-- `SELECT COUNT(*) FROM …`. -/
def readCount (vs : List P) : List Token → Option (Query P)
  | [.word kw₁, .word kw₂, .symbol '(', .symbol '*', .symbol ')', .word kw₃, .word table] =>
    if [kw₁, kw₂, kw₃] = ["SELECT", "COUNT", "FROM"].map String.toList ∧ vs.isEmpty then
      some (.count (String.ofList table))
    else none
  | _ => none

/-- What a text means with these values. -/
def readQuery (text : String) (vs : List P) : Option (Query P) :=
  match read style text vs with
  | some s => some (.stmt s)
  | none => (readPage style vs (lex text.toList)).or (readCount vs (lex text.toList))

/-- The statement returns the rows that it has changed. -/
def returns (text : String) : Bool :=
  [.word "RETURNING".toList, .symbol '*'].isSuffixOf (lex text.toList)

/-- A page of the rows. -/
def pageText (table a : String) : String :=
  let first := style.placeholder 0
  let second := style.placeholder 1
  s!"SELECT * FROM {table} ORDER BY {a} LIMIT {first} OFFSET {second}"

/-- The number of the rows. -/
def countText (table : String) : String := s!"SELECT COUNT(*) FROM {table}"

end Read

section Texts

variable {style : Style} {table a : String}

theorem push_append (c : Char) (w : List Char) (ts rest : List Token) :
    push c (w, ts ++ rest) = ((push c (w, ts)).1, (push c (w, ts)).2 ++ rest) := by
  unfold push
  by_cases hword : wordChar c = true
  · simp [hword]
  · have hflush : flush (w, ts ++ rest) = flush (w, ts) ++ rest := by cases w <;> rfl
    rw [if_neg hword, if_neg hword]
    by_cases hblank : c = ' '
    · simp [hblank, hflush]
    · simp [hblank, hflush]

/-- **Reading goes on** at any place where no word does. -/
theorem lex_append (as : List Char) {cs : List Char} (hcs : Clear cs) :
    lex (as ++ cs) = lex as ++ lex cs := by
  have hstate : lexState (as ++ cs) = ((lexState as).1, (lexState as).2 ++ lex cs) := by
    have hrest : lexState cs = ([], lex cs) := by
      have hclear : (lexState cs).1 = [] := hcs
      have hlex : lex cs = (lexState cs).2 := by
        rw [lex, show lexState cs = ([], (lexState cs).2) from Prod.ext hclear rfl]
        rfl
      rw [hlex]
      exact Prod.ext hclear rfl
    induction as with
    | nil => exact hrest
    | cons c as ih =>
      change push c (lexState (as ++ cs)) = _
      rw [ih, push_append]
      rfl
  change flush (lexState (as ++ cs)) = flush (lexState as) ++ lex cs
  rw [hstate]
  obtain ⟨w, ts⟩ := lexState as
  cases w <;> rfl

theorem returns_append (text : String) : returns (text ++ " RETURNING *") = true := by
  have hclear : Clear " RETURNING *".toList := rfl
  have hlast : lex " RETURNING *".toList = [.word "RETURNING".toList, .symbol '*'] := rfl
  rw [returns, String.toList_append, lex_append _ hclear, hlast, List.isSuffixOf_iff_suffix]
  exact List.suffix_append ..

theorem returns_insertText (columns : List String) :
    returns (insertText style table columns " RETURNING *") = true := returns_append _

theorem returns_updateText (columns : List String) :
    returns (updateText style table columns a " RETURNING *") = true := returns_append _

theorem readQuery_stmt {text : String} {vs : List P} {s : Stmt P} (h : read style text vs = some s) :
    readQuery style text vs = some (.stmt s) := by
  rw [readQuery, h]

/-- **A page**: the limit and the offset get the values in this order. -/
theorem readQuery_pageText (ht : IsWord table) (ha : IsWord a) (limit offset : P) :
    readQuery style (pageText style table a) [limit, offset] = some (.page table a limit offset) := by
  have htext : (pageText style table a).toList = "SELECT * FROM ".toList ++ (table.toList ++
      (" ORDER BY ".toList ++ (a.toList ++ (" LIMIT ".toList ++ ((style.placeholder 0).toList ++
        (" OFFSET ".toList ++ ((style.placeholder 1).toList ++ []))))))) := by
    unfold pageText
    simp only [toString_self, String.toList_append, List.append_assoc, List.append_nil]
  have hselect : ∀ cs, lex ("SELECT * FROM ".toList ++ cs) =
      .word "SELECT".toList :: .symbol '*' :: .word "FROM".toList :: lex cs := fun _ => rfl
  have htable : ∀ cs, lex (table.toList ++ (" ORDER BY ".toList ++ cs)) =
      .word table.toList :: .word "ORDER".toList :: .word "BY".toList :: lex cs :=
    fun _ => lex_word ht rfl
  have hcolumn : ∀ cs, lex (a.toList ++ (" LIMIT ".toList ++ cs)) =
      .word a.toList :: .word "LIMIT".toList :: lex cs := fun _ => lex_word ha rfl
  have hlimit : ∀ cs, lex ((style.placeholder 0).toList ++ (" OFFSET ".toList ++ cs)) =
      .symbol style.sigil :: .word (style.body 0) :: .word "OFFSET".toList :: lex cs :=
    fun _ => lex_placeholder 0 rfl
  have hlex : lex (pageText style table a).toList =
      [.word "SELECT".toList, .symbol '*', .word "FROM".toList, .word table.toList,
        .word "ORDER".toList, .word "BY".toList, .word a.toList, .word "LIMIT".toList,
        .symbol style.sigil, .word (style.body 0), .word "OFFSET".toList, .symbol style.sigil,
        .word (style.body 1)] := by
    rw [htext, hselect, htable, hcolumn, hlimit, lex_placeholder 1 clear_nil]
    rfl
  have hread : read style (pageText style table a) [limit, offset] = none := by
    have hverb : "SELECT".toList ≠ "INSERT".toList ∧ "SELECT".toList ≠ "UPDATE".toList ∧
        "SELECT".toList ≠ "DELETE".toList := by decide
    rw [read, hlex]
    simp only [if_neg hverb.1, if_neg hverb.2.1, if_neg hverb.2.2, if_true]
    rfl
  have hbind : bindAll [style.markAt 0, style.markAt 1] [limit, offset] = some [limit, offset] :=
    bindAll_markAt style [limit, offset]
  rw [readQuery, hread, hlex]
  simp [readPage, hbind]

/-- **The number of the rows**. -/
theorem readQuery_countText (ht : IsWord table) :
    readQuery style (countText table) ([] : List P) = some (.count table) := by
  have htext : (countText table).toList = "SELECT COUNT(*) FROM ".toList ++ (table.toList ++ []) := by
    unfold countText
    simp only [toString_self, String.toList_append, List.append_nil]
  have hlex : lex (countText table).toList = [.word "SELECT".toList, .word "COUNT".toList,
      .symbol '(', .symbol '*', .symbol ')', .word "FROM".toList, .word table.toList] := by
    have hcount : ∀ cs, lex ("SELECT COUNT(*) FROM ".toList ++ cs) =
        .word "SELECT".toList :: .word "COUNT".toList :: .symbol '(' :: .symbol '*' :: .symbol ')' ::
          .word "FROM".toList :: lex cs := fun _ => rfl
    rw [htext, hcount, lex_word ht clear_nil]
    rfl
  have hread : read style (countText table) ([] : List P) = none := by
    have hverb : "SELECT".toList ≠ "INSERT".toList ∧ "SELECT".toList ≠ "UPDATE".toList ∧
        "SELECT".toList ≠ "DELETE".toList := by decide
    rw [read, hlex]
    simp only [if_neg hverb.1, if_neg hverb.2.1, if_neg hverb.2.2, if_true]
    rfl
  rw [readQuery, hread, hlex]
  simp [readPage, readCount]

end Texts

/-! ### Rows -/

/-- What a server decides by itself. -/
structure Schema (P K S : Type) where
  /-- The table. -/
  name : String
  /-- The column that tells its rows apart. -/
  idColumn : String
  /-- The id that a value is equal to. `NULL` is equal to none. -/
  key : P → Option K
  /-- A value as a number of rows. -/
  number : P → Option ℕ
  /-- The table has these columns, and they take these values. -/
  fits : List (String × P) → Bool
  /-- What a new row holds besides its id. -/
  make : List (String × P) → S
  /-- What a row holds after columns have been set. -/
  assign : List (String × P) → S → S

/-- Why a statement fails. -/
inductive Fault where
  /-- There is already a row with the id. -/
  | taken
  /-- Anything else that is wrong with it. -/
  | unfit
  deriving DecidableEq

/-- The rows of a page, in the order of their ids. -/
def pageOf [LinearOrder K] (limit offset : ℕ) (m : Keyed K S) : List (K × S) :=
  ((m.sortedKeys.drop offset).take limit).filterMap fun k => (m.lookup k).map fun s => (k, s)

namespace Schema

variable [DecidableEq K] (T : Schema P K S)

/-- The id of a new row. -/
def idOf (columns : List (String × P)) : Option K := (columns.lookup T.idColumn).bind T.key

/-- The row whose id is equal to a value. -/
def row (m : Keyed K S) (v : P) : Option (K × S) :=
  (T.key v).bind fun k => (m.lookup k).map fun s => (k, s)

/-- What a statement does, and the rows that it is about, as they are afterwards or were at last. -/
def exec : Stmt P → Keyed K S → Except Fault (List (K × S)) × Keyed K S
  | .insert table columns, m =>
    if table = T.name ∧ T.fits columns then
      match T.idOf columns with
      | some k =>
        if k ∈ m then (.error .taken, m)
        else (.ok [(k, T.make columns)], m.insert k (T.make columns))
      | none => (.error .unfit, m)
    else (.error .unfit, m)
  | .update table sets (a, v), m =>
    if table = T.name ∧ a = T.idColumn ∧ T.fits sets ∧ T.idColumn ∉ sets.map Prod.fst then
      match T.row m v with
      | some (k, s) => (.ok [(k, T.assign sets s)], m.insert k (T.assign sets s))
      | none => (.ok [], m)
    else (.error .unfit, m)
  | .delete table (a, v), m =>
    if table = T.name ∧ a = T.idColumn then
      match T.row m v with
      | some (k, s) => (.ok [(k, s)], m.erase k)
      | none => (.ok [], m)
    else (.error .unfit, m)
  | .select table (a, v) limit, m =>
    if table = T.name ∧ a = T.idColumn then
      (.ok ((T.row m v).toList.take (limit.getD 1)), m)
    else (.error .unfit, m)

variable {T} {m : Keyed K S} {columns sets : List (String × P)} {k : K} {s : S} {v : P}

theorem row_of_key (hk : T.key v = some k) : T.row m v = (m.lookup k).map fun s => (k, s) := by
  rw [row, hk, Option.bind_some]

theorem exec_insert_new (hfits : T.fits columns = true) (hk : T.idOf columns = some k)
    (hm : m.lookup k = none) : T.exec (.insert T.name columns) m =
      (.ok [(k, T.make columns)], m.insert k (T.make columns)) := by
  have hnew : k ∉ m := Finmap.lookup_eq_none.mp hm
  simp [exec, hfits, hk, hnew]

theorem exec_insert_taken (hfits : T.fits columns = true) (hk : T.idOf columns = some k)
    (hm : m.lookup k = some s) : T.exec (.insert T.name columns) m = (.error .taken, m) := by
  have hmem : k ∈ m := Finmap.mem_of_lookup_eq_some hm
  simp [exec, hfits, hk, hmem]

theorem exec_update_some (hfits : T.fits sets = true) (hid : T.idColumn ∉ sets.map Prod.fst)
    (hk : T.key v = some k) (hm : m.lookup k = some s) :
    T.exec (.update T.name sets (T.idColumn, v)) m =
      (.ok [(k, T.assign sets s)], m.insert k (T.assign sets s)) := by
  have hrow : T.row m v = some (k, s) := by simp [row_of_key hk, hm]
  dsimp only [exec]
  rw [if_pos ⟨rfl, rfl, hfits, hid⟩, hrow]

theorem exec_update_none (hfits : T.fits sets = true) (hid : T.idColumn ∉ sets.map Prod.fst)
    (hk : T.key v = some k) (hm : m.lookup k = none) :
    T.exec (.update T.name sets (T.idColumn, v)) m = (.ok [], m) := by
  have hrow : T.row m v = none := by simp [row_of_key hk, hm]
  dsimp only [exec]
  rw [if_pos ⟨rfl, rfl, hfits, hid⟩, hrow]

theorem exec_delete_some (hk : T.key v = some k) (hm : m.lookup k = some s) :
    T.exec (.delete T.name (T.idColumn, v)) m = (.ok [(k, s)], m.erase k) := by
  have hrow : T.row m v = some (k, s) := by simp [row_of_key hk, hm]
  dsimp only [exec]
  rw [if_pos ⟨rfl, rfl⟩, hrow]

theorem exec_delete_none (hk : T.key v = some k) (hm : m.lookup k = none) :
    T.exec (.delete T.name (T.idColumn, v)) m = (.ok [], m) := by
  have hrow : T.row m v = none := by simp [row_of_key hk, hm]
  dsimp only [exec]
  rw [if_pos ⟨rfl, rfl⟩, hrow]

/-- A row is found by its id. -/
theorem exec_select (hk : T.key v = some k) :
    T.exec (.select T.name (T.idColumn, v) (some 1)) m =
      (.ok ((m.lookup k).map fun s => (k, s)).toList, m) := by
  rw [← row_of_key hk]
  have htake : (T.row m v).toList.take ((some 1).getD 1) = (T.row m v).toList := by
    cases T.row m v <;> rfl
  dsimp only [exec]
  rw [if_pos ⟨rfl, rfl⟩, htake]

end Schema

end OpenframeAdapters.Sql
