import Mathlib.Data.List.Basic
import Mathlib.Data.Nat.Notation

/-!
# Reading SQL statements

A statement is a text with placeholders, and a list of values that goes with it. What it means
depends on both, and on how the placeholders of the dialect name the values. This module reads the
statements that address one row of one table.

## The model

* `lex` — the text as words and symbols. A word is a maximal run of letters, digits, `_` and `.`,
  so a table may be qualified; blanks separate and are dropped.
* `Style` — the three ways to write a placeholder: `$n`, `:n` and `%s`. The first two name a value
  by its place in the list, and a `%s` stands for the value at its own place.
* `Stmt` — what a statement means, with the values in the places of the placeholders.
* `read` — the meaning of a text and its values. A statement with more or fewer placeholders than
  values has none.

## What is proved

* `lex_word`, `lex_commas` — the lexer on texts that are put together from words.
* `names_commas`, `marks_commas`, `sets_commas` — the lists of a statement read back.
* `bindAll_next`, `bindAll_nth` — the two ways of binding give the list of values itself.
-/

namespace OpenframeAdapters.Sql

/-! ### Words and symbols -/

/-- A token. -/
inductive Token where
  /-- A name, a keyword or a number. -/
  | word (w : List Char)
  /-- Any other character. -/
  | symbol (c : Char)
  deriving DecidableEq

/-- The characters of words. -/
def wordChar (c : Char) : Bool := c.isAlphanum || c = '_' || c = '.'

/-- The word that has been collected goes in front of the tokens. -/
def flush : List Char × List Token → List Token
  | ([], ts) => ts
  | (w, ts) => .word w :: ts

/-- One more character, from the right. -/
def push (c : Char) (s : List Char × List Token) : List Char × List Token :=
  if wordChar c then (c :: s.1, s.2)
  else ([], if c = ' ' then flush s else .symbol c :: flush s)

/-- The lexer, from the right: the word that the text begins with, and the tokens after it. -/
def lexState (cs : List Char) : List Char × List Token := cs.foldr push ([], [])

/-- The tokens of a text. -/
def lex (cs : List Char) : List Token := flush (lexState cs)

/-- The text does not begin with a character of a word. -/
def Clear (cs : List Char) : Prop := (lexState cs).1 = []

/-- A word, as a name has to be. -/
structure IsWord (s : String) : Prop where
  /-- It is not empty. -/
  ne_nil : s.toList ≠ []
  /-- It has no other characters. -/
  chars : ∀ c ∈ s.toList, wordChar c = true

theorem clear_nil : Clear [] := rfl

theorem lexState_append (w cs : List Char) (hw : ∀ c ∈ w, wordChar c = true) :
    lexState (w ++ cs) = (w ++ (lexState cs).1, (lexState cs).2) := by
  induction w with
  | nil => rfl
  | cons c w ih =>
    have ih := ih fun d hd => hw d (List.mem_cons_of_mem c hd)
    change push c (lexState (w ++ cs)) = _
    rw [ih, push, if_pos (hw c (List.mem_cons_self ..))]
    rfl

/-- A word is read up to the next character that is not of a word. -/
theorem lex_chars {w cs : List Char} (hne : w ≠ []) (hw : ∀ c ∈ w, wordChar c = true)
    (hcs : Clear cs) : lex (w ++ cs) = .word w :: lex cs := by
  have hstate := lexState_append w cs hw
  rw [hcs, List.append_nil] at hstate
  have hlex : lex cs = (lexState cs).2 := by
    rw [lex, show lexState cs = ([], (lexState cs).2) from Prod.ext hcs rfl]
    rfl
  rw [lex, hstate, hlex]
  cases w with
  | nil => exact absurd rfl hne
  | cons c w => rfl

theorem lex_word {s : String} {cs : List Char} (h : IsWord s) (hcs : Clear cs) :
    lex (s.toList ++ cs) = .word s.toList :: lex cs :=
  lex_chars h.ne_nil h.chars hcs

/-- A list whose items are read one by one, with `", "` between them. -/
theorem lex_commas {α : Type} {text : α → List Char} {tokens : α → List Token} {xs : List α}
    (h : ∀ x ∈ xs, ∀ cs, Clear cs → lex (text x ++ cs) = tokens x ++ lex cs) {cs : List Char}
    (hcs : Clear cs) : lex ([',', ' '].intercalate (xs.map text) ++ cs) =
      [.symbol ','].intercalate (xs.map tokens) ++ lex cs := by
  induction xs with
  | nil => rfl
  | cons x xs ih =>
    have hx := h x (List.mem_cons_self ..)
    have ih := ih fun y hy => h y (List.mem_cons_of_mem x hy)
    cases xs with
    | nil => simpa using hx cs hcs
    | cons y ys =>
      simp only [List.map_cons, List.intercalate_cons_cons, List.append_assoc] at ih ⊢
      refine (hx ([',', ' '] ++ _) rfl).trans (congrArg _ ?_)
      exact congrArg (List.cons (Token.symbol ',')) ih

theorem isWord_iff {s : String} :
    IsWord s ↔ s.toList ≠ [] ∧ s.toList.all wordChar = true :=
  ⟨fun h => ⟨h.1, List.all_eq_true.mpr h.2⟩, fun h => ⟨h.1, List.all_eq_true.mp h.2⟩⟩

instance (s : String) : Decidable (IsWord s) := decidable_of_iff _ isWord_iff.symm

/-! ### Placeholders -/

/-- How placeholders are written. -/
inductive Style where
  /-- `$1`, `$2`, … -/
  | dollar
  /-- `:1`, `:2`, … -/
  | colon
  /-- `%s`. -/
  | percent

/-- Which value a placeholder stands for. -/
inductive Mark where
  /-- The value at its own place among the placeholders. -/
  | next
  /-- The `n`-th value, counted from `1`. -/
  | nth (n : ℕ)
  deriving DecidableEq

/-- What a placeholder begins with. -/
def Style.sigil : Style → Char
  | .dollar => '$'
  | .colon => ':'
  | .percent => '%'

/-- A number. -/
def number (w : List Char) : Option ℕ :=
  if w ≠ [] ∧ w.all Char.isDigit then some (Nat.ofDigitChars 10 w 0) else none

/-- A placeholder. -/
def Style.mark (style : Style) (c : Char) (w : List Char) : Option Mark :=
  if c = style.sigil then
    match style with
    | .percent => if w = ['s'] then some .next else none
    | .dollar | .colon => (number w).map .nth
  else none

/-- The values of the placeholders, where there are as many of the one as of the other. -/
def bindAll {P : Type} (ms : List Mark) (vs : List P) : Option (List P) :=
  if ms.length = vs.length then
    (ms.zip vs).mapM fun
      | (.next, v) => some v
      | (.nth 0, _) => none
      | (.nth (n + 1), _) => vs[n]?
  else none

/-- The mark that the placeholder at a place has to be. -/
def Style.markAt (style : Style) (i : ℕ) : Mark :=
  match style with
  | .percent => .next
  | .dollar | .colon => .nth (i + 1)

section Bind

variable {P : Type}

theorem mapM_some {α β : Type} {f : α → Option β} {g : α → β} {xs : List α}
    (h : ∀ x ∈ xs, f x = some (g x)) : xs.mapM f = some (xs.map g) := by
  induction xs with
  | nil => rfl
  | cons x xs ih =>
    rw [List.mapM_cons, h x (List.mem_cons_self ..), ih fun y hy => h y (List.mem_cons_of_mem x hy)]
    rfl

/-- Placeholders in order stand for the values in order. -/
theorem bindAll_markAt (style : Style) (vs : List P) :
    bindAll ((List.range vs.length).map style.markAt) vs = some vs := by
  have hzip : ((List.range vs.length).map style.markAt).zip vs =
      vs.zipIdx.map fun p => (style.markAt p.2, p.1) := by
    refine List.ext_getElem (by simp) fun i hi hi' => ?_
    simp
  rw [bindAll, if_pos (by simp), hzip, List.mapM_map]
  refine (mapM_some (g := Prod.fst) fun p hp => ?_).trans (by simp)
  have hv := List.mem_zipIdx_iff_getElem?.mp hp
  cases style <;> simp [Style.markAt, hv]

end Bind

/-! ### Statements -/

/-- What a statement means, for values `P`. -/
inductive Stmt (P : Type) where
  /-- A row is added, with a value for each column. -/
  | insert (table : String) (row : List (String × P))
  /-- Columns are set in the rows that have a value in one column. -/
  | update (table : String) (sets : List (String × P)) (key : String × P)
  /-- The rows that have a value in one column are removed. -/
  | delete (table : String) (key : String × P)
  /-- The rows that have a value in one column are read, up to a certain number of them. -/
  | select (table : String) (key : String × P) (limit : Option ℕ)
  deriving DecidableEq

section Read

variable (style : Style)

/-- `a, b, …)`. -/
def names : List Token → Option (List String × List Token)
  | .word w :: .symbol ',' :: ts => (names ts).map fun p => (String.ofList w :: p.1, p.2)
  | .word w :: .symbol ')' :: ts => some ([String.ofList w], ts)
  | _ => none

/-- Placeholders, up to a closing parenthesis. -/
def marks : List Token → Option (List Mark × List Token)
  | .symbol c :: .word w :: .symbol ',' :: ts =>
    (style.mark c w).bind fun m => (marks ts).map fun p => (m :: p.1, p.2)
  | .symbol c :: .word w :: .symbol ')' :: ts => (style.mark c w).map fun m => ([m], ts)
  | _ => none

/-- `a = …, b = …`. -/
def sets : List Token → Option (List (String × Mark) × List Token)
  | .word a :: .symbol '=' :: .symbol c :: .word w :: .symbol ',' :: ts =>
    (style.mark c w).bind fun m => (sets ts).map fun p => ((String.ofList a, m) :: p.1, p.2)
  | .word a :: .symbol '=' :: .symbol c :: .word w :: ts =>
    (style.mark c w).map fun m => ([(String.ofList a, m)], ts)
  | _ => none

/-- `WHERE a = …`. -/
def key : List Token → Option ((String × Mark) × List Token)
  | .word kw :: .word a :: .symbol '=' :: .symbol c :: .word w :: ts =>
    if kw = "WHERE".toList then (style.mark c w).map fun m => ((String.ofList a, m), ts) else none
  | _ => none

/-- `RETURNING *`, which may be left out. -/
def returning (ts : List Token) : Bool := ts = [] ∨ ts = [.word "RETURNING".toList, .symbol '*']

/-- `LIMIT n`, which may be left out. -/
def limit : List Token → Option (Option ℕ)
  | [] => some none
  | [.word kw, .word n] => if kw = "LIMIT".toList then (number n).map some else none
  | _ => none

variable {P : Type}

/-- After `INSERT`. -/
def readInsert (vs : List P) : List Token → Option (Stmt P)
  | .word into :: .word table :: .symbol '(' :: ts =>
    match names ts with
    | some (columns, .word kw :: .symbol '(' :: ts) =>
      match marks style ts with
      | some (ms, ts) =>
        if into = "INTO".toList ∧ kw = "VALUES".toList ∧ columns.length = ms.length ∧
            returning ts then
          (bindAll ms vs).map fun vs => .insert (String.ofList table) (columns.zip vs)
        else none
      | none => none
    | _ => none
  | _ => none

/-- After `UPDATE`. -/
def readUpdate (vs : List P) : List Token → Option (Stmt P)
  | .word table :: .word kw :: ts =>
    match sets style ts with
    | some (cols, ts) =>
      match key style ts with
      | some ((a, m), ts) =>
        if kw = "SET".toList ∧ returning ts then
          (bindAll (cols.map Prod.snd ++ [m]) vs).bind fun vs => vs.getLast?.map fun v =>
            .update (String.ofList table) ((cols.map Prod.fst).zip vs) (a, v)
        else none
      | none => none
    | none => none
  | _ => none

/-- A statement with nothing but a key. -/
def readKey (vs : List P) (ts : List Token) : Option ((String × P) × List Token) :=
  match key style ts with
  | some ((a, m), ts) => (bindAll [m] vs).bind fun vs => vs.head?.map fun v => ((a, v), ts)
  | none => none

/-- After `DELETE`. -/
def readDelete (vs : List P) : List Token → Option (Stmt P)
  | .word kw :: .word table :: ts =>
    match readKey style vs ts with
    | some (k, []) => if kw = "FROM".toList then some (.delete (String.ofList table) k) else none
    | _ => none
  | _ => none

/-- After `SELECT`. -/
def readSelect (vs : List P) : List Token → Option (Stmt P)
  | .symbol '*' :: .word kw :: .word table :: ts =>
    match readKey style vs ts with
    | some (k, ts) =>
      if kw = "FROM".toList then (limit ts).map fun n => .select (String.ofList table) k n else none
    | none => none
  | _ => none

/-- What a text means with these values. -/
def read (text : String) (vs : List P) : Option (Stmt P) :=
  match lex text.toList with
  | .word verb :: ts =>
    if verb = "INSERT".toList then readInsert style vs ts
    else if verb = "UPDATE".toList then readUpdate style vs ts
    else if verb = "DELETE".toList then readDelete style vs ts
    else if verb = "SELECT".toList then readSelect style vs ts
    else none
  | _ => none

end Read

/-! ### Statements that are put together from names -/

section Text

variable (style : Style)

/-- What follows the first character of the placeholder at a place. -/
def Style.body (i : ℕ) : List Char :=
  match style with
  | .percent => ['s']
  | .dollar | .colon => Nat.toDigits 10 (i + 1)

/-- The placeholder at a place. -/
def Style.placeholder (i : ℕ) : String := String.ofList (style.sigil :: style.body i)

/-- `$1, $2, …`. -/
def Style.list (n : ℕ) : String := ", ".intercalate ((List.range n).map style.placeholder)

/-- `a = $1, b = $2, …`. -/
def Style.assignments (columns : List String) : String :=
  ", ".intercalate (columns.zipIdx.map fun p => s!"{p.1} = {style.placeholder p.2}")

/-- An `INSERT` with a placeholder for each column. -/
def insertText (table : String) (columns : List String) (tail : String) : String :=
  let names := ", ".intercalate columns
  s!"INSERT INTO {table} ({names}) VALUES ({style.list columns.length}){tail}"

/-- An `UPDATE` with a placeholder for each column, and one for the key. -/
def updateText (table : String) (columns : List String) (a tail : String) : String :=
  let last := style.placeholder columns.length
  s!"UPDATE {table} SET {style.assignments columns} WHERE {a} = {last}{tail}"

/-- A `DELETE` of the rows with a value in one column. -/
def deleteText (table a : String) : String :=
  s!"DELETE FROM {table} WHERE {a} = {style.placeholder 0}"

/-- A `SELECT` of the rows with a value in one column. -/
def selectText (table a tail : String) : String :=
  s!"SELECT * FROM {table} WHERE {a} = {style.placeholder 0}{tail}"

variable {style}

theorem number_toDigits (n : ℕ) : number (Nat.toDigits 10 n) = some n := by
  have hdigits : (Nat.toDigits 10 n).all Char.isDigit = true :=
    List.all_eq_true.mpr fun c hc => Nat.isDigit_of_mem_toDigits (by decide) (by decide) hc
  rw [number, if_pos ⟨Nat.toDigits_ne_nil, hdigits⟩, Nat.ofDigitChars_ten_toDigits]

@[simp] theorem mark_body (i : ℕ) : style.mark style.sigil (style.body i) = some (style.markAt i) := by
  cases style <;> simp [Style.mark, Style.body, Style.markAt, number_toDigits]

theorem body_chars (i : ℕ) : ∀ c ∈ style.body i, wordChar c = true := by
  have hdigits : ∀ c ∈ Nat.toDigits 10 (i + 1), wordChar c = true := by
    intro c hc
    have hdigit := Nat.isDigit_of_mem_toDigits (by decide) (by decide) hc
    simp [wordChar, Char.isAlphanum, hdigit]
  cases style
  · exact hdigits
  · exact hdigits
  · simp [Style.body, wordChar]

theorem body_ne_nil (i : ℕ) : style.body i ≠ [] := by
  cases style
  · exact Nat.toDigits_ne_nil
  · exact Nat.toDigits_ne_nil
  · exact List.cons_ne_nil _ _

/-- The tokens of a placeholder. -/
theorem lex_placeholder (i : ℕ) {cs : List Char} (hcs : Clear cs) :
    lex ((style.placeholder i).toList ++ cs) =
      .symbol style.sigil :: .word (style.body i) :: lex cs := by
  rw [Style.placeholder, String.toList_ofList, ← lex_chars (body_ne_nil i) (body_chars i) hcs]
  cases style <;> rfl

/-- The tokens of a list of names. -/
theorem lex_names {columns : List String} (hc : ∀ c ∈ columns, IsWord c) {cs : List Char}
    (hcs : Clear cs) : lex (", ".toList.intercalate (columns.map String.toList) ++ cs) =
      [.symbol ','].intercalate (columns.map fun c => [.word c.toList]) ++ lex cs :=
  lex_commas (fun c h _ hcs => lex_word (hc c h) hcs) hcs

/-- The tokens of a list of placeholders. -/
theorem lex_placeholders {places : List ℕ} {cs : List Char} (hcs : Clear cs) :
    lex (", ".toList.intercalate (places.map fun i => (style.placeholder i).toList) ++ cs) =
      [.symbol ','].intercalate
        (places.map fun i => [.symbol style.sigil, .word (style.body i)]) ++ lex cs :=
  lex_commas (fun i _ _ hcs => lex_placeholder i hcs) hcs

/-- The tokens of a list of assignments. -/
theorem lex_assignments {columns : List (String × ℕ)} (hc : ∀ p ∈ columns, IsWord p.1)
    {cs : List Char} (hcs : Clear cs) :
    lex (", ".toList.intercalate
        (columns.map fun p => p.1.toList ++ (" = ".toList ++ (style.placeholder p.2).toList)) ++ cs) =
      [.symbol ','].intercalate (columns.map fun p =>
        [.word p.1.toList, .symbol '=', .symbol style.sigil, .word (style.body p.2)]) ++ lex cs := by
  refine lex_commas (fun p h cs hcs => ?_) hcs
  have hname : ∀ ds, lex (p.1.toList ++ (" = ".toList ++ ds)) =
      .word p.1.toList :: .symbol '=' :: lex ds := fun _ => lex_word (hc p h) rfl
  rw [List.append_assoc, List.append_assoc, hname, lex_placeholder p.2 hcs]
  rfl

/-- The tokens of a key with its placeholder. -/
theorem lex_key {a : String} {i : ℕ} (ha : IsWord a) {cs : List Char} (hcs : Clear cs) :
    lex (a.toList ++ (" = ".toList ++ ((style.placeholder i).toList ++ cs))) =
      .word a.toList :: .symbol '=' :: .symbol style.sigil :: .word (style.body i) :: lex cs := by
  have hname : ∀ ds, lex (a.toList ++ (" = ".toList ++ ds)) =
      .word a.toList :: .symbol '=' :: lex ds := fun _ => lex_word ha rfl
  rw [hname, lex_placeholder i hcs]

/-- The tokens of a table and a key. -/
theorem lex_where {table a : String} {i : ℕ} (ht : IsWord table) (ha : IsWord a) {cs : List Char}
    (hcs : Clear cs) :
    lex (table.toList ++ (" WHERE ".toList ++
        (a.toList ++ (" = ".toList ++ ((style.placeholder i).toList ++ cs))))) =
      .word table.toList :: .word "WHERE".toList :: .word a.toList :: .symbol '=' ::
        .symbol style.sigil :: .word (style.body i) :: lex cs := by
  have htable : ∀ ds, lex (table.toList ++ (" WHERE ".toList ++ ds)) =
      .word table.toList :: .word "WHERE".toList :: lex ds := fun _ => lex_word ht rfl
  rw [htable, lex_key ha hcs]

/-- The columns of an `INSERT` read back. -/
theorem names_commas {columns : List String} (hne : columns ≠ []) (ts : List Token) :
    names ([.symbol ','].intercalate (columns.map fun c => [.word c.toList]) ++ .symbol ')' :: ts) =
      some (columns, ts) := by
  induction columns with
  | nil => exact absurd rfl hne
  | cons c cs ih =>
    cases cs with
    | nil => simp [names]
    | cons d ds =>
      have ih := ih (List.cons_ne_nil d ds)
      simp only [List.map_cons, List.intercalate_cons_cons, List.cons_append, List.nil_append,
        names] at ih ⊢
      rw [ih]
      simp

/-- The placeholders of an `INSERT` read back. -/
theorem marks_commas {places : List ℕ} (hne : places ≠ []) (ts : List Token) :
    marks style ([.symbol ','].intercalate
        (places.map fun i => [.symbol style.sigil, .word (style.body i)]) ++ .symbol ')' :: ts) =
      some (places.map style.markAt, ts) := by
  induction places with
  | nil => exact absurd rfl hne
  | cons i is ih =>
    cases is with
    | nil => simp [marks]
    | cons j js =>
      have ih := ih (List.cons_ne_nil j js)
      simp only [List.map_cons, List.intercalate_cons_cons, List.cons_append, List.nil_append,
        marks, mark_body, Option.bind_some] at ih ⊢
      rw [ih]
      simp

/-- The assignments of an `UPDATE` read back. -/
theorem sets_commas {columns : List (String × ℕ)} (hne : columns ≠ []) (w : List Char)
    (ts : List Token) :
    sets style ([.symbol ','].intercalate (columns.map fun p =>
        [.word p.1.toList, .symbol '=', .symbol style.sigil, .word (style.body p.2)]) ++
        .word w :: ts) =
      some (columns.map fun p => (p.1, style.markAt p.2), .word w :: ts) := by
  induction columns with
  | nil => exact absurd rfl hne
  | cons p ps ih =>
    cases ps with
    | nil => simp [sets]
    | cons q qs =>
      have ih := ih (List.cons_ne_nil q qs)
      simp only [List.map_cons, List.intercalate_cons_cons, List.cons_append, List.nil_append,
        sets, mark_body, Option.bind_some] at ih ⊢
      rw [ih]
      simp

/-- A string stands for itself between the parts of an interpolated string. -/
theorem toString_self (s : String) : toString s = s := rfl

variable {P : Type} {table a tail : String} {columns : List String} {vs : List P}

/-- **`INSERT`**: every column gets the value at its own place. -/
theorem read_insertText (ht : IsWord table) (hc : ∀ c ∈ columns, IsWord c) (hne : columns ≠ [])
    (htail : returning (lex tail.toList) = true) (hlen : vs.length = columns.length) :
    read style (insertText style table columns tail) vs =
      some (.insert table (columns.zip vs)) := by
  have htext : (insertText style table columns tail).toList =
      "INSERT INTO ".toList ++ (table.toList ++ (" (".toList ++
        (", ".toList.intercalate (columns.map String.toList) ++ (") VALUES (".toList ++
          (", ".toList.intercalate ((List.range columns.length).map fun i =>
            (style.placeholder i).toList) ++ (")".toList ++ tail.toList)))))) := by
    unfold insertText Style.list
    simp only [toString_self, String.toList_append, String.toList_intercalate,
      List.map_map, List.append_assoc]
    rfl
  have hinsert : ∀ cs, lex ("INSERT INTO ".toList ++ cs) =
      .word "INSERT".toList :: .word "INTO".toList :: lex cs := fun _ => rfl
  have htable : ∀ cs, lex (table.toList ++ (" (".toList ++ cs)) =
      .word table.toList :: .symbol '(' :: lex cs := fun _ => lex_word ht rfl
  have hnames : ∀ cs, lex (", ".toList.intercalate (columns.map String.toList) ++
      (") VALUES (".toList ++ cs)) =
      [.symbol ','].intercalate (columns.map fun c => [.word c.toList]) ++ .symbol ')' ::
        .word "VALUES".toList :: .symbol '(' :: lex cs := fun _ => lex_names hc rfl
  have hplaces : List.range columns.length ≠ [] := by simpa [List.range_eq_nil] using hne
  have hmarks : lex (", ".toList.intercalate ((List.range columns.length).map fun i =>
      (style.placeholder i).toList) ++ (")".toList ++ tail.toList)) =
      [.symbol ','].intercalate ((List.range columns.length).map fun i =>
        [.symbol style.sigil, .word (style.body i)]) ++ .symbol ')' :: lex tail.toList :=
    lex_placeholders rfl
  rw [read, htext, hinsert, htable, hnames, hmarks]
  simp only [if_true]
  rw [readInsert, names_commas hne]
  simp only [marks_commas hplaces, htail, List.length_map, List.length_range, and_self, if_true,
    String.ofList_toList]
  rw [← hlen, bindAll_markAt]
  rfl

/-- **`UPDATE`**: every column gets the value at its own place, and the key gets the last one. -/
theorem read_updateText (ht : IsWord table) (hc : ∀ c ∈ columns, IsWord c) (ha : IsWord a)
    (hne : columns ≠ []) (hclear : Clear tail.toList) (htail : returning (lex tail.toList) = true)
    {v : P} (hlen : vs.length = columns.length) :
    read style (updateText style table columns a tail) (vs ++ [v]) =
      some (.update table (columns.zip vs) (a, v)) := by
  have htext : (updateText style table columns a tail).toList =
      "UPDATE ".toList ++ (table.toList ++ (" SET ".toList ++
        (", ".toList.intercalate (columns.zipIdx.map fun p =>
          p.1.toList ++ (" = ".toList ++ (style.placeholder p.2).toList)) ++ (" WHERE ".toList ++
            (a.toList ++ (" = ".toList ++
              ((style.placeholder columns.length).toList ++ tail.toList))))))) := by
    unfold updateText Style.assignments
    simp only [toString_self, String.toList_append, String.toList_intercalate,
      List.map_map, List.append_assoc, Function.comp_def]
  have hupdate : ∀ cs, lex ("UPDATE ".toList ++ cs) = .word "UPDATE".toList :: lex cs :=
    fun _ => rfl
  have htable : ∀ cs, lex (table.toList ++ (" SET ".toList ++ cs)) =
      .word table.toList :: .word "SET".toList :: lex cs := fun _ => lex_word ht rfl
  have hcols : ∀ p ∈ columns.zipIdx, IsWord p.1 := fun p hp => hc _ (List.fst_mem_of_mem_zipIdx hp)
  have hsets : ∀ cs, lex (", ".toList.intercalate (columns.zipIdx.map fun p =>
      p.1.toList ++ (" = ".toList ++ (style.placeholder p.2).toList)) ++ (" WHERE ".toList ++ cs)) =
      [.symbol ','].intercalate (columns.zipIdx.map fun p =>
        [.word p.1.toList, .symbol '=', .symbol style.sigil, .word (style.body p.2)]) ++
        .word "WHERE".toList :: lex cs := fun _ => lex_assignments hcols rfl
  have hzip : columns.zipIdx ≠ [] := by simpa using hne
  have hmarks : (columns.zipIdx.map fun p => (p.1, style.markAt p.2)).map Prod.snd ++
      [style.markAt columns.length] = (List.range (vs ++ [v]).length).map style.markAt := by
    rw [List.length_append, hlen, List.length_singleton, List.range_succ, List.map_append,
      List.map_map]
    congr 1
    refine List.ext_getElem (by simp) fun i hi hi' => ?_
    simp
  have hnames : (columns.zipIdx.map fun p => (p.1, style.markAt p.2)).map Prod.fst = columns := by
    refine List.ext_getElem (by simp) fun i hi hi' => ?_
    simp
  rw [read, htext, hupdate, htable, hsets, lex_key ha hclear]
  have hverb : "UPDATE".toList ≠ "INSERT".toList := by decide
  simp only [if_neg hverb, if_true]
  rw [readUpdate, sets_commas hzip]
  simp only [key, mark_body, Option.map_some, if_true, htail, hmarks, bindAll_markAt, hnames,
    String.ofList_toList, and_self, Option.bind_some, List.getLast?_concat]
  have hvalues : (columns ++ []).zip (vs ++ [v]) = columns.zip vs ++ [].zip [v] :=
    List.zip_append hlen.symm
  rw [List.append_nil] at hvalues
  rw [hvalues, List.zip_nil_left, List.append_nil]

/-- A key with its placeholder, at the end of a statement. -/
theorem readKey_placeholder (v : P) (ts : List Token) :
    readKey style [v] (.word "WHERE".toList :: .word a.toList :: .symbol '=' ::
      .symbol style.sigil :: .word (style.body 0) :: ts) = some ((a, v), ts) := by
  have hbind : bindAll [style.markAt 0] [v] = some [v] := bindAll_markAt style [v]
  simp [readKey, key, hbind]

/-- **`DELETE`**. -/
theorem read_deleteText (ht : IsWord table) (ha : IsWord a) (v : P) :
    read style (deleteText style table a) [v] = some (.delete table (a, v)) := by
  have htext : (deleteText style table a).toList =
      "DELETE FROM ".toList ++ (table.toList ++ (" WHERE ".toList ++ (a.toList ++ (" = ".toList ++
        ((style.placeholder 0).toList ++ []))))) := by
    unfold deleteText
    simp only [toString_self, String.toList_append, List.append_assoc, List.append_nil]
  have hdelete : ∀ cs, lex ("DELETE FROM ".toList ++ cs) =
      .word "DELETE".toList :: .word "FROM".toList :: lex cs := fun _ => rfl
  rw [read, htext, hdelete, lex_where ht ha clear_nil]
  have hverb : "DELETE".toList ≠ "INSERT".toList ∧ "DELETE".toList ≠ "UPDATE".toList := by decide
  simp only [if_neg hverb.1, if_neg hverb.2, if_true]
  rw [readDelete, readKey_placeholder]
  simp [lex, lexState, flush]

/-- **`SELECT`**. -/
theorem read_selectText (ht : IsWord table) (ha : IsWord a) (hclear : Clear tail.toList) (v : P)
    {n : Option ℕ} (htail : limit (lex tail.toList) = some n) :
    read style (selectText style table a tail) [v] = some (.select table (a, v) n) := by
  have htext : (selectText style table a tail).toList =
      "SELECT * FROM ".toList ++ (table.toList ++ (" WHERE ".toList ++ (a.toList ++
        (" = ".toList ++ ((style.placeholder 0).toList ++ tail.toList))))) := by
    unfold selectText
    simp only [toString_self, String.toList_append, List.append_assoc]
  have hselect : ∀ cs, lex ("SELECT * FROM ".toList ++ cs) =
      .word "SELECT".toList :: .symbol '*' :: .word "FROM".toList :: lex cs := fun _ => rfl
  rw [read, htext, hselect, lex_where ht ha hclear]
  have hverb : "SELECT".toList ≠ "INSERT".toList ∧ "SELECT".toList ≠ "UPDATE".toList ∧
      "SELECT".toList ≠ "DELETE".toList := by decide
  simp only [if_neg hverb.1, if_neg hverb.2.1, if_neg hverb.2.2, if_true]
  rw [readSelect, readKey_placeholder]
  simp [htail]

end Text

end OpenframeAdapters.Sql
