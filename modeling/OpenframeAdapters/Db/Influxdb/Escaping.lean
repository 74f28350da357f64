import Mathlib.Data.Bool.AllAny
import OpenframeAdapters.Db.Influxdb.Repository
import OpenframeAdapters.Flux.Lexer
import OpenframeAdapters.Python.Text

/-!
# Ids in Flux and in delete predicates

`_flux_get_latest()` and `delete()` put the id into a literal, and a backslash before each quote in it.

## The model

* `latest` — the query that is built for an id. `Denotes` says what it has to be.
* `conditions` — what a delete predicate wants of the tags of a point.
* `Selects` — the predicate that is built for an id wants that id, and nothing else but the measurement.

## What is proved

* `escaped_iff` — the query and the predicate are right for exactly the ids without backslashes.
* `not_escaped` — an id that ends with a backslash.
-/

namespace OpenframeAdapters.Db.Influxdb

open Flux

section Escaping

variable (unescape : Char → Option Char) (settings : Settings) (src : Source)

/-- The query for an id. -/
def latest (id : List Char) : List Char := (fluxGetLatest settings src (String.ofList id)).toList

/-- A conjunction of comparisons; the measurement is the tag `_measurement`. -/
def conditions : List Token → Option (List (List Char × List Char))
  | [.word k, .symbol '=', .text v] => some [(k, v)]
  | .word k :: .symbol '=' :: .text v :: .word ['A', 'N', 'D'] :: rest =>
    (conditions rest).map fun more => (k, v) :: more
  | _ => none

/-- The predicate for an id compares the measurement and the id tag. -/
def Selects (id : String) : Prop :=
  (lex unescape (deletePredicate src id).toList).bind conditions =
    some [("_measurement".toList, src.measurement.toList), (src.idTag.toList, id.toList)]

/-- Names without quotes and backslashes, of which the tag is a word, and a duration. -/
structure Plain : Prop where
  /-- `_bucket`. -/
  bucket : ∀ c ∈ src.bucket.toList, c ≠ '"' ∧ c ≠ '\\'
  /-- `_measurement`. -/
  measurement : ∀ c ∈ src.measurement.toList, c ≠ '"' ∧ c ≠ '\\'
  /-- `_id_tag`. -/
  idTag : IsWord src.idTag.toList
  /-- `lookback`. -/
  lookback : '"' ∉ settings.lookback.toList

variable {unescape settings src}

theorem toList_escape (id : String) : (escape id).toList = escapeQuotes id.toList :=
  Python.toList_replace id "\\\"" '"'

/-! ### The query -/

/-- A string stands for itself between the parts of an interpolated string. -/
theorem toString_self (s : String) : toString s = s := rfl

/-- The query up to the literal. -/
def latestStart (settings : Settings) (src : Source) : List Char :=
  "from(bucket: ".toList ++ '"' :: (src.bucket.toList ++ '"' ::
    ((")\n".toList ++ ("  |> range(start: ".toList ++ (settings.lookback.toList ++ (")\n".toList ++
      ("  |> filter(fn: (r) => ".toList ++ "r._measurement == ".toList))))) ++
      '"' :: (src.measurement.toList ++ '"' ::
        (" and r[".toList ++ '"' :: (src.idTag.toList ++ '"' :: "] == ".toList)))))

/-- The query after the literal. -/
def latestRest : List Char :=
  (")\n".toList ++ "  |> pivot(rowKey: [".toList) ++ '"' :: ("_time".toList ++ '"' ::
    ("], columnKey: [".toList ++ '"' :: ("_field".toList ++ '"' ::
      ("], valueColumn: ".toList ++ '"' :: ("_value".toList ++ '"' ::
        ((")\n".toList ++ "  |> sort(columns: [".toList) ++ '"' :: ("_time".toList ++ '"' ::
          ("], desc: true)\n".toList ++ "  |> limit(n: 1)".toList))))))))

theorem latest_eq (id : List Char) : latest settings src id =
    (latestStart settings src ++ ['"']) ++ (escapeQuotes id ++ '"' :: latestRest) := by
  have hbucket : "from(bucket: \"".toList = "from(bucket: ".toList ++ ['"'] := rfl
  have hbucket' : "\")\n".toList = '"' :: ")\n".toList := rfl
  have hmeasurement : "r._measurement == \"".toList = "r._measurement == ".toList ++ ['"'] := rfl
  have htag : " and r[\"".toList = " and r[".toList ++ ['"'] := rfl
  have htag' : "\"] == \"".toList = '"' :: ("] == ".toList ++ ['"']) := rfl
  have hquote : "\"".toList = ['"'] := rfl
  have hpivot : "  |> pivot(rowKey: [\"_time\"], columnKey: [\"_field\"], valueColumn: \"_value\")\n".toList =
      "  |> pivot(rowKey: [".toList ++ '"' :: ("_time".toList ++ '"' ::
        ("], columnKey: [".toList ++ '"' :: ("_field".toList ++ '"' ::
          ("], valueColumn: ".toList ++ '"' :: ("_value".toList ++ '"' :: ")\n".toList))))) := rfl
  have hsort : "  |> sort(columns: [\"_time\"], desc: true)\n".toList =
      "  |> sort(columns: [".toList ++ '"' :: ("_time".toList ++ '"' :: "], desc: true)\n".toList) := rfl
  unfold latest fluxGetLatest filterClause
  simp only [toString_self, String.toList_append, toList_escape, String.toList_ofList]
  simp only [hbucket, hbucket', hmeasurement, htag, htag', hquote, hpivot, hsort]
  unfold latestStart latestRest
  simp only [List.append_assoc, List.cons_append, List.nil_append]

theorem not_quote_of_isWord {w : List Char} (hw : IsWord w) : ∀ c ∈ w, c ≠ '"' ∧ c ≠ '\\' := by
  intro c hc
  constructor
  · rintro rfl
    exact not_mem_of_wordChar hw.chars (by decide) hc
  · rintro rfl
    exact not_mem_of_wordChar hw.chars (by decide) hc

theorem balanced_latestStart (h : Plain settings src) : Balanced (latestStart settings src) := by
  have hrange : '"' ∉ ")\n".toList ++ ("  |> range(start: ".toList ++ (settings.lookback.toList ++
      (")\n".toList ++ ("  |> filter(fn: (r) => ".toList ++ "r._measurement == ".toList)))) := by
    simp only [List.mem_append, not_or]
    exact ⟨by decide, by decide, h.lookback, by decide, by decide, by decide⟩
  exact .literal (by decide) h.bucket (.literal hrange h.measurement
    (.literal (by decide) (not_quote_of_isWord h.idTag) (.code (by decide))))

theorem balanced_latestRest : Balanced latestRest := by
  have hname : ∀ s : String, (s.toList.all fun c => c ≠ '"' ∧ c ≠ '\\') = true →
      ∀ c ∈ s.toList, c ≠ '"' ∧ c ≠ '\\' := fun _ => List.all_iff_forall_prop.mp
  exact .literal (by decide) (hname "_time" (by decide)) (.literal (by decide)
    (hname "_field" (by decide)) (.literal (by decide) (hname "_value" (by decide))
      (.literal (by decide) (hname "_time" (by decide)) (.code (by decide)))))

theorem denotes_latest_iff (hquote : unescape '"' = some '"') (h : Plain settings src)
    {id : List Char} : Denotes unescape (latest settings src) id ↔ '\\' ∉ id :=
  denotes_iff hquote (balanced_latestStart h) balanced_latestRest (by decide) latest_eq

/-! ### The predicate -/

/-- The predicate up to the literal. -/
def predicateStart (src : Source) : List Char :=
  "_measurement=".toList ++ '"' :: (src.measurement.toList ++ '"' ::
    (" AND ".toList ++ (src.idTag.toList ++ ['='])))

theorem toList_deletePredicate (id : String) : (deletePredicate src id).toList =
    (predicateStart src ++ ['"']) ++ (escapeQuotes id.toList ++ ['"']) := by
  have hmeasurement : "_measurement=\"".toList = "_measurement=".toList ++ ['"'] := rfl
  have htag : "\" AND ".toList = '"' :: " AND ".toList := rfl
  have htag' : "=\"".toList = ['=', '"'] := rfl
  have hquote : "\"".toList = ['"'] := rfl
  unfold deletePredicate
  simp only [toString_self, String.toList_append, toList_escape]
  simp only [hmeasurement, htag, htag', hquote]
  unfold predicateStart
  simp only [List.append_assoc, List.cons_append, List.nil_append]

/-- The tokens of the predicate up to the literal. -/
def predicateTokens (src : Source) : List Token :=
  [.word "_measurement".toList, .symbol '=', .text src.measurement.toList, .word ['A', 'N', 'D'],
    .word src.idTag.toList, .symbol '=']

theorem run_word {ts : List Token} {w : List Char} (hw : IsWord w) :
    run unescape ⟨ts, .blank⟩ w = some ⟨ts, .word w⟩ := by
  have hmore : ∀ {v cs : List Char}, (∀ c ∈ cs, wordChar c = true) →
      run unescape ⟨ts, .word v⟩ cs = some ⟨ts, .word (v ++ cs)⟩ := by
    intro v cs hcs
    induction cs generalizing v with
    | nil => rw [List.append_nil]; rfl
    | cons c cs ih =>
      have hstep : step unescape ⟨ts, .word v⟩ c = some ⟨ts, .word (v ++ [c])⟩ := by
        simp only [step, hcs c (List.mem_cons_self ..), if_true]
      rw [run_cons, hstep, Option.bind_some, ih fun d hd => hcs d (List.mem_cons_of_mem _ hd),
        List.append_assoc, List.singleton_append]
  obtain ⟨hne, hchars⟩ := hw
  cases w with
  | nil => exact absurd rfl hne
  | cons c w =>
    have hstep : step unescape ⟨ts, .blank⟩ c = some ⟨ts, .word [c]⟩ := by
      simp only [step, hchars c (List.mem_cons_self ..), if_true]
    rw [run_cons, hstep, Option.bind_some, hmore fun d hd => hchars d (List.mem_cons_of_mem _ hd)]
    rfl

theorem run_predicateStart (h : Plain settings src) :
    run unescape ⟨[], .blank⟩ (predicateStart src ++ ['"']) = some ⟨predicateTokens src, .text []⟩ := by
  have hmeasurement : run unescape ⟨[], .blank⟩ "_measurement=".toList =
      some ⟨[.word "_measurement".toList, .symbol '='], .blank⟩ := rfl
  have hand : ∀ ts, run unescape ⟨ts, .blank⟩ " AND ".toList =
      some ⟨ts ++ [.word ['A', 'N', 'D']], .blank⟩ := fun _ => rfl
  have hopen : ∀ ts, step unescape ⟨ts, .blank⟩ '"' = some ⟨ts, .text []⟩ := fun _ => rfl
  have hequals : ∀ ts w, run unescape ⟨ts, .word w⟩ ['=', '"'] =
      some ⟨ts ++ [.word w] ++ [.symbol '='], .text []⟩ := fun _ _ => rfl
  unfold predicateStart
  simp only [List.append_assoc, List.cons_append, List.nil_append]
  rw [run_append, hmeasurement, Option.bind_some, run_cons, hopen, Option.bind_some, run_append,
    run_text h.measurement, Option.bind_some, run_cons, step_text_quote, Option.bind_some, run_append,
    hand, Option.bind_some, run_append, run_word h.idTag, Option.bind_some, hequals]
  rfl

/-- A predicate begins with its first comparison. -/
theorem conditions_cons {k v : List Char} {rest : List Token} {l : List (List Char × List Char)}
    (h : conditions (.word k :: .symbol '=' :: .text v :: rest) = some l) : l.head? = some (k, v) := by
  unfold conditions at h
  split at h
  · next heq =>
    cases heq
    cases h
    rfl
  · next heq =>
    cases heq
    obtain ⟨more, -, rfl⟩ := Option.map_eq_some_iff.mp h
    rfl
  · exact nomatch h

/-- The comparison of the measurement, and the next one. -/
theorem conditions_predicateTokens {d : List Char} {more : List Token}
    {l : List (List Char × List Char)}
    (h : conditions (predicateTokens src ++ .text d :: more) = some l) :
    l[1]? = some (src.idTag.toList, d) := by
  have hand : conditions (predicateTokens src ++ .text d :: more) =
      (conditions (.word src.idTag.toList :: .symbol '=' :: .text d :: more)).map
        fun rest => ("_measurement".toList, src.measurement.toList) :: rest := rfl
  rw [hand] at h
  obtain ⟨rest, hrest, rfl⟩ := Option.map_eq_some_iff.mp h
  rw [List.getElem?_cons_succ, ← List.head?_eq_getElem?]
  exact conditions_cons hrest

theorem selects_iff (hquote : unescape '"' = some '"') (h : Plain settings src) {id : String} :
    Selects unescape src id ↔ '\\' ∉ id.toList := by
  unfold Selects
  rw [toList_deletePredicate]
  constructor
  · intro hselects hid
    obtain ⟨tokens, htokens, hconditions⟩ := Option.bind_eq_some_iff.mp hselects
    obtain ⟨d, more, rfl, hd⟩ := lex_astray hquote hid (run_predicateStart h) List.not_mem_nil htokens
    have hsecond := conditions_predicateTokens hconditions
    exact hd (Prod.mk.inj (Option.some.inj hsecond)).2.symm
  · intro hid
    rw [lex_quoted hquote hid (run_predicateStart h)]
    rfl

/-- **Escaping**: the query and the predicate are right for exactly the ids without backslashes. -/
theorem escaped_iff (hquote : unescape '"' = some '"') (h : Plain settings src) (id : String) :
    (Denotes unescape (latest settings src) id.toList ↔ '\\' ∉ id.toList) ∧
      (Selects unescape src id ↔ '\\' ∉ id.toList) :=
  ⟨denotes_latest_iff hquote h, selects_iff hquote h⟩

end Escaping

/-! ### One measurement -/

/-- Settings for a server on this host. -/
def influxLocal : Settings :=
  ⟨⟨"http://localhost:8086", "token", "openframe", 10000⟩, "-30d"⟩

/-- Readings by the name of their sensor. -/
def readings : Source := ⟨"readings", "sensor", "metrics"⟩

/-- The escapes of Flux that stand for one character. -/
def fluxEscape : Char → Option Char
  | '"' => some '"'
  | '\\' => some '\\'
  | 'n' => some '\n'
  | 'r' => some '\r'
  | 't' => some '\t'
  | _ => none

theorem fluxEscape_quote : fluxEscape '"' = some '"' := rfl

theorem plain_readings : Plain influxLocal readings where
  bucket := List.all_iff_forall_prop.mp (by decide)
  measurement := List.all_iff_forall_prop.mp (by decide)
  idTag := ⟨by decide, List.all_iff_forall_prop.mp (by decide)⟩
  lookback := by decide

/-- A sensor whose name has a quote. -/
theorem escaped_hall :
    (Denotes fluxEscape (latest influxLocal readings) "hall \"2\"".toList ↔
      '\\' ∉ "hall \"2\"".toList) ∧
    (Selects fluxEscape readings "hall \"2\"" ↔ '\\' ∉ "hall \"2\"".toList) :=
  escaped_iff fluxEscape_quote plain_readings "hall \"2\""

/-- **An id that ends with a backslash** takes the closing quote with it. -/
theorem not_escaped : ¬ Denotes fluxEscape (latest influxLocal readings) "hall\\".toList ∧
    ¬ Selects fluxEscape readings "hall\\" :=
  ⟨fun h => absurd ((denotes_latest_iff fluxEscape_quote plain_readings).mp h) (by decide),
    fun h => absurd ((selects_iff fluxEscape_quote plain_readings).mp h) (by decide)⟩

end OpenframeAdapters.Db.Influxdb
