import Mathlib.Data.Bool.AllAny
import OpenframeAdapters.Cypher.Lexer
import OpenframeAdapters.Db.Falkordb.Repository
import OpenframeAdapters.Python.Regex

/-!
# Node labels

The label is written into every query, and `_validate_node_label` is what keeps it from being more than
a label.

## The model

* `validateNodeLabel` — the validator of `db/falkordb/config.py`.
* `IsIdentifier` — a letter or an underscore, followed by letters, digits and underscores.
* `SameTokens` — a query has the tokens that it has with the default label, but for the label.
* `Protects` — the validator accepts the identifiers and nothing else, and the queries have the same
  tokens.

## What is proved

* `validateNodeLabel_isOk_iff` — what is accepted: an identifier, or one with a line break behind it.
* `sameTokens` — both of them are one token of a query.
* `protects_iff` — so the texts with a line break are the exception.
-/

namespace OpenframeAdapters.Db.Falkordb

open Python OpenframeAdapters.Core

open Cypher (Token lex)

/-! ### The validator -/

/-- `[A-Za-z_]`. -/
def letter (c : Char) : Bool := c.isAlpha || c = '_'

/-- `_SAFE_IDENTIFIER_RE`, which is `^[A-Za-z_][A-Za-z0-9_]*$`. -/
def safeIdentifierRe : Re := .seq .bos (.seq (.cls letter) (.seq (.many word) .eos))

/-- `FalkorDBSettings._validate_node_label(value)`. -/
def validateNodeLabel (value : String) : Except PyExc String :=
  match reMatch safeIdentifierRe value.toList with
  | some _ => .ok value
  | none => .error valueError

/-- The settings accept the label. -/
def Accepted (value : String) : Prop := (validateNodeLabel value).isOk = true

/-- An ASCII identifier, and nothing else. -/
def IsIdentifier (value : String) : Prop :=
  ∃ c cs, value.toList = c :: cs ∧ letter c = true ∧ ∀ d ∈ cs, word d = true

/-! ### The queries -/

/-- The queries that a label is written into. -/
def queries : List (String → String) :=
  [getQuery, rowsQuery, countQuery, createQuery, updateQuery, deleteQuery]

/-- The label is one token of the query, and the other ones are those of the default label. -/
def SameTokens (query : String → String) (label name : String) : Prop :=
  ∃ ts ts', lex (query "Entity").toList = some (ts ++ .word "Entity".toList :: ts') ∧
    lex (query label).toList = some (ts ++ .word name.toList :: ts')

/-- The validator accepts exactly the identifiers, and those are one token of every query. -/
structure Protects (value : String) : Prop where
  /-- What is accepted is an identifier. -/
  sound : Accepted value → IsIdentifier value
  /-- In every query it is one token. -/
  tokens : Accepted value → ∀ query ∈ queries, SameTokens query value value
  /-- An identifier is accepted. -/
  complete : IsIdentifier value → Accepted value

/-! ### What is accepted -/

theorem isSome_eos {n : ℕ} {st : Scan} : (Re.run n .eos st some).isSome = true ↔
    st.rest = [] ∨ st.rest = ['\n'] := by
  change (if st.rest = [] ∨ st.rest = ['\n'] then some st else none).isSome = true ↔ _
  split_ifs with h
  · exact iff_of_true rfl h
  · exact iff_of_false Bool.false_ne_true h

/-- An identifier matches, and so does one with a line break behind it. -/
theorem isSome_safeIdentifierRe {text : List Char} : (reMatch safeIdentifierRe text).isSome = true ↔
    ∃ c cs gap, text = c :: (cs ++ gap) ∧ letter c = true ∧ (∀ d ∈ cs, word d = true) ∧
      (gap = [] ∨ gap = ['\n']) := by
  have hrun : reMatch safeIdentifierRe text =
      (Re.seq (.cls letter) (.seq (.many word) .eos)).run text.length ⟨text, []⟩ some := if_pos rfl
  rw [hrun]
  cases text with
  | nil =>
    constructor
    · intro h
      cases h
    · rintro ⟨c, cs, gap, htext, -⟩
      cases htext
  | cons c rest =>
    rw [Re.run_seq]
    by_cases hc : letter c = true
    · rw [Re.run_cls_cons hc, Re.run_seq]
      change (many word _ rest).isSome = true ↔ _
      rw [isSome_many]
      constructor
      · rintro ⟨cs, gap, rfl, hcs, hend⟩
        exact ⟨c, cs, gap, rfl, hc, hcs, isSome_eos.mp hend⟩
      · rintro ⟨c', cs, gap, htext, -, hcs, hgap⟩
        obtain ⟨rfl, rfl⟩ := List.cons.inj htext
        exact ⟨cs, gap, rfl, hcs, isSome_eos.mpr hgap⟩
    · rw [Re.run_cls_cons_false (Bool.not_eq_true _ ▸ hc)]
      constructor
      · intro h
        cases h
      · rintro ⟨c', cs, gap, htext, hc', -⟩
        obtain ⟨rfl, -⟩ := List.cons.inj htext
        exact absurd hc' hc

/-- **What is accepted**: an identifier, or one with a line break behind it. -/
theorem accepted_iff {value : String} : Accepted value ↔
    ∃ name, IsIdentifier name ∧ (value = name ∨ value = name ++ "\n") := by
  have hmatch : Accepted value ↔ (reMatch safeIdentifierRe value.toList).isSome = true := by
    unfold Accepted validateNodeLabel
    cases reMatch safeIdentifierRe value.toList with
    | none => exact .rfl
    | some _ => exact .rfl
  rw [hmatch, isSome_safeIdentifierRe]
  constructor
  · rintro ⟨c, cs, gap, htext, hc, hcs, hgap⟩
    refine ⟨String.ofList (c :: cs), ⟨c, cs, String.toList_ofList, hc, hcs⟩, ?_⟩
    rcases hgap with rfl | rfl
    · left
      rw [← String.toList_inj, htext, String.toList_ofList, List.append_nil]
    · right
      rw [← String.toList_inj, htext, String.toList_append, String.toList_ofList]
      rfl
  · rintro ⟨name, ⟨c, cs, hname, hc, hcs⟩, hvalue⟩
    rcases hvalue with rfl | rfl
    · exact ⟨c, cs, [], by rw [hname, List.append_nil], hc, hcs, .inl rfl⟩
    · exact ⟨c, cs, ['\n'], by rw [String.toList_append, hname]; rfl, hc, hcs, .inr rfl⟩

/-! ### What is sent -/

/-- A query with a hole for the label, and a bracket behind it. -/
structure Hole (query : String → String) where
  /-- The text before the label. -/
  pre : List Char
  /-- The text behind the bracket. -/
  rest : List Char
  /-- The tokens of the one. -/
  before : List Token
  /-- The tokens of the other. -/
  after : List Token
  /-- The query. -/
  toList_query : ∀ label, (query label).toList = pre ++ label.toList ++ ')' :: rest
  /-- The text before the label ends between tokens. -/
  run_pre : Cypher.run ⟨[], .blank⟩ pre = ⟨before, .blank⟩
  /-- The text behind the bracket has a reading. -/
  lex_rest : lex rest = some after

/-- The default label is an identifier. -/
theorem isIdentifier_default : IsIdentifier "Entity" :=
  ⟨'E', ['n', 't', 'i', 't', 'y'], rfl, by decide, List.all_iff_forall_prop.mp (by decide)⟩

theorem wordChar_of_letter {c : Char} (h : letter c = true) : Cypher.wordChar c = true := by
  unfold letter at h
  unfold Cypher.wordChar Char.isAlphanum
  rw [Bool.or_assoc, Bool.or_comm c.isDigit, ← Bool.or_assoc, h, Bool.true_or]

/-- What is written into the hole is one token, and the other ones are always the same. -/
theorem Hole.lex_query {query : String → String} (hole : Hole query) {name label : String}
    (hname : IsIdentifier name) (hlabel : label = name ∨ label = name ++ "\n") : lex (query label).toList =
      some (hole.before ++ .word name.toList :: .symbol ')' :: hole.after) := by
  obtain ⟨c, cs, htext, hc, hcs⟩ := hname
  obtain ⟨gap, hgap, hlist⟩ : ∃ gap : List Char, (gap = [] ∨ gap = ['\n']) ∧
      label.toList = (c :: cs) ++ gap := by
    rcases hlabel with rfl | rfl
    · exact ⟨[], .inl rfl, by rw [htext, List.append_nil]⟩
    · exact ⟨['\n'], .inr rfl, by rw [String.toList_append, htext]; rfl⟩
  have hsplit : (query label).toList = hole.pre ++ (c :: cs) ++ (gap ++ [')']) ++ hole.rest := by
    rw [hole.toList_query, hlist]
    simp only [List.append_assoc, List.singleton_append]
  rw [hsplit, htext]
  exact Cypher.lex_hole hole.run_pre hole.lex_rest (wordChar_of_letter hc) hcs hgap

theorem toList_hole (pre rest label : String) :
    (pre ++ label ++ (")" ++ rest)).toList = pre.toList ++ label.toList ++ ')' :: rest.toList := by
  rw [String.toList_append, String.toList_append, String.toList_append]
  rfl

/-- Every query has a hole. -/
theorem exists_hole {query : String → String} (h : query ∈ queries) : Nonempty (Hole query) := by
  simp only [queries, List.mem_cons, List.not_mem_nil, or_false] at h
  rcases h with rfl | rfl | rfl | rfl | rfl | rfl
  · exact ⟨"MATCH (n:".toList, " WHERE n.id = $id RETURN n LIMIT 1".toList, _, _,
      toList_hole "MATCH (n:" " WHERE n.id = $id RETURN n LIMIT 1", rfl, rfl⟩
  · exact ⟨"MATCH (n:".toList, " RETURN n ORDER BY n.id SKIP $offset LIMIT $limit".toList, _, _,
      toList_hole "MATCH (n:" " RETURN n ORDER BY n.id SKIP $offset LIMIT $limit", rfl, rfl⟩
  · exact ⟨"MATCH (n:".toList, " RETURN count(n)".toList, _, _,
      toList_hole "MATCH (n:" " RETURN count(n)", rfl, rfl⟩
  · exact ⟨"CREATE (n:".toList, " SET n = $props RETURN n".toList, _, _,
      toList_hole "CREATE (n:" " SET n = $props RETURN n", rfl, rfl⟩
  · exact ⟨"MATCH (n:".toList, " WHERE n.id = $id SET n += $props RETURN n".toList, _, _,
      toList_hole "MATCH (n:" " WHERE n.id = $id SET n += $props RETURN n", rfl, rfl⟩
  · exact ⟨"MATCH (n:".toList, " WHERE n.id = $id DETACH DELETE n".toList, _, _,
      toList_hole "MATCH (n:" " WHERE n.id = $id DETACH DELETE n", rfl, rfl⟩

/-- **Queries** have the tokens that they have with the default label, whatever is accepted. -/
theorem sameTokens {name label : String} {query : String → String} (hquery : query ∈ queries)
    (hname : IsIdentifier name) (hlabel : label = name ∨ label = name ++ "\n") :
    SameTokens query label name := by
  obtain ⟨hole⟩ := exists_hole hquery
  exact ⟨hole.before, .symbol ')' :: hole.after, hole.lex_query isIdentifier_default (.inl rfl),
    hole.lex_query hname hlabel⟩

/-! ### The exception -/

/-- There is no line break in an identifier. -/
theorem not_isIdentifier_newline (name : String) : ¬ IsIdentifier (name ++ "\n") := by
  rintro ⟨c, cs, htext, hc, hcs⟩
  have hmem : '\n' ∈ c :: cs := by
    rw [← htext, String.toList_append]
    exact List.mem_append_right _ (List.mem_singleton_self _)
  rcases List.mem_cons.mp hmem with rfl | hmem
  · exact Bool.noConfusion hc
  · exact Bool.noConfusion (hcs _ hmem)

/-- **The validator** protects the queries from all texts but an identifier with a line break behind
it. -/
theorem protects_iff (value : String) :
    Protects value ↔ ¬ ∃ name, IsIdentifier name ∧ value = name ++ "\n" := by
  constructor
  · rintro h ⟨name, hname, rfl⟩
    exact not_isIdentifier_newline name (h.sound (accepted_iff.mpr ⟨name, hname, .inr rfl⟩))
  · intro h
    have hsound : Accepted value → IsIdentifier value := by
      intro haccepted
      obtain ⟨name, hname, rfl | rfl⟩ := accepted_iff.mp haccepted
      · exact hname
      · exact absurd ⟨name, hname, rfl⟩ h
    exact ⟨hsound, fun haccepted query hquery => sameTokens hquery (hsound haccepted) (.inl rfl),
      fun hname => accepted_iff.mpr ⟨value, hname, .inl rfl⟩⟩

/-- **A line break** is accepted. -/
theorem not_protects : ¬ Protects "Entity\n" := fun h =>
  not_isIdentifier_newline "Entity"
    (h.sound (accepted_iff.mpr ⟨"Entity", isIdentifier_default, .inr rfl⟩))

end OpenframeAdapters.Db.Falkordb
