import Mathlib.Data.List.Basic

/-!
# Cypher texts

A query is read character by character. Names, keywords and numbers are words; operators are as long
as they can be; string literals and quoted names stand between quotes; comments are left out.

## The model

* `step` and `lex` — the lexer. A text that ends in a literal or in a comment has no reading.

## What is proved

* `run_append`, `run_after` — a text is read part by part, and what has been read makes no difference.
* `lex_hole` — a word in a hole of a text is one token, and the other ones do not depend on it.
-/

namespace OpenframeAdapters.Cypher

/-- A token. -/
inductive Token where
  /-- A name, a keyword or a number. -/
  | word (w : List Char)
  /-- An operator. -/
  | operator (s : List Char)
  /-- Any other character. -/
  | symbol (c : Char)
  /-- A string literal, as it is written. -/
  | text (s : List Char)
  /-- A quoted name. -/
  | quoted (s : List Char)
  deriving DecidableEq

/-- Where the lexer is. -/
inductive Mode where
  /-- Between tokens. -/
  | blank
  /-- In a word. -/
  | word (w : List Char)
  /-- In an operator. -/
  | operator (s : List Char)
  /-- Behind a slash, which may begin a comment. -/
  | slash
  /-- In a comment up to the end of the line. -/
  | lineComment
  /-- In a comment. -/
  | comment
  /-- Behind an asterisk in a comment. -/
  | asterisk
  /-- In a string literal. -/
  | text (quote : Char) (s : List Char)
  /-- Behind a backslash in a string literal. -/
  | escape (quote : Char) (s : List Char)
  /-- In a quoted name. -/
  | quoted (s : List Char)
  deriving DecidableEq

/-- What has been read. -/
structure Scan where
  /-- The tokens. -/
  tokens : List Token
  /-- What comes next. -/
  mode : Mode
  deriving DecidableEq

/-- The characters of words. -/
def wordChar (c : Char) : Bool := c.isAlphanum || c = '_'

/-- The characters of operators. A slash is one on its own. -/
def operatorChar (c : Char) : Bool :=
  ['+', '-', '*', '%', '^', '=', '<', '>', '!', '~', '|'].contains c

/-- The quote of names. -/
def backquote : Char := '\x60'

/-- A character that begins something. -/
def begin (tokens : List Token) (c : Char) : Scan :=
  if wordChar c then ⟨tokens, .word [c]⟩
  else if operatorChar c then ⟨tokens, .operator [c]⟩
  else if c = '/' then ⟨tokens, .slash⟩
  else if c = '"' ∨ c = '\'' then ⟨tokens, .text c []⟩
  else if c = backquote then ⟨tokens, .quoted []⟩
  else if c.isWhitespace then ⟨tokens, .blank⟩
  else ⟨tokens ++ [.symbol c], .blank⟩

/-- One more character. -/
def step (st : Scan) (c : Char) : Scan :=
  match st.mode with
  | .blank => begin st.tokens c
  | .word w => if wordChar c then ⟨st.tokens, .word (w ++ [c])⟩ else begin (st.tokens ++ [.word w]) c
  | .operator s =>
    if operatorChar c then ⟨st.tokens, .operator (s ++ [c])⟩ else begin (st.tokens ++ [.operator s]) c
  | .slash =>
    if c = '/' then ⟨st.tokens, .lineComment⟩
    else if c = '*' then ⟨st.tokens, .comment⟩
    else begin (st.tokens ++ [.operator ['/']]) c
  | .lineComment => ⟨st.tokens, if c = '\n' then .blank else .lineComment⟩
  | .comment => ⟨st.tokens, if c = '*' then .asterisk else .comment⟩
  | .asterisk => ⟨st.tokens, if c = '/' then .blank else if c = '*' then .asterisk else .comment⟩
  | .text quote s =>
    if c = quote then ⟨st.tokens ++ [.text s], .blank⟩
    else if c = '\\' then ⟨st.tokens, .escape quote s⟩
    else ⟨st.tokens, .text quote (s ++ [c])⟩
  | .escape quote s => ⟨st.tokens, .text quote (s ++ ['\\', c])⟩
  | .quoted s =>
    if c = backquote then ⟨st.tokens ++ [.quoted s], .blank⟩ else ⟨st.tokens, .quoted (s ++ [c])⟩

/-- The end of a text. -/
def finish (st : Scan) : Option (List Token) :=
  match st.mode with
  | .blank | .lineComment => some st.tokens
  | .word w => some (st.tokens ++ [.word w])
  | .operator s => some (st.tokens ++ [.operator s])
  | .slash => some (st.tokens ++ [.operator ['/']])
  | .comment | .asterisk | .text .. | .escape .. | .quoted _ => none

/-- The characters of a part of a text. -/
def run (st : Scan) (cs : List Char) : Scan := cs.foldl step st

/-- The tokens of a text. -/
def lex (cs : List Char) : Option (List Token) := finish (run ⟨[], .blank⟩ cs)

section Run

variable {st : Scan} {ts : List Token} {c : Char} {w cs : List Char}

@[simp] theorem run_nil : run st [] = st := rfl

@[simp] theorem run_cons : run st (c :: cs) = run (step st c) cs := rfl

theorem run_append (cs cs' : List Char) : run st (cs ++ cs') = run (run st cs) cs' := List.foldl_append

/-- The tokens that come first make no difference. -/
def Scan.after (ts : List Token) (st : Scan) : Scan := ⟨ts ++ st.tokens, st.mode⟩

theorem begin_after (ts ts' : List Token) : begin (ts ++ ts') c = (begin ts' c).after ts := by
  simp only [begin]
  split_ifs
  case neg => exact congrArg (Scan.mk · _) (List.append_assoc ..)
  all_goals rfl

theorem step_after (ts : List Token) : step (st.after ts) c = (step st c).after ts := by
  obtain ⟨ts', mode⟩ := st
  cases mode with
  | blank => exact begin_after ts ts'
  | word w | operator w =>
    simp only [step, Scan.after, List.append_assoc, begin_after]
    split_ifs <;> rfl
  | slash =>
    simp only [step, Scan.after, List.append_assoc, begin_after]
    split_ifs <;> rfl
  | text quote s =>
    simp only [step, Scan.after, List.append_assoc]
    split_ifs <;> rfl
  | quoted s =>
    simp only [step, Scan.after, List.append_assoc]
    split_ifs <;> rfl
  | lineComment | comment | asterisk | escape => rfl

/-- **What has been read** makes no difference for the rest. -/
theorem run_after (ts : List Token) (st : Scan) (cs : List Char) :
    run (st.after ts) cs = (run st cs).after ts := by
  induction cs generalizing st with
  | nil => rfl
  | cons c cs ih =>
    rw [run_cons, run_cons, step_after]
    exact ih _

theorem finish_after (ts : List Token) (st : Scan) :
    finish (st.after ts) = (finish st).map (ts ++ ·) := by
  obtain ⟨ts', mode⟩ := st
  cases mode with
  | word | operator | slash => exact congrArg some (List.append_assoc ..)
  | blank | lineComment | comment | asterisk | text | escape | quoted => rfl

/-- A word is read to its end. -/
theorem run_word (hcs : ∀ d ∈ cs, wordChar d = true) :
    run ⟨ts, .word w⟩ cs = ⟨ts, .word (w ++ cs)⟩ := by
  induction cs generalizing w with
  | nil => rw [List.append_nil, run_nil]
  | cons d ds ih =>
    have hstep : step ⟨ts, .word w⟩ d = ⟨ts, .word (w ++ [d])⟩ := if_pos (hcs d (List.mem_cons_self ..))
    rw [run_cons, hstep, ih fun e he => hcs e (List.mem_cons_of_mem d he), List.append_assoc]
    rfl

/-- A closing bracket behind a word, or behind a word and a line break. -/
theorem run_bracket {gap : List Char} (hgap : gap = [] ∨ gap = ['\n']) :
    run ⟨ts, .word w⟩ (gap ++ [')']) = ⟨ts ++ [.word w, .symbol ')'], .blank⟩ := by
  have hbracket : ∀ ts : List Token, begin ts ')' = ⟨ts ++ [.symbol ')'], .blank⟩ := fun _ => rfl
  rcases hgap with rfl | rfl
  · change begin (ts ++ [.word w]) ')' = _
    rw [hbracket, List.append_assoc]
    rfl
  · change begin (begin (ts ++ [.word w]) '\n').tokens ')' = _
    change begin (ts ++ [.word w]) ')' = _
    rw [hbracket, List.append_assoc]
    rfl

end Run

/-- **A hole**: a word between a text that has been read and a bracket is one token. -/
theorem lex_hole {pre rest w gap : List Char} {ts ts' : List Token} {c : Char}
    (hpre : run ⟨[], .blank⟩ pre = ⟨ts, .blank⟩) (hrest : lex rest = some ts')
    (hc : wordChar c = true) (hw : ∀ d ∈ w, wordChar d = true) (hgap : gap = [] ∨ gap = ['\n']) :
    lex (pre ++ (c :: w) ++ (gap ++ [')']) ++ rest) =
      some (ts ++ .word (c :: w) :: .symbol ')' :: ts') := by
  have hfirst : step ⟨ts, .blank⟩ c = ⟨ts, .word [c]⟩ := if_pos hc
  have hword : run ⟨ts, .blank⟩ (c :: w) = ⟨ts, .word (c :: w)⟩ := by
    rw [run_cons, hfirst, run_word hw]
    rfl
  have hblank : (⟨ts ++ [.word (c :: w), .symbol ')'], .blank⟩ : Scan) =
      Scan.after (ts ++ [.word (c :: w), .symbol ')']) ⟨[], .blank⟩ :=
    congrArg (Scan.mk · _) (List.append_nil _).symm
  have hrest : finish (run ⟨[], .blank⟩ rest) = some ts' := hrest
  unfold lex
  rw [run_append, run_append, run_append pre, hpre, hword, run_bracket hgap, hblank, run_after,
    finish_after, hrest, Option.map_some, List.append_assoc]
  rfl

end OpenframeAdapters.Cypher
