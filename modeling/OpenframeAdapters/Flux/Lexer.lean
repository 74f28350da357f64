import Mathlib.Data.List.Basic
import Mathlib.Data.Nat.Notation

/-!
# Texts with quoted literals

A query or a predicate is read character by character. A literal stands between double quotes, and a
backslash in it escapes the character that follows.

## The model

* `step` and `lex` — the lexer. What an escaped character stands for is a parameter.
* `escapeQuotes` — a backslash is put before every quote, and nowhere else.

## What is proved

* `lex_quoted` — in the quotes, a text without backslashes that has been escaped denotes itself.
* `lex_astray` — a text with a backslash never does.
-/

namespace OpenframeAdapters.Flux

/-- A token. -/
inductive Token where
  /-- A name, a keyword or a number. -/
  | word (w : List Char)
  /-- Any other character. -/
  | symbol (c : Char)
  /-- A literal, with what it denotes. -/
  | text (s : List Char)
  deriving DecidableEq

/-- Where the lexer is. -/
inductive Mode where
  /-- Between tokens. -/
  | blank
  /-- In a word. -/
  | word (w : List Char)
  /-- In a literal. -/
  | text (s : List Char)
  /-- After a backslash in a literal. -/
  | escape (s : List Char)

/-- What has been read. -/
structure Scan where
  /-- The tokens. -/
  tokens : List Token
  /-- What comes next. -/
  mode : Mode

/-- The characters of words. -/
def wordChar (c : Char) : Bool := c.isAlphanum || c = '_'

/-- A character that is not of a word, outside of literals. -/
def begin (tokens : List Token) (c : Char) : Scan :=
  if c = '"' then ⟨tokens, .text []⟩
  else if c.isWhitespace then ⟨tokens, .blank⟩
  else ⟨tokens ++ [.symbol c], .blank⟩

/-- One more character; there is no reading where what is escaped stands for nothing. -/
def step (unescape : Char → Option Char) (st : Scan) (c : Char) : Option Scan :=
  match st.mode with
  | .blank => some (if wordChar c then ⟨st.tokens, .word [c]⟩ else begin st.tokens c)
  | .word w =>
    some (if wordChar c then ⟨st.tokens, .word (w ++ [c])⟩ else begin (st.tokens ++ [.word w]) c)
  | .text s =>
    if c = '"' then some ⟨st.tokens ++ [.text s], .blank⟩
    else if c = '\\' then some ⟨st.tokens, .escape s⟩
    else some ⟨st.tokens, .text (s ++ [c])⟩
  | .escape s => (unescape c).map fun d => ⟨st.tokens, .text (s ++ [d])⟩

/-- A whole text must not end in a literal. -/
def finish (st : Scan) : Option (List Token) :=
  match st.mode with
  | .blank => some st.tokens
  | .word w => some (st.tokens ++ [.word w])
  | .text _ | .escape _ => none

/-- The characters of a part of the text. -/
def run (unescape : Char → Option Char) (st : Scan) (cs : List Char) : Option Scan :=
  cs.foldlM (step unescape) st

/-- The tokens of a text. -/
def lex (unescape : Char → Option Char) (cs : List Char) : Option (List Token) :=
  (run unescape ⟨[], .blank⟩ cs).bind finish

/-- `s.replace('"', '\\"')`. -/
def escapeQuotes (s : List Char) : List Char := s.flatMap fun c => if c = '"' then ['\\', '"'] else [c]

section Run

variable {unescape : Char → Option Char} {st st' : Scan} {ts : List Token} {cs s : List Char}
  {c : Char}

@[simp] theorem run_nil : run unescape st [] = some st := rfl

@[simp] theorem run_cons : run unescape st (c :: cs) =
    (step unescape st c).bind fun st' => run unescape st' cs := rfl

theorem run_append (cs cs' : List Char) : run unescape st (cs ++ cs') =
    (run unescape st cs).bind fun st' => run unescape st' cs' := List.foldlM_append

@[simp] theorem step_text_quote : step unescape ⟨ts, .text s⟩ '"' = some ⟨ts ++ [.text s], .blank⟩ := rfl

@[simp] theorem step_text_backslash : step unescape ⟨ts, .text s⟩ '\\' = some ⟨ts, .escape s⟩ := rfl

theorem step_text (hquote : c ≠ '"') (hbackslash : c ≠ '\\') :
    step unescape ⟨ts, .text s⟩ c = some ⟨ts, .text (s ++ [c])⟩ := by
  simp only [step]
  rw [if_neg hquote, if_neg hbackslash]

@[simp] theorem step_escape : step unescape ⟨ts, .escape s⟩ c =
    (unescape c).map fun d => ⟨ts, .text (s ++ [d])⟩ := rfl

/-! ### Tokens that have been read -/

/-- The tokens that come first make no difference. -/
def Scan.after (ts : List Token) (st : Scan) : Scan := ⟨ts ++ st.tokens, st.mode⟩

theorem begin_after (ts ts' : List Token) : begin (ts ++ ts') c = (begin ts' c).after ts := by
  simp only [begin]
  split_ifs
  · rfl
  · rfl
  · exact congrArg (Scan.mk · _) (List.append_assoc ..)

theorem step_after (ts : List Token) : step unescape (st.after ts) c =
    (step unescape st c).map (Scan.after ts) := by
  obtain ⟨ts', mode⟩ := st
  cases mode with
  | blank =>
    simp only [step, Scan.after, Option.map_some, begin_after]
    split_ifs <;> rfl
  | word w =>
    simp only [step, Scan.after, Option.map_some, List.append_assoc, begin_after]
    split_ifs <;> rfl
  | text s =>
    simp only [step, Scan.after]
    split_ifs
    · simp [Scan.after]
    · rfl
    · rfl
  | escape s =>
    simp only [step, Scan.after, Option.map_map]
    rfl

variable (unescape) in
theorem run_after (ts : List Token) (st : Scan) (cs : List Char) :
    run unescape (st.after ts) cs = (run unescape st cs).map (Scan.after ts) := by
  induction cs generalizing st with
  | nil => rfl
  | cons c cs ih =>
    rw [run_cons, run_cons, step_after]
    cases step unescape st c with
    | none => rfl
    | some st' => exact ih st'

/-- What has been read remains. -/
theorem tokens_of_run (h : run unescape st cs = some st') : st.tokens <+: st'.tokens := by
  have hafter := run_after unescape st.tokens ⟨[], st.mode⟩ cs
  have hst : (Scan.mk [] st.mode).after st.tokens = st := congrArg (Scan.mk · _) (List.append_nil _)
  rw [hst, h] at hafter
  cases hrun : run unescape ⟨[], st.mode⟩ cs with
  | none => simp [hrun] at hafter
  | some st'' =>
    rw [hrun, Option.map_some, Option.some.injEq] at hafter
    exact ⟨st''.tokens, by rw [hafter]; rfl⟩

theorem tokens_of_finish {tokens : List Token} (h : finish st = some tokens) : st.tokens <+: tokens := by
  obtain ⟨ts, mode⟩ := st
  cases mode with
  | blank => exact ⟨[], by simpa [finish] using h⟩
  | word w => exact ⟨[.word w], by simpa [finish] using h⟩
  | text | escape => exact nomatch h

end Run

/-! ### Texts without escapes -/

/-- Outside of literals. -/
def Scan.InCode (st : Scan) : Prop := st.mode = .blank ∨ ∃ w, st.mode = .word w

/-- Code with literals that need no escapes. -/
inductive Balanced : List Char → Prop
  /-- No literal. -/
  | code {cs} : '"' ∉ cs → Balanced cs
  /-- Code, and then a literal. -/
  | literal {cs s rest} : '"' ∉ cs → (∀ c ∈ s, c ≠ '"' ∧ c ≠ '\\') → Balanced rest →
      Balanced (cs ++ '"' :: (s ++ '"' :: rest))

section Balanced

variable {unescape : Char → Option Char} {st : Scan} {ts : List Token} {cs s : List Char}

theorem begin_inCode {c : Char} (hc : c ≠ '"') : (begin ts c).InCode := by
  rw [begin, if_neg hc]
  split_ifs
  · exact .inl rfl
  · exact .inl rfl

theorem run_code (h : st.InCode) (hcs : '"' ∉ cs) :
    ∃ st', run unescape st cs = some st' ∧ st'.InCode := by
  induction cs generalizing st with
  | nil => exact ⟨st, rfl, h⟩
  | cons c cs ih =>
    rw [List.mem_cons, not_or] at hcs
    have hstep : ∃ st', step unescape st c = some st' ∧ st'.InCode := by
      obtain ⟨ts, mode⟩ := st
      rcases h with rfl | ⟨w, rfl⟩
      · refine ⟨_, rfl, ?_⟩
        split_ifs
        · exact .inr ⟨_, rfl⟩
        · exact begin_inCode (Ne.symm hcs.1)
      · refine ⟨_, rfl, ?_⟩
        split_ifs
        · exact .inr ⟨_, rfl⟩
        · exact begin_inCode (Ne.symm hcs.1)
    obtain ⟨st', hst', hcode⟩ := hstep
    obtain ⟨st'', hst'', hcode'⟩ := ih hcode hcs.2
    exact ⟨st'', by rw [run_cons, hst']; exact hst'', hcode'⟩

/-- A quote begins a literal. -/
theorem step_quote (h : st.InCode) : ∃ ts, step unescape st '"' = some ⟨ts, .text []⟩ := by
  obtain ⟨ts, mode⟩ := st
  rcases h with rfl | ⟨w, rfl⟩
  · exact ⟨ts, rfl⟩
  · exact ⟨ts ++ [.word w], rfl⟩

theorem run_text (hcs : ∀ c ∈ cs, c ≠ '"' ∧ c ≠ '\\') :
    run unescape ⟨ts, .text s⟩ cs = some ⟨ts, .text (s ++ cs)⟩ := by
  induction cs generalizing s with
  | nil => rw [List.append_nil]; rfl
  | cons c cs ih =>
    obtain ⟨hquote, hbackslash⟩ := hcs c (List.mem_cons_self ..)
    rw [run_cons, step_text hquote hbackslash, Option.bind_some,
      ih fun d hd => hcs d (List.mem_cons_of_mem _ hd), List.append_assoc, List.singleton_append]

theorem run_balanced (h : st.InCode) (hcs : Balanced cs) :
    ∃ st', run unescape st cs = some st' ∧ st'.InCode := by
  induction hcs generalizing st with
  | code hcs => exact run_code h hcs
  | @literal cs s rest hcs hs _ ih =>
    obtain ⟨st₁, hst₁, hcode⟩ : ∃ st', run unescape st cs = some st' ∧ st'.InCode := run_code h hcs
    obtain ⟨ts, hts⟩ : ∃ ts, step unescape st₁ '"' = some ⟨ts, .text []⟩ := step_quote hcode
    have hblank : (Scan.mk (ts ++ [.text s]) .blank).InCode := .inl rfl
    obtain ⟨st', hst', hcode'⟩ := ih hblank
    refine ⟨st', ?_, hcode'⟩
    rw [run_append, hst₁, Option.bind_some, run_cons, hts, Option.bind_some, run_append, run_text hs,
      List.nil_append, Option.bind_some, run_cons, step_text_quote]
    exact hst'

theorem finish_inCode (h : st.InCode) : ∃ tokens, finish st = some tokens := by
  obtain ⟨ts, mode⟩ := st
  rcases h with rfl | ⟨w, rfl⟩
  · exact ⟨ts, rfl⟩
  · exact ⟨ts ++ [.word w], rfl⟩

end Balanced

/-! ### Escaped texts -/

section Escaped

variable {unescape : Char → Option Char} {ts : List Token} {s x : List Char}

theorem escapeQuotes_cons (c : Char) (x : List Char) :
    escapeQuotes (c :: x) = (if c = '"' then ['\\', '"'] else [c]) ++ escapeQuotes x := rfl

/-- Without backslashes, what has been escaped is read as it was. -/
theorem run_escapeQuotes (hquote : unescape '"' = some '"') (hx : '\\' ∉ x) :
    run unescape ⟨ts, .text s⟩ (escapeQuotes x) = some ⟨ts, .text (s ++ x)⟩ := by
  induction x generalizing s with
  | nil => rw [List.append_nil]; rfl
  | cons c x ih =>
    rw [List.mem_cons, not_or] at hx
    rw [escapeQuotes_cons, run_append]
    have hc : run unescape ⟨ts, .text s⟩ (if c = '"' then ['\\', '"'] else [c]) =
        some ⟨ts, .text (s ++ [c])⟩ := by
      split_ifs with heq
      · subst heq
        simp [hquote]
      · rw [run_cons, step_text heq (Ne.symm hx.1)]
        rfl
    rw [hc, Option.bind_some, ih hx.2, List.append_assoc, List.singleton_append]

/-- The literal has ended before its `n`-th character, or it has not ended and lacks characters, or
it is at an escape where `last` is a backslash. -/
def Astray (ts : List Token) (n : ℕ) (last : Option Char) (st : Scan) : Prop :=
  (∃ d rest, st.tokens = ts ++ .text d :: rest ∧ d.length < n) ∨
  (∃ d, st = ⟨ts, .text d⟩ ∧ d.length < n) ∨
  (∃ d, st = ⟨ts, .escape d⟩ ∧ last = some '\\')

theorem Astray.mono {n n' : ℕ} {last : Option Char} {st : Scan} (h : Astray ts n last st)
    (hn : n ≤ n') : Astray ts n' last st := by
  rcases h with ⟨d, rest, htokens, hd⟩ | ⟨d, hst, hd⟩ | h
  · exact .inl ⟨d, rest, htokens, Nat.lt_of_lt_of_le hd hn⟩
  · exact .inr (.inl ⟨d, hst, Nat.lt_of_lt_of_le hd hn⟩)
  · exact .inr (.inr h)

/-- A backslash takes a character away: read as a literal, and read after a backslash. -/
theorem run_astray (hquote : unescape '"' = some '"') (x : List Char) :
    (∀ s st, '\\' ∈ x → run unescape ⟨ts, .text s⟩ (escapeQuotes x) = some st →
      Astray ts (s.length + x.length) x.getLast? st) ∧
    ∀ s st, run unescape ⟨ts, .escape s⟩ (escapeQuotes x) = some st →
      Astray ts (s.length + 1 + x.length) ('\\' :: x).getLast? st := by
  have hlast : ∀ (c d : Char) (y : List Char), (c :: d :: y).getLast? = (d :: y).getLast? :=
    fun _ _ _ => List.getLast?_cons_cons
  induction x with
  | nil =>
    refine ⟨fun s st hx => absurd hx List.not_mem_nil, fun s st hrun => ?_⟩
    cases hrun
    exact .inr (.inr ⟨s, rfl, rfl⟩)
  | cons c x ih =>
    constructor
    · intro s st hx hrun
      rw [escapeQuotes_cons, run_append] at hrun
      -- what follows a character that is read as it is
      have hnext : '\\' ∈ x → run unescape ⟨ts, .text (s ++ [c])⟩ (escapeQuotes x) = some st →
          Astray ts (s.length + (c :: x).length) (c :: x).getLast? st := by
        intro hx hrun
        have h := ih.1 _ st hx hrun
        cases x with
        | nil => exact absurd hx List.not_mem_nil
        | cons d y =>
          rw [hlast]
          exact h.mono (by simp only [List.length_append, List.length_cons, List.length_nil]; omega)
      by_cases hc : c = '"'
      · subst hc
        rw [if_pos rfl] at hrun
        exact hnext ((List.mem_cons.mp hx).resolve_left (by decide)) (by simpa [hquote] using hrun)
      · rw [if_neg hc] at hrun
        by_cases hb : c = '\\'
        · subst hb
          have h := ih.2 s st hrun
          exact h.mono (by simp only [List.length_cons]; omega)
        · rw [run_cons, step_text hc hb] at hrun
          exact hnext ((List.mem_cons.mp hx).resolve_left (Ne.symm hb)) hrun
    · intro s st hrun
      rw [escapeQuotes_cons, run_append] at hrun
      rw [hlast]
      by_cases hc : c = '"'
      · -- the backslash before the quote is escaped itself, and the quote ends the literal
        subst hc
        rw [if_pos rfl, run_cons, step_escape] at hrun
        cases hd : unescape '\\' with
        | none => simp [hd] at hrun
        | some d =>
          rw [hd] at hrun
          have hended : run unescape ⟨ts ++ [.text (s ++ [d])], .blank⟩ (escapeQuotes x) = some st := by
            simpa using hrun
          obtain ⟨rest, hrest⟩ := tokens_of_run hended
          refine .inl ⟨s ++ [d], rest, ?_, ?_⟩
          · rw [← hrest, List.append_assoc, List.singleton_append]
          · simp only [List.length_append, List.length_cons, List.length_nil]
            omega
      · rw [if_neg hc, run_cons, step_escape] at hrun
        cases hd : unescape c with
        | none => simp [hd] at hrun
        | some d =>
          rw [hd] at hrun
          have hrun : run unescape ⟨ts, .text (s ++ [d])⟩ (escapeQuotes x) = some st := by
            simpa using hrun
          by_cases hx : '\\' ∈ x
          · have h := ih.1 _ st hx hrun
            cases x with
            | nil => exact absurd hx List.not_mem_nil
            | cons e y =>
              rw [hlast]
              exact h.mono (by simp only [List.length_append, List.length_cons, List.length_nil]; omega)
          · rw [run_escapeQuotes hquote hx] at hrun
            refine .inr (.inl ⟨s ++ [d] ++ x, (Option.some.inj hrun).symm, ?_⟩)
            simp only [List.length_append, List.length_cons, List.length_nil]
            omega

/-- Up to the next quote, a text whose last character is not a backslash grows by characters that are
not backslashes either. -/
theorem run_text_last {st : Scan} (hs : s.getLast? ≠ some '\\') (hcs : '\\' ∉ x)
    (h : run unescape ⟨ts, .text s⟩ x = some st) :
    (∃ d rest, st.tokens = ts ++ .text d :: rest ∧ d.getLast? ≠ some '\\') ∨
      ∃ d, st = ⟨ts, .text d⟩ := by
  induction x generalizing s with
  | nil => exact .inr ⟨s, (Option.some.inj h).symm⟩
  | cons c x ih =>
    rw [List.mem_cons, not_or] at hcs
    by_cases hc : c = '"'
    · subst hc
      have hended : run unescape ⟨ts ++ [.text s], .blank⟩ x = some st := by simpa using h
      obtain ⟨rest, hrest⟩ := tokens_of_run hended
      exact .inl ⟨s, rest, by rw [← hrest, List.append_assoc, List.singleton_append], hs⟩
    · rw [run_cons, step_text hc (Ne.symm hcs.1)] at h
      refine ih ?_ hcs.2 h
      rw [List.getLast?_concat]
      exact fun heq => hcs.1 (Option.some.inj heq).symm

/-- **With a backslash**, the literal in the quotes does not denote the text. -/
theorem lex_astray (hquote : unescape '"' = some '"') (hx : '\\' ∈ x) {start rest : List Char}
    (hstart : run unescape ⟨[], .blank⟩ start = some ⟨ts, .text []⟩) (hrest : '\\' ∉ rest)
    {tokens : List Token} (h : lex unescape (start ++ (escapeQuotes x ++ '"' :: rest)) = some tokens) :
    ∃ d more, tokens = ts ++ .text d :: more ∧ d ≠ x := by
  rw [lex, run_append, hstart, Option.bind_some, run_append] at h
  cases hrun : run unescape ⟨ts, .text []⟩ (escapeQuotes x) with
  | none => simp [hrun] at h
  | some st =>
    rw [hrun, Option.bind_some] at h
    cases hrun' : run unescape st ('"' :: rest) with
    | none => simp [hrun'] at h
    | some st' =>
      rw [hrun', Option.bind_some] at h
      have hprefix := tokens_of_finish h
      -- a token that has been read is there at the end
      have hread : ∀ {d : List Char} {more : List Token} {st₁ : Scan}, st₁.tokens <+: tokens →
          st₁.tokens = ts ++ .text d :: more → d ≠ x →
          ∃ d more, tokens = ts ++ .text d :: more ∧ d ≠ x := by
        rintro d more st₁ ⟨more', rfl⟩ htokens hd
        exact ⟨d, more ++ more', by rw [htokens, List.append_assoc, List.cons_append], hd⟩
      have hlength : ∀ {d : List Char}, d.length < ([] : List Char).length + x.length → d ≠ x := by
        rintro d hd rfl
        simp at hd
      rcases (run_astray hquote x).1 [] st hx hrun with
        ⟨d, more, htokens, hd⟩ | ⟨d, rfl, hd⟩ | ⟨d, rfl, hlast⟩
      · exact hread ((tokens_of_run hrun').trans hprefix) htokens (hlength hd)
      · have hended : run unescape ⟨ts ++ [.text d], .blank⟩ rest = some st' := hrun'
        exact hread ((tokens_of_run hended).trans hprefix) rfl (hlength hd)
      · -- the quote that should end the literal is escaped
        rw [run_cons, step_escape, hquote] at hrun'
        have hquoted : (d ++ ['"']).getLast? ≠ some '\\' := by
          rw [List.getLast?_concat]
          decide
        rcases run_text_last hquoted hrest hrun' with ⟨d', more, htokens, hd'⟩ | ⟨d', rfl⟩
        · exact hread hprefix htokens fun heq => hd' (heq ▸ hlast)
        · exact nomatch h

/-- **Without backslashes**, it does. -/
theorem lex_quoted (hquote : unescape '"' = some '"') (hx : '\\' ∉ x) {start rest : List Char}
    (hstart : run unescape ⟨[], .blank⟩ start = some ⟨ts, .text []⟩) :
    lex unescape (start ++ (escapeQuotes x ++ '"' :: rest)) =
      (lex unescape rest).map fun more => ts ++ .text x :: more := by
  rw [lex, run_append, hstart, Option.bind_some, run_append, run_escapeQuotes hquote hx,
    Option.bind_some, run_cons, List.nil_append, step_text_quote, Option.bind_some]
  have hafter := run_after unescape (ts ++ [.text x]) ⟨[], .blank⟩ rest
  have hst : (Scan.mk [] .blank).after (ts ++ [.text x]) = ⟨ts ++ [.text x], .blank⟩ :=
    congrArg (Scan.mk · _) (List.append_nil _)
  rw [hst] at hafter
  rw [hafter, lex]
  cases run unescape ⟨[], .blank⟩ rest with
  | none => rfl
  | some st =>
    obtain ⟨ts', mode⟩ := st
    cases mode with
    | blank => simp [Scan.after, finish]
    | word w => simp [Scan.after, finish]
    | text | escape => rfl

end Escaped

/-! ### Literals in their place -/

/-- A word, as a plain name is. -/
structure IsWord (w : List Char) : Prop where
  /-- It is not empty. -/
  ne_nil : w ≠ []
  /-- It has no other characters. -/
  chars : ∀ c ∈ w, wordChar c = true

/-- The text that `query` builds for `x` has the tokens that it has for every plain name, but for one
literal, which denotes `x` in the place of the name. -/
def Denotes (unescape : Char → Option Char) (query : List Char → List Char) (x : List Char) : Prop :=
  ∃ pre post, (∀ y, IsWord y → lex unescape (query y) = some (pre ++ .text y :: post)) ∧
    lex unescape (query x) = some (pre ++ .text x :: post)

section Denotes

variable {unescape : Char → Option Char} {x : List Char}

theorem not_mem_of_wordChar {w : List Char} {c : Char} (hw : ∀ d ∈ w, wordChar d = true)
    (hc : wordChar c = false) : c ∉ w := fun hmem => Bool.noConfusion ((hw c hmem).symm.trans hc)

/-- Two plain names tell where the name is. -/
theorem pre_length_le {pre pre' post post' : List Token}
    (h : ∀ y, IsWord y → pre ++ .text y :: post = pre' ++ .text y :: post') :
    pre'.length ≤ pre.length := by
  by_contra hlt
  rw [Nat.not_le] at hlt
  have hat : ∀ y, IsWord y → pre'[pre.length]? = some (.text y) := by
    intro y hy
    have hget := congrArg (·[pre.length]?) (h y hy)
    simpa [List.getElem?_append_left hlt] using hget.symm
  have ha := hat ['a'] ⟨List.cons_ne_nil _ _, List.forall_mem_singleton.mpr rfl⟩
  have hb := hat ['b'] ⟨List.cons_ne_nil _ _, List.forall_mem_singleton.mpr rfl⟩
  rw [ha] at hb
  exact absurd hb (by decide)

/-- **Escaping quotes**: exactly the texts without backslashes are denoted. -/
theorem denotes_iff (hquote : unescape '"' = some '"') {query : List Char → List Char}
    {start rest : List Char} (hstart : Balanced start) (hrest : Balanced rest)
    (hbackslash : '\\' ∉ rest)
    (hquery : ∀ y, query y = (start ++ ['"']) ++ (escapeQuotes y ++ '"' :: rest)) :
    Denotes unescape query x ↔ '\\' ∉ x := by
  have hblank : (Scan.mk [] .blank).InCode := .inl rfl
  obtain ⟨st, hst, hcode⟩ : ∃ st', run unescape ⟨[], .blank⟩ start = some st' ∧ st'.InCode :=
    run_balanced hblank hstart
  obtain ⟨ts, hts⟩ : ∃ ts, step unescape st '"' = some ⟨ts, .text []⟩ := step_quote hcode
  have hrun : run unescape ⟨[], .blank⟩ (start ++ ['"']) = some ⟨ts, .text []⟩ := by
    rw [run_append, hst, Option.bind_some, run_cons, hts]
    rfl
  obtain ⟨st', hst', hcode'⟩ : ∃ st', run unescape ⟨[], .blank⟩ rest = some st' ∧ st'.InCode :=
    run_balanced hblank hrest
  obtain ⟨post, hpost⟩ := finish_inCode hcode'
  have hlex : lex unescape rest = some post := by rw [lex, hst', Option.bind_some, hpost]
  have hplain : ∀ y, '\\' ∉ y → lex unescape (query y) = some (ts ++ .text y :: post) := by
    intro y hy
    rw [hquery, lex_quoted hquote hy hrun, hlex]
    rfl
  have hword : ∀ y, IsWord y → '\\' ∉ y := fun y hy => not_mem_of_wordChar hy.chars (by decide)
  constructor
  · rintro ⟨pre, post', hwords, hdenotes⟩ hx
    rw [hquery] at hdenotes
    obtain ⟨d, more, htokens, hd⟩ := lex_astray hquote hx hrun hbackslash hdenotes
    have heq : ∀ y, IsWord y → pre ++ .text y :: post' = ts ++ .text y :: post := fun y hy =>
      Option.some.inj ((hwords y hy).symm.trans (hplain y (hword y hy)))
    have hlength := Nat.le_antisymm (pre_length_le fun y hy => (heq y hy).symm) (pre_length_le heq)
    have htext := List.append_inj_right htokens hlength
    exact hd (Token.text.inj (List.cons.inj htext).1).symm
  · exact fun hx => ⟨ts, post, fun y hy => hplain y (hword y hy), hplain x hx⟩

end Denotes

end OpenframeAdapters.Flux
