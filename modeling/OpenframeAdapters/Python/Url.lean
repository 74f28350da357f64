import Mathlib.Data.Bool.AllAny
import Mathlib.Data.List.TakeDrop
import Mathlib.Data.List.TakeWhile
import Mathlib.Data.Nat.Notation

/-!
# URLs

A URL is split at its delimiters, and nothing is decoded. A component of a URL is percent-encoded:
a character that is not kept stands as the bytes of its UTF-8 encoding.

## The model

* `partition` and `rpartition` — a text before and behind the first, or the last, occurrence of a
  character.
* `urlparse` — `urllib.parse.urlparse`, as far as the network location and the path go. Parameters
  (`;…`) are left in the path, as they are for all schemes but a few. The checks of IPv6 addresses and
  of characters beyond ASCII are left out, and `lower` is that of ASCII.
* `quote` — `urllib.parse.quote`, where the characters that are kept are given.

## What is proved

* `partition_append`, `rpartition_append` — a text is split where its parts meet.
* `urlparse_append`, `ParseResult.userinfo_append`, `ParseResult.hostinfo_append` — the parts of a
  URL whose components consist of characters that may stand in them.
* `quote_eq_self_iff` — a text is its own encoding exactly if all its characters are kept.
-/

namespace OpenframeAdapters.Python

/-! ### Splitting -/

/-- `s.partition(c)`: what comes before `c`, and what comes behind it, if there is one. -/
def partition (c : Char) (s : List Char) : List Char × Option (List Char) :=
  (s.takeWhile (· ≠ c), (s.dropWhile (· ≠ c)).tail?)

/-- `s.rpartition(c)`: what comes before the last `c`, if there is one, and what comes behind it. -/
def rpartition (c : Char) (s : List Char) : Option (List Char) × List Char :=
  ((partition c s.reverse).2.map List.reverse, (partition c s.reverse).1.reverse)

section Partition

variable {c : Char} {s t : List Char}

theorem ne_of_notMem (h : c ∉ s) : ∀ d ∈ s, decide (d ≠ c) = true := by
  intro d hd
  apply decide_eq_true
  rintro rfl
  exact h hd

/-- The first occurrence. -/
theorem partition_append (h : c ∉ s) : partition c (s ++ c :: t) = (s, some t) := by
  unfold partition
  rw [List.takeWhile_append_of_pos (ne_of_notMem h), List.dropWhile_append_of_pos (ne_of_notMem h)]
  simp

/-- No occurrence. -/
theorem partition_of_notMem (h : c ∉ s) : partition c s = (s, none) := by
  unfold partition
  rw [List.takeWhile_eq_self_iff.mpr (ne_of_notMem h), List.dropWhile_eq_nil_iff.mpr (ne_of_notMem h)]
  rfl

/-- The last occurrence. -/
theorem rpartition_append (h : c ∉ t) : rpartition c (s ++ c :: t) = (some s, t) := by
  have hreverse : (s ++ c :: t).reverse = t.reverse ++ c :: s.reverse := by
    rw [List.reverse_append, List.reverse_cons, List.append_assoc]
    rfl
  unfold rpartition
  rw [hreverse, partition_append (by rwa [List.mem_reverse]), Option.map_some, List.reverse_reverse,
    List.reverse_reverse]

end Partition

/-! ### Parsing -/

/-- What `urlparse` gives. -/
structure ParseResult where
  /-- `parsed.netloc`. -/
  netloc : List Char
  /-- `parsed.path`. -/
  path : List Char

/-- A character of a scheme. -/
def isSchemeChar (c : Char) : Bool := c.isAlphanum || ['+', '-', '.'].contains c

/-- The scheme of a URL begins with a letter. -/
def isScheme : List Char → Bool
  | [] => false
  | c :: cs => c.isAlpha && (c :: cs).all isSchemeChar

/-- The characters that end a network location. -/
def endsNetloc (c : Char) : Bool := ['/', '?', '#'].contains c

/-- `urlparse(url)`. The `ValueError` is parametrised. -/
def urlparse {ε : Type} (valueError : ε) (url : List Char) : Except ε ParseResult :=
  let url := (url.dropWhile fun c => c.toNat ≤ 32).filter fun c => !(['\t', '\r', '\n'].contains c)
  let url := match partition ':' url with
    | (scheme, some rest) => if isScheme scheme then rest else url
    | (_, none) => url
  let (netloc, url) := match url with
    | '/' :: '/' :: rest => rest.span fun c => !endsNetloc c
    | _ => ([], url)
  if netloc.contains '[' = netloc.contains ']' then
    .ok ⟨netloc, (partition '?' (partition '#' url).1).1⟩
  else .error valueError

namespace ParseResult

variable {ε : Type} (parsed : ParseResult)

/-- `parsed.username` and `parsed.password`. -/
def userinfo : Option (List Char) × Option (List Char) :=
  match (rpartition '@' parsed.netloc).1 with
  | some info => (some (partition ':' info).1, (partition ':' info).2)
  | none => (none, none)

/-- `parsed._hostinfo`. -/
def hostinfo : List Char × List Char :=
  let info := (rpartition '@' parsed.netloc).2
  match (partition '[' info).2 with
  | some bracketed =>
    ((partition ']' bracketed).1,
      (partition ':' ((partition ']' bracketed).2.getD [])).2.getD [])
  | none => ((partition ':' info).1, (partition ':' info).2.getD [])

/-- `parsed.hostname`: in lower case, up to a `%`. -/
def hostname : Option (List Char) :=
  let host := parsed.hostinfo.1
  if host = [] then none
  else some ((host.takeWhile (· ≠ '%')).map Char.toLower ++ host.dropWhile (· ≠ '%'))

/-- `parsed.port`. -/
def port (valueError : ε) : Except ε (Option ℕ) :=
  let digits := parsed.hostinfo.2
  if digits = [] then .ok none
  else if digits.all Char.isDigit && Nat.ofDigitChars 10 digits 0 ≤ 65535 then
    .ok (some (Nat.ofDigitChars 10 digits 0))
  else .error valueError

end ParseResult

/-! ### The parts of a URL -/

/-- The unreserved characters. -/
def isUnreserved (c : Char) : Bool := c.isAlphanum || ['-', '.', '_', '~'].contains c

/-- The characters that may delimit parts of a component. -/
def isSubDelim (c : Char) : Bool :=
  ['!', '$', '&', '\x27', '(', ')', '*', '+', ',', ';', '='].contains c

/-- The characters that may stand in a segment of a path, the `%` of an encoded one included. -/
def isPathChar (c : Char) : Bool :=
  isUnreserved c || isSubDelim c || ['%', ':', '@'].contains c

section Parse

variable {ε : Type} {v : ε} {scheme netloc path user password host digits : List Char} {c : Char}

theorem not_isPathChar : ∀ c ∈ ['/', '?', '#', '[', ']', '\t', '\r', '\n'], isPathChar c = false :=
  List.all_iff_forall_prop.mp (by decide)

theorem not_isSchemeChar : ∀ c ∈ [':', '\t', '\r', '\n'], isSchemeChar c = false :=
  List.all_iff_forall_prop.mp (by decide)

theorem notMem_of_isPathChar (h : ∀ d ∈ path, isPathChar d = true)
    (hc : c ∈ ['/', '?', '#', '[', ']', '\t', '\r', '\n']) : c ∉ path := by
  intro hmem
  have hnot := not_isPathChar c hc
  rw [h c hmem] at hnot
  exact Bool.noConfusion hnot

theorem notMem_of_isSchemeChar (h : ∀ d ∈ scheme, isSchemeChar d = true)
    (hc : c ∈ [':', '\t', '\r', '\n']) : c ∉ scheme := by
  intro hmem
  have hnot := not_isSchemeChar c hc
  rw [h c hmem] at hnot
  exact Bool.noConfusion hnot

theorem toNat_of_isAlpha (h : c.isAlpha = true) : 32 < c.toNat := by
  change (decide (c.val ≥ 'A'.val ∧ c.val ≤ 'Z'.val) ||
    decide (c.val ≥ 'a'.val) && decide (c.val ≤ 'z'.val)) = true at h
  simp only [Bool.or_eq_true, Bool.and_eq_true, decide_eq_true_eq, UInt32.le_iff_toNat_le,
    ge_iff_le] at h
  have hc : c.toNat = c.val.toNat := rfl
  have hA : 'A'.val.toNat = 65 := rfl
  have ha : 'a'.val.toNat = 97 := rfl
  omega

/-- Nothing is filtered out of such a URL. -/
theorem filter_url (hscheme : ∀ d ∈ scheme, isSchemeChar d = true)
    (hnetloc : ∀ d ∈ netloc, isPathChar d = true) (hpath : ∀ d ∈ path, isPathChar d = true) :
    (scheme ++ ':' :: '/' :: '/' :: (netloc ++ '/' :: path)).filter
        (fun c => !(['\t', '\r', '\n'].contains c)) =
      scheme ++ ':' :: '/' :: '/' :: (netloc ++ '/' :: path) := by
  refine List.filter_eq_self.mpr fun d hd => ?_
  rw [Bool.not_eq_true', List.contains_eq_mem, decide_eq_false_iff_not]
  intro hunsafe
  have hin : d ∈ ['/', '?', '#', '[', ']', '\t', '\r', '\n'] :=
    List.mem_append_right ['/', '?', '#', '[', ']'] hunsafe
  rcases List.mem_append.mp hd with hd | hd
  · exact notMem_of_isSchemeChar hscheme (List.mem_cons_of_mem ':' hunsafe) hd
  simp only [List.mem_cons, List.mem_append] at hd
  rcases hd with rfl | rfl | rfl | hd | rfl | hd
  · exact absurd hunsafe (by decide)
  · exact absurd hunsafe (by decide)
  · exact absurd hunsafe (by decide)
  · exact notMem_of_isPathChar hnetloc hin hd
  · exact absurd hunsafe (by decide)
  · exact notMem_of_isPathChar hpath hin hd

/-- The network location ends at the path. -/
theorem span_netloc (hnetloc : ∀ d ∈ netloc, isPathChar d = true) :
    (netloc ++ '/' :: path).span (fun d => !endsNetloc d) = (netloc, '/' :: path) := by
  have hends : ∀ d ∈ netloc, (!endsNetloc d) = true := by
    intro d hd
    rw [Bool.not_eq_true', endsNetloc, List.contains_eq_mem, decide_eq_false_iff_not]
    intro hdelim
    exact notMem_of_isPathChar hnetloc (List.mem_append_left ['[', ']', '\t', '\r', '\n'] hdelim) hd
  rw [List.span_eq_takeWhile_dropWhile, List.takeWhile_append_of_pos hends,
    List.dropWhile_append_of_pos hends]
  simp [endsNetloc]

/-- A URL with a network location and a path. -/
theorem urlparse_append (hscheme : isScheme scheme = true)
    (hnetloc : ∀ d ∈ netloc, isPathChar d = true) (hpath : ∀ d ∈ path, isPathChar d = true) :
    urlparse v (scheme ++ ':' :: '/' :: '/' :: (netloc ++ '/' :: path)) =
      .ok ⟨netloc, '/' :: path⟩ := by
  obtain ⟨c, cs, rfl⟩ : ∃ c cs, scheme = c :: cs := by
    cases scheme with
    | nil => exact Bool.noConfusion hscheme
    | cons c cs => exact ⟨c, cs, rfl⟩
  obtain ⟨halpha, hchars⟩ := Bool.and_eq_true_iff.mp hscheme
  rw [List.all_eq_true] at hchars
  have hspace : ¬ c.toNat ≤ 32 := by
    have := toNat_of_isAlpha halpha
    omega
  have hcolon : ':' ∉ c :: cs := notMem_of_isSchemeChar hchars (by decide)
  have hbrackets : netloc.contains '[' = netloc.contains ']' := by
    rw [List.contains_eq_mem, List.contains_eq_mem,
      decide_eq_false (notMem_of_isPathChar hnetloc (by decide)),
      decide_eq_false (notMem_of_isPathChar hnetloc (by decide))]
  have hfragment : '#' ∉ '/' :: path :=
    List.not_mem_cons_of_ne_of_not_mem (by decide) (notMem_of_isPathChar hpath (by decide))
  have hquery : '?' ∉ '/' :: path :=
    List.not_mem_cons_of_ne_of_not_mem (by decide) (notMem_of_isPathChar hpath (by decide))
  unfold urlparse
  rw [List.cons_append, List.dropWhile_cons_of_neg (by simpa using hspace), ← List.cons_append,
    filter_url hchars hnetloc hpath]
  simp only [partition_append hcolon, hscheme, if_true, span_netloc hnetloc, hbrackets]
  rw [partition_of_notMem hfragment, partition_of_notMem hquery]

namespace ParseResult

/-- The user and the password. -/
theorem userinfo_append (huser : ':' ∉ user) (hhost : '@' ∉ host) :
    userinfo ⟨user ++ ':' :: password ++ '@' :: host, path⟩ = (some user, some password) := by
  unfold userinfo
  simp only [rpartition_append hhost, partition_append huser]

/-- The host and the port. -/
theorem hostinfo_append (hcolon : ':' ∉ host) (hbracket : '[' ∉ host ++ ':' :: digits)
    (hat : '@' ∉ host ++ ':' :: digits) :
    hostinfo ⟨user ++ '@' :: (host ++ ':' :: digits), path⟩ = (host, digits) := by
  unfold hostinfo
  simp only [rpartition_append hat, partition_of_notMem hbracket]
  rw [partition_append hcolon, Option.getD_some]

variable {parsed : ParseResult}

/-- A host that is in lower case already. -/
theorem hostname_of_hostinfo (h : parsed.hostinfo = (host, digits))
    (hlower : ∀ d ∈ host, d.toLower = d) :
    parsed.hostname = if host = [] then none else some host := by
  have hmap : (host.takeWhile (· ≠ '%')).map Char.toLower = host.takeWhile (· ≠ '%') := by
    calc (host.takeWhile (· ≠ '%')).map Char.toLower
        = (host.takeWhile (· ≠ '%')).map id :=
          List.map_congr_left fun d hd => hlower d (List.takeWhile_subset _ hd)
      _ = host.takeWhile (· ≠ '%') := List.map_id _
  unfold hostname
  simp only [h]
  rw [hmap, List.takeWhile_append_dropWhile]

/-- A port in decimal digits. -/
theorem port_of_hostinfo {n : ℕ} (h : parsed.hostinfo = (host, Nat.toDigits 10 n))
    (hn : n ≤ 65535) : parsed.port v = .ok (some n) := by
  have hdigits : (Nat.toDigits 10 n).all Char.isDigit = true :=
    List.all_eq_true.mpr fun _ hc =>
      Nat.isDigit_of_mem_toDigits (by omega) (Nat.le_refl 10) hc
  unfold port
  simp only [h]
  rw [if_neg Nat.toDigits_ne_nil, hdigits, Nat.ofDigitChars_ten_toDigits, if_pos (by simpa using hn)]

end ParseResult

end Parse

/-! ### Encoding -/

/-- The hexadecimal digits. -/
def hexDigits : List Char :=
  ['0', '1', '2', '3', '4', '5', '6', '7', '8', '9', 'A', 'B', 'C', 'D', 'E', 'F']

/-- `%XX`. -/
def percentByte (b : UInt8) : List Char :=
  ['%', hexDigits.getD (b.toNat / 16) '0', hexDigits.getD (b.toNat % 16) '0']

/-- A character in a component. -/
def quoteChar (kept : Char → Bool) (c : Char) : List Char :=
  if kept c then [c] else (String.utf8EncodeChar c).flatMap percentByte

/-- `quote(s)`. -/
def quote (kept : Char → Bool) (s : List Char) : List Char := s.flatMap (quoteChar kept)

section Quote

variable {kept : Char → Bool} {s : List Char} {c : Char}

theorem length_flatMap_percentByte (bs : List UInt8) :
    (bs.flatMap percentByte).length = 3 * bs.length := by
  induction bs with
  | nil => rfl
  | cons b bs ih =>
    rw [List.flatMap_cons, List.length_append, ih, List.length_cons]
    have hbyte : (percentByte b).length = 3 := rfl
    omega

/-- An encoded character is longer. -/
theorem length_quoteChar (kept : Char → Bool) (c : Char) : 1 ≤ (quoteChar kept c).length ∧
    ((quoteChar kept c).length = 1 → kept c = true) := by
  unfold quoteChar
  split_ifs with h
  · exact ⟨Nat.le_refl 1, fun _ => h⟩
  · have hbytes : 1 ≤ (String.utf8EncodeChar c).length := by
      rw [String.length_utf8EncodeChar]
      exact Char.utf8Size_pos c
    rw [length_flatMap_percentByte]
    exact ⟨by omega, fun hone => by omega⟩

theorem length_le_quote (kept : Char → Bool) (s : List Char) : s.length ≤ (quote kept s).length := by
  induction s with
  | nil => exact Nat.le_refl 0
  | cons c cs ih =>
    have hc := (length_quoteChar kept c).1
    have hquote : quote kept (c :: cs) = quoteChar kept c ++ quote kept cs := List.flatMap_cons
    rw [hquote, List.length_append, List.length_cons]
    omega

/-- **Encoding** changes nothing exactly if every character is kept. -/
theorem quote_eq_self_iff : quote kept s = s ↔ ∀ c ∈ s, kept c = true := by
  constructor
  · intro h
    induction s with
    | nil => exact fun _ hc => (List.not_mem_nil hc).elim
    | cons c cs ih =>
      have hquote : quoteChar kept c ++ quote kept cs = c :: cs :=
        List.flatMap_cons.symm.trans h
      have hlength := congrArg List.length hquote
      rw [List.length_append, List.length_cons] at hlength
      have hle := length_le_quote kept cs
      obtain ⟨hpos, hone⟩ := length_quoteChar kept c
      have hkept : kept c = true := hone (by omega)
      rw [quoteChar, if_pos hkept] at hquote
      exact List.forall_mem_cons.mpr ⟨hkept, ih (List.cons.inj hquote).2⟩
  · intro h
    induction s with
    | nil => rfl
    | cons c cs ih =>
      obtain ⟨hc, hcs⟩ := List.forall_mem_cons.mp h
      have hquote : quote kept (c :: cs) = quoteChar kept c ++ quote kept cs := List.flatMap_cons
      rw [hquote, ih hcs, quoteChar, if_pos hc]
      rfl

/-- What an encoding consists of. -/
theorem mem_quote (h : c ∈ quote kept s) : kept c = true ∨ c = '%' ∨ c ∈ hexDigits := by
  have hdigit : ∀ n : ℕ, hexDigits.getD n '0' ∈ hexDigits := by
    intro n
    rw [List.getD_eq_getElem?_getD]
    cases hn : hexDigits[n]? with
    | none => exact List.mem_cons_self ..
    | some d => exact List.mem_of_getElem? hn
  obtain ⟨d, -, hc⟩ := List.mem_flatMap.mp h
  unfold quoteChar at hc
  split_ifs at hc with hkept
  · rw [List.mem_singleton.mp hc]
    exact .inl hkept
  · obtain ⟨b, -, hc⟩ := List.mem_flatMap.mp hc
    right
    simp only [percentByte, List.mem_cons, List.not_mem_nil, or_false] at hc
    rcases hc with rfl | rfl | rfl
    · exact .inl rfl
    · exact .inr (hdigit _)
    · exact .inr (hdigit _)

theorem isPathChar_hexDigits : ∀ d ∈ hexDigits, isPathChar d = true :=
  List.all_iff_forall_prop.mp (by decide)

/-- An encoding consists of characters of a URL. -/
theorem isPathChar_of_mem_quote (hkept : ∀ d, kept d = true → isPathChar d = true)
    (h : c ∈ quote kept s) : isPathChar c = true := by
  rcases mem_quote h with hc | rfl | hc
  · exact hkept c hc
  · decide
  · exact isPathChar_hexDigits c hc

/-- A delimiter does not occur in an encoding. -/
theorem notMem_quote (hkept : kept c = false) (hc : c ∉ '%' :: hexDigits) : c ∉ quote kept s := by
  intro hmem
  rcases mem_quote hmem with h | rfl | h
  · rw [hkept] at h
    exact Bool.noConfusion h
  · exact hc List.mem_cons_self
  · exact hc (List.mem_cons_of_mem '%' h)

end Quote

end OpenframeAdapters.Python
