import Mathlib.Data.Bool.AllAny
import Mathlib.Data.List.Count
import Mathlib.Data.Prod.Lex
import OpenframeAdapters.Core.Exceptions
import OpenframeAdapters.Python.Dict
import OpenframeAdapters.Python.Regex

/-!
# The pins of the meta package

`check_meta_extras()` of `scripts/check_adapter_checklist.py` compares the version of a package with
the pin that the meta package has for it. The floor is compared as a version, and of the ceiling the
leading component only.

## The model

* `parseVersion` and `checkMetaExtras` — the check. The `optional-dependencies` of the meta package
  are an argument, as is what `!r` makes of a string. Texts are ASCII.
* `Component`, `Release`, `Pin` — numbers, versions of one to three of them, and
  `name>=floor,<ceiling`.
* `FindsStalePin` — a stale pin is reported exactly where the version is not in the interval.

## What is proved

* `checkMetaExtras_pin` — what is reported of a pin.
* `findsStalePin_iff` — the pins of which it is reported rightly.
* `not_findsStalePin` — a ceiling below the next major version.
-/

namespace OpenframeAdapters.Scripts

open Python OpenframeAdapters.Core

/-! ### The script -/

/-- `Finding`. -/
structure Finding where
  /-- `package`. -/
  package : String
  /-- `severity`. -/
  severity : String
  /-- `check`. -/
  check : String
  /-- `message`. -/
  message : String
  deriving DecidableEq

/-- A tuple `(major, minor, patch)`, as Python compares it. -/
abbrev Version := ℕ ×ₗ ℕ ×ₗ ℕ

/-- A tuple. -/
def version (major minor patch : ℕ) : Version := toLex (major, toLex (minor, patch))

/-- `actual[0]`. -/
def Version.major (v : Version) : ℕ := (ofLex v).1

/-- `int(digits)`, of digits. -/
def int (digits : List Char) : ℕ := digits.foldl (fun n c => 10 * n + (c.toNat - '0'.toNat)) 0

/-- `(\d+)\.(\d+)\.(\d+)`. -/
def versionPattern : Re :=
  .seq (.group (.plus digit)) (.seq (.lit ['.']) (.seq (.group (.plus digit))
    (.seq (.lit ['.']) (.group (.plus digit)))))

/-- `parse_version(v)`. -/
def parseVersion (v : List Char) : Version :=
  match reMatch versionPattern v with
  | some ⟨_, [major, minor, patch]⟩ => version (int major) (int minor) (int patch)
  | _ => version 0 0 0

/-- `openframe-adapters-(?:db|queue)-(.+)`. -/
def packagePattern : Re :=
  .seq (.lit "openframe-adapters-".toList) (.seq (.alt (.lit "db".toList) (.lit "queue".toList))
    (.seq (.lit ['-']) (.group (.plus (· ≠ '\n')))))

/-- `extra_key`. -/
def extraKey (pkgName : String) : Option String :=
  match reMatch packagePattern pkgName.toList with
  | some ⟨_, [key]⟩ => some (String.ofList key)
  | _ => none

/-- `[\w.-]`. -/
def nameChar (c : Char) : Bool := word c || c = '.' || c = '-'

/-- `name_match.group(1)`. -/
def referenced (spec : String) : Option String :=
  match reMatch (.group (.plus nameChar)) spec.toList with
  | some ⟨_, [name]⟩ => some (String.ofList name)
  | _ => none

/-- `[\d.]`. -/
def rangeChar (c : Char) : Bool := digit c || c = '.'

/-- `>=\s*([\d.]+)\s*,\s*<\s*([\d.]+)`. -/
def rangePattern : Re :=
  .seq (.lit ['>', '=']) (.seq (.many space) (.seq (.group (.plus rangeChar)) (.seq (.many space)
    (.seq (.lit [',']) (.seq (.many space) (.seq (.lit ['<']) (.seq (.many space)
      (.group (.plus rangeChar)))))))))

/-- `floor_str + ".0" * (2 - floor_str.count("."))`. -/
def padded (floor : List Char) : List Char :=
  floor ++ (List.replicate (2 - floor.count '.') ['.', '0']).flatten

/-- `int(ceiling_str.split(".")[0])`. The `ValueError` is for a text that begins with a dot. -/
def ceilingMajor (ceiling : List Char) : Except PyExc ℕ :=
  match ceiling.takeWhile (· ≠ '.') with
  | [] => .error valueError
  | digits => .ok (int digits)

/-- The finding `meta-extras-missing`. -/
def missing (pkgName : String) (key : Option String) : Finding :=
  let shown := key.getD "<unrecognised>"
  let extra := key.getD "None"
  ⟨pkgName, "FAIL", "meta-extras-missing",
    s!"No '{shown}' entry in meta/openframe-adapters/pyproject.toml's " ++
      "[project.optional-dependencies] — " ++
      s!"`pip install openframe-adapters[{extra}]` would not install this package."⟩

/-- The finding `meta-extras-name-mismatch`. -/
def nameMismatch (pkgName key shown : String) : Finding :=
  ⟨pkgName, "FAIL", "meta-extras-name-mismatch",
    s!"meta extras['{key}'] = {shown} does not reference distribution '{pkgName}' — likely a " ++
      "copy-paste error from an adjacent extra."⟩

/-- The finding `meta-extras-stale-pin`. -/
def stalePin (pkgName key spec pkgVersion : String) : Finding :=
  ⟨pkgName, "FAIL", "meta-extras-stale-pin",
    s!"meta extras['{key}'] pin is '{spec}' but the package's actual current version is " ++
      s!"{pkgVersion} — the pin doesn't cover it. This is the exact 'placeholder pin left over " ++
      "from before the package existed for real' bug fixed repeatedly across nearly every wave " ++
      "this repo has shipped."⟩

/-- The version is below the floor, or its major is not below that of the ceiling. -/
def stale (floor ceiling pkgVersion : List Char) : Except PyExc Bool := do
  let ceilingMajor ← ceilingMajor ceiling
  let actual := parseVersion pkgVersion
  return !decide (parseVersion (padded floor) ≤ actual) || decide (ceilingMajor ≤ actual.major)

/-- `check_meta_extras(pkg_dir, pkg_name, pkg_version)`. -/
def checkMetaExtras (repr : String → String) (extras : Dict String (List String))
    (pkgName pkgVersion : String) : Except PyExc (List Finding) :=
  match (extraKey pkgName).bind fun key => (extras.get? key).map fun specs => (key, specs) with
  | none => .ok [missing pkgName (extraKey pkgName)]
  | some (key, specs) => do
    let spec := specs.head?.getD ""
    let mismatches :=
      if referenced spec = some pkgName then [] else [nameMismatch pkgName key (repr spec)]
    match reSearch rangePattern spec.toList with
    | some ⟨_, [floor, ceiling]⟩ =>
      if ← stale floor ceiling pkgVersion.toList then
        return mismatches ++ [stalePin pkgName key spec pkgVersion]
      else
        return mismatches
    | _ => return mismatches

/-! ### Versions and pins -/

/-- A number in a version. -/
structure Component where
  /-- Its digits. -/
  digits : List Char
  /-- There are some. -/
  ne_nil : digits ≠ []
  /-- They are digits. -/
  isDigit : ∀ c ∈ digits, digit c = true

/-- The number. -/
def Component.value (c : Component) : ℕ := int c.digits

/-- A version of one to three numbers. -/
inductive Release where
  /-- `major`. -/
  | one (major : Component)
  /-- `major.minor`. -/
  | two (major minor : Component)
  /-- `major.minor.patch`. -/
  | three (major minor patch : Component)

namespace Release

/-- The text of a version. -/
def text : Release → List Char
  | one x => x.digits
  | two x y => x.digits ++ '.' :: y.digits
  | three x y z => x.digits ++ '.' :: (y.digits ++ '.' :: z.digits)

/-- The numbers that a version has; the other ones are `0`. -/
def value : Release → Version
  | one x => version x.value 0 0
  | two x y => version x.value y.value 0
  | three x y z => version x.value y.value z.value

end Release

/-- `name>=floor,<ceiling`. -/
structure Pin where
  /-- The name of the distribution. -/
  name : List Char
  /-- Its characters. -/
  isName : ∀ c ∈ name, nameChar c = true
  /-- `floor`. -/
  floor : Release
  /-- `ceiling`. -/
  ceiling : Release

/-- The text of a pin. -/
def Pin.text (pin : Pin) : List Char :=
  pin.name ++ '>' :: '=' :: (pin.floor.text ++ ',' :: '<' :: pin.ceiling.text)

section Parsing

theorem digit_dot : digit '.' = false := by decide

theorem notMem_dot (x : Component) : '.' ∉ x.digits := by
  intro h
  have hdot := x.isDigit '.' h
  rw [digit_dot] at hdot
  cases hdot

/-- **Parsing** a version of three numbers. -/
theorem parseVersion_three (x y z : Component) :
    parseVersion (Release.three x y z).text = (Release.three x y z).value := by
  have hdot : ∀ cs : List Char, ∀ c ∈ ('.' :: cs).head?, digit c = false := by
    rintro cs c hc
    obtain rfl := Option.some.inj hc
    exact digit_dot
  have hmatch : reMatch versionPattern (Release.three x y z).text =
      some ⟨[], [x.digits, y.digits, z.digits]⟩ := by
    unfold reMatch versionPattern
    rw [Re.run_seq]
    refine Re.run_group_plus x.ne_nil x.isDigit (hdot _) ?_
    rw [Re.run_seq]
    refine (Re.run_lit ['.']).trans ?_
    rw [Re.run_seq]
    refine Re.run_group_plus y.ne_nil y.isDigit (hdot _) ?_
    rw [Re.run_seq]
    refine (Re.run_lit ['.']).trans ?_
    exact Re.run_group_plus_end z.ne_nil z.isDigit rfl
  unfold parseVersion
  rw [hmatch]
  rfl

/-- `0`. -/
def zero : Component := ⟨['0'], List.cons_ne_nil _ _, List.forall_mem_singleton.mpr (by decide)⟩

/-- **The floor** is padded to three numbers. -/
theorem parseVersion_padded (release : Release) :
    parseVersion (padded release.text) = release.value := by
  have hcount : ∀ x : Component, x.digits.count '.' = 0 := fun x =>
    List.count_eq_zero.mpr (notMem_dot x)
  cases release with
  | one x =>
    have hpadded : padded (Release.one x).text = (Release.three x zero zero).text := by
      unfold padded Release.text
      rw [hcount]
      rfl
    rw [hpadded, parseVersion_three]
    rfl
  | two x y =>
    have hpadded : padded (Release.two x y).text = (Release.three x y zero).text := by
      unfold padded Release.text
      rw [List.count_append, List.count_cons_self, hcount, hcount]
      simp [zero]
    rw [hpadded, parseVersion_three]
    rfl
  | three x y z =>
    have hpadded : padded (Release.three x y z).text = (Release.three x y z).text := by
      unfold padded Release.text
      rw [List.count_append, List.count_cons_self, List.count_append, List.count_cons_self, hcount,
        hcount, hcount]
      simp
    rw [hpadded, parseVersion_three]

/-- **The ceiling** is cut behind its first number. -/
theorem ceilingMajor_text (release : Release) :
    ceilingMajor release.text = .ok release.value.major := by
  have hfirst : ∀ (x : Component) (rest : List Char), rest = [] ∨ (∃ cs, rest = '.' :: cs) →
      ceilingMajor (x.digits ++ rest) = .ok x.value := by
    intro x rest hrest
    have hne : ∀ c ∈ x.digits, decide (c ≠ '.') = true := fun c hc =>
      decide_eq_true fun h => notMem_dot x (h ▸ hc)
    have htake : (x.digits ++ rest).takeWhile (· ≠ '.') = x.digits := by
      rw [List.takeWhile_append_of_pos hne]
      rcases hrest with rfl | ⟨cs, rfl⟩
      · simp
      · simp
    obtain ⟨c, cs, hcs⟩ := List.exists_cons_of_ne_nil x.ne_nil
    unfold ceilingMajor
    rw [htake, Component.value, hcs]
  cases release with
  | one x =>
    have h := hfirst x [] (.inl rfl)
    rw [List.append_nil] at h
    exact h
  | two x y => exact hfirst x _ (.inr ⟨_, rfl⟩)
  | three x y z => exact hfirst x _ (.inr ⟨_, rfl⟩)

theorem not_space_of_digit {c : Char} (h : digit c = true) : space c = false := by
  have hspaces : ∀ d ∈ [' ', '\t', '\n', '\r', '\x0b', '\x0c'], digit d = false :=
    List.all_iff_forall_prop.mp (by decide)
  by_contra hspace
  rw [Bool.not_eq_false, space, List.contains_iff_mem] at hspace
  exact Bool.false_ne_true ((hspaces c hspace).symm.trans h)

/-- The text of a version is not empty. -/
theorem text_ne_nil (release : Release) : release.text ≠ [] := by
  cases release with
  | one x => exact x.ne_nil
  | two x y | three x y z => exact List.append_ne_nil_of_left_ne_nil x.ne_nil _

/-- It consists of digits and dots. -/
theorem rangeChar_text (release : Release) : ∀ c ∈ release.text, rangeChar c = true := by
  have hdigits : ∀ x : Component, ∀ c ∈ x.digits, rangeChar c = true := by
    intro x c hc
    rw [rangeChar, x.isDigit c hc, Bool.true_or]
  have hdots : ∀ (x : Component) (rest : List Char), (∀ c ∈ rest, rangeChar c = true) →
      ∀ c ∈ x.digits ++ '.' :: rest, rangeChar c = true := by
    intro x rest hrest
    exact List.forall_mem_append.mpr ⟨hdigits x, List.forall_mem_cons.mpr ⟨by decide, hrest⟩⟩
  cases release with
  | one x => exact hdigits x
  | two x y => exact hdots x _ (hdigits y)
  | three x y z => exact hdots x _ (hdots y _ (hdigits z))

/-- It begins with a digit. -/
theorem head?_text (release : Release) (rest : List Char) :
    ∀ c ∈ (release.text ++ rest).head?, space c = false := by
  have hfirst : ∀ (x : Component) (rest : List Char), ∀ c ∈ (x.digits ++ rest).head?,
      space c = false := by
    intro x rest c hc
    rw [List.head?_append_of_ne_nil _ x.ne_nil] at hc
    exact not_space_of_digit (x.isDigit c (List.mem_of_mem_head? hc))
  cases release with
  | one x => exact hfirst x rest
  | two x y | three x y z =>
    unfold Release.text
    rw [List.append_assoc]
    exact hfirst x _

/-- **The range** in a pin is found behind the name. -/
theorem reSearch_pin (pin : Pin) :
    reSearch rangePattern pin.text = some ⟨[], [pin.floor.text, pin.ceiling.text]⟩ := by
  have hname : ∀ n c cs, c ∈ pin.name → Re.run n rangePattern ⟨c :: cs, []⟩ some = none := by
    intro n c cs hc
    have hgt : c ≠ '>' := by
      rintro rfl
      have hchar := pin.isName '>' hc
      exact Bool.false_ne_true ((show nameChar '>' = false by decide).symm.trans hchar)
    unfold rangePattern
    rw [Re.run_seq, Re.lit, Re.run_seq]
    exact Re.run_cls_cons_false (decide_eq_false hgt)
  have hcomma : ∀ c ∈ (',' :: '<' :: pin.ceiling.text).head?,
      space c = false ∧ rangeChar c = false := by
    intro c hc
    obtain rfl := Option.some.inj hc
    decide
  have hlt : ∀ c ∈ ('<' :: pin.ceiling.text).head?, space c = false := by
    intro c hc
    obtain rfl := Option.some.inj hc
    decide
  have hceiling : ∀ c ∈ pin.ceiling.text.head?, space c = false := by
    have h := head?_text pin.ceiling []
    rwa [List.append_nil] at h
  unfold reSearch
  rw [Pin.text, findSome?_tails_append fun c cs hc => hname _ c cs hc]
  refine findSome?_tails_of_some ?_
  unfold rangePattern
  rw [Re.run_seq]
  refine (Re.run_lit ['>', '=']).trans ?_
  rw [Re.run_seq]
  refine Re.run_many_nil (head?_text pin.floor _) ?_
  rw [Re.run_seq]
  refine Re.run_group_plus (text_ne_nil _) (rangeChar_text _) (fun c hc => (hcomma c hc).2) ?_
  rw [Re.run_seq]
  refine Re.run_many_nil (fun c hc => (hcomma c hc).1) ?_
  rw [Re.run_seq]
  refine (Re.run_lit [',']).trans ?_
  rw [Re.run_seq]
  refine Re.run_many_nil hlt ?_
  rw [Re.run_seq]
  refine (Re.run_lit ['<']).trans ?_
  rw [Re.run_seq]
  refine Re.run_many_nil hceiling ?_
  exact Re.run_group_plus_end (text_ne_nil _) (rangeChar_text _) rfl

end Parsing

/-! ### The check -/

section Check

variable {repr : String → String} {extras : Dict String (List String)} {pkgName key : String}
  {pin : Pin} {more : List String}

/-- What is compared. -/
theorem stale_text (floor ceiling : Release) (x y z : Component) :
    stale floor.text ceiling.text (Release.three x y z).text =
      .ok (!decide (floor.value ≤ version x.value y.value z.value) ||
        decide (ceiling.value.major ≤ x.value)) := by
  unfold stale
  rw [ceilingMajor_text, parseVersion_padded, parseVersion_three]
  rfl

/-- **What is reported** of a pin. -/
theorem checkMetaExtras_pin (repr : String → String) (hkey : extraKey pkgName = some key)
    (hextra : extras.get? key = some (String.ofList pin.text :: more)) (x y z : Component) :
    ∃ findings, checkMetaExtras repr extras pkgName (String.ofList (Release.three x y z).text) =
        .ok findings ∧
      ((∃ f ∈ findings, f.check = "meta-extras-stale-pin") ↔
        ¬ pin.floor.value ≤ version x.value y.value z.value ∨
          pin.ceiling.value.major ≤ x.value) := by
  unfold checkMetaExtras
  rw [hkey, Option.bind_some, hextra, Option.map_some]
  dsimp only
  rw [List.head?_cons, Option.getD_some, String.toList_ofList, reSearch_pin, String.toList_ofList]
  dsimp only
  rw [stale_text]
  generalize hmismatches : (if referenced (String.ofList pin.text) = some pkgName then [] else
    [nameMismatch pkgName key (repr (String.ofList pin.text))]) = mismatches
  have hother : ∀ f ∈ mismatches, f.check ≠ "meta-extras-stale-pin" := by
    intro f hf
    rw [← hmismatches] at hf
    split_ifs at hf
    · cases hf
    · rw [List.mem_singleton.mp hf]
      change "meta-extras-name-mismatch" ≠ "meta-extras-stale-pin"
      decide
  have hiff : (!decide (pin.floor.value ≤ version x.value y.value z.value) ||
      decide (pin.ceiling.value.major ≤ x.value)) = true ↔
      ¬ pin.floor.value ≤ version x.value y.value z.value ∨ pin.ceiling.value.major ≤ x.value := by
    rw [Bool.or_eq_true, Bool.not_eq_true', decide_eq_false_iff_not, decide_eq_true_iff]
  rw [← hiff]
  generalize (!decide (pin.floor.value ≤ version x.value y.value z.value) ||
    decide (pin.ceiling.value.major ≤ x.value)) = outdated
  cases outdated with
  | true =>
    refine ⟨_, rfl, iff_of_true ⟨_, List.mem_append_right _ (List.mem_singleton_self _), rfl⟩ rfl⟩
  | false =>
    refine ⟨_, rfl, iff_of_false ?_ Bool.false_ne_true⟩
    rintro ⟨f, hf, hcheck⟩
    exact hother f hf hcheck

end Check

/-- The version is in the interval of the pin. -/
def Pin.Allows (pin : Pin) (v : Version) : Prop := pin.floor.value ≤ v ∧ v < pin.ceiling.value

/-- The check reports a stale pin exactly where the version is not in its interval. -/
def FindsStalePin (repr : String → String) (extras : Dict String (List String)) (pkgName : String)
    (pin : Pin) (x y z : Component) : Prop :=
  ∃ findings, checkMetaExtras repr extras pkgName (String.ofList (Release.three x y z).text) =
      .ok findings ∧
    ((∃ f ∈ findings, f.check = "meta-extras-stale-pin") ↔
      ¬ pin.Allows (version x.value y.value z.value))

/-- A version is below all that have a greater major. -/
theorem lt_of_major_lt {v w : Version} (h : v.major < w.major) : v < w :=
  Prod.Lex.lt_iff.mpr (.inl h)

theorem major_le_of_lt {v w : Version} (h : v < w) : v.major ≤ w.major := by
  rcases Prod.Lex.lt_iff.mp h with h | h
  · exact Nat.le_of_lt h
  · exact Nat.le_of_eq h.1

section Exact

variable {repr : String → String} {extras : Dict String (List String)} {pkgName key : String}
  {pin : Pin} {more : List String}

/-- Where the check is right, no version in the interval has the major of its ceiling. -/
theorem major_ne_of_findsStalePin (hkey : extraKey pkgName = some key)
    (hextra : extras.get? key = some (String.ofList pin.text :: more)) {x y z : Component}
    (h : FindsStalePin repr extras pkgName pin x y z)
    (hallows : pin.Allows (version x.value y.value z.value)) : x.value ≠ pin.ceiling.value.major := by
  intro hsame
  obtain ⟨findings, hfindings, hiff⟩ := checkMetaExtras_pin repr hkey hextra x y z
  obtain ⟨findings', hfindings', hstale⟩ := h
  obtain rfl := Except.ok.inj (hfindings.symm.trans hfindings')
  have hreported := hiff.mpr (.inr (Nat.le_of_eq hsame.symm))
  exact hstale.mp hreported hallows

/-- **Stale pins** are found exactly, but for the versions in the interval that have the major of its
ceiling. -/
theorem findsStalePin_iff (repr : String → String) (extras : Dict String (List String))
    (pkgName key : String) (pin : Pin) (more : List String) (x y z : Component)
    (hkey : extraKey pkgName = some key)
    (hextra : extras.get? key = some (String.ofList pin.text :: more)) :
    FindsStalePin repr extras pkgName pin x y z ↔
      (pin.Allows (version x.value y.value z.value) → x.value ≠ pin.ceiling.value.major) := by
  constructor
  · exact major_ne_of_findsStalePin hkey hextra
  · intro h
    obtain ⟨findings, hfindings, hiff⟩ := checkMetaExtras_pin repr hkey hextra x y z
    have hmajor : (version x.value y.value z.value).major = x.value := rfl
    refine ⟨findings, hfindings, hiff.trans ?_⟩
    constructor
    · rintro (hfloor | hceiling) hallows
      · exact hfloor hallows.1
      · have hle := major_le_of_lt hallows.2
        rw [hmajor] at hle
        exact h hallows (Nat.le_antisymm hle hceiling)
    · intro hout
      by_contra hnone
      obtain ⟨hfloor, hceiling⟩ := not_or.mp hnone
      exact hout ⟨not_not.mp hfloor, lt_of_major_lt (Nat.lt_of_not_le hceiling)⟩

end Exact

/-! ### Redis -/

/-- A number of one digit. -/
def oneDigit (c : Char) (h : digit c = true) : Component :=
  ⟨[c], List.cons_ne_nil _ _, List.forall_mem_singleton.mpr h⟩

/-- `2`. -/
def two : Component := oneDigit '2' (by decide)

/-- A pin of the Redis adapter, from `2.0` on. -/
def redisPin (ceiling : Release) : Pin where
  name := "openframe-adapters-db-redis".toList
  isName := List.all_iff_forall_prop.mp (by decide)
  floor := .two two zero
  ceiling := ceiling

/-- The meta package has that pin. -/
def redisExtras (ceiling : Release) : Dict String (List String) :=
  ⟨[("redis", [String.ofList (redisPin ceiling).text])], by simp⟩

theorem extraKey_redis : extraKey "openframe-adapters-db-redis" = some "redis" := by decide

/-- The check is right about `2.0.6` and the pin `>=2.0,<3` if and only if the majors `2` and `3` differ,
given that the pin allows it. -/
theorem findsStalePin_iff_redis :
    FindsStalePin id (redisExtras (.one (oneDigit '3' (by decide)))) "openframe-adapters-db-redis"
        (redisPin (.one (oneDigit '3' (by decide)))) two zero (oneDigit '6' (by decide)) ↔
      ((redisPin (.one (oneDigit '3' (by decide)))).Allows (version 2 0 6) →
        two.value ≠ (redisPin (.one (oneDigit '3' (by decide)))).ceiling.value.major) :=
  findsStalePin_iff id _ "openframe-adapters-db-redis" "redis" _ [] two zero
    (oneDigit '6' (by decide)) extraKey_redis rfl

/-- **`2.3.0` is in `>=2.0,<2.5`**, and the pin is reported. -/
theorem not_findsStalePin :
    ¬ FindsStalePin id (redisExtras (.two two (oneDigit '5' (by decide))))
      "openframe-adapters-db-redis" (redisPin (.two two (oneDigit '5' (by decide)))) two
      (oneDigit '3' (by decide)) zero := by
  intro h
  have hextra : (redisExtras (.two two (oneDigit '5' (by decide)))).get? "redis" =
      some [String.ofList (redisPin (.two two (oneDigit '5' (by decide)))).text] := rfl
  refine major_ne_of_findsStalePin extraKey_redis hextra h ?_ rfl
  have hallows : version 2 0 0 ≤ version 2 3 0 ∧ version 2 3 0 < version 2 5 0 := by decide
  exact hallows

end OpenframeAdapters.Scripts
