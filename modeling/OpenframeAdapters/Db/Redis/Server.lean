import Mathlib.Data.String.Basic
import OpenframeAdapters.Db.Redis.Repository
import OpenframeAdapters.Db.Server
import OpenframeAdapters.Store.Keyed

/-!
# A Redis server

The server behind a `RedisRepository`.

## The model

A value may have a deadline, and is gone when the deadline has passed; time passes between any two
commands. `SET` with `NX` or `XX` does nothing where its condition fails. `SCAN` gives every key that
matches exactly once, in any order. The function that matches keys against patterns is a parameter;
`Globs` is what is documented about a pattern whose one special character is a final `*`.
-/

namespace OpenframeAdapters.Db.Redis

open Python OpenframeAdapters.Core

open Store (Keyed)

/-- A value, and the time at which it is gone, if there is one. -/
structure Entry where
  /-- The value. -/
  value : String
  /-- `PEXPIRETIME`. -/
  deadline : Option ℤ

/-- The state of the server. -/
structure Server where
  /-- The time of the last command. -/
  now : ℤ
  /-- What has been stored. -/
  entries : Keyed String Entry

/-- The value of a key that is there. -/
def alive (now : ℤ) (entries : Keyed String Entry) (key : String) : Option String :=
  ((entries.lookup key).filter fun entry => entry.deadline.all (now < ·)).map Entry.value

/-- A `ResponseError`. -/
def responseError : PyExc := redisResponseError

/-- The condition of a `SET` fails. -/
def refused (nx xx : Bool) (old : Option String) : Bool := nx && old.isSome || xx && old.isNone

/-- What a command does at a certain time. -/
def Answers (glob : String → String → Bool) (now : ℤ) (m : Keyed String Entry) :
    (q : Command) → Except PyExc (commands.Reply q) → Keyed String Entry → Prop
  | .get _ key, r, m' => r = .ok (alive now m key) ∧ m' = m
  | .scanIter _ pattern, r, m' =>
    (∃ keys, r = .ok keys ∧ keys.Nodup ∧
      ∀ key, key ∈ keys ↔ (alive now m key).isSome = true ∧ glob pattern key = true) ∧ m' = m
  | .mget _ keys, r, m' => r = .ok (keys.map (alive now m)) ∧ m' = m
  | .set _ key value nx xx ex, r, m' =>
    if ex.any (· ≤ 0) = true then r = .error responseError ∧ m' = m
    else if refused nx xx (alive now m key) = true then r = .ok none ∧ m' = m
    else r = .ok (some true) ∧ m' = m.insert key ⟨value, ex.map fun n => now + 1000 * n⟩
  | .delete _ key, r, m' =>
    r = .ok (if (alive now m key).isSome = true then (1 : ℤ) else 0) ∧ m' = m.erase key

/-- The server. -/
def server (glob : String → String → Bool) : Backend commands PyExc Server :=
  fun b q r b' => b.now ≤ b'.now ∧ Answers glob b'.now b.entries q r b'.entries

/-- The times of the commands to come, and what is stored. -/
structure Timed where
  /-- The times. -/
  times : ℕ → ℤ
  /-- What has been stored. -/
  entries : Keyed String Entry

/-- The server, asked at given times. -/
def timed (glob : String → String → Bool) : Backend commands PyExc Timed :=
  fun b q r b' => Answers glob (b.times 0) b.entries q r b'.entries ∧
    b'.times = fun n => b.times (n + 1)

/-- Every command is answered, at any time. -/
theorem exists_answers (glob : String → String → Bool) (now : ℤ) (m : Keyed String Entry)
    (q : Command) : ∃ r m', Answers glob now m q r m' := by
  cases q with
  | get | mget | delete => exact ⟨_, _, rfl, rfl⟩
  | scanIter client pattern =>
    refine ⟨_, m, ⟨(m.keys.sort (· ≤ ·)).filter fun key =>
      (alive now m key).isSome && glob pattern key, rfl, ?_, fun key => ?_⟩, rfl⟩
    · exact (Finset.sort_nodup ..).filter _
    · rw [List.mem_filter, Finset.mem_sort, Finmap.mem_keys, Bool.and_eq_true, and_iff_right_iff_imp]
      rintro ⟨halive, -⟩
      rw [alive, Option.isSome_map] at halive
      exact Finmap.lookup_isSome.mp (Option.isSome_of_isSome_filter _ _ halive)
  | set client key value nx xx ex =>
    simp only [Answers]
    split_ifs
    · exact ⟨_, _, rfl, rfl⟩
    · exact ⟨_, _, rfl, rfl⟩
    · exact ⟨_, _, rfl, rfl⟩

theorem exists_server (glob : String → String → Bool) (b : Server) (q : Command) :
    ∃ r b', server glob b q r b' := by
  obtain ⟨r, m', h⟩ := exists_answers glob b.now b.entries q
  exact ⟨r, ⟨b.now, m'⟩, Int.le_refl _, h⟩

/-- What is documented of a pattern that has one special character, a `*` at its end. -/
def Globs (glob : String → String → Bool) : Prop :=
  ∀ start : String, (∀ c ∈ start.toList, c ∉ ['*', '?', '[', ']', '\\']) →
    ∀ key, glob (start ++ "*") key = true ↔ start.toList <+: key.toList

end OpenframeAdapters.Db.Redis
