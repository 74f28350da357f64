import OpenframeAdapters.Db.Books
import OpenframeAdapters.Db.Factories

/-!
# Cache keys

A cached client is handed to every caller whose settings have its key, whatever else
the settings say. So the key has to cover everything that the driver is called with.
The keys of Redis, Qdrant and DynamoDB do. Cassandra's key has the username but not the
password.

## What is proved

* `identifies_iff` — for Redis, Qdrant and DynamoDB, settings with the same key build the
  same client, and no run hands out another one; for Cassandra this holds of two settings
  exactly when they agree on the password, or have no username.
* `not_identifies` — a caller with a wrong password gets the session of one with the right
  password.
-/

namespace OpenframeAdapters.Db

open Python OpenframeAdapters.Core

variable {S K A : Type} [DecidableEq K] {f : Factory S K A} {s₁ s₂ : S}

/-- Settings `s₁` and `s₂` share a client only if they say the same about it. -/
structure Identifies (f : Factory S K A) (s₁ s₂ : S) : Prop where
  /-- If the keys are the same, the driver is called with the same arguments. -/
  arguments : f.cacheKey s₁ = f.cacheKey s₂ → f.arguments s₁ = f.arguments s₂
  /-- In every run whose calls are made with these settings, a call returns a client that was
  built from what its own settings say. -/
  served : ∀ l, Reach (resume f) (Uses fun st => st = s₁ ∨ st = s₂) fresh l →
    ∀ i st c seen, l.task i = .returned st c seen → l.shared.built c = some (f.arguments st)

/-- The arguments decide about the runs as well. -/
theorem identifies_of_arguments
    (h : f.cacheKey s₁ = f.cacheKey s₂ → f.arguments s₁ = f.arguments s₂) : Identifies f s₁ s₂ where
  arguments := h
  served l hl i st c seen hi := by
    have hserves := (built_of_reach (fun _ _ _ => id) hl).2 i
    rw [hi] at hserves
    obtain ⟨hst, -, st', hst', hkey, hbuilt⟩ := hserves
    rw [hbuilt]
    rcases hst with rfl | rfl <;> rcases hst' with rfl | rfl
    · rfl
    · rw [h hkey.symm]
    · rw [h hkey]
    · rfl

/-- Cassandra's arguments differ by what the key leaves out. -/
theorem cassandra_arguments_eq_iff {s₁ s₂ : CassandraSettings}
    (hkey : getCassandraSession.cacheKey s₁ = getCassandraSession.cacheKey s₂) :
    getCassandraSession.arguments s₁ = getCassandraSession.arguments s₂ ↔
      s₁.username = none ∨ s₁.password.getD "" = s₂.password.getD "" := by
  obtain ⟨points₁, port₁, keyspace₁, username₁, password₁, dc₁, version₁, core₁⟩ := s₁
  obtain ⟨points₂, port₂, keyspace₂, username₂, password₂, dc₂, version₂, core₂⟩ := s₂
  obtain ⟨rfl, rfl, rfl, rfl, rfl, rfl, rfl⟩ : points₁ = points₂ ∧ port₁ = port₂ ∧
      keyspace₁ = keyspace₂ ∧ username₁ = username₂ ∧ dc₁ = dc₂ ∧ version₁ = version₂ ∧
      core₁ = core₂ := by simpa [getCassandraSession] using hkey
  cases username₁ <;> simp [getCassandraSession]

/-- **Cache keys**: settings of a Redis, Qdrant or DynamoDB adapter that have the same key build
the same client, and in no run a caller gets a client that was built from anything else. For
Cassandra this holds exactly if, where the keys are the same, there is no username or the
passwords are the same as well, no password counting as an empty one. -/
theorem identifies_iff {F : Type} [DecidableEq F] (c₁ c₂ : CassandraSettings)
    (r₁ r₂ : RedisSettings F) (q₁ q₂ : QdrantSettings) (d₁ d₂ : DynamoDBSettings) :
    (Identifies getCassandraSession c₁ c₂ ↔
      (getCassandraSession.cacheKey c₁ = getCassandraSession.cacheKey c₂ →
        c₁.username = none ∨ c₁.password.getD "" = c₂.password.getD "")) ∧
    Identifies (getRedisClient F) r₁ r₂ ∧ Identifies getQdrantClient q₁ q₂ ∧
    Identifies getDynamodbTable d₁ d₂ := by
  refine ⟨⟨fun h hkey => ?_, fun h => ?_⟩, ?_, ?_, ?_⟩
  · exact (cassandra_arguments_eq_iff hkey).mp (h.arguments hkey)
  · exact identifies_of_arguments fun hkey => (cassandra_arguments_eq_iff hkey).mpr (h hkey)
  · exact identifies_of_arguments id
  · exact identifies_of_arguments id
  · refine identifies_of_arguments fun hkey => ?_
    obtain ⟨region, endpoint, table, key, secret, token⟩ :
        d₁.awsRegion = d₂.awsRegion ∧ d₁.endpointUrl = d₂.endpointUrl ∧
        d₁.dynamodbTableName = d₂.dynamodbTableName ∧ d₁.awsAccessKeyId = d₂.awsAccessKeyId ∧
        d₁.awsSecretAccessKey = d₂.awsSecretAccessKey ∧
        d₁.awsSessionToken = d₂.awsSessionToken := by simpa [getDynamodbTable] using hkey
    simp [getDynamodbTable, region, endpoint, table, key, secret, token]

/-- Settings of a Cassandra adapter with a username and a password. -/
def withPassword (password : String) : CassandraSettings :=
  ⟨["localhost"], 9042, none, some "app", some password, none, none, 2⟩

/-- A caller with the right password, and then one with a wrong one. -/
def rightThenWrong : List (ℕ × Ev CassandraSettings) :=
  [(0, .get (withPassword "right") none), (0, .ok), (1, .get (withPassword "wrong") none)]

/-- The second caller gets a session that was authenticated with the first one's password. -/
theorem not_identifies : ¬ ∀ s₁ s₂, Identifies getCassandraSession s₁ s₂ := by
  intro h
  have hadm : Admitted (resume getCassandraSession)
      (Uses fun st => st = withPassword "right" ∨ st = withPassword "wrong") fresh
      rightThenWrong :=
    admitted_of_forall (by simp [rightThenWrong, Uses])
  obtain ⟨l, hl, seen, h1, hbuilt⟩ : ∃ l,
      fresh.run (resume getCassandraSession) rightThenWrong = some l ∧
      ∃ seen, l.task 1 = .returned (withPassword "wrong") 0 seen ∧
        l.shared.built 0 = some (getCassandraSession.arguments (withPassword "right")) :=
    ⟨_, rfl, _, rfl, rfl⟩
  have hserved := (h _ _).served l (reach_of_run hadm hl) 1 _ 0 seen h1
  rw [hbuilt] at hserved
  exact absurd hserved (by decide)

end OpenframeAdapters.Db
