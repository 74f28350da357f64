import OpenframeAdapters.Db.Redis.Refinement
import OpenframeAdapters.Python.Simulation

/-!
# Redis repositories that share a server

Each repository puts its own prefix before the ids.

## The model

* `Undisturbed` — the answers to one repository, when another one uses the same server, could have
  been given without the other, at the same times.
* `Isolated` — neither repository disturbs the other.
* `Sees` and `Writes` — the keys that a repository can come upon, and those that it can add.

## What is proved

* `isolated_iff` — two repositories are isolated exactly if neither can add a key that the other can
  come upon.
* `apart_iff` — for prefixes without special characters: neither prefix, with its colon, may begin
  with the other.
* `not_isolated_of_ne` — prefixes that differ are not enough.
-/

namespace OpenframeAdapters.Db.Redis

open Python OpenframeAdapters.Core

open Store (Keyed)

/-! ### Two repositories -/

/-- The times of the commands to come, of either repository, and what is stored. -/
structure Joint where
  /-- The times of the one. -/
  mine : ℕ → ℤ
  /-- The times of the other. -/
  theirs : ℕ → ℤ
  /-- What has been stored. -/
  entries : Keyed String Entry

/-- The server, as the one repository sees it. -/
def asMine (glob : String → String → Bool) : Backend commands PyExc Joint :=
  fun b q r b' => timed glob ⟨b.mine, b.entries⟩ q r ⟨b'.mine, b'.entries⟩ ∧ b'.theirs = b.theirs

/-- The server, as the other repository sees it. -/
def asTheirs (glob : String → String → Bool) : Backend commands PyExc Joint :=
  fun b q r b' => timed glob ⟨b.theirs, b.entries⟩ q r ⟨b'.theirs, b'.entries⟩ ∧ b'.mine = b.mine

/-- In every sequence of requests to two repositories, the one answers as if the other did not
exist. -/
def Undisturbed {F F' T T' : Type} (glob : String → String → Bool)
    (repo : BaseRepository (driver F) (Option ℕ) T)
    (other : BaseRepository (driver F') (Option ℕ) T') : Prop :=
  ∀ mine theirs l b', Session ((repo.onServer (connected (asMine glob))).sum
      (other.onServer (connected (asTheirs glob)))) ⟨mine, theirs, ∅⟩ l b' →
    ∃ t', Session (repo.onServer (connected (timed glob))) ⟨mine, ∅⟩ (l.filterMap Answer.left) t'

/-- Neither repository disturbs the other. -/
def Isolated {F F' T T' : Type} (glob : String → String → Bool)
    (repo : BaseRepository (driver F) (Option ℕ) T)
    (other : BaseRepository (driver F') (Option ℕ) T') : Prop :=
  Undisturbed glob repo other ∧ Undisturbed glob other repo

/-! ### Keys -/

section Keys

variable {F F' : Type} (glob : String → String → Bool)

/-- The repository addresses the key, or finds it when it lists. -/
def Sees (settings : Settings F) (key : String) : Prop :=
  (∃ id, key = makeKey settings id) ∨ glob (settings.keyPrefix ++ ":*") key = true

/-- The repository can add the key: ids are not empty, and a time to live is not negative. -/
def Writes (settings : Settings F) (key : String) : Prop :=
  0 ≤ settings.defaultTtl ∧ ∃ id, id ≠ "" ∧ key = makeKey settings id

/-- No key that the one can add is seen by the other. -/
def Apart (settings : Settings F) (other : Settings F') : Prop :=
  ∀ key, Writes settings key → ¬ Sees glob other key

/-- The commands of a repository. -/
def Asks (settings : Settings F) : Command → Prop
  | .get _ key | .delete _ key => ∃ id, key = makeKey settings id
  | .scanIter _ pattern => pattern = settings.keyPrefix ++ ":*"
  | .mget _ keys => ∀ key ∈ keys, Sees glob settings key
  | .set _ key _ _ xx ex => ex = ttl settings ∧ ∃ id, key = makeKey settings id ∧ (xx = true ∨ id ≠ "")

/-- `SCAN` gives keys that match. -/
def Fits : (q : Command) → Except PyExc (commands.Reply q) → Prop
  | .scanIter _ pattern, r => ∀ keys, r = .ok keys → ∀ key ∈ keys, glob pattern key = true
  | _, _ => True

variable {glob} {settings : Settings F} {now : ℤ} {m m' m₁ : Keyed String Entry} {q : Command}
  {r : Except PyExc (commands.Reply q)}

theorem fits_of_answers (h : Answers glob now m q r m₁) : Fits glob q r := by
  cases q with
  | scanIter client pattern =>
    obtain ⟨⟨keys, rfl, -, hkeys⟩, -⟩ := h
    intro keys' hkeys' key hkey
    cases hkeys'
    exact ((hkeys key).mp hkey).2
  | get | mget | set | delete => trivial

theorem alive_congr {key : String} (h : m'.lookup key = m.lookup key) :
    alive now m' key = alive now m key := by
  rw [alive, alive, h]

theorem sees_makeKey (id : String) : Sees glob settings (makeKey settings id) := .inl ⟨id, rfl⟩

/-- A command is answered alike where the keys that the repository sees are the same. -/
theorem Asks.answers_alike (hq : Asks glob settings q) (h : Answers glob now m q r m₁)
    (hsame : ∀ key, Sees glob settings key → m'.lookup key = m.lookup key) :
    ∃ m₁', Answers glob now m' q r m₁' ∧
      ∀ key, Sees glob settings key → m₁'.lookup key = m₁.lookup key := by
  cases q with
  | get client key =>
    obtain ⟨id, rfl⟩ := hq
    obtain ⟨rfl, rfl⟩ := h
    exact ⟨m', ⟨by rw [alive_congr (hsame _ (sees_makeKey id))], rfl⟩, hsame⟩
  | scanIter client pattern =>
    obtain rfl : pattern = _ := hq
    obtain ⟨⟨keys, rfl, hnodup, hkeys⟩, rfl⟩ := h
    refine ⟨m', ⟨⟨keys, rfl, hnodup, fun key => (hkeys key).trans (and_congr_left fun hglob => ?_)⟩,
      rfl⟩, hsame⟩
    rw [alive_congr (hsame key (.inr hglob))]
  | mget client keys =>
    obtain ⟨rfl, rfl⟩ := h
    refine ⟨m', ⟨congrArg Except.ok (List.map_congr_left fun key hkey => ?_), rfl⟩, hsame⟩
    rw [alive_congr (hsame key (hq key hkey))]
  | delete client key =>
    obtain ⟨id, rfl⟩ := hq
    obtain ⟨rfl, rfl⟩ := h
    refine ⟨m'.erase _, ⟨by rw [alive_congr (hsame _ (sees_makeKey id))], rfl⟩, fun key hkey => ?_⟩
    rw [Keyed.lookup_erase_eq, Keyed.lookup_erase_eq, hsame key hkey]
  | set client key value nx xx ex =>
    obtain ⟨-, id, rfl, -⟩ := hq
    have halive : Redis.alive now m' _ = Redis.alive now m _ := alive_congr (hsame _ (sees_makeKey id))
    rw [Answers, ← halive] at h
    simp only [Answers]
    split_ifs at h ⊢
    · exact ⟨m', ⟨h.1, rfl⟩, h.2 ▸ hsame⟩
    · exact ⟨m', ⟨h.1, rfl⟩, h.2 ▸ hsame⟩
    · refine ⟨_, ⟨h.1, rfl⟩, fun key hkey => ?_⟩
      rw [h.2, Keyed.lookup_insert_eq, Keyed.lookup_insert_eq, hsame key hkey]

/-- A time to live that is accepted is not negative. -/
theorem ttl_nonneg (h : (ttl settings).any (· ≤ 0) = false) : 0 ≤ settings.defaultTtl := by
  rw [ttl] at h
  split_ifs at h with hzero
  · exact hzero.ge
  · simp only [Option.any_some, decide_eq_false_iff_not] at h
    omega

/-- A key that is new can be added by the repository. -/
theorem Asks.writes_of_mem (hq : Asks glob settings q) (h : Answers glob now m q r m₁) :
    ∀ key ∈ m₁, key ∈ m ∨ Writes settings key := by
  cases q with
  | get | scanIter | mget =>
    obtain ⟨-, rfl⟩ := h
    exact fun key hkey => .inl hkey
  | delete client key =>
    obtain ⟨-, rfl⟩ := h
    exact fun key hkey => .inl (Finmap.mem_erase.mp hkey).2
  | set client key value nx xx ex =>
    obtain ⟨rfl, id, rfl, hid⟩ := hq
    rw [Answers] at h
    split_ifs at h with hex hrefused
    · exact fun key hkey => .inl (h.2 ▸ hkey)
    · exact fun key hkey => .inl (h.2 ▸ hkey)
    · intro key hkey
      rw [h.2, Finmap.mem_insert] at hkey
      rcases hkey with rfl | hkey
      · rcases hid with rfl | hid
        · refine .inl (Finmap.lookup_isSome.mp ?_)
          cases halive : alive now m (makeKey settings id) with
          | none => simp [refused, halive] at hrefused
          | some value =>
            have hsome : (alive now m (makeKey settings id)).isSome = true := by rw [halive]; rfl
            rw [alive, Option.isSome_map] at hsome
            exact Option.isSome_of_isSome_filter _ _ hsome
        · exact .inr ⟨ttl_nonneg (Bool.not_eq_true _ ▸ hex), id, hid, rfl⟩
      · exact .inl hkey

/-- The other repository leaves the keys alone that this one sees. -/
theorem Asks.lookup_of_apart {F' : Type} {mine : Settings F'} (hq : Asks glob settings q)
    (h : Answers glob now m q r m₁) (hmine : Apart glob mine settings)
    (htheirs : Apart glob settings mine) (hkeys : ∀ key ∈ m, Writes mine key ∨ Writes settings key)
    {key : String} (hkey : Sees glob mine key) : m₁.lookup key = m.lookup key := by
  -- a key of the other repository that this one sees has never been added
  have hnew : ∀ id, key = makeKey settings id → key ∉ m := by
    rintro id rfl hmem
    rcases hkeys _ hmem with hwrites | hwrites
    · exact hmine _ hwrites (sees_makeKey id)
    · exact htheirs _ hwrites hkey
  cases q with
  | get | scanIter | mget =>
    obtain ⟨-, rfl⟩ := h
    rfl
  | delete client other =>
    obtain ⟨id, rfl⟩ := hq
    obtain ⟨-, rfl⟩ := h
    rw [Keyed.lookup_erase_eq]
    split_ifs with heq
    · exact (Finmap.lookup_eq_none.mpr (hnew id heq)).symm
    · rfl
  | set client other value nx xx ex =>
    have hmem := hq.writes_of_mem h
    obtain ⟨-, id, rfl, -⟩ := hq
    rw [Answers] at h
    split_ifs at h with hex hrefused
    · rw [h.2]
    · rw [h.2]
    · rw [h.2, Keyed.lookup_insert_eq]
      split_ifs with heq
      · subst heq
        rcases hmem _ (h.2 ▸ Finmap.mem_insert.mpr (.inl rfl)) with hold | hwrites
        · exact absurd hold (hnew id rfl)
        · exact absurd hkey (htheirs _ hwrites)
      · rfl

end Keys

/-! ### Operations -/

section Follows

variable {S K A σ : Type} {C : Driver} {own : (connecting A C).Call → Prop}
  {fits : (q : (connecting A C).Call) → Except PyExc ((connecting A C).Reply q) → Prop}

theorem follows_tryExcept {α : Type} {D : Driver} {own : D.Call → Prop}
    {fits : (q : D.Call) → Except PyExc (D.Reply q) → Prop} {clauses : Clauses Cls AdapterError}
    {p : Operation D σ α} {Q : α → Prop} (hp : p.Follows own fits Q) :
    (tryExcept clauses p).Follows own fits Q :=
  Coro.follows_tryCatch hp fun _ => trivial

/-- The calls that concern the client are a repository's own. -/
theorem follows_getClient (hown : ∀ q, own (.inl q)) {f : Factory S K A} {settings : S}
    {cached : σ → Option ℕ} {store : ℕ → σ → σ} {Q : ℕ → Prop} (hQ : ∀ c, Q c) :
    (f.getClient (C := C) settings cached store).Follows own fits Q := by
  have hcall : ∀ (q : ConnectCall A) {Q : q.Reply → Prop}, (∀ a, Q a) →
      (call (σ := σ) (D := connecting A C) (.inl q)).Follows own fits Q :=
    fun q _ hQ => Coro.follows_call (hown q) fun a _ => hQ a
  have hmake : ∀ {Q : ℕ → Prop}, (∀ c, Q c) →
      (f.makeClient (C := C) (σ := σ) settings).Follows own fits Q := by
    intro Q hQ
    unfold Factory.makeClient
    split
    · refine Coro.follows_bind.mpr (follows_tryExcept (hcall _ fun client => ?_))
      refine Coro.follows_bind.mpr (Coro.follows_tryCatch (hcall _ fun _ => hQ client) fun x => ?_)
      cases x with
      | adapter err => trivial
      | raw exc =>
        unfold Factory.giveUp
        dsimp only
        split_ifs
        · exact Coro.follows_bind.mpr (hcall _ fun _ => trivial)
        · trivial
    · exact follows_tryExcept (hcall _ hQ)
    · exact follows_tryExcept (hcall _ hQ)
  unfold Factory.getClient
  refine Coro.follows_bind.mpr (Coro.follows_get.mpr fun s => ?_)
  split
  · exact hQ _
  · split
    · trivial
    · exact Coro.follows_bind.mpr (hmake fun c => hQ c)

end Follows

section Operations

variable {F J T : Type} (glob : String → String → Bool) (settings : Settings F)
  (mapping : Mapping J T)

/-- The calls of a repository. -/
def Own : (driver F).Call → Prop
  | .inl _ => True
  | .inr q => Asks glob settings q

/-- The replies of the server. -/
def Replies : (q : (driver F).Call) → Except PyExc ((driver F).Reply q) → Prop
  | .inl _, _ => True
  | .inr q, r => Fits glob q r

variable {glob settings mapping}

theorem follows_send {q : Command} {Q : commands.Reply q → Prop} (hq : Asks glob settings q)
    (hQ : ∀ a, Fits glob q (.ok a) → Q a) :
    (send (F := F) q).Follows (Own glob settings) (Replies glob) Q :=
  Coro.follows_call (D := driver F) (q := .inr q) hq hQ

/-- What an expression gives, if it does not raise. -/
theorem follows_eval {α : Type} {D : Driver} {σ : Type} {own : D.Call → Prop}
    {fits : (q : D.Call) → Except PyExc (D.Reply q) → Prop} {r : Except PyExc α} {Q : α → Prop}
    (hQ : ∀ a, Q a) : (eval r : Operation D σ α).Follows own fits Q := by
  cases r with
  | ok a => exact hQ a
  | error exc => trivial

/-- A repository asks its own calls only. -/
theorem follows_serve (q : Request String T) :
    ((repository settings mapping).serve q).Follows (Own glob settings) (Replies glob)
      fun _ => True := by
  have hclient : ∀ {Q : ℕ → Prop}, (∀ c, Q c) →
      (getClient settings).Follows (Own glob settings) (Replies glob) Q :=
    fun hQ => follows_getClient (fun _ => trivial) hQ
  cases q with
  | get id =>
    refine Coro.follows_bind.mpr (hclient fun client => ?_)
    refine Coro.follows_bind.mpr (follows_tryExcept (follows_send ⟨id, rfl⟩ fun value _ => ?_))
    cases value with
    | none => trivial
    | some value => exact Coro.follows_bind.mpr (follows_eval fun _ => trivial)
  | delete id =>
    refine Coro.follows_bind.mpr (hclient fun client => ?_)
    exact Coro.follows_bind.mpr (follows_tryExcept (follows_send ⟨id, rfl⟩ fun _ _ => trivial))
  | update entity =>
    refine Coro.follows_bind.mpr (hclient fun client => ?_)
    refine Coro.follows_bind.mpr (follows_tryExcept (follows_send ⟨rfl, _, rfl, .inl rfl⟩ fun _ _ => ?_))
    split <;> trivial
  | create entity =>
    refine Coro.follows_bind.mpr (hclient fun client => ?_)
    dsimp only
    split_ifs with hid
    · trivial
    · refine Coro.follows_bind.mpr
        (follows_tryExcept (follows_send ⟨rfl, _, rfl, .inr hid⟩ fun _ _ => ?_))
      split <;> trivial
  | list limit offset =>
    refine Coro.follows_bind.mpr (hclient fun client => ?_)
    refine Coro.follows_bind.mpr (follows_tryExcept ?_)
    refine Coro.follows_bind.mpr (follows_send rfl fun keys hkeys => ?_)
    dsimp only
    split_ifs
    · exact Coro.follows_bind.mpr (follows_eval fun _ => trivial)
    · refine Coro.follows_bind.mpr (follows_send (fun key hkey => .inr (hkeys keys rfl key ?_))
        fun _ _ => Coro.follows_bind.mpr (follows_eval fun _ => trivial))
      have hpage := List.mem_of_mem_take (List.mem_of_mem_drop hkey)
      exact (List.mergeSort_perm ..).mem_iff.mp hpage

end Operations

/-! ### Repositories that keep apart -/

section Apart

variable {F F' J J' T T' : Type} {glob : String → String → Bool} {settings : Settings F}
  {other : Settings F'} {mapping : Mapping J T} {mapping' : Mapping J' T'}

/-- The server that both use, and the one without the other. -/
structure Alone (glob : String → String → Bool) (settings : Settings F) (other : Settings F')
    (b : Joint) (t : Timed) : Prop where
  /-- The times are the same. -/
  times : t.times = b.mine
  /-- What the repository sees is the same. -/
  same : ∀ key, Sees glob settings key → t.entries.lookup key = b.entries.lookup key
  /-- Nobody else has added a key. -/
  keys : ∀ key ∈ b.entries, Writes settings key ∨ Writes other key

/-- **Noninterference**: keys that are kept apart keep the repositories apart. -/
theorem undisturbed_of_apart (hmine : Apart glob settings other)
    (htheirs : Apart glob other settings) :
    Undisturbed glob (repository settings mapping) (repository other mapping') := by
  intro mine theirs l b' hl
  have hleft : ∀ b t q r b₁, Alone glob settings other b t →
      (repository settings mapping).onServer (connected (asMine glob)) b q r b₁ →
      ∃ t₁, (repository settings mapping).onServer (connected (timed glob)) t q r t₁ ∧
        Alone glob settings other b₁ t₁ := by
    intro b t q r b₁ hrel hend
    have hsim : ∀ b t q r b₁, Alone glob settings other b t → Own glob settings q →
        connected (asMine glob) b q r b₁ → Replies glob q r ∧
          ∃ t₁, connected (timed glob) t q r t₁ ∧ Alone glob settings other b₁ t₁ := ?_
    · exact Coro.EndsIn.transfer hsim hend (follows_serve q) hrel
    intro b t q r b₁ hrel hown hB
    cases q with
    | inl q => exact ⟨trivial, t, ⟨hB.1, rfl⟩, hB.2 ▸ hrel⟩
    | inr q =>
      obtain ⟨⟨hanswers, hmine⟩, -⟩ := hB
      obtain ⟨m', hanswers', hsame⟩ := Asks.answers_alike hown hanswers hrel.same
      refine ⟨fits_of_answers hanswers, ⟨fun n => t.times (n + 1), m'⟩, ⟨?_, rfl⟩, ?_⟩
      · rw [hrel.times]
        exact hanswers'
      · refine ⟨?_, hsame, fun key hkey => ?_⟩
        · rw [hrel.times]
          exact hmine.symm
        · rcases Asks.writes_of_mem hown hanswers key hkey with hold | hwrites
          · exact hrel.keys key hold
          · exact .inl hwrites
  have hright : ∀ b t q r b₁, Alone glob settings other b t →
      (repository other mapping').onServer (connected (asTheirs glob)) b q r b₁ →
      Alone glob settings other b₁ t := by
    intro b t q r b₁ hrel hend
    have hinv : ∀ b q r b₁, Alone glob settings other b t → Own glob other q →
        connected (asTheirs glob) b q r b₁ →
          Replies glob q r ∧ Alone glob settings other b₁ t := ?_
    · exact Coro.EndsIn.invariant hinv hend (follows_serve q) hrel
    intro b q r b₁ hrel hown hB
    cases q with
    | inl q => exact ⟨trivial, hB.2 ▸ hrel⟩
    | inr q =>
      obtain ⟨⟨hanswers, -⟩, hmine'⟩ := hB
      refine ⟨fits_of_answers hanswers, hrel.times.trans hmine'.symm, fun key hkey => ?_,
        fun key hkey => ?_⟩
      · rw [Asks.lookup_of_apart hown hanswers hmine htheirs hrel.keys hkey, hrel.same key hkey]
      · rcases Asks.writes_of_mem hown hanswers key hkey with hold | hwrites
        · exact hrel.keys key hold
        · exact .inr hwrites
  have hempty : Alone glob settings other ⟨mine, theirs, ∅⟩ ⟨mine, ∅⟩ :=
    ⟨rfl, fun _ _ => rfl, fun key hkey => absurd hkey Finmap.notMem_empty⟩
  obtain ⟨t', ht', -⟩ := hl.left hleft hright hempty
  exact ⟨t', ht'⟩

end Apart

/-! ### Repositories that do not -/

section AtZero

variable {F J T β : Type} {glob : String → String → Bool} {settings : Settings F}
  {mapping : Mapping J T}

/-- A server where all commands are answered at the time 0. -/
def AtZero (glob : String → String → Bool) (B : Backend commands PyExc β)
    (entries : β → Keyed String Entry) (zero : β → Prop) : Prop :=
  ∀ b q r b', zero b → B b q r b' → Answers glob 0 (entries b) q r (entries b') ∧ zero b'

variable {B : Backend commands PyExc β} {entries : β → Keyed String Entry} {zero : β → Prop} {b : β}

/-- What is created is there. -/
theorem AtZero.wpIn_create (h : AtZero glob B entries zero) (hb : zero b) (hempty : entries b = ∅)
    {entity : T} (hid : idOf mapping entity ≠ "") (httl : 0 ≤ settings.defaultTtl) :
    (create settings mapping entity).wpIn (connected B).shared
      (fun _ b' => zero b' ∧
        (alive 0 (entries b') (makeKey settings (idOf mapping entity))).isSome = true)
      (fun _ _ => False) b := by
  unfold create
  refine Coro.wpIn_bind.mpr ((connects_connected _).wpIn_getClient rfl fun client => ?_)
  dsimp only
  rw [if_neg (show entityId mapping (mapping.entityToDict entity) ≠ "" from hid)]
  refine Coro.wpIn_bind.mpr (wpIn_tryExcept.mpr (wpIn_command fun r b' hr => ?_))
  obtain ⟨hr, hb'⟩ := h _ _ _ _ hb hr
  have hex : ¬ (ttl settings).any (· ≤ 0) = true := by
    rw [ttl]
    split_ifs
    · simp
    · simp only [Option.any_some, decide_eq_true_eq]
      omega
  have hnone : ∀ key, alive 0 (entries b) key = none := by
    intro key
    rw [hempty]
    rfl
  rw [Answers, if_neg hex, hnone, if_neg (by decide)] at hr
  obtain ⟨rfl, hentries⟩ := hr
  have hdeadline : ((ttl settings).map fun n => 0 + 1000 * n).all (0 < ·) = true := by
    cases hn : ttl settings with
    | none => rfl
    | some n =>
      rw [hn, Option.any_some, decide_eq_true_eq] at hex
      rw [Option.map_some, Option.all_some, decide_eq_true_eq]
      omega
  refine ⟨hb', ?_⟩
  change (alive 0 _ (makeKey settings (entityId mapping (mapping.entityToDict entity)))).isSome = _
  rw [hentries, alive, Finmap.lookup_insert, Option.filter_some, if_pos hdeadline]
  rfl

variable (mapping) in
/-- **Interference**: a key that the repository sees makes a difference to one of its answers. -/
theorem exists_telltale {key : String} (hsees : Sees glob settings key) :
    ∃ (q : Request String T) (a₀ : (operations String T).Reply q),
      ∀ {β : Type} {B : Backend commands PyExc β} {entries : β → Keyed String Entry}
        {zero : β → Prop} {b : β}, AtZero glob B entries zero → zero b →
        (entries b = ∅ → ((repository settings mapping).serve q).wpIn (connected B).shared
          (fun a _ => a = a₀) (fun _ _ => False) b) ∧
        ((alive 0 (entries b) key).isSome = true →
          ((repository settings mapping).serve q).wpIn (connected B).shared
            (fun a _ => a ≠ a₀) (fun _ _ => False) b) := by
  have hempty : alive 0 ∅ key = none := rfl
  rcases hsees with ⟨id, rfl⟩ | hglob
  · refine ⟨.delete id, false, fun {β B entries zero b} h hb => ?_⟩
    have hdelete : ∀ {Q : Bool → Prop}, Q (alive 0 (entries b) (makeKey settings id)).isSome →
        (delete settings id).wpIn (connected B).shared (fun a _ => Q a) (fun _ _ => False) b := by
      intro Q hQ
      unfold delete
      refine Coro.wpIn_bind.mpr ((connects_connected _).wpIn_getClient rfl fun client => ?_)
      refine Coro.wpIn_bind.mpr (wpIn_tryExcept.mpr (wpIn_command fun r b' hr => ?_))
      obtain ⟨⟨rfl, -⟩, -⟩ := h _ _ _ _ hb hr
      change Q (decide (0 < if _ then (1 : ℤ) else 0))
      cases halive : (alive 0 (entries b) (makeKey settings id)).isSome <;> simpa [halive] using hQ
    exact ⟨fun hnone => hdelete (by rw [hnone, hempty]; rfl),
      fun hsome => hdelete (by rw [hsome]; exact Bool.noConfusion)⟩
  · refine ⟨.list 0 0, ([], 0), fun {β B entries zero b} h hb => ?_⟩
    have hlist : ∀ {Q : List T × ℤ → Prop}, (∀ keys : List String,
          (∀ key, key ∈ keys ↔ (alive 0 (entries b) key).isSome = true ∧
            glob (settings.keyPrefix ++ ":*") key = true) → Q ([], keys.length)) →
        (list settings mapping 0 0).wpIn (connected B).shared (fun a _ => Q a)
          (fun _ _ => False) b := by
      intro Q hQ
      unfold list
      refine Coro.wpIn_bind.mpr ((connects_connected _).wpIn_getClient rfl fun client => ?_)
      refine Coro.wpIn_bind.mpr (wpIn_tryExcept.mpr (Coro.wpIn_bind.mpr
        (wpIn_command fun r b₁ hr => ?_)))
      obtain ⟨⟨⟨keys, rfl, -, hkeys⟩, -⟩, -⟩ := h _ _ _ _ hb hr
      have hslice : slice (keys.mergeSort (· ≤ ·)) 0 (0 + 0) = [] := by
        rw [Int.add_zero]
        exact slice_natCast (keys.mergeSort (· ≤ ·)) 0 0 ▸ List.take_zero
      dsimp only [Coro.Promised]
      rw [hslice]
      exact hQ keys hkeys
    refine ⟨fun hnone => hlist fun keys hkeys => ?_, fun hsome => hlist fun keys hkeys heq => ?_⟩
    · obtain rfl : keys = [] := List.eq_nil_iff_forall_not_mem.mpr fun key hkey => by
        have halive := ((hkeys key).mp hkey).1
        rw [hnone] at halive
        exact Bool.noConfusion halive
      rfl
    · have hmem := (hkeys key).mpr ⟨hsome, hglob⟩
      have hlength : keys.length = 0 := Int.ofNat.inj (Prod.mk.inj heq).2
      exact List.not_mem_nil (List.eq_nil_of_length_eq_zero hlength ▸ hmem)

end AtZero

/-! ### Isolation -/

section Isolated

variable {F F' J J' T T' : Type} {glob : String → String → Bool} {settings : Settings F}
  {other : Settings F'} {mapping : Mapping J T} {mapping' : Mapping J' T'}

variable (glob) in
theorem exists_asMine (b : Joint) (q : Command) : ∃ r b', asMine glob b q r b' := by
  obtain ⟨r, m', h⟩ := exists_answers glob (b.mine 0) b.entries q
  exact ⟨r, ⟨fun n => b.mine (n + 1), b.theirs, m'⟩, ⟨h, rfl⟩, rfl⟩

variable (glob) in
theorem exists_asTheirs (b : Joint) (q : Command) : ∃ r b', asTheirs glob b q r b' := by
  obtain ⟨r, m', h⟩ := exists_answers glob (b.theirs 0) b.entries q
  exact ⟨r, ⟨b.mine, fun n => b.theirs (n + 1), m'⟩, ⟨h, rfl⟩, rfl⟩

/-- A repository that is undisturbed sees no key that the other one can add. -/
theorem apart_of_undisturbed (hids : ∀ id, ∃ entity, idOf mapping' entity = id)
    (h : Undisturbed glob (repository settings mapping) (repository other mapping')) :
    Apart glob other settings := by
  rintro key ⟨httl, id, hid, rfl⟩ hsees
  obtain ⟨entity, rfl⟩ := hids id
  obtain ⟨q, a₀, hq⟩ := exists_telltale mapping hsees
  let zero (b : Joint) : Prop := b.mine = (fun _ => 0) ∧ b.theirs = fun _ => 0
  have hmine : AtZero glob (asMine glob) Joint.entries zero := by
    rintro b q r b' hb ⟨⟨hanswers, hmine'⟩, htheirs'⟩
    change Answers glob (b.mine 0) _ _ _ _ at hanswers
    rw [hb.1] at hanswers hmine'
    exact ⟨hanswers, hmine', htheirs'.trans hb.2⟩
  have htheirs : AtZero glob (asTheirs glob) Joint.entries zero := by
    rintro b q r b' hb ⟨⟨hanswers, htheirs'⟩, hmine'⟩
    change Answers glob (b.theirs 0) _ _ _ _ at hanswers
    rw [hb.2] at hanswers htheirs'
    exact ⟨hanswers, hmine'.trans hb.1, htheirs'⟩
  have halone : AtZero glob (timed glob) Timed.entries fun t => t.times = fun _ => 0 := by
    rintro t q r t' ht ⟨hanswers, htimes⟩
    rw [ht] at hanswers htimes
    exact ⟨hanswers, htimes⟩
  -- the other repository creates the entity, and this one is asked
  obtain ⟨r, b₁, hcreate⟩ := exists_served (R := operations String T')
    (exists_connected (exists_asTheirs glob)) (repository other mapping').serve
    ⟨fun _ => 0, fun _ => 0, ∅⟩ (.create entity)
  obtain ⟨r', b₂, hq'⟩ := exists_served (R := operations String T)
    (exists_connected (exists_asMine glob)) (repository settings mapping).serve b₁ q
  obtain ⟨t', ht'⟩ := h (fun _ => 0) (fun _ => 0)
    [⟨.inr (.create entity), r⟩, ⟨.inl q, r'⟩] b₂ (.cons hcreate (.cons hq' (.nil b₂)))
  have hadded := hcreate.of_wpIn (htheirs.wpIn_create ⟨rfl, rfl⟩ rfl hid httl)
  cases r with
  | error x => exact hadded
  | ok a =>
    have hseen := hq'.of_wpIn ((hq hmine hadded.1).2 hadded.2)
    cases ht' with
    | cons halone' _ =>
      have hunseen := halone'.of_wpIn ((hq halone rfl).1 rfl)
      cases r' with
      | error x => exact hseen
      | ok a' => exact hseen hunseen

/-- **Isolation**: two repositories, whose entities may have any ids, answer as if the other did not
exist, exactly if neither can add a key that the other sees. -/
theorem isolated_iff (hids : ∀ id, ∃ entity, idOf mapping entity = id)
    (hids' : ∀ id, ∃ entity, idOf mapping' entity = id) :
    Isolated glob (repository settings mapping) (repository other mapping') ↔
      Apart glob settings other ∧ Apart glob other settings :=
  ⟨fun h => ⟨apart_of_undisturbed hids h.2, apart_of_undisturbed hids' h.1⟩,
    fun h => ⟨undisturbed_of_apart h.1 h.2, undisturbed_of_apart h.2 h.1⟩⟩

/-- Prefixes without special characters: neither, with its colon, may begin with the other. -/
theorem apart_iff (hglob : Globs glob) (hplain : Plain other) (httl : 0 ≤ settings.defaultTtl) :
    Apart glob settings other ↔
      ¬ (settings.keyPrefix ++ ":").toList <+: (other.keyPrefix ++ ":").toList ∧
      ¬ (other.keyPrefix ++ ":").toList <+: (settings.keyPrefix ++ ":").toList := by
  have hsees : ∀ id, Sees glob other (makeKey settings id) ↔
      (other.keyPrefix ++ ":").toList <+: (settings.keyPrefix ++ ":").toList ++ id.toList := by
    intro id
    rw [Sees, glob_iff hglob hplain, or_self, ← toList_makeKey]
    constructor
    · rintro ⟨id', hid'⟩
      exact ⟨id'.toList, by rw [hid', toList_makeKey]⟩
    · rintro ⟨l, hl⟩
      exact ⟨String.ofList l,
        String.toList_inj.mp (by rw [← hl, toList_makeKey, String.toList_ofList])⟩
  constructor
  · intro h
    have hnot : ∀ id, id ≠ "" →
        ¬ (other.keyPrefix ++ ":").toList <+: (settings.keyPrefix ++ ":").toList ++ id.toList :=
      fun id hid hpre => h _ ⟨httl, id, hid, rfl⟩ ((hsees id).mpr hpre)
    refine ⟨?_, fun hpre => hnot "0" (by decide) (hpre.trans (List.prefix_append ..))⟩
    rintro ⟨l, hl⟩
    refine hnot (String.ofList (l ++ ['0'])) (fun hempty => ?_) ?_
    · simpa using congrArg String.toList hempty
    · rw [String.toList_ofList, ← List.append_assoc, hl]
      exact List.prefix_append ..
  · rintro ⟨hmine, htheirs⟩ key ⟨-, id, -, rfl⟩ hkey
    exact (List.prefix_or_prefix_of_prefix ((hsees id).mp hkey) (List.prefix_append ..)).elim
      htheirs hmine

end Isolated

/-! ### Two prefixes -/

/-- Settings that differ from `redisLocal` in their prefix. -/
def withPrefix (keyPrefix : String) : Settings ℕ := { redisLocal with keyPrefix }

theorem exists_item (id : String) : ∃ entity, idOf itemMapping entity = id := ⟨id, rfl⟩

/-- Repositories with the prefixes `orders` and `users` leave each other as they are. -/
theorem isolated_orders : Isolated starGlob (repository (withPrefix "orders") itemMapping)
    (repository (withPrefix "users") itemMapping) :=
  (isolated_iff exists_item exists_item).mpr
    ⟨(apart_iff globs_starGlob (List.all_iff_forall_prop.mp (by decide)) (by decide)).mpr (by decide),
      (apart_iff globs_starGlob (List.all_iff_forall_prop.mp (by decide)) (by decide)).mpr (by decide)⟩

/-- **Prefixes that differ are not enough**: `shop:eu` is an id of the repository `shop`. -/
theorem not_isolated_of_ne : "shop" ≠ "shop:eu" ∧
    ¬ Isolated starGlob (repository (withPrefix "shop") itemMapping)
      (repository (withPrefix "shop:eu") itemMapping) := by
  refine ⟨by decide, fun h => ?_⟩
  have hapart := (apart_iff globs_starGlob (List.all_iff_forall_prop.mp (by decide)) (by decide)).mp
    (apart_of_undisturbed exists_item h.1)
  exact hapart.2 (by decide)

end OpenframeAdapters.Db.Redis
