import OpenframeAdapters.Db.Cassandra.Repository
import OpenframeAdapters.Db.Mysql.Repository
import OpenframeAdapters.Db.Oracle.Repository
import OpenframeAdapters.Db.Server
import OpenframeAdapters.Sql.Reader

/-!
# The SQL repositories agree

Six repositories build an `INSERT` and an `UPDATE` out of a row dictionary, with three ways to
write placeholders. Read under their own way, the texts and value lists that they hand over mean the
same statement.

## The model

* `insertOf` and `updateOf` — what the statements have to mean.
* `written` — the meanings of the statements that an operation has sent, apart from those that only
  read. A text without a meaning shows as `none`.
* `Builds` — what is asked of an adapter's `create()` and `update()`. One that sends no statement
  has to have met a call that raised.

## What is proved

* `builds` — all six build the same statements. A row that has nothing but the id column is
  rejected, except that the Cassandra repository looks for the row first, and returns `None` where
  there is none.
* `not_builds` — the exception is real.
-/

namespace OpenframeAdapters.Db

open Python OpenframeAdapters.Core

open Postgres (Table Param)

open Sql (Stmt Style)

/-! ### The client, with all answers kept -/

section Log

variable {S K A σ α : Type} {C : Driver}

/-- Answers to calls that concern the client only. -/
def Connecting (t : List (Answer (connecting A C) PyExc)) : Prop :=
  ∀ a ∈ t, a.call.isLeft = true

/-- The driver has raised. -/
def Raises {D : Driver} (t : List (Answer D PyExc)) : Prop := ∃ a ∈ t, a.reply.isOk = false

variable {Q : α → List (Answer (connecting A C) PyExc) → Prop}
  {E : Raised → List (Answer (connecting A C) PyExc) → Prop}
  {t : List (Answer (connecting A C) PyExc)}

theorem wp_tryExcept {D : Driver} {G : Type} {observe : G → Answer D PyExc → G}
    {Q : α → G → Prop} {E : Raised → G → Prop} {g : G} {clauses : Clauses Cls AdapterError}
    {p : Operation D σ α} : (tryExcept clauses p).wp observe Q E g ↔
      p.wp observe Q (fun x g => E (rethrow clauses x) g) g := Coro.wp_tryCatch

/-- A call that concerns the client. -/
theorem wp_connect_log {q : ConnectCall A}
    {Q : q.Reply → List (Answer (connecting A C) PyExc) → Prop}
    (hQ : ∀ c t', Connecting t' → Q c (t ++ t'))
    (hE : ∀ x t', Connecting t' → Raises t' → E x (t ++ t')) :
    (call (σ := σ) (D := connecting A C) (.inl q)).wp Coro.log Q E t := by
  have hone : ∀ r, Connecting (C := C) [⟨.inl q, r⟩] := by
    intro r a ha
    rw [List.mem_singleton.mp ha]
    rfl
  exact Coro.wp_call.mpr ⟨fun c => hQ c _ (hone _), fun exc => hE _ _ (hone _)
    ⟨_, List.mem_singleton_self _, rfl⟩⟩

theorem Connecting.append {t t' : List (Answer (connecting A C) PyExc)} (h : Connecting t)
    (h' : Connecting t') : Connecting (t ++ t') :=
  List.forall_mem_append.mpr ⟨h, h'⟩

theorem Raises.append_left {D : Driver} {t : List (Answer D PyExc)} (h : Raises t)
    (t' : List (Answer D PyExc)) : Raises (t ++ t') :=
  h.imp fun _ ha => ⟨List.mem_append_left t' ha.1, ha.2⟩

theorem Raises.append_right {D : Driver} {t' : List (Answer D PyExc)} (t : List (Answer D PyExc))
    (h : Raises t') : Raises (t ++ t') :=
  h.imp fun _ ha => ⟨List.mem_append_right t ha.1, ha.2⟩

variable {f : Factory S K A} {settings : S}

/-- A client is made. -/
theorem wp_makeClient_log {Q : ℕ → List (Answer (connecting A C) PyExc) → Prop}
    (hQ : ∀ c t', Connecting t' → Q c (t ++ t'))
    (hE : ∀ x t', Connecting t' → Raises t' → E x (t ++ t')) :
    (f.makeClient (C := C) (σ := σ) settings).wp Coro.log Q E t := by
  have hconnect : (tryExcept f.connectErrors
      (call (D := connecting A C) (.inl (.connect (f.arguments settings)))) :
        Operation (connecting A C) σ ℕ).wp Coro.log Q E t :=
    wp_tryExcept.mpr (wp_connect_log hQ fun x => hE _)
  unfold Factory.makeClient
  cases f.making with
  | awaited => exact hconnect
  | executor => exact hconnect
  | probed closing =>
    refine Coro.wp_bind.mpr (wp_tryExcept.mpr (wp_connect_log (fun c t₁ h₁ => ?_) fun x => hE _))
    refine Coro.wp_bind.mpr (Coro.wp_tryCatch.mpr (wp_connect_log (fun _ t₂ h₂ => ?_)
      fun x t₂ h₂ hx₂ => ?_))
    · rw [List.append_assoc]
      exact hQ c _ (h₁.append h₂)
    · -- the first command has raised, and the client may be closed
      have hraise : ∀ y t₃, Connecting t₃ → E y (t ++ t₁ ++ t₂ ++ t₃) := by
        intro y t₃ h₃
        rw [List.append_assoc, List.append_assoc]
        exact hE y _ (h₁.append (h₂.append h₃)) ((hx₂.append_left t₃).append_right t₁)
      have hnow : ∀ y, E y (t ++ t₁ ++ t₂) := by
        intro y
        have h := hraise y [] (fun _ ha => nomatch ha)
        rwa [List.append_nil] at h
      cases x with
      | adapter err => exact hnow _
      | raw exc =>
        unfold Factory.giveUp
        dsimp only
        split_ifs
        · exact Coro.wp_bind.mpr (wp_connect_log (fun _ t₃ h₃ => hraise _ t₃ h₃)
            fun y t₃ h₃ _ => hraise y t₃ h₃)
        · exact hnow _

/-- **Clients**: `get_*` makes no calls but those that concern the client, and when it raises, then
the settings are refused or one of these calls has raised. -/
theorem wp_getClient_log {cached : σ → Option ℕ} {store : ℕ → σ → σ}
    {Q : ℕ → List (Answer (connecting A C) PyExc) → Prop}
    (hQ : ∀ c t', Connecting t' → Q c (t ++ t'))
    (hE : ∀ x t', Connecting t' → (f.refuses settings = none → Raises t') → E x (t ++ t')) :
    (f.getClient (C := C) settings cached store).wp Coro.log Q E t := by
  have hnil : Connecting ([] : List (Answer (connecting A C) PyExc)) := fun _ ha => nomatch ha
  refine Coro.wp_bind.mpr (Coro.wp_get.mpr fun s => ?_)
  cases cached s with
  | some c => simpa using hQ c [] hnil
  | none =>
    cases hr : f.refuses settings with
    | some err =>
      have h := hE (.adapter err) [] hnil fun h => by simp [hr] at h
      rwa [List.append_nil] at h
    | none =>
      refine Coro.wp_bind.mpr (wp_makeClient_log (fun c t' ht' => ?_) fun x t' ht' hx => ?_)
      · exact hQ c t' ht'
      · exact hE x t' ht' fun _ => hx

/-- The same, for a ghost state that these calls do not change. -/
theorem wp_getClient {G : Type} {observe : G → Answer (connecting A C) PyExc → G} {g : G}
    {cached : σ → Option ℕ} {store : ℕ → σ → σ} {Q : ℕ → G → Prop} {E : Raised → G → Prop}
    (hobs : ∀ q r, observe g ⟨.inl q, r⟩ = g) (hQ : ∀ c, Q c g) (hE : ∀ x, E x g) :
    (f.getClient (C := C) settings cached store).wp observe Q E g := by
  have hfold : ∀ t' : List (Answer (connecting A C) PyExc), Connecting t' →
      t'.foldl observe g = g := by
    intro t' ht'
    induction t' with
    | nil => rfl
    | cons a t' ih =>
      obtain ⟨q | q, r⟩ := a
      · rw [List.foldl_cons, hobs]
        exact ih fun b hb => ht' b (List.mem_cons_of_mem _ hb)
      · exact absurd (ht' _ (List.mem_cons_self ..)) Bool.false_ne_true
  refine Coro.wp_of_log (t := []) (wp_getClient_log (fun c t' ht' => ?_) fun x t' ht' _ => ?_)
  · rw [List.nil_append, hfold t' ht']
    exact hQ c
  · rw [List.nil_append, hfold t' ht']
    exact hE x

end Log

/-! ### What the builders have to build -/

section Meaning

variable {V : Type} (t : Table) (rowDict : Dict String V)

/-- The id column is one of the columns, and all names are words. -/
structure IsRow : Prop where
  /-- The table, which may be qualified. -/
  table : Sql.IsWord t.name
  /-- The columns. -/
  names : ∀ c ∈ columns rowDict, Sql.IsWord c
  /-- The id column. -/
  idColumn : t.idColumn ∈ columns rowDict

/-- Every column gets its own value. -/
def insertOf : Stmt (Param V) :=
  .insert t.name (rowDict.items.map fun item => (item.1, .value item.2))

/-- Every other column is set to its own value where the id column has the value of the row. -/
def updateOf : Stmt (Param V) :=
  .update t.name ((updateCols t rowDict).map fun item => (item.1, .value item.2))
    (t.idColumn, entityId t rowDict)

variable {A σ T : Type} {C : Driver}

/-- What a call means, if it is a statement that does more than read. A text without a meaning
shows as `none`. -/
def meaning (style : Style) (statement : C.Call → Option (String × List (Param V))) :
    (connecting A C).Call → Option (Option (Stmt (Param V)))
  | .inl _ => none
  | .inr q => (statement q).bind fun s =>
    match Sql.read style s.1 s.2 with
    | some (.select ..) => none
    | stmt => some stmt

/-- The meanings of the statements that have been sent. -/
def written (style : Style) (statement : C.Call → Option (String × List (Param V)))
    (answers : List (Answer (connecting A C) PyExc)) : List (Option (Stmt (Param V))) :=
  answers.filterMap fun a => meaning style statement a.call

/-- What is asked of `create()` and `update()` of a row. `absent` says that the operation has looked
for the row before, and not found it. -/
structure Builds (style : Style) (statement : C.Call → Option (String × List (Param V)))
    (absent : List (Answer (connecting A C) PyExc) → Prop)
    (create : Operation (connecting A C) σ T) (update : Operation (connecting A C) σ (Option T)) :
    Prop where
  /-- The one statement of `create()`. -/
  inserts : ∀ {answers o}, create.Ends answers o →
    written style statement answers = [some (insertOf t rowDict)] ∨
      written style statement answers = [] ∧ Raises answers ∧ o.isOk = false
  /-- The one statement of `update()`. -/
  updates : updateCols t rowDict ≠ [] → ∀ {answers o}, update.Ends answers o →
    written style statement answers = [some (updateOf t rowDict)] ∨
      written style statement answers = [] ∧
        (Raises answers ∧ o.isOk = false ∨ absent answers ∧ o = .ok none)
  /-- A row that has nothing but the id column. -/
  rejects : updateCols t rowDict = [] → ∀ {answers o}, update.Ends answers o →
    written style statement answers = [] ∧ (¬ Raises answers →
      o = .error (.adapter ⟨.query, "update", none⟩) ∧ ¬ absent answers ∨
        absent answers ∧ o = .ok none)

variable {t rowDict}

theorem columns_ne_nil (h : IsRow t rowDict) : columns rowDict ≠ [] :=
  List.ne_nil_of_mem h.idColumn

theorem names_updateCols (h : IsRow t rowDict) :
    ∀ c ∈ (updateCols t rowDict).map Prod.fst, Sql.IsWord c := by
  intro c hc
  obtain ⟨item, hitem, rfl⟩ := List.mem_map.mp hc
  exact h.names _ (List.mem_map_of_mem (List.mem_of_mem_filter hitem))

/-- The text of an `INSERT` with the values of the row. -/
theorem read_insert (h : IsRow t rowDict) {style : Style} (tail : String)
    (htail : Sql.returning (Sql.lex tail.toList) = true) :
    Sql.read style (Sql.insertText style t.name (columns rowDict) tail) (values rowDict) =
      some (insertOf t rowDict) := by
  rw [Sql.read_insertText h.table h.names (columns_ne_nil h) htail (by simp [values, columns])]
  simp [insertOf, columns, values, List.zip_map']

/-- The text of an `UPDATE` with the values of the other columns and the id. -/
theorem read_update (h : IsRow t rowDict) (hcols : updateCols t rowDict ≠ []) {style : Style}
    {tail : String} (hclear : Sql.Clear tail.toList)
    (htail : Sql.returning (Sql.lex tail.toList) = true) :
    Sql.read style (Sql.updateText style t.name ((updateCols t rowDict).map Prod.fst) t.idColumn tail)
      (updateValues t rowDict) = some (updateOf t rowDict) := by
  rw [updateValues, Sql.read_updateText h.table (names_updateCols h) (h.names _ h.idColumn)
    (by simpa using hcols) hclear htail (by simp)]
  simp [updateOf, List.zip_map']

/-! ### The statements that are sent -/

section Sent

variable {α : Type} {style : Style} {statement : C.Call → Option (String × List (Param V))}

theorem meaning_insert (h : IsRow t rowDict) {q : C.Call} {text tail : String}
    (hq : statement q = some (text, values rowDict))
    (htext : text = Sql.insertText style t.name (columns rowDict) tail)
    (htail : Sql.returning (Sql.lex tail.toList) = true) :
    meaning (A := A) style statement (.inr q) = some (some (insertOf t rowDict)) := by
  have hread := htext ▸ read_insert h _ htail
  simp only [meaning, hq, Option.bind_some, hread]
  rfl

theorem meaning_update (h : IsRow t rowDict) (hcols : updateCols t rowDict ≠ []) {q : C.Call}
    {text tail : String} (hq : statement q = some (text, updateValues t rowDict))
    (htext : text = Sql.updateText style t.name ((updateCols t rowDict).map Prod.fst) t.idColumn tail)
    (hclear : Sql.Clear tail.toList) (htail : Sql.returning (Sql.lex tail.toList) = true) :
    meaning (A := A) style statement (.inr q) = some (some (updateOf t rowDict)) := by
  have hread := htext ▸ read_update h hcols hclear htail
  simp only [meaning, hq, Option.bind_some, hread]
  rfl

/-- The statements that have been sent so far, and whether a call has raised. -/
structure Progress (V : Type) where
  /-- The meanings of the statements. -/
  stmts : List (Option (Stmt (Param V)))
  /-- A call has raised. -/
  raised : Bool

/-- What one more answer adds. -/
def observe (style : Style) (statement : C.Call → Option (String × List (Param V)))
    (w : Progress V) (a : Answer (connecting A C) PyExc) : Progress V :=
  ⟨w.stmts ++ (meaning style statement a.call).toList, w.raised || !a.reply.isOk⟩

variable {w : Progress V} {E : Raised → Progress V → Prop}

theorem observe_ok {q : C.Call} {m : Option (Option (Stmt (Param V)))}
    (hq : meaning (A := A) style statement (.inr q) = m) (a : C.Reply q) :
    observe style statement w (⟨.inr q, .ok a⟩ : Answer (connecting A C) PyExc) =
      ⟨w.stmts ++ m.toList, w.raised⟩ := by
  rw [observe, hq]
  exact congrArg _ (Bool.or_false _)

theorem observe_error {q : C.Call} {m : Option (Option (Stmt (Param V)))}
    (hq : meaning (A := A) style statement (.inr q) = m) (x : PyExc) :
    observe style statement w (⟨.inr q, .error x⟩ : Answer (connecting A C) PyExc) =
      ⟨w.stmts ++ m.toList, true⟩ := by
  rw [observe, hq]
  exact congrArg _ (Bool.or_true _)

theorem foldl_observe (answers : List (Answer (connecting A C) PyExc)) (w : Progress V) :
    answers.foldl (observe style statement) w =
      ⟨w.stmts ++ written style statement answers,
        w.raised || answers.any fun a => !a.reply.isOk⟩ := by
  induction answers generalizing w with
  | nil => simp [written]
  | cons a answers ih =>
    rw [List.foldl_cons, ih, observe, List.append_assoc, written, written, List.filterMap_cons,
      List.any_cons, Bool.or_assoc]
    cases meaning style statement a.call <;> rfl

theorem raises_iff {D : Driver} {t : List (Answer D PyExc)} :
    Raises t ↔ (t.any fun a => !a.reply.isOk) = true := by
  simp [Raises]

/-- What holds of the statements sent, as a ghost state, holds of `written`. -/
theorem written_of_wp {p : Operation (connecting A C) σ α} {Q : α → Progress V → Prop}
    (hp : p.wp (observe style statement) Q E ⟨[], false⟩)
    {answers : List (Answer (connecting A C) PyExc)} {o : Except Raised α}
    (h : p.Ends answers o) :
    Coro.Promised Q E ⟨written style statement answers, answers.any fun a => !a.reply.isOk⟩ o := by
  have hend := h.of_wp hp
  rwa [foldl_observe, List.nil_append, Bool.false_or] at hend

/-- A call that is no statement, or only reads. -/
theorem wp_quiet {q : C.Call} {Q : C.Reply q → Progress V → Prop}
    (hq : meaning (A := A) style statement (.inr q) = none) (hQ : ∀ a, Q a w)
    (hE : ∀ x, E x ⟨w.stmts, true⟩) :
    (command (A := A) (σ := σ) q).wp (observe style statement) Q E w := by
  refine Coro.wp_call.mpr ⟨fun a => ?_, fun x => ?_⟩
  · rw [observe_ok hq, Option.toList_none, List.append_nil]
    exact hQ a
  · rw [observe_error hq, Option.toList_none, List.append_nil]
    exact hE _

/-- A statement that changes rows. -/
theorem wp_sends {q : C.Call} {Q : C.Reply q → Progress V → Prop} {m : Option (Stmt (Param V))}
    (hq : meaning (A := A) style statement (.inr q) = some m)
    (hQ : ∀ a, Q a ⟨w.stmts ++ [m], w.raised⟩) (hE : ∀ x, E x ⟨w.stmts ++ [m], true⟩) :
    (command (A := A) (σ := σ) q).wp (observe style statement) Q E w := by
  refine Coro.wp_call.mpr ⟨fun a => ?_, fun x => ?_⟩
  · rw [observe_ok hq]
    exact hQ a
  · rw [observe_error hq]
    exact hE _

theorem written_connecting {t : List (Answer (connecting A C) PyExc)} (ht : Connecting t) :
    written style statement t = [] := by
  refine List.filterMap_eq_nil_iff.mpr fun a ha => ?_
  obtain ⟨q | q, r⟩ := a
  · rfl
  · exact absurd (ht _ ha) Bool.false_ne_true

/-- The client: no statement is sent, and there is one, or a call has raised. -/
theorem wp_client {S K : Type} {f : Factory S K A} {settings : S} {cached : σ → Option ℕ}
    {store : ℕ → σ → σ} {Q : ℕ → Progress V → Prop} (hr : f.refuses settings = none)
    (hQ : ∀ c b, Q c ⟨w.stmts, b⟩) (hE : ∀ x, E x ⟨w.stmts, true⟩) :
    (f.getClient (C := C) settings cached store).wp (observe style statement) Q E w := by
  refine Coro.wp_of_log (t := []) (wp_getClient_log (fun c t ht => ?_) fun x t ht hx => ?_)
  · rw [List.nil_append, foldl_observe, written_connecting ht, List.append_nil]
    exact hQ c _
  · rw [List.nil_append, foldl_observe, written_connecting ht, List.append_nil, raises_iff.mp (hx hr),
      Bool.or_true]
    exact hE x

/-- The statement has been sent, or nothing, and then a call has raised. -/
def Ending (m : Option (Stmt (Param V))) (w : Progress V) : Prop :=
  w.stmts = [m] ∨ w.stmts = [] ∧ w.raised = true

/-- **Blocks** that are entered and left with calls that are no statements. -/
theorem wp_block {m : Option (Stmt (Param V))} {enter : C.Call}
    {body : C.Reply enter → Operation (connecting A C) σ α}
    {leave : C.Reply enter → Operation (connecting A C) σ Unit} {Q : α → Progress V → Prop}
    (henter : meaning (A := A) style statement (.inr enter) = none)
    (hleave : ∀ r w {P : Progress V → Prop}, P w → Ending m ⟨w.stmts, true⟩ →
      (leave r).wp (observe style statement) (fun _ => P) (fun _ => Ending m) w)
    (h : Ending m ⟨w.stmts, true⟩) (hbody : ∀ r, (body r).wp (observe style statement)
      (fun a w => Q a w ∧ Ending m ⟨w.stmts, true⟩) (fun _ => Ending m) w) :
    (command enter >>= fun r => Coro.tryFinally (body r) (leave r)).wp (observe style statement) Q
      (fun _ => Ending m) w := by
  refine Coro.wp_bind.mpr (wp_quiet henter (fun r => ?_) fun _ => h)
  refine Coro.wp_tryFinally.mpr (Coro.wp_mono (fun a w ha => ?_) (fun x w hx => ?_) (hbody r))
  · exact hleave r w ha.1 ha.2
  · exact hleave r w hx (hx.imp_right fun hw => ⟨hw.1, rfl⟩)

theorem meaning_select (h : IsRow t rowDict) {q : C.Call} {text tail : String} {v : Param V}
    {n : Option ℕ} (hq : statement q = some (text, [v]))
    (htext : text = Sql.selectText style t.name t.idColumn tail) (hclear : Sql.Clear tail.toList)
    (htail : Sql.limit (Sql.lex tail.toList) = some n) :
    meaning (A := A) style statement (.inr q) = none := by
  have hread := htext ▸ Sql.read_selectText h.table (h.names _ h.idColumn) hclear v htail
  simp only [meaning, hq, Option.bind_some, hread]

/-- An operation that sends one statement, unless a call before it raises. -/
theorem written_of_sends {p : Operation (connecting A C) σ α} {m : Option (Stmt (Param V))}
    (hp : p.wp (observe style statement) (fun _ w => w.stmts = [m]) (fun _ => Ending m) ⟨[], false⟩)
    {answers : List (Answer (connecting A C) PyExc)} {o : Except Raised α}
    (h : p.Ends answers o) : written style statement answers = [m] ∨
      written style statement answers = [] ∧ Raises answers ∧ o.isOk = false := by
  have hend := written_of_wp hp h
  cases o with
  | ok a => exact .inl hend
  | error x => exact hend.imp_right fun hw => ⟨hw.1, raises_iff.mpr hw.2, rfl⟩

variable (statement) in
/-- One more call. -/
theorem written_concat {t : List (Answer (connecting A C) PyExc)} (ht : written style statement t = [])
    {q : C.Call} {m : Option (Option (Stmt (Param V)))}
    (hq : meaning (A := A) style statement (.inr q) = m) (r : Except PyExc (C.Reply q)) :
    written style statement (t ++ [(⟨.inr q, r⟩ : Answer (connecting A C) PyExc)]) = m.toList := by
  subst hq
  rw [written, List.filterMap_append, ← written, ht, List.nil_append, List.filterMap_cons]
  cases meaning style statement (.inr q) <;> rfl

theorem written_append (t t' : List (Answer (connecting A C) PyExc)) :
    written style statement (t ++ t') = written style statement t ++ written style statement t' :=
  List.filterMap_append

/-- An operation that raises as soon as it has a client. -/
theorem rejects_of_fail {S K : Type} {f : Factory S K A} {settings : S} {cached : σ → Option ℕ}
    {store : ℕ → σ → σ} {p : ℕ → Operation (connecting A C) σ (Option T)} {err : AdapterError}
    (hr : f.refuses settings = none)
    (hp : ∀ c Q E t, E (.adapter err) t → (p c).wp Coro.log Q E t)
    {answers : List (Answer (connecting A C) PyExc)} {o : Except Raised (Option T)}
    (h : (f.getClient settings cached store >>= p).Ends answers o) :
    written style statement answers = [] ∧ (¬ Raises answers → o = .error (.adapter err)) := by
  have hwp : (f.getClient settings cached store >>= p).wp Coro.log (fun _ _ => False)
      (fun x t => written style statement t = [] ∧ (¬ Raises t → x = .adapter err)) [] := by
    refine Coro.wp_bind.mpr (wp_getClient_log (fun c t ht => ?_) fun x t ht hx => ?_)
    · exact hp c _ _ _ ⟨written_connecting ht, fun _ => rfl⟩
    · exact ⟨written_connecting ht, fun hno => absurd (hx hr) hno⟩
  have hend := h.of_wp_log hwp
  cases o with
  | ok a => exact hend.elim
  | error x => exact ⟨hend.1, fun hno => congrArg Except.error (hend.2 hno)⟩

end Sent

end Meaning

/-! ### The builders -/

section Builders

variable (t : Table) (cols : List String)

theorem placeholder_dollar (i : ℕ) : Style.dollar.placeholder i = "$" ++ toString (i + 1) := by
  refine String.toList_inj.mp ?_
  simp [Style.placeholder, Style.sigil, Style.body]

theorem placeholder_colon (i : ℕ) : Style.colon.placeholder i = ":" ++ toString (i + 1) := by
  refine String.toList_inj.mp ?_
  simp [Style.placeholder, Style.sigil, Style.body]

theorem placeholders_postgres (n : ℕ) :
    Postgres.placeholders n = (List.range n).map Style.dollar.placeholder :=
  List.map_congr_left fun i _ => (placeholder_dollar i).symm

theorem placeholders_oracle (n : ℕ) :
    Oracle.placeholders n = (List.range n).map Style.colon.placeholder :=
  List.map_congr_left fun i _ => (placeholder_colon i).symm

/-- One `%s` for each column, however they are counted. -/
theorem placeholders_percent :
    (cols.map fun _ => "%s") = (List.range cols.length).map Style.percent.placeholder := by
  refine List.ext_getElem (by simp) fun i hi hi' => ?_
  simp [Style.placeholder, Style.sigil, Style.body]

/-- Each column with its placeholder, however they are put together. -/
theorem assignments_zipWith (style : Style) :
    ", ".intercalate (cols.zipWith (fun col p => s!"{col} = {p}")
      ((List.range cols.length).map style.placeholder)) = style.assignments cols := by
  rw [Style.assignments]
  congr 1
  refine List.ext_getElem (by simp) fun i hi hi' => ?_
  simp

theorem assignments_percent :
    ", ".intercalate (cols.map fun col => s!"{col} = %s") = Style.percent.assignments cols := by
  rw [Style.assignments]
  congr 1
  refine List.ext_getElem (by simp) fun i hi hi' => ?_
  have hlast : ∀ n, " = %s" = " = " ++ Style.percent.placeholder n := fun _ => rfl
  simp only [List.getElem_map, List.getElem_zipIdx, Sql.toString_self, String.append_assoc]
  rw [← hlast]

theorem insertQuery_postgres :
    Postgres.insertQuery t cols = Sql.insertText .dollar t.name cols " RETURNING *" := by
  unfold Postgres.insertQuery Sql.insertText Style.list
  rw [placeholders_postgres]
  simp only [Sql.toString_self, String.append_assoc]
  rfl

theorem updateQuery_postgres :
    Postgres.updateQuery t cols = Sql.updateText .dollar t.name cols t.idColumn " RETURNING *" := by
  unfold Postgres.updateQuery Sql.updateText
  rw [placeholders_postgres, assignments_zipWith]
  have hlast : " = $" = " = " ++ "$" := rfl
  simp only [Sql.toString_self, String.append_assoc, placeholder_dollar, hlast]

theorem insertQuery_oracle :
    Oracle.insertQuery t cols = Sql.insertText .colon t.name cols "" := by
  unfold Oracle.insertQuery Sql.insertText Style.list
  rw [placeholders_oracle]
  simp only [Sql.toString_self, String.append_empty]

theorem updateQuery_oracle :
    Oracle.updateQuery t cols = Sql.updateText .colon t.name cols t.idColumn "" := by
  unfold Oracle.updateQuery Sql.updateText
  rw [placeholders_oracle, assignments_zipWith]
  have hlast : " = :" = " = " ++ ":" := rfl
  simp only [Sql.toString_self, String.append_assoc, placeholder_colon, hlast, String.append_empty]

theorem getQuery_oracle : Oracle.getQuery t = Sql.selectText .colon t.name t.idColumn "" := by
  have hlast : " = :1" = " = " ++ Style.colon.placeholder 0 := rfl
  unfold Oracle.getQuery Sql.selectText
  simp only [Sql.toString_self, String.append_assoc, hlast, String.append_empty]

theorem getQuery_mysql :
    Mysql.getQuery t = Sql.selectText .percent t.name t.idColumn " LIMIT 1" := by
  have hlast : " = %s LIMIT 1" = " = " ++ Style.percent.placeholder 0 ++ " LIMIT 1" := rfl
  unfold Mysql.getQuery Sql.selectText
  simp only [Sql.toString_self, String.append_assoc, hlast]

theorem insertQuery_mysql :
    Mysql.insertQuery t cols = Sql.insertText .percent t.name cols "" := by
  unfold Mysql.insertQuery Sql.insertText Style.list
  rw [← placeholders_percent, List.map_const']
  simp only [Sql.toString_self, String.append_empty]

theorem updateQuery_mysql :
    Mysql.updateQuery t cols = Sql.updateText .percent t.name cols t.idColumn "" := by
  unfold Mysql.updateQuery Sql.updateText
  rw [assignments_percent]
  have hlast : ∀ n, " = %s" = " = " ++ Style.percent.placeholder n := fun _ => rfl
  simp only [Sql.toString_self, String.append_assoc, String.append_empty, ← hlast]

theorem insertQuery_cassandra :
    Cassandra.insertQuery t cols = Sql.insertText .percent t.name cols "" := by
  unfold Cassandra.insertQuery Sql.insertText Style.list
  rw [← placeholders_percent]
  simp only [Sql.toString_self, String.append_empty]

theorem updateQuery_cassandra :
    Cassandra.updateQuery t cols = Sql.updateText .percent t.name cols t.idColumn "" :=
  updateQuery_mysql t cols

theorem getQuery_cassandra :
    Cassandra.getQuery t = Sql.selectText .percent t.name t.idColumn " LIMIT 1" :=
  getQuery_mysql t

end Builders

/-! ### Postgres and CockroachDB -/

namespace Postgres

variable {F R V T : Type}

/-- The statements among the calls. -/
def statement : Command V → Option (String × List (Param V))
  | .fetchrow _ query args | .fetch _ query args | .execute _ query args => some (query, args)
  | .fetchval _ query => some (query, [])
  | .acquire _ | .release _ => none

variable {settings : PostgresSettings F} {mapping : Mapping R V T} {t : Table} {entity : T}

theorem wp_getPool {w : Progress V} {Q : ℕ → Progress V → Prop} {E : Raised → Progress V → Prop}
    (hQ : ∀ c b, Q c ⟨w.stmts, b⟩) (hE : ∀ x, E x ⟨w.stmts, true⟩) :
    (getPool (R := R) settings).wp (observe .dollar (C := commands R V) statement) Q E w :=
  wp_client rfl hQ hE

theorem builds (h : IsRow t (mapping.entityToRow entity)) :
    Builds t (mapping.entityToRow entity) .dollar (C := commands R V) statement (fun _ => False)
      (create settings mapping t entity) (update settings mapping t entity) where
  inserts := by
    refine written_of_sends ?_
    unfold create
    refine Coro.wp_bind.mpr (wp_getPool (fun pool b => ?_) fun x => .inr ⟨rfl, rfl⟩)
    refine Coro.wp_bind.mpr (wp_tryExcept.mpr (wp_sends
      (meaning_insert h rfl (insertQuery_postgres t _) (by decide)) (fun row => ?_) fun x => .inl rfl))
    cases row with
    | none => exact .inl rfl
    | some row => rfl
  updates hcols := by
    refine fun hend => (written_of_sends ?_ hend).imp_right (And.imp_right .inl)
    unfold update
    refine Coro.wp_bind.mpr (wp_getPool (fun pool b => ?_) fun x => .inr ⟨rfl, rfl⟩)
    dsimp only
    split_ifs with hempty
    · exact absurd (List.isEmpty_iff.mp hempty) hcols
    · exact Coro.wp_bind.mpr (wp_tryExcept.mpr (wp_sends
        (meaning_update h hcols rfl (updateQuery_postgres t _) rfl (by decide)) (fun _ => rfl)
        fun _ => .inl rfl))
  rejects hcols := by
    refine fun hend => (rejects_of_fail rfl (fun pool Q E t' hE => ?_) hend).imp_right fun ho hno =>
      .inl ⟨ho hno, id⟩
    dsimp only
    split_ifs with hempty
    · exact hE
    · exact absurd (List.isEmpty_iff.mpr hcols) hempty

end Postgres

/-! ### MySQL and MariaDB -/

namespace Mysql

variable {F R V T : Type}

/-- The statements among the calls. -/
def statement : Command V → Option (String × List (Param V))
  | .execute _ query args => some (query, args)
  | .acquire _ | .release _ | .cursor _ | .closeCursor _ | .fetchone _ | .fetchall _ | .commit _ =>
    none

section Blocks

variable {α : Type} {m : Option (Stmt (Param V))} {w : Progress V}
  {Q : α → Progress V → Prop}
  {body : ℕ → Operation (driver F R V) (Option ℕ) α}

/-- Acquiring and releasing a connection sends no statements. -/
theorem wp_withConnection {pool : ℕ} (h : Ending m ⟨w.stmts, true⟩)
    (hbody : ∀ conn, (body conn).wp (observe .percent (C := commands R V) statement)
      (fun a w => Q a w ∧ Ending m ⟨w.stmts, true⟩) (fun _ => Ending m) w) :
    (withConnection pool body).wp (observe .percent (C := commands R V) statement) Q
      (fun _ => Ending m) w := by
  refine wp_block rfl (fun r w P hw hH => ?_) h hbody
  exact wp_quiet rfl (fun _ => hw) fun _ => hH

/-- Opening and closing a cursor sends no statements. -/
theorem wp_withCursor {conn : ℕ} (h : Ending m ⟨w.stmts, true⟩)
    (hbody : ∀ cur, (body cur).wp (observe .percent (C := commands R V) statement)
      (fun a w => Q a w ∧ Ending m ⟨w.stmts, true⟩) (fun _ => Ending m) w) :
    (withCursor conn body).wp (observe .percent (C := commands R V) statement) Q
      (fun _ => Ending m) w := by
  refine wp_block rfl (fun r w P hw hH => ?_) h hbody
  exact wp_quiet rfl (fun _ => hw) fun _ => hH

end Blocks

variable {settings : MySQLSettings F} {mapping : Mapping R V T} {t : Table} {entity : T}

theorem builds (h : IsRow t (mapping.entityToRow entity)) :
    Builds t (mapping.entityToRow entity) .percent (C := commands R V) statement (fun _ => False)
      (create settings mapping t entity) (update settings mapping t entity) where
  inserts := by
    refine written_of_sends ?_
    unfold create
    refine Coro.wp_bind.mpr (wp_client rfl (fun pool b => ?_)
      fun x => .inr ⟨rfl, rfl⟩)
    refine Coro.wp_bind.mpr (wp_tryExcept.mpr (wp_withConnection (.inr ⟨rfl, rfl⟩) fun conn => ?_))
    refine Coro.wp_bind.mpr (wp_withCursor (.inr ⟨rfl, rfl⟩) fun cur => ?_)
    refine Coro.wp_bind.mpr (wp_sends (meaning_insert h rfl (insertQuery_mysql t _) (by decide))
      (fun done => ?_) fun _ => .inl rfl)
    refine Coro.wp_bind.mpr (wp_quiet (meaning_select (n := some 1) h rfl (getQuery_mysql t) rfl
      (by decide)) (fun _ => ?_) fun _ => .inl rfl)
    refine wp_quiet rfl (fun row => ⟨?_, .inl rfl⟩) fun _ => .inl rfl
    refine Coro.wp_bind.mpr (wp_quiet rfl (fun _ => ⟨?_, .inl rfl⟩) fun _ => .inl rfl)
    cases mapping.rowToEntity row with
    | ok entity => rfl
    | error exc => exact .inl rfl
  updates hcols := by
    refine fun hend => (written_of_sends ?_ hend).imp_right (And.imp_right .inl)
    unfold update
    refine Coro.wp_bind.mpr (wp_client rfl (fun pool b => ?_)
      fun x => .inr ⟨rfl, rfl⟩)
    dsimp only
    split_ifs with hempty
    · exact absurd (List.isEmpty_iff.mp hempty) hcols
    refine Coro.wp_bind.mpr (wp_tryExcept.mpr (wp_withConnection (.inr ⟨rfl, rfl⟩) fun conn => ?_))
    -- whether or not a row was matched, the statement has been sent
    refine Coro.wp_bind.mpr (Coro.wp_mono (fun row w hw => ?_) (fun _ _ hw => hw) (wp_withCursor
      (Q := fun _ w => w.stmts = [some (updateOf t (mapping.entityToRow entity))]) (.inr ⟨rfl, rfl⟩)
      fun cur => ?_))
    rotate_left
    · refine Coro.wp_bind.mpr (wp_sends (meaning_update h hcols rfl (updateQuery_mysql t _) rfl
        (by decide)) (fun done => ?_) fun _ => .inl rfl)
      split_ifs
      · refine Coro.wp_bind.mpr (wp_quiet (meaning_select (n := some 1) h rfl (getQuery_mysql t) rfl
          (by decide)) (fun _ => ?_) fun _ => .inl rfl)
        exact wp_quiet rfl (fun row => ⟨rfl, .inl rfl⟩) fun _ => .inl rfl
      · exact ⟨rfl, .inl rfl⟩
    refine Coro.wp_bind.mpr (wp_quiet rfl (fun _ => ⟨?_, .inl hw⟩) fun _ => .inl hw)
    cases row with
    | none => exact hw
    | some row =>
      refine Coro.wp_bind.mpr ?_
      cases mapping.rowToEntity (some row) with
      | ok entity => exact hw
      | error exc => exact .inl hw
  rejects hcols := by
    refine fun hend => (rejects_of_fail rfl (fun pool Q E t' hE => ?_) hend).imp_right fun ho hno =>
      .inl ⟨ho hno, id⟩
    dsimp only
    split_ifs with hempty
    · exact hE
    · exact absurd (List.isEmpty_iff.mpr hcols) hempty

end Mysql

/-! ### Oracle -/

namespace Oracle

variable {V T : Type}

/-- The statements among the calls. -/
def statement : Command V → Option (String × List (Param V))
  | .execute _ query args => some (query, args)
  | .acquire _ | .release _ | .cursor _ | .closeCursor _ | .fetchone _ | .fetchall _ | .commit _ =>
    none

section Blocks

variable {α : Type} {m : Option (Stmt (Param V))} {w : Progress V}
  {Q : α → Progress V → Prop}
  {body : ℕ → Operation (driver V) (Option ℕ) α}

/-- Acquiring and releasing a connection sends no statements. -/
theorem wp_withConnection {pool : ℕ} (h : Ending m ⟨w.stmts, true⟩)
    (hbody : ∀ conn, (body conn).wp (observe .colon (C := commands V) statement)
      (fun a w => Q a w ∧ Ending m ⟨w.stmts, true⟩) (fun _ => Ending m) w) :
    (withConnection pool body).wp (observe .colon (C := commands V) statement) Q
      (fun _ => Ending m) w := by
  refine wp_block rfl (fun r w P hw hH => ?_) h hbody
  exact wp_quiet rfl (fun _ => hw) fun _ => hH

/-- Opening and closing a cursor sends no statements. -/
theorem wp_withCursor {conn : ℕ} (h : Ending m ⟨w.stmts, true⟩)
    (hbody : ∀ cur, (body cur).wp (observe .colon (C := commands V) statement)
      (fun a w => Q a w ∧ Ending m ⟨w.stmts, true⟩) (fun _ => Ending m) w) :
    (withCursor conn body).wp (observe .colon (C := commands V) statement) Q
      (fun _ => Ending m) w := by
  refine wp_block rfl (fun r w P hw hH => ?_) h hbody
  exact wp_quiet rfl (fun _ => hw) fun _ => hH

end Blocks

variable {settings : OracleSettings} {mapping : Mapping V T} {t : Table} {entity : T}

theorem builds (h : IsRow t (mapping.entityToRow entity)) :
    Builds t (mapping.entityToRow entity) .colon (C := commands V) statement (fun _ => False)
      (create settings mapping t entity) (update settings mapping t entity) where
  inserts := by
    refine written_of_sends ?_
    unfold create
    refine Coro.wp_bind.mpr (wp_client rfl (fun pool b => ?_)
      fun x => .inr ⟨rfl, rfl⟩)
    refine Coro.wp_bind.mpr (wp_tryExcept.mpr (wp_withConnection (.inr ⟨rfl, rfl⟩) fun conn => ?_))
    refine Coro.wp_bind.mpr (wp_withCursor (.inr ⟨rfl, rfl⟩) fun cur => ?_)
    refine Coro.wp_bind.mpr (wp_sends (meaning_insert h rfl (insertQuery_oracle t _) (by decide))
      (fun _ => ?_) fun _ => .inl rfl)
    refine Coro.wp_bind.mpr (wp_quiet (meaning_select (n := none) h rfl (getQuery_oracle t) rfl
      (by decide)) (fun done => ?_) fun _ => .inl rfl)
    refine Coro.wp_bind.mpr (wp_quiet rfl (fun row => ⟨?_, .inl rfl⟩) fun _ => .inl rfl)
    exact Coro.wp_bind.mpr (wp_quiet rfl (fun _ => ⟨rfl, .inl rfl⟩) fun _ => .inl rfl)
  updates hcols := by
    refine fun hend => (written_of_sends ?_ hend).imp_right (And.imp_right .inl)
    unfold update
    refine Coro.wp_bind.mpr (wp_client rfl (fun pool b => ?_)
      fun x => .inr ⟨rfl, rfl⟩)
    dsimp only
    split_ifs with hempty
    · exact absurd (List.isEmpty_iff.mp hempty) hcols
    refine Coro.wp_bind.mpr (wp_tryExcept.mpr (wp_withConnection (.inr ⟨rfl, rfl⟩) fun conn => ?_))
    refine Coro.wp_bind.mpr (wp_withCursor (.inr ⟨rfl, rfl⟩) fun cur => ?_)
    refine Coro.wp_bind.mpr (wp_sends (meaning_update h hcols rfl (updateQuery_oracle t _) rfl
      (by decide)) (fun done => ?_) fun _ => .inl rfl)
    split_ifs
    · -- no row was matched: the commit comes before the early return
      exact Coro.wp_bind.mpr (wp_quiet rfl (fun _ => ⟨⟨rfl, .inl rfl⟩, .inl rfl⟩) fun _ => .inl rfl)
    · refine Coro.wp_bind.mpr (wp_quiet (meaning_select (n := none) h rfl (getQuery_oracle t) rfl
        (by decide)) (fun done => ?_) fun _ => .inl rfl)
      refine Coro.wp_bind.mpr (wp_quiet rfl (fun row => ⟨?_, .inl rfl⟩) fun _ => .inl rfl)
      exact Coro.wp_bind.mpr (wp_quiet rfl (fun _ => ⟨rfl, .inl rfl⟩) fun _ => .inl rfl)
  rejects hcols := by
    refine fun hend => (rejects_of_fail rfl (fun pool Q E t' hE => ?_) hend).imp_right fun ho hno =>
      .inl ⟨ho hno, id⟩
    dsimp only
    split_ifs with hempty
    · exact hE
    · exact absurd (List.isEmpty_iff.mpr hcols) hempty

end Oracle

/-! ### Cassandra -/

namespace Cassandra

variable {R V T : Type}

/-- Every call is a statement. -/
def statement : Command V → Option (String × List (Param V))
  | .execute _ query params => some (query, params.getD [])

/-- A statement has found no rows. -/
def Absent (answers : List (Answer (driver R V) PyExc)) : Prop :=
  ∃ a ∈ answers, ∃ q : Command V, a = ⟨.inr q, .ok []⟩

theorem not_absent {t' : List (Answer (driver R V) PyExc)} (ht' : Connecting t') (q : Command V)
    (row : R) (rows : List R) : ¬ Absent (t' ++ [⟨.inr q, .ok (row :: rows)⟩]) := by
  rintro ⟨a, ha, q', rfl⟩
  rcases List.mem_append.mp ha with ha | ha
  · exact absurd (ht' _ ha) Bool.false_ne_true
  · cases List.mem_singleton.mp ha

variable {settings : CassandraSettings} {mapping : Mapping R V T} {t : Table} {entity : T}

/-- Looking for the row changes nothing. -/
theorem wp_getBy (hs : settings.contactPoints ≠ []) (h : IsRow t (mapping.entityToRow entity))
    {id : Param V} {Q : Option T → List (Answer (driver R V) PyExc) → Prop}
    {E : Raised → List (Answer (driver R V) PyExc) → Prop}
    (hnone : ∀ l, written .percent (C := commands R V) statement l = [] → Absent l → Q none l)
    (hsome : ∀ e l, written .percent (C := commands R V) statement l = [] → ¬ Absent l →
      Q (some e) l)
    (hE : ∀ x l, written .percent (C := commands R V) statement l = [] → Raises l → E x l) :
    (getBy settings mapping t id).wp Coro.log Q E [] := by
  unfold getBy execute
  refine Coro.wp_bind.mpr (Coro.wp_bind.mpr (wp_getClient_log (fun session t' ht' => ?_)
    fun x t' ht' hx => hE x t' (written_connecting ht') (hx (if_neg (by simpa using hs)))))
  have hread := written_concat (C := commands R V) statement
    (written_connecting ht') (meaning_select (n := some 1) h
      (q := Command.execute session _ (some [id])) rfl (getQuery_cassandra t) rfl (by decide))
  have hlast : ∀ a : Answer (driver R V) PyExc, a ∈ t' ++ [a] := fun _ =>
    List.mem_append_right _ (List.mem_singleton_self _)
  refine wp_tryExcept.mpr (Coro.wp_call.mpr ⟨fun rows => ?_, fun exc => ?_⟩)
  · cases rows with
    | nil => exact hnone _ (hread _) ⟨_, hlast _, _, rfl⟩
    | cons row rows => exact hsome _ _ (hread _) (not_absent ht' _ _ _)
  · exact hE _ _ (hread _) ⟨_, hlast _, rfl⟩

theorem builds (hs : settings.contactPoints ≠ []) (h : IsRow t (mapping.entityToRow entity)) :
    Builds t (mapping.entityToRow entity) .percent (C := commands R V) statement Absent
      (create settings mapping t entity) (update settings mapping t entity) where
  inserts := by
    refine written_of_sends ?_
    unfold create execute
    refine Coro.wp_bind.mpr (Coro.wp_bind.mpr (wp_client (if_neg (by simpa using hs))
      (fun session b => ?_) fun x => .inr ⟨rfl, rfl⟩))
    exact wp_tryExcept.mpr (wp_sends (meaning_insert h rfl (insertQuery_cassandra t _) (by decide))
      (fun _ => rfl) fun _ => .inl rfl)
  updates hcols := by
    intro answers o hend
    have hwp : (update settings mapping t entity).wp Coro.log
        (fun a l => written .percent (C := commands R V) statement l =
          [some (updateOf t (mapping.entityToRow entity))] ∨
          written .percent (C := commands R V) statement l = [] ∧ Absent l ∧ a = none)
        (fun _ l => written .percent (C := commands R V) statement l =
          [some (updateOf t (mapping.entityToRow entity))] ∨
          written .percent (C := commands R V) statement l = [] ∧ Raises l) [] := by
      unfold update
      refine Coro.wp_bind.mpr (wp_getBy hs h (fun l hl ha => .inr ⟨hl, ha, rfl⟩) (fun e l hl _ => ?_)
        fun x l hl hx => .inr ⟨hl, hx⟩)
      dsimp only
      split_ifs with hempty
      · exact absurd (List.isEmpty_iff.mp hempty) hcols
      have hlog : ∀ t', Connecting t' →
          written .percent (C := commands R V) statement (l ++ t') = [] := by
        intro t' ht'
        rw [written_append, hl, written_connecting ht']
        rfl
      unfold execute
      refine Coro.wp_bind.mpr (Coro.wp_bind.mpr (wp_getClient_log (fun session t' ht' => ?_)
        fun x t' ht' hx => .inr ⟨hlog t' ht', (hx (if_neg (by simpa using hs))).append_right l⟩))
      have hsent := written_concat (C := commands R V) statement (hlog t' ht')
        (meaning_update h hcols (q := Command.execute session _ (some _)) rfl
          (updateQuery_cassandra t _) rfl (by decide))
      exact wp_tryExcept.mpr (Coro.wp_call.mpr ⟨fun _ => .inl (hsent _), fun _ => .inl (hsent _)⟩)
    have hends := hend.of_wp_log hwp
    cases o with
    | ok a => exact hends.imp_right fun hw => ⟨hw.1, .inr ⟨hw.2.1, congrArg Except.ok hw.2.2⟩⟩
    | error x => exact hends.imp_right fun hw => ⟨hw.1, .inl ⟨hw.2, rfl⟩⟩
  rejects hcols := by
    intro answers o hend
    have hwp : (update settings mapping t entity).wp Coro.log
        (fun a l => written .percent (C := commands R V) statement l = [] ∧ Absent l ∧ a = none)
        (fun x l => written .percent (C := commands R V) statement l = [] ∧
          (¬ Raises l → x = .adapter ⟨.query, "update", none⟩ ∧ ¬ Absent l)) [] := by
      unfold update
      refine Coro.wp_bind.mpr (wp_getBy hs h (fun l hl ha => ⟨hl, ha, rfl⟩) (fun e l hl ha => ?_)
        fun x l hl hx => ⟨hl, fun hno => absurd hx hno⟩)
      dsimp only
      split_ifs with hempty
      · exact ⟨hl, fun _ => ⟨rfl, ha⟩⟩
      · exact absurd (List.isEmpty_iff.mpr hcols) hempty
    have hends := hend.of_wp_log hwp
    cases o with
    | ok a => exact ⟨hends.1, fun _ => .inr ⟨hends.2.1, congrArg Except.ok hends.2.2⟩⟩
    | error x => exact ⟨hends.1, fun hno =>
        .inl ⟨congrArg Except.error (hends.2 hno).1, (hends.2 hno).2⟩⟩

end Cassandra

/-! ### All six -/

/-- The `INSERT` and the `UPDATE` of a row mean the same for all six repositories. -/
structure Agree {V : Type} (t : Table) (rowDict : Dict String V) : Prop where
  /-- `PostgresRepository`. -/
  postgres : ∀ (F R T : Type) (settings : PostgresSettings F) (mapping : Postgres.Mapping R V T)
    (entity : T), mapping.entityToRow entity = rowDict →
    Builds t rowDict .dollar (C := Postgres.commands R V) Postgres.statement (fun _ => False)
      ((Postgres.repository settings mapping t).create entity)
      ((Postgres.repository settings mapping t).update entity)
  /-- `CockroachdbRepository`. -/
  cockroachdb : ∀ (F R T : Type) (settings : PostgresSettings F) (mapping : Postgres.Mapping R V T)
    (entity : T), mapping.entityToRow entity = rowDict →
    Builds t rowDict .dollar (C := Postgres.commands R V) Postgres.statement (fun _ => False)
      ((Postgres.cockroachdbRepository settings mapping t).create entity)
      ((Postgres.cockroachdbRepository settings mapping t).update entity)
  /-- `OracleRepository`. -/
  oracle : ∀ (T : Type) (settings : OracleSettings) (mapping : Oracle.Mapping V T) (entity : T),
    mapping.entityToRow entity = rowDict →
    Builds t rowDict .colon (C := Oracle.commands V) Oracle.statement (fun _ => False)
      ((Oracle.repository settings mapping t).create entity)
      ((Oracle.repository settings mapping t).update entity)
  /-- `MySQLRepository`. -/
  mysql : ∀ (F R T : Type) (settings : MySQLSettings F) (mapping : Mysql.Mapping R V T) (entity : T),
    mapping.entityToRow entity = rowDict →
    Builds t rowDict .percent (C := Mysql.commands R V) Mysql.statement (fun _ => False)
      ((Mysql.repository settings mapping t).create entity)
      ((Mysql.repository settings mapping t).update entity)
  /-- `MariadbRepository`. -/
  mariadb : ∀ (F R T : Type) (settings : MySQLSettings F) (mapping : Mysql.Mapping R V T)
    (entity : T), mapping.entityToRow entity = rowDict →
    Builds t rowDict .percent (C := Mysql.commands R V) Mysql.statement (fun _ => False)
      ((Mysql.mariadbRepository settings mapping t).create entity)
      ((Mysql.mariadbRepository settings mapping t).update entity)
  /-- `CassandraRepository`, which looks for the row before an `UPDATE`. -/
  cassandra : ∀ (R T : Type) (settings : CassandraSettings) (mapping : Cassandra.Mapping R V T)
    (entity : T), settings.contactPoints ≠ [] → mapping.entityToRow entity = rowDict →
    Builds t rowDict .percent (C := Cassandra.commands R V) Cassandra.statement Cassandra.Absent
      ((Cassandra.repository settings mapping t).create entity)
      ((Cassandra.repository settings mapping t).update entity)

/-- **The SQL statement builders agree.** -/
theorem agree_of_isRow {V : Type} {t : Table} {rowDict : Dict String V} (h : IsRow t rowDict) :
    Agree t rowDict where
  postgres _ _ _ _ _ _ he := by
    subst he
    exact Postgres.builds h
  cockroachdb _ _ _ _ _ _ he := by
    subst he
    exact Postgres.builds h
  oracle _ _ _ _ he := by
    subst he
    exact Oracle.builds h
  mysql _ _ _ _ _ _ he := by
    subst he
    exact Mysql.builds h
  mariadb _ _ _ _ _ _ he := by
    subst he
    exact Mysql.builds h
  cassandra _ _ _ _ _ hs he := by
    subst he
    exact Cassandra.builds hs h

/-- A table of users. -/
def users : Table := ⟨"app.users", "id"⟩

/-- A row of that table. -/
def ada : Dict String String := ⟨[("name", "Ada"), ("id", "7"), ("mail", "ada@example.org")], by decide⟩

/-- The six repositories agree about that row. -/
theorem agree_ada : Agree users ada :=
  agree_of_isRow ⟨by decide, by decide, by decide⟩

/-- A row that has nothing but its id. -/
def idOnly : Dict String String := ⟨[("id", "7")], by decide⟩

/-- A cluster on one host. -/
def cassandraLocal : CassandraSettings :=
  ⟨["127.0.0.1"], 9042, none, none, none, none, none, 2⟩

/-- Entities are row dictionaries, and rows of the driver are their items. -/
def plainMapping : Cassandra.Mapping (Dict String String) String (Dict String String) where
  rowToEntity row := row
  dictToEntity rowDict := rowDict
  entityToRow entity := entity
  countOf _ := .ok 0

/-- A table without rows. -/
def noRows (q : (Cassandra.driver (Dict String String) String).Call) :
    Unit → Except PyExc ((Cassandra.driver (Dict String String) String).Reply q) × Unit :=
  connectedTo (C := Cassandra.commands (Dict String String) String) (fun _ _ => (.ok [], ())) q

/-- `update()` of that row in a table without rows returns `None`. -/
theorem not_builds : ¬ Builds users idOnly .percent (C := Cassandra.commands (Dict String String)
    String) Cassandra.statement (fun _ => False)
    ((Cassandra.repository cassandraLocal plainMapping users).create idOnly)
    ((Cassandra.repository cassandraLocal plainMapping users).update idOnly) := by
  intro h
  have hend := Coro.ends_exec noRows (some 0)
    ((Cassandra.repository cassandraLocal plainMapping users).update idOnly) ()
  have hraises : ¬ Raises (Coro.exec noRows (some 0)
      ((Cassandra.repository cassandraLocal plainMapping users).update idOnly) ()).1 := by
    rintro ⟨a, ha, hok⟩
    rw [List.mem_singleton.mp ha] at hok
    cases hok
  rcases (h.rejects rfl hend).2 hraises with ⟨ho, -⟩ | ⟨habsent, -⟩
  · cases ho
  · exact habsent

end OpenframeAdapters.Db
