/-
  Intake.Proofs.Load.Names — the names of a plan, and where they come up again.

  Once there is a plan for a file, its columns are named in the statement that makes the table and in
  the command that opens the load, in one order, and no check of a name on the way there fails.

  Proved:
  - `columnsNamed_create`, `columnsNamed_command`: the columns that the server reads in both.
  - `importFile_echoed`, `importFile_planned`: an import of a file with a plan.
  - `plan_settles_names`: so no name is at fault once there is a plan.
-/

import Intake.Database.Replies
import Intake.Proofs.Load.Statements

namespace Intake.Load

open Database (Carries Exchange NewTable Runs Server Statement Table runs_noted runs_pure)
open Sql (Token)
open Sql.Identifier (check qualify_ok_iff)
open Storage (Files)
open CopyCommand (filterMap_listed listed)
open Intake.Stream (taken)

variable {σ : Type}

/-! ## The columns a statement names -/

/-- What stands in the first brackets. -/
def bracketed (ts : List Token) : List Token :=
  ((ts.dropWhile (· ≠ .sign '(')).drop 1).takeWhile (· ≠ .sign ')')

/-- The names in the first brackets of a statement, as the server reads it. -/
def columnsNamed (text : String) : Option (List String) :=
  (Sql.tokens text.toList).map fun ts => (bracketed ts).filterMap Token.name?

theorem bracketed_eq {before inside after : List Token} (hbefore : ∀ t ∈ before, t ≠ .sign '(')
    (hinside : ∀ t ∈ inside, t ≠ .sign ')') :
    bracketed (before ++ .sign '(' :: (inside ++ .sign ')' :: after)) = inside := by
  unfold bracketed
  rw [List.dropWhile_append_of_pos (by simpa using hbefore), List.dropWhile_cons_of_neg (by simp), List.drop_one,
    List.tail_cons, List.takeWhile_append_of_pos (by simpa using hinside), List.takeWhile_cons_of_neg (by simp),
    List.append_nil]

theorem forall_mem_listed {P : Token → Prop} (hcomma : P (.sign ',')) {tss : List (List Token)}
    (h : ∀ ts ∈ tss, ∀ t ∈ ts, P t) : ∀ t ∈ listed tss, P t := by
  unfold listed
  exact Sql.forall_mem_intercalate (by simpa using hcomma) h

theorem names_listed {g : String → List Token} (h : ∀ name, (g name).filterMap Token.name? = [name])
    (columns : List String) : (columns.map g).flatMap (·.filterMap Token.name?) = columns := by
  induction columns with
  | nil => rfl
  | cons column columns ih => rw [List.map_cons, List.flatMap_cons, h, ih]; rfl

theorem columnsNamed_create (t : NewTable) :
    columnsNamed (Statement.createText t) = some ("id" :: t.columns) := by
  have hsplit : Statement.createTokens t =
      [Token.word "CREATE", .word "TABLE", .name t.schema, .sign '.', .name t.name] ++ Token.sign '(' ::
        (listed (Statement.keyTokens :: t.columns.map Statement.columnTokens) ++ Token.sign ')' :: []) := by
    simp [Statement.createTokens, listed]
  have hinside : ∀ token ∈ listed (Statement.keyTokens :: t.columns.map Statement.columnTokens),
      token ≠ .sign ')' := by
    refine forall_mem_listed (by decide) ?_
    simp [Statement.keyTokens, Statement.columnTokens]
  unfold columnsNamed
  rw [Statement.tokens_createText, hsplit, Option.map_some, bracketed_eq (by simp) hinside, filterMap_listed rfl,
    List.flatMap_cons, names_listed fun _ => rfl]
  rfl

theorem columnsNamed_rendered (c : CopyCommand) : columnsNamed c.rendered = some c.columns := by
  have hsplit : c.tokens =
      [Token.word "COPY", .name c.schema, .sign '.', .name c.table] ++ Token.sign '(' ::
        (listed (c.columns.map fun name => [Token.name name]) ++ Token.sign ')' ::
          ([Token.word "FROM", .word "STDIN", .word "WITH", .sign '('] ++ listed c.optionTokens ++
            [Token.sign ')'])) := by
    simp [CopyCommand.tokens]
  have hinside : ∀ token ∈ listed (c.columns.map fun name => [.name name]), token ≠ .sign ')' := by
    refine forall_mem_listed (by decide) ?_
    simp
  unfold columnsNamed
  rw [CopyCommand.tokens_rendered, hsplit, Option.map_some, bracketed_eq (by simp) hinside, filterMap_listed rfl,
    names_listed fun _ => rfl]

theorem columnsNamed_command {p : Prepared} {table : Table} {command : String} (h : (copyCommand table p).text = .ok command) :
    columnsNamed command = some p.columns := by
  rw [(CopyCommand.text_ok_iff.mp h).2, columnsNamed_rendered]
  rfl

theorem create_statement {p : Prepared} {schema name q : String} (comment : Option String)
    (hname : Sql.Identifier.qualify schema name = .ok q) (hcolumns : ∀ column ∈ p.columns, check column = .ok ()) :
    ∃ create, Statement.create ⟨schema, name, p.columns, comment⟩ = .ok create ∧
      columnsNamed create.text = some ("id" :: p.columns) := by
  obtain ⟨hschema, hname, -⟩ := qualify_ok_iff.mp hname
  exact ⟨_, Statement.create_ok_iff.mpr ⟨⟨hschema, hname⟩, hcolumns, rfl⟩, columnsNamed_create _⟩

/-! ## Tables made as they were asked for -/

def Echoes (db : Database σ) : Prop :=
  ∀ t s table, ((db.createTable t).run s).1 = .ok table → table.schema = t.schema ∧ table.name = t.name

theorem session_echoes (server : Server σ) (procedures : String) :
    Echoes (Database.Session.database server procedures) := by
  intro t s table hmade
  obtain ⟨log, -, hcreates⟩ := Database.createTable_runs server t s []
  have hanswer : ((Database.Session.createTable server t).run.run s).1 = .ok table := hmade
  rw [hanswer] at hcreates
  cases hcreates with
  | created find row oid made _ _ _ => exact ⟨rfl, rfl⟩

/-- What was asked for is logged, and it is seen that tables are made so. -/
def Echoed (x : Exchange) (log : List Exchange) : Prop := log = [x] ∧ echoes x = true

theorem Echoes.carries {db : Database σ} (h : Echoes db) : Carries Echoed db db.traced where
  call := fun name args => runs_noted fun _ => ⟨rfl, rfl⟩
  createTable := by
    intro t s log
    refine ⟨_, rfl, rfl, ?_⟩
    cases hmade : ((db.createTable t).run s).1 with
    | ok table => exact decide_eq_true (h t s table hmade)
    | error e => rfl
  copyIn := fun command => runs_noted fun _ => ⟨rfl, rfl⟩
  write := fun bytes => runs_noted fun _ => ⟨rfl, rfl⟩
  flush := runs_noted fun _ => ⟨rfl, rfl⟩
  finish := runs_noted fun _ => ⟨rfl, rfl⟩

theorem echoed_flatten {asked : List Exchange} {logs : List (List Exchange)}
    (h : List.Forall₂ Echoed asked logs) : logs.flatten = asked ∧ ∀ x ∈ asked, echoes x = true := by
  induction h with
  | nil => simp
  | cons hx _ ih =>
    obtain ⟨rfl, hecho⟩ := hx
    rw [List.flatten_cons, ih.1, List.forall_mem_cons]
    exact ⟨rfl, hecho, ih.2⟩

section

variable [Codecs]

theorem importFile_echoed {db : Database σ} (h : Echoes db) (files : Files) (r : Request) :
    Runs (importFile db files r).run (importFile db.traced files r).run fun outcome log =>
      Imports files r outcome log ∧ ∀ x ∈ log, echoes x = true := by
  refine (importFile_carried h.carries files r).mono ?_
  intro outcome log hlog
  obtain ⟨asked, logs, himports, hechoed, rfl⟩ := hlog
  obtain ⟨hflatten, hall⟩ := echoed_flatten hechoed
  rw [hflatten]
  exact ⟨himports, hall⟩

/-! ## Files with a plan -/

theorem openSource_error {files : Files} {p : Prepared} {e : LoadError} (h : openSource files p = .error e)
    (e' : Sql.IdentifierError) : e ≠ .identifier e' := by
  unfold openSource at h
  rcases bind_error_iff.mp h with hopen | ⟨entry, -, hopened⟩
  · obtain ⟨_, -, rfl⟩ := mapError_error_iff.mp hopen
    exact nofun
  · by_cases ht : p.transfer.transcodes = true
    · rw [if_pos ht] at hopened
      rcases bind_error_iff.mp hopened with htext | ⟨text, -, hok⟩
      · obtain ⟨_, -, rfl⟩ := mapError_error_iff.mp htext
        exact nofun
      · cases hok
    · rw [if_neg ht] at hopened
      cases hopened

/-- With a plan and names that can be quoted nothing but the file keeps an import from the database. -/
theorem importFile_planned (db : Database σ) (files : Files) (r : Request) {p : Prepared} {q : String}
    (hname : Sql.Identifier.qualify r.schema r.table = .ok q)
    (hplan : prepare files r.path r.header r.dialect r.charset = .ok p) :
    Runs (importFile db files r).run (importFile db.traced files r).run fun outcome log =>
      log = [] → ∃ e, openSource files p = .error e ∧ outcome = .error e := by
  refine runs_check ?_ fun _ _ => runs_check ?_ fun p' hp => ?_
  · intro e he
    rw [hname] at he
    cases he
  · intro e he
    rw [hplan] at he
    cases he
  · rw [hplan] at hp
    cases hp
    refine runs_check (fun e hopen _ => ⟨e, hopen, rfl⟩) fun source hopen => ?_
    refine runs_request (fun e => nofun) fun table => ?_
    exact (stream_runs db table hopen).bind (fun _ _ _ => nofun) fun _ _ _ => runs_pure nofun

theorem Loads.no_table {files : Files} {table : Table} {p : Prepared} {rows : Except LoadError Nat}
    {log : List Exchange} (h : Loads files table p rows log) (t : NewTable)
    (answer : Except Database.Error Table) : .createTable t answer ∉ log := by
  cases h with
  | unnamed e _ => simp
  | unstarted command e _ => simp
  | broken command entry e ps _ _ _ _ => simp [taken]
  | refused command entry ps q m _ _ _ => simp [taken]
  | unflushed command contents ps m _ _ _ => simp [taken]
  | finished command contents ps answer' _ _ _ => simp [taken]

theorem Imports.table {files : Files} {r : Request} {outcome : Except LoadError Imported} {log : List Exchange}
    (h : Imports files r outcome log) {t : NewTable} {answer : Except Database.Error Table}
    (hmem : .createTable t answer ∈ log) :
    ∃ p, prepare files r.path r.header r.dialect r.charset = .ok p ∧
      t = ⟨r.schema, r.table, p.columns, r.comment⟩ := by
  cases h with
  | unplanned e _ => simp at hmem
  | uncreated p source e hplan _ =>
    simp only [List.mem_singleton, Exchange.createTable.injEq] at hmem
    exact ⟨p, hplan, hmem.1⟩
  | created p source table rows log _ hplan _ hload =>
    rcases List.mem_cons.mp hmem with hfirst | hrest
    · simp only [Exchange.createTable.injEq] at hfirst
      exact ⟨p, hplan, hfirst.1⟩
    · exact absurd hrest (hload.no_table t answer)

section

variable {files : Files} {path : String} {header : Option Bool} {dialect : Option Delimited.Dialect}
  {charset : Option Charset} {p : Prepared}

/-- The names of a plan can all be quoted, and none is that of the key column. -/
theorem plan_columns (hplan : prepare files path header dialect charset = .ok p)
    (hfew : p.headers.length < 2 ^ 64) :
    (∀ column ∈ p.columns, check column = .ok ()) ∧ ("id" :: p.columns).Nodup ∧
      p.columns.length = p.headers.length := by
  have hcolumns := (prepare_ok hplan).2
  obtain ⟨hnodup, hfree⟩ := Column.nameFrom_free Column.reservedNames 0 p.headers
  rw [hcolumns]
  refine ⟨fun column hm => (Column.sound_names hfew column hm).accepted, ?_, Column.length_nameFrom _ _ _⟩
  refine List.nodup_cons.mpr ⟨?_, hnodup⟩
  intro hid
  exact hfree "id" hid (by decide)

/-- Once there is a plan for a file, no name is at fault any more. Its dialect is in order, and it has a
    column for each cell of the header; cells are counted in 64 bits. Under every schema and name that can
    be quoted, the statement that makes the table names the key column and then the columns of the plan,
    all different, and the command of the load names the same columns in the same order. An import never
    fails with a name if the database makes tables under the names it is asked for, as a session does. -/
theorem plan_settles_names (hplan : prepare files path header dialect charset = .ok p)
    (hfew : p.headers.length < 2 ^ 64) :
    p.dialect.check = .ok () ∧ p.columns ≠ [] ∧ p.columns.length = p.headers.length ∧
    (∀ schema name q comment, Sql.Identifier.qualify schema name = .ok q →
      (∃ create, Statement.create ⟨schema, name, p.columns, comment⟩ = .ok create ∧
        columnsNamed create.text = some ("id" :: p.columns) ∧ ("id" :: p.columns).Nodup) ∧
      (∀ table : Table, table.schema = schema → table.name = name →
        ∃ command, (copyCommand table p).text = .ok command ∧ columnsNamed command = some p.columns) ∧
      ∀ db : Database σ, Echoes db →
        Runs (importFile db files ⟨path, header, dialect, charset, schema, name, comment⟩).run
          (importFile db.traced files ⟨path, header, dialect, charset, schema, name, comment⟩).run
          fun outcome log => (∀ e, outcome ≠ .error (.identifier e)) ∧
            (∀ t answer, .createTable t answer ∈ log → t = ⟨schema, name, p.columns, comment⟩) ∧
            ∀ command answer, .copyIn command answer ∈ log → columnsNamed command = some p.columns) ∧
    ∀ (server : Server σ) procedures, Echoes (Database.Session.database server procedures) := by
  obtain ⟨hdialect, hheaders⟩ := prepare_checked hplan
  obtain ⟨hcolumns, hnodup, hlength⟩ := plan_columns hplan hfew
  have hnonempty : p.columns ≠ [] := by
    intro hnone
    rw [hnone] at hlength
    exact hheaders (List.eq_nil_of_length_eq_zero hlength.symm)
  have hthis : ∀ p', prepare files path header dialect charset = .ok p' → p' = p := by
    intro p' hp
    exact Except.ok.inj (hp.symm.trans hplan)
  refine ⟨hdialect, hnonempty, hlength, ?_, session_echoes⟩
  intro schema name q comment hname
  obtain ⟨create, hcreate, hnamed⟩ := create_statement comment hname hcolumns
  refine ⟨⟨create, hcreate, hnamed, hnodup⟩, ?_, ?_⟩
  · intro table hschema htable
    obtain ⟨command, hcommand⟩ := copyCommand_text hname ⟨hschema, htable⟩ (prepare_ok hplan).2 hfew
    exact ⟨command, hcommand, columnsNamed_command hcommand⟩
  · intro db hechoes
    have hechoed := importFile_echoed hechoes files ⟨path, header, dialect, charset, schema, name, comment⟩
    have hplanned := importFile_planned db files ⟨path, header, dialect, charset, schema, name, comment⟩ hname hplan
    refine (hechoed.and hplanned).mono ?_
    intro outcome log h
    obtain ⟨⟨himports, hecho⟩, hlocal⟩ := h
    refine ⟨?_, ?_, ?_⟩
    · intro e he
      subst he
      have hasked := himports.local_asks_nothing rfl hecho fun p' hp => by rw [hthis p' hp]; exact hfew
      obtain ⟨e', hopen, he⟩ := hlocal hasked
      exact openSource_error hopen e (Except.error.inj he).symm
    · intro t answer hmem
      obtain ⟨p', hp, ht⟩ := himports.table hmem
      rw [ht, hthis p' hp]
    · intro command answer hmem
      obtain ⟨p', table, hp, -, hcommand⟩ := himports.command hmem
      rw [columnsNamed_command hcommand, hthis p' hp]

end

end

/-- A file whose header asks for the reserved name, and for one name twice. -/
def takenFiles : Files :=
  (Files.empty ["home"]).enter "names.csv"
    (.file [0x69, 0x64, 0x2C, 0x61, 0x2C, 0x61, 0x0A, 0x31, 0x2C, 0x32, 0x2C, 0x33, 0x0A])

def takenPlan : Prepared :=
  ⟨"names.csv", Charset.utf8.transfer, ⟨0x2C, 0x22, none⟩, true, ["id", "a", "a"], ["id_0", "a", "a_2"]⟩

def takenDatabase : Database Database.Replies := Database.Session.database Database.Replies.server "msar"

section

open scoped Excerpt

def takenRun : Except LoadError Imported × Database.Traced Database.Replies :=
  (importFile takenDatabase.traced takenFiles ⟨"names.csv", some true, none, none, "public", "t", none⟩).run.run
    ⟨.ofList [], []⟩

theorem taken_plan_settles_names :
    prepare takenFiles "names.csv" (some true) none none = .ok takenPlan ∧ takenPlan.headers.length < 2 ^ 64 ∧
    Sql.Identifier.qualify "public" "t" = .ok "\"public\".\"t\"" ∧ Echoes takenDatabase ∧
    (∃ create, Statement.create ⟨"public", "t", ["id_0", "a", "a_2"], none⟩ = .ok create ∧
      columnsNamed create.text = some ["id", "id_0", "a", "a_2"]) ∧
    (∃ command, (copyCommand ⟨16384, "public", "t"⟩ takenPlan).text = .ok command ∧
      columnsNamed command = some ["id_0", "a", "a_2"]) ∧
    (∃ t table command answer rest,
      takenRun.2.log = .createTable t table :: .copyIn command answer :: rest ∧
      t.columns = ["id_0", "a", "a_2"] ∧ columnsNamed command = some ["id_0", "a", "a_2"]) ∧
    ∀ e, takenRun.1 ≠ .error (.identifier e) := by
  have hplan : prepare takenFiles "names.csv" (some true) none none = .ok takenPlan := by decide +kernel
  have hname : Sql.Identifier.qualify "public" "t" = .ok "\"public\".\"t\"" := by decide +kernel
  have hkinds : takenRun.2.log.map kindOf = [.createTable, .copyIn, .write, .write, .flush, .finish] := by decide +kernel
  obtain ⟨-, -, -, hnames, hechoes⟩ := @plan_settles_names Database.Replies _ _ _ _ _ _ _ hplan (by decide)
  obtain ⟨⟨create, hcreate, hcolumns, -⟩, hcommand, hruns⟩ := hnames "public" "t" _ none hname
  obtain ⟨log, hrun, hnever, htable, hcopy⟩ :=
    hruns takenDatabase (hechoes Database.Replies.server "msar") (.ofList []) []
  rw [List.nil_append] at hrun
  simp only [takenRun, hrun] at hkinds ⊢
  obtain ⟨x, log, rfl, hx, hkinds⟩ := List.map_eq_cons_iff.mp hkinds
  obtain ⟨y, rest, rfl, hy, -⟩ := List.map_eq_cons_iff.mp hkinds
  refine ⟨hplan, by decide, hname, hechoes _ _, ⟨create, hcreate, hcolumns⟩, ?_, ?_, hnever⟩
  · exact hcommand ⟨16384, "public", "t"⟩ rfl rfl
  · cases x with
    | createTable t table =>
      cases y with
      | copyIn command answer =>
        have hcolumns := congrArg NewTable.columns (htable t table List.mem_cons_self)
        exact ⟨t, table, command, answer, rest, rfl, hcolumns, hcopy command answer (by simp)⟩
      | call name args answer => cases hy
      | createTable t' table' => cases hy
      | write bytes answer => cases hy
      | flush answer => cases hy
      | finish answer => cases hy
    | call name args answer => cases hx
    | copyIn command answer => cases hx
    | write bytes answer => cases hx
    | flush answer => cases hx
    | finish answer => cases hx

end

end Intake.Load
