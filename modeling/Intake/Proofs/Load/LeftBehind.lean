/-
  Intake.Proofs.Load.LeftBehind — the table that a failed import leaves behind.

  A table takes up to three statements: it is made, described, and looked up. Outside a transaction each of them
  is for good, so a failure after the first one leaves the table. An import fails in the same way whether the
  table could not be made or was made and could not be described or looked up.

  Proved:
  - `Creates.fails`: the making of a table fails with the first statement or after it.
  - `Sends.fails`: how an import fails, and what it has sent by then.
  - `Fails.silent`, `Fails.making`, `Fails.left_iff`: what each failure tells of it.
  - `table_left_behind`: so a failed import has made a table just if it failed in loading it, or in what comes
    after the first statement.
-/

import Intake.Proofs.Load.Names

namespace Intake.Database

/-- Whether it is a statement that makes a table and that succeeded. -/
def Message.makesTable : Message → Bool
  | ran s (.ok _) => "CREATE TABLE ".toList.isPrefixOf s.text.toList
  | _ => false

/-! ## Tables that are not made -/

/-- The statement that makes the table fails itself, or cannot be sent. -/
inductive Unmade (t : NewTable) : Error → List Message → Prop
  | unnamed (e : Sql.IdentifierError) (hcreate : Statement.create t = .error e) : Unmade t (.ofMessage e.message) []
  | uncreated (create : Statement) (e : Error) (log : List Message) (hcreate : Statement.create t = .ok create)
      (hran : Ran create (.error e) log) : Unmade t e log

/-- The table is made, and then it cannot be described or looked up. -/
inductive Abandoned (t : NewTable) : Error → List Message → Prop
  | uncommented (create comment : Statement) (text : String) (rows : List (Option String)) (e : Error)
      (log : List Message) (hcreate : Statement.create t = .ok create) (hgiven : t.comment = some text)
      (hcomment : Statement.comment t text = .ok comment) (hran : Ran comment (.error e) log) :
      Abandoned t e (.ran create (.ok rows) :: log)
  | unfound (find : Statement) (e : Error) (made log : List Message) (hmade : Described t made)
      (hfind : Statement.tableOid t = .ok find) (hran : RanOne find (.error e) log) : Abandoned t e (made ++ log)
  | unnumbered (find : Statement) (row : Option String) (made : List Message) (hmade : Described t made)
      (hfind : Statement.tableOid t = .ok find) (hrow : row.bind Session.number? = none) :
      Abandoned t Session.notNumber (made ++ [.ran find (.ok [row])])

section

variable {t : NewTable} {e : Error} {log : List Message}

theorem Creates.fails (h : Creates t (.error e) log) : Unmade t e log ∨ Abandoned t e log := by
  cases h with
  | unnamed e hcreate => exact .inl (.unnamed e hcreate)
  | uncreated create e log hcreate hran => exact .inl (.uncreated create e log hcreate hran)
  | uncommented create comment text rows e log hcreate hgiven hcomment hran =>
    exact .inr (.uncommented create comment text rows e log hcreate hgiven hcomment hran)
  | unfound find e made log hmade hfind hran => exact .inr (.unfound find e made log hmade hfind hran)
  | unnumbered find row made hmade hfind hrow => exact .inr (.unnumbered find row made hmade hfind hrow)

theorem isPrefixOf_append (a b : String) : a.toList.isPrefixOf (a ++ b).toList = true := by
  rw [List.isPrefixOf_iff_prefix, String.toList_append]
  exact List.prefix_append _ _

theorem makesTable_create {create : Statement} (h : Statement.create t = .ok create) (rows : List (Option String)) :
    (Message.ran create (.ok rows)).makesTable = true := by
  obtain ⟨-, -, rfl⟩ := Statement.create_ok_iff.mp h
  unfold Message.makesTable Statement.createText
  simp only [String.append_assoc]
  exact isPrefixOf_append _ _

theorem makes_append (h : ∃ x ∈ log, x.makesTable = true) (more : List Message) :
    ∃ x ∈ log ++ more, x.makesTable = true := by
  obtain ⟨x, hx, hmakes⟩ := h
  exact ⟨x, List.mem_append_left more hx, hmakes⟩

theorem Described.makes (h : Described t log) : ∃ x ∈ log, x.makesTable = true := by
  cases h with
  | bare create rows hcreate _ => exact ⟨_, List.mem_cons_self, makesTable_create hcreate rows⟩
  | commented create comment text rows more hcreate _ _ =>
    exact ⟨_, List.mem_cons_self, makesTable_create hcreate rows⟩

theorem Creates.makes {table : Table} (h : Creates t (.ok table) log) : ∃ x ∈ log, x.makesTable = true := by
  cases h with
  | created find row oid made hmade _ _ => exact makes_append hmade.makes _

theorem Abandoned.makes (h : Abandoned t e log) : ∃ x ∈ log, x.makesTable = true := by
  cases h with
  | uncommented create comment text rows e log hcreate _ _ _ =>
    exact ⟨_, List.mem_cons_self, makesTable_create hcreate rows⟩
  | unfound find e made log hmade _ _ => exact makes_append hmade.makes log
  | unnumbered find row made hmade _ _ => exact makes_append hmade.makes _

theorem Unmade.makes_none (h : Unmade t e log) : ¬∃ x ∈ log, x.makesTable = true := by
  intro hmakes
  obtain ⟨x, hx, hmakes⟩ := hmakes
  cases h with
  | unnamed e _ => cases hx
  | uncreated create e log _ hran =>
    cases hran with
    | unsent _ => cases hx
    | sent _ =>
      obtain rfl := List.mem_singleton.mp hx
      cases hmakes

end

end Intake.Database

namespace Intake.Load

open Database (Abandoned Creates Message NewTable Runs Server Statement Table Unmade)
open Storage (Files)

def LoadError.isLoading : LoadError → Bool
  | .copyStart .. | .stream .. | .finish .. => true
  | _ => false

theorem LoadError.isLocal_of_isLoading {e : LoadError} (h : e.isLoading = true) : e.isLocal = false := by
  cases e <;> first | rfl | cases h

def Request.newTable (r : Request) (p : Prepared) : NewTable := ⟨r.schema, r.table, p.columns, r.comment⟩

theorem loadable_of_made {r : Request} {p : Prepared} {table : Table} {made : List Message}
    (h : Creates (r.newTable p) (.ok table) made) : ∃ command, (copyCommand table p).text = .ok command := by
  have hnames : ∀ create, Statement.create (r.newTable p) = .ok create →
      ∀ n ∈ r.schema :: r.table :: p.columns, Sql.Identifier.check n = .ok () := by
    intro create hcreate
    obtain ⟨⟨hschema, htable⟩, hcolumns, -⟩ := Statement.create_ok_iff.mp hcreate
    exact List.forall_mem_cons.mpr ⟨hschema, List.forall_mem_cons.mpr ⟨htable, hcolumns⟩⟩
  cases h with
  | created find row oid made hmade _ _ =>
    refine ⟨_, CopyCommand.text_ok_iff.mpr ⟨?_, rfl⟩⟩
    cases hmade with
    | bare create rows hcreate _ => exact hnames create hcreate
    | commented create comment text rows more hcreate _ _ => exact hnames create hcreate

/-! ## Imports that fail -/

section

variable [Codecs] {σ : Type} {files : Files} {r : Request} {procedures : String}

inductive Fails (files : Files) (r : Request) : LoadError → List Message → Prop
  | unplanned (e : LoadError) (hlocal : e.isLocal = true) : Fails files r e []
  | uncreated (p : Prepared) (e : Database.Error) (log : List Message)
      (hplan : prepare files r.path r.header r.dialect r.charset = .ok p)
      (hcreates : Creates (r.newTable p) (.error e) log) :
      Fails files r (.createTable (r.schema ++ "." ++ r.table) e) log
  | unloaded (p : Prepared) (e : LoadError) (table : Table) (made log : List Message)
      (hplan : prepare files r.path r.header r.dialect r.charset = .ok p)
      (hmade : Creates (r.newTable p) (.ok table) made) (hloading : e.isLoading = true) : Fails files r e (made ++ log)

theorem Loads.fails {table : Table} {p : Prepared} {e : LoadError} {log : List Database.Exchange}
    (h : Loads files table p (.error e) log) (hcommand : ∃ command, (copyCommand table p).text = .ok command) :
    e.isLoading = true := by
  generalize hr : (Except.error e : Except LoadError Nat) = rows at h
  cases h with
  | unnamed e hunnamed =>
    obtain ⟨command, hcommand⟩ := hcommand
    rw [hcommand] at hunnamed
    cases hunnamed
  | unstarted command e _ => cases hr; rfl
  | broken command entry e ps _ _ _ _ => cases hr; rfl
  | refused command entry ps q m _ _ _ => cases hr; rfl
  | unflushed command contents ps m _ _ _ => cases hr; rfl
  | finished command contents ps answer _ _ _ =>
    cases answer with
    | ok n => cases hr
    | error e => cases hr; rfl

theorem Sends.fails {e : LoadError} {log : List Message} (h : Sends procedures files r (.error e) log) :
    Fails files r e log := by
  obtain ⟨asked, logs, himports, hserved, rfl⟩ := h
  generalize hr : (Except.error e : Except LoadError Imported) = outcome at himports
  cases himports with
  | unplanned e hlocal =>
    cases hr
    cases hserved
    exact .unplanned e hlocal
  | uncreated p source e hplan _ =>
    cases hr
    cases hserved with
    | cons htable hnone =>
      cases hnone
      cases htable with
      | createTable _ _ log hcreates =>
        rw [List.flatten_cons, List.flatten_nil, List.append_nil]
        exact .uncreated p e _ hplan hcreates
  | created p source table rows log _ hplan _ hload =>
    cases rows with
    | ok n => cases hr
    | error e =>
      cases hr
      cases hserved with
      | cons htable _ =>
        cases htable with
        | createTable _ _ _ hmade =>
          exact .unloaded p e table _ _ hplan hmade (hload.fails (loadable_of_made hmade))

/-! ## What is left behind -/

section

variable {e : LoadError} {log : List Message}

theorem Fails.silent (h : Fails files r e log) (he : e.isLocal = true) : log = [] := by
  cases h with
  | unplanned e _ => rfl
  | uncreated p d log _ _ => cases he
  | unloaded p e table made log _ _ hloading =>
    rw [LoadError.isLocal_of_isLoading hloading] at he
    cases he

theorem Fails.making {name : String} {d : Database.Error} (h : Fails files r (.createTable name d) log) :
    ∃ p, prepare files r.path r.header r.dialect r.charset = .ok p ∧
      (Unmade (r.newTable p) d log ∨ Abandoned (r.newTable p) d log) := by
  cases h with
  | unplanned e hlocal => cases hlocal
  | uncreated p d log hplan hcreates => exact ⟨p, hplan, hcreates.fails⟩
  | unloaded p e table made log _ _ hloading => cases hloading

/-- A table is left just if it was loaded into, or given up after it was made. -/
theorem Fails.left_iff (h : Fails files r e log) :
    (∃ x ∈ log, x.makesTable = true) ↔ e.isLoading = true ∨
      ∃ name d p, e = .createTable name d ∧ prepare files r.path r.header r.dialect r.charset = .ok p ∧
        Abandoned (r.newTable p) d log := by
  cases h with
  | unplanned e hlocal =>
    refine iff_of_false (by simp) ?_
    intro hleft
    rcases hleft with hloading | ⟨name, d, p, rfl, -⟩
    · rw [LoadError.isLocal_of_isLoading hloading] at hlocal
      cases hlocal
    · cases hlocal
  | uncreated p d log hplan hcreates =>
    constructor
    · intro hmakes
      rcases hcreates.fails with hunmade | habandoned
      · exact absurd hmakes hunmade.makes_none
      · exact .inr ⟨_, d, p, rfl, hplan, habandoned⟩
    · intro hleft
      rcases hleft with hloading | ⟨name, d', p', -, -, habandoned⟩
      · cases hloading
      · exact habandoned.makes
  | unloaded p e table made log _ hmade hloading =>
    exact iff_of_true (Database.makes_append hmade.makes log) (.inl hloading)

end

/-- Whatever the server answers, an import by itself neither begins nor ends a transaction. One that fails for its
    request or its file alone has sent nothing. One that fails with the making of its table fails with the
    statement that makes it, or after that one. So a failed import has made a table just if it failed in loading
    it, or could not describe it or look it up. -/
theorem table_left_behind (server : Server σ) (procedures : String) (files : Files) (r : Request) :
    Runs (importFile (Database.Session.database server procedures) files r).run
      (importFile (Database.Session.database server.traced procedures) files r).run fun outcome log =>
      (∀ x ∈ log, x.Within) ∧ ∀ e, outcome = .error e →
        (e.isLocal = true → log = []) ∧
        (∀ name d, e = .createTable name d → ∃ p, prepare files r.path r.header r.dialect r.charset = .ok p ∧
          (Unmade (r.newTable p) d log ∨ Abandoned (r.newTable p) d log)) ∧
        ((∃ x ∈ log, x.makesTable = true) ↔ e.isLoading = true ∨
          ∃ name d p, e = .createTable name d ∧ prepare files r.path r.header r.dialect r.charset = .ok p ∧
            Abandoned (r.newTable p) d log) := by
  refine (importFile_sends server procedures files r).mono fun outcome log h => ?_
  refine ⟨h.within, fun e he => ?_⟩
  subst he
  refine ⟨h.fails.silent, fun name d he => ?_, h.fails.left_iff⟩
  subst he
  exact h.fails.making

end

section

open scoped Excerpt

/-- How the import of a file ends, and what it sends to a server that does as its replies say. -/
def importRun (path : String) (replies : List (String × Database.Reply)) :
    Except LoadError Imported × Database.Traced Database.Replies Message :=
  (importFile (Database.Session.database Database.Replies.server.traced "msar") smallFiles (smallRequest path)).run.run
    ⟨.ofList replies, []⟩

def failing (purpose : Database.Purpose) : List (String × Database.Reply) :=
  [(purpose.key, .failure (.ofMessage "refused"))]

theorem left_behind_of_rows :
    ((importRun "empty.csv" []).1 = .error (.noColumns "empty.csv") ∧ (importRun "empty.csv" []).2.log = []) ∧
    (∃ p, (importRun "rows.csv" (failing .create)).1 = .error (.createTable "public.t" (.ofMessage "refused")) ∧
      Unmade ((smallRequest "rows.csv").newTable p) (.ofMessage "refused")
        (importRun "rows.csv" (failing .create)).2.log) ∧
    ∃ p, (importRun "rows.csv" (failing .tableOid)).1 = .error (.createTable "public.t" (.ofMessage "refused")) ∧
      Abandoned ((smallRequest "rows.csv").newTable p) (.ofMessage "refused")
        (importRun "rows.csv" (failing .tableOid)).2.log := by
  have hruns := fun path => table_left_behind Database.Replies.server "msar" smallFiles (smallRequest path)
  refine ⟨?_, ?_, ?_⟩
  · obtain ⟨log, hrun, -, hfails⟩ := hruns "empty.csv" (.ofList []) []
    have houtcome : (importRun "empty.csv" []).1 = .error (.noColumns "empty.csv") := by decide +kernel
    rw [importRun, hrun] at houtcome ⊢
    exact ⟨houtcome, (hfails _ houtcome).1 rfl⟩
  · obtain ⟨log, hrun, -, hfails⟩ := hruns "rows.csv" (.ofList (failing .create)) []
    have houtcome : (importRun "rows.csv" (failing .create)).1 =
        .error (.createTable "public.t" (.ofMessage "refused")) := by decide +kernel
    have hmakes : (importRun "rows.csv" (failing .create)).2.log.any Message.makesTable = false := by decide +kernel
    rw [importRun, hrun] at houtcome hmakes ⊢
    dsimp only at houtcome hmakes ⊢
    obtain ⟨-, hmaking, -⟩ := hfails _ houtcome
    obtain ⟨p, -, hunmade | habandoned⟩ := hmaking _ _ rfl
    · exact ⟨p, houtcome, hunmade⟩
    · obtain ⟨x, hx, hmade⟩ := habandoned.makes
      exact absurd (List.any_eq_true.mpr ⟨x, hx, hmade⟩) (by simpa using hmakes)
  · obtain ⟨log, hrun, -, hfails⟩ := hruns "rows.csv" (.ofList (failing .tableOid)) []
    have houtcome : (importRun "rows.csv" (failing .tableOid)).1 =
        .error (.createTable "public.t" (.ofMessage "refused")) := by decide +kernel
    have hmakes : (importRun "rows.csv" (failing .tableOid)).2.log.any Message.makesTable = true := by decide +kernel
    rw [importRun, hrun] at houtcome hmakes ⊢
    dsimp only at houtcome hmakes ⊢
    obtain ⟨-, -, hleft⟩ := hfails _ houtcome
    rcases hleft.mp (List.any_eq_true.mp hmakes) with hloading | ⟨name, d, p, he, -, habandoned⟩
    · cases hloading
    · cases he
      exact ⟨p, houtcome, habandoned⟩

/-- A table that was made and cannot be looked up stays, and the import fails as if there were none. -/
theorem table_stays_unfound :
    (importRun "rows.csv" (failing .tableOid)).1 = .error (.createTable "public.t" (.ofMessage "refused")) ∧
    (importRun "rows.csv" (failing .tableOid)).2.log.any Message.makesTable = true ∧
    (importRun "rows.csv" (failing .tableOid)).2.log.map Message.text? =
      [some ("CREATE TABLE \"public\".\"t\" (\"id\" integer PRIMARY KEY GENERATED ALWAYS AS IDENTITY, " ++
          "\"a\" text, \"b\" text)"),
        some "SELECT $1::text::regclass::oid"] := by
  decide +kernel

end

end Intake.Load
