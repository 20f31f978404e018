/-
  Intake.Proofs.Database.Readings — how the server reads what a session sends.

  A session writes its statements as text, and the server takes them apart by its own rules, whatever
  names and comment are in them. So what counts is how they are read: as one statement each, for the
  table or procedure that was meant, with nothing of a name or of a comment outside its quotes.

  Proved:
  - `tokens_commentText`, `parts_findText`, `parts_callText`: how the server reads each text.
  - `create_sendable`, `call_sendable`: a text made of names that can be quoted can be sent.
  - `Creates.readings`: what is sent for a table is read as the statements that make it, as far as they
    went well.
  - `session_readings`: so it is for every table and every call, and nothing is sent if a name cannot
    be quoted.
-/

import Intake.Proofs.Database.Served
import Intake.Proofs.Sql.Parameters

namespace Intake.Database

open Sql (Apart EndsWord ReadsAs Token Part PartsAs reads_name reads_word reads_constant parts_name parts_word
  parts_parameter)
open Sql.Identifier (check quoted qualify qualify_ok_iff check_ok_iff)

variable {σ : Type}

namespace Statement

/-! ## Texts -/

/-- The text of a comment as the server reads it. -/
def commentTokens (t : NewTable) (text : String) : List Token :=
  [.word "COMMENT", .word "ON", .word "TABLE", .name t.schema, .sign '.', .name t.name, .word "IS", .constant text]

theorem toList_tableText (t : NewTable) :
    (tableText t).toList = (quoted t.schema).toList ++ '.' :: (quoted t.name).toList := by
  have hdot : ".".toList = ['.'] := by decide
  rw [tableText, String.toList_append, String.toList_append, hdot, List.append_assoc, List.singleton_append]

theorem reads_tableText (t : NewTable) :
    ReadsAs Apart (tableText t).toList [.name t.schema, .sign '.', .name t.name] := by
  rw [toList_tableText]
  exact ReadsAs.signed (by decide) (reads_name t.schema) (reads_name t.name)

theorem tokens_commentText (t : NewTable) (text : String) :
    Sql.tokens (commentText t text).toList = some (commentTokens t text) := by
  have htext : (commentText t text).toList = "COMMENT".toList ++ ' ' :: ("ON".toList ++ ' ' ::
      ("TABLE".toList ++ ' ' :: ((tableText t).toList ++ ' ' :: ("IS".toList ++ ' ' ::
        (Sql.Literal.quote text).toList)))) := by
    have hcomment : "COMMENT ON TABLE ".toList =
        "COMMENT".toList ++ ' ' :: ("ON".toList ++ ' ' :: ("TABLE".toList ++ [' '])) := by decide
    have his : " IS ".toList = ' ' :: ("IS".toList ++ [' ']) := by decide
    unfold commentText
    simp only [String.toList_append, hcomment, his, List.append_assoc, List.cons_append, List.nil_append]
  have his := (reads_word (w := "IS") (by decide)).spaced (reads_constant text)
  have htable := (reads_word (w := "TABLE") (by decide)).spaced ((reads_tableText t).spaced his)
  have hon := (reads_word (w := "ON") (by decide)).spaced htable
  have h := (reads_word (w := "COMMENT") (by decide)).spaced hon
  rw [htext, h.all (by simp [Apart])]
  rfl

def findText : String := "SELECT $1::text::regclass::oid"

/-- That text as the server reads it. The parameter is the name of the table. -/
def findParts : List Part :=
  [.token (.word "SELECT"), .parameter 1, .cast, .token (.word "text"), .cast, .token (.word "regclass"), .cast,
   .token (.word "oid")]

def callText (schema name : String) (args : List Argument) : String :=
  "SELECT " ++ (quoted schema ++ "." ++ quoted name) ++ "(" ++ ", ".intercalate (placeholdersFrom 1 args) ++ ")::text"

/-- A parameter as the server reads it: its position, and the type it is converted to. -/
def placeholderParts (position : Nat) (a : Argument) : List Part :=
  [.parameter position, .cast, .token (.word a.typeName)]

/-- The call of a procedure as the server reads it. -/
def callParts (schema name : String) (args : List Argument) : List Part :=
  [.token (.word "SELECT"), .token (.name schema), .token (.sign '.'), .token (.name name), .token (.sign '(')] ++
    [Part.token (.sign ',')].intercalate (args.mapIdx fun i a => placeholderParts (i + 1) a) ++
    [.token (.sign ')'), .cast, .token (.word "text")]

theorem call_ok_iff {schema name : String} {args : List Argument} {s : Statement} :
    call schema name args = .ok s ↔ (check schema = .ok () ∧ check name = .ok ()) ∧
      s = ⟨.procedure name, callText schema name args, some args⟩ := by
  unfold call
  simp only [bind_ok_iff, pure_ok_iff, qualify_ok_iff]
  constructor
  · intro h
    obtain ⟨-, ⟨hschema, hname, rfl⟩, rfl⟩ := h
    exact ⟨⟨hschema, hname⟩, rfl⟩
  · intro h
    obtain ⟨⟨hschema, hname⟩, rfl⟩ := h
    exact ⟨_, ⟨hschema, hname, rfl⟩, rfl⟩

theorem parts_select : PartsAs Apart "SELECT".toList [.token (.word "SELECT")] :=
  (parts_word (by decide)).mono fun _ => Apart.endsWord

theorem parts_findText : Sql.parts findText.toList = some findParts := by
  have htext : findText.toList = "SELECT".toList ++ ' ' :: (('$' :: (toString 1).toList) ++ ':' :: ':' ::
      ("text".toList ++ ':' :: ':' :: ("regclass".toList ++ ':' :: ':' :: "oid".toList))) := by decide
  have hclass := (parts_word (w := "regclass") (by decide)).converted (parts_word (w := "oid") (by decide))
  have htype := (parts_word (w := "text") (by decide)).converted hclass
  have hname := (parts_parameter 1).converted htype
  rw [htext, (parts_select.spaced hname).all (by simp [EndsWord])]
  rfl

theorem isWord_typeName (a : Argument) : Sql.isWord a.typeName.toList = true := by
  cases a with
  | oid n => show Sql.isWord "oid".toList = true; decide
  | integer n => show Sql.isWord "integer".toList = true; decide
  | text s => show Sql.isWord "text".toList = true; decide
  | jsonb v => show Sql.isWord "jsonb".toList = true; decide

theorem parts_placeholder (position : Nat) (a : Argument) :
    PartsAs Apart ("$" ++ toString position ++ "::" ++ a.typeName).toList (placeholderParts position a) := by
  have htext : ("$" ++ toString position ++ "::" ++ a.typeName).toList =
      ('$' :: (toString position).toList) ++ ':' :: ':' :: a.typeName.toList := by
    have hmark : "$".toList = ['$'] := by decide
    have hcast : "::".toList = [':', ':'] := by decide
    simp only [String.toList_append, hmark, hcast, List.append_assoc, List.cons_append, List.nil_append]
  rw [htext]
  exact (parts_parameter position).converted ((parts_word (isWord_typeName a)).mono fun _ => Apart.endsWord)

theorem parts_placeholders (position : Nat) (args : List Argument) :
    List.Forall₂ (PartsAs Apart) ((placeholdersFrom position args).map String.toList)
      (args.mapIdx fun i a => placeholderParts (position + i) a) := by
  induction args generalizing position with
  | nil => exact .nil
  | cons a args ih =>
    rw [placeholdersFrom, List.map_cons, List.mapIdx_cons]
    refine .cons (parts_placeholder position a) ?_
    have hnext := ih (position + 1)
    simp only [Nat.add_assoc, Nat.add_comm 1] at hnext
    exact hnext

theorem toList_callText (schema name : String) (args : List Argument) :
    (callText schema name args).toList =
      "SELECT".toList ++ ' ' :: ((quoted schema).toList ++ '.' :: ((quoted name).toList ++ '(' ::
        ([',', ' '].intercalate ((placeholdersFrom 1 args).map String.toList) ++
          ')' :: ':' :: ':' :: "text".toList))) := by
  have hselect : "SELECT ".toList = "SELECT".toList ++ [' '] := by decide
  have hdot : ".".toList = ['.'] := by decide
  have hopen : "(".toList = ['('] := by decide
  have hclose : ")::text".toList = ')' :: ':' :: ':' :: "text".toList := by decide
  unfold callText
  simp only [String.toList_append, Sql.toList_listed, hselect, hdot, hopen, hclose, List.append_assoc,
    List.cons_append, List.nil_append]

theorem parts_callText (schema name : String) (args : List Argument) :
    Sql.parts (callText schema name args).toList = some (callParts schema name args) := by
  have hlist := PartsAs.listed (parts_placeholders 1 args)
  have hclose := PartsAs.signed (c := ')') (by decide) hlist (parts_word (w := "text") (by decide)).cast
  have hname := PartsAs.signed (c := '(') (by decide) (parts_name name) hclose
  have hschema := PartsAs.signed (c := '.') (by decide) (parts_name schema) hname
  rw [toList_callText, (parts_select.spaced hschema).all (by simp [EndsWord])]
  simp only [callParts, Nat.add_comm 1, List.cons_append, List.nil_append]

/-! ## What can be sent -/

/-- The text can be sent: it holds no NUL. -/
def Clean (text : List Char) : Prop := '\x00' ∉ text

theorem clean_append {a b : List Char} (ha : Clean a) (hb : Clean b) : Clean (a ++ b) := by
  simp only [Clean, List.mem_append, not_or] at ha hb ⊢
  exact ⟨ha, hb⟩

theorem clean_listed {texts : List String} (h : ∀ text ∈ texts, Clean text.toList) :
    Clean (", ".intercalate texts).toList := by
  have hall : ∀ c ∈ [',', ' '].intercalate (texts.map String.toList), c ≠ '\x00' := by
    refine Sql.forall_mem_intercalate (by simp) ?_
    rw [List.forall_mem_map]
    exact fun text htext c hc hnul => h text htext (hnul ▸ hc)
  rw [Sql.toList_listed]
  exact fun hmem => hall _ hmem rfl

theorem clean_quoted {name : String} (h : check name = .ok ()) : Clean (quoted name).toList := by
  obtain ⟨-, hnul, -⟩ := check_ok_iff.mp h
  rw [Sql.Identifier.toList_quoted]
  intro hmem
  simp only [List.mem_cons, List.mem_append, Sql.Literal.doubled, List.mem_flatMap, List.not_mem_nil, or_false] at hmem
  rcases hmem with hopen | ⟨c, hc, hmem⟩ | hclose
  · cases hopen
  · split at hmem
    · simp at hmem
    · rw [List.mem_singleton] at hmem
      exact hnul (hmem ▸ hc)
  · cases hclose

theorem clean_qualified {schema name : String} (hschema : check schema = .ok ()) (hname : check name = .ok ()) :
    Clean (quoted schema ++ "." ++ quoted name).toList := by
  simp only [String.toList_append]
  exact clean_append (clean_append (clean_quoted hschema) (by unfold Clean; decide)) (clean_quoted hname)

theorem clean_word {w : List Char} (h : Sql.isWord w = true) : Clean w := by
  cases w with
  | nil => cases h
  | cons c cs =>
    rw [Sql.isWord, Bool.and_eq_true] at h
    have hall : ∀ d ∈ c :: cs, Sql.continuesWord d = true :=
      List.forall_mem_cons.mpr ⟨Sql.beginsWord_continues h.1, List.all_eq_true.mp h.2⟩
    exact fun hmem => absurd (hall _ hmem) (by decide)

theorem sendable_of_clean {s : Statement} (h : Clean s.text.toList) : Session.sendable s = true := by
  unfold Clean at h
  simp [Session.sendable, h]

theorem create_sendable {t : NewTable} {s : Statement} (h : create t = .ok s) : Session.sendable s = true := by
  obtain ⟨⟨hschema, hname⟩, hcolumns, rfl⟩ := create_ok_iff.mp h
  have hdefinitions : ∀ text ∈ keyColumn :: t.columns.map columnText, Clean text.toList := by
    rw [List.forall_mem_cons, List.forall_mem_map]
    refine ⟨by unfold Clean; decide, fun name hmem => ?_⟩
    rw [columnText, String.toList_append]
    exact clean_append (clean_quoted (hcolumns name hmem)) (by unfold Clean; decide)
  refine sendable_of_clean ?_
  show Clean (createText t).toList
  have htable := clean_qualified hschema hname
  unfold createText tableText
  simp only [String.toList_append] at htable ⊢
  refine clean_append (clean_append (clean_append (clean_append ?_ htable) ?_) (clean_listed hdefinitions)) ?_
  · unfold Clean; decide
  · unfold Clean; decide
  · unfold Clean; decide

theorem clean_digits (n : Nat) : Clean (toString n).toList := by
  rw [Nat.toString_eq_repr, Nat.toList_repr]
  intro hmem
  exact absurd (Nat.isDigit_of_mem_toDigits (by decide) (by decide) hmem) (by decide)

theorem clean_placeholders (position : Nat) (args : List Argument) :
    ∀ text ∈ placeholdersFrom position args, Clean text.toList := by
  induction args generalizing position with
  | nil => simp [placeholdersFrom]
  | cons a args ih =>
    rw [placeholdersFrom, List.forall_mem_cons]
    refine ⟨?_, ih (position + 1)⟩
    simp only [String.toList_append]
    refine clean_append (clean_append (clean_append ?_ (clean_digits position)) ?_) (clean_word (isWord_typeName a))
    · unfold Clean; decide
    · unfold Clean; decide

theorem call_sendable {schema name : String} {args : List Argument} {s : Statement}
    (h : call schema name args = .ok s) : Session.sendable s = true := by
  obtain ⟨⟨hschema, hname⟩, rfl⟩ := call_ok_iff.mp h
  refine sendable_of_clean ?_
  show Clean (callText schema name args).toList
  have hprocedure := clean_qualified hschema hname
  unfold callText
  simp only [String.toList_append] at hprocedure ⊢
  refine clean_append (clean_append (clean_append (clean_append ?_ hprocedure) ?_)
    (clean_listed (clean_placeholders 1 args))) ?_
  · unfold Clean; decide
  · unfold Clean; decide
  · unfold Clean; decide

end Statement

/-! ## What the server reads -/

/-- A statement as the server reads it, with its parameters if it is sent with any. -/
structure Reading where
  parts : List Part
  parameters : Option (List Argument)

def Reading.Single (reading : Reading) : Prop := .token (.sign ';') ∉ reading.parts

/-- The message is a statement that the server reads so. -/
def Message.ReadsAs (x : Message) (reading : Reading) : Prop :=
  ∃ s answer, x = .ran s answer ∧ Sql.parts s.text.toList = some reading.parts ∧ s.parameters = reading.parameters

/-- The table is made, and its comment is set if it has one. -/
def describing (t : NewTable) : List Reading :=
  ⟨(Statement.createTokens t).map .token, none⟩ ::
    (t.comment.map fun text => (⟨(Statement.commentTokens t text).map .token, none⟩ : Reading)).toList

/-- All that is sent for a table. Its number is looked up at last, under its name as in the other statements. -/
def making (t : NewTable) : List Reading :=
  describing t ++ [⟨Statement.findParts, some [.text (Statement.tableText t)]⟩]

def calling (schema name : String) (args : List Argument) : Reading :=
  ⟨Statement.callParts schema name args, some args⟩

def Nameable (name : String) : Prop :=
  name ≠ "" ∧ '\x00' ∉ name.toList ∧ name.utf8ByteSize ≤ Sql.maxIdentifierBytes

/-- Some name is none that the server keeps: that is told, and nothing has been sent. -/
def Refused {α : Type} (names : List String) (r : Except Error α) (log : List Message) : Prop :=
  log = [] ∧ ∃ name ∈ names, ∃ e, check name = .error e ∧ r = .error (.ofMessage e.message)

section

variable {t : NewTable} {s : Statement}

theorem create_reads (h : Statement.create t = .ok s) (answer : Except Error (List (Option String))) :
    (Message.ran s answer).ReadsAs ⟨(Statement.createTokens t).map .token, none⟩ := by
  obtain ⟨-, -, rfl⟩ := Statement.create_ok_iff.mp h
  exact ⟨_, answer, rfl, Sql.parts_of_tokens (Statement.tokens_createText t), rfl⟩

theorem comment_reads {text : String} (h : Statement.comment t text = .ok s)
    (answer : Except Error (List (Option String))) :
    (Message.ran s answer).ReadsAs ⟨(Statement.commentTokens t text).map .token, none⟩ := by
  obtain ⟨-, rfl⟩ := Statement.comment_ok_iff.mp h
  exact ⟨_, answer, rfl, Sql.parts_of_tokens (Statement.tokens_commentText t text), rfl⟩

theorem find_reads (h : Statement.tableOid t = .ok s) (answer : Except Error (List (Option String))) :
    (Message.ran s answer).ReadsAs ⟨Statement.findParts, some [.text (Statement.tableText t)]⟩ := by
  obtain ⟨-, rfl⟩ := Statement.tableOid_ok_iff.mp h
  exact ⟨_, answer, rfl, Statement.parts_findText, rfl⟩

theorem call_reads {schema name : String} {args : List Argument} (h : Statement.call schema name args = .ok s)
    (answer : Except Error (List (Option String))) :
    (Message.ran s answer).ReadsAs (calling schema name args) := by
  obtain ⟨-, rfl⟩ := Statement.call_ok_iff.mp h
  exact ⟨_, answer, rfl, Statement.parts_callText schema name args, rfl⟩

/-- What is sent of a statement that is read so: nothing, or the statement. -/
theorem Ran.reads {reading : Reading} {answer : Except Error (List (Option String))} {log : List Message}
    (h : Ran s answer log) (hreads : ∀ answer, (Message.ran s answer).ReadsAs reading) :
    log = [] ∨ List.Forall₂ Message.ReadsAs log [reading] := by
  cases h with
  | unsent _ => exact .inl rfl
  | sent answer => exact .inr (.cons (hreads answer) .nil)

theorem RanOne.reads {reading : Reading} {answer : Except Error (Option String)} {log : List Message}
    (h : RanOne s answer log) (hreads : ∀ answer, (Message.ran s answer).ReadsAs reading) :
    log = [] ∨ List.Forall₂ Message.ReadsAs log [reading] := by
  cases h with
  | failed e log h => exact h.reads hreads
  | row row => exact .inr (.cons (hreads _) .nil)
  | rows rows _ => exact .inr (.cons (hreads _) .nil)

theorem Ran.sent_of_sendable {answer : Except Error (List (Option String))} {log : List Message}
    (h : Ran s answer log) (hs : Session.sendable s = true) : log = [.ran s answer] := by
  cases h with
  | unsent hnot => rw [hs] at hnot; cases hnot
  | sent answer => rfl

theorem RanOne.sent_of_sendable {answer : Except Error (Option String)} {log : List Message}
    (h : RanOne s answer log) (hs : Session.sendable s = true) : ∃ answer, log = [.ran s answer] := by
  cases h with
  | failed e log h => exact ⟨_, h.sent_of_sendable hs⟩
  | row row => exact ⟨_, rfl⟩
  | rows rows _ => exact ⟨_, rfl⟩

theorem Described.reads {made : List Message} (h : Described t made) :
    List.Forall₂ Message.ReadsAs made (describing t) := by
  cases h with
  | bare create rows hcreate hcomment =>
    rw [describing, hcomment]
    exact .cons (create_reads hcreate _) .nil
  | commented create comment text rows more hcreate hgiven hcomment =>
    rw [describing, hgiven]
    exact .cons (create_reads hcreate _) (.cons (comment_reads hcomment _) .nil)

/-- What is sent for a table is read as what makes it, from the first statement on as far as all went well. -/
theorem Creates.readings {r : Except Error Table} {log : List Message} (h : Creates t r log)
    (hcreate : Statement.create t = .ok s) :
    ∃ readings, List.Forall₂ Message.ReadsAs log readings ∧ readings <+: making t ∧ readings ≠ [] ∧
      ∀ table, r = .ok table → readings = making t := by
  cases h with
  | unnamed e herror =>
    rw [hcreate] at herror
    cases herror
  | uncreated create e log hmade hran =>
    rw [hran.sent_of_sendable (Statement.create_sendable hmade)]
    refine ⟨_, .cons (create_reads hmade _) .nil, ?_, by simp, nofun⟩
    rw [making, describing, List.cons_append]
    exact List.prefix_cons_inj _ |>.mpr List.nil_prefix
  | uncommented create comment text rows e log hmade hgiven hcomment hran =>
    have hfirst := create_reads hmade (.ok rows)
    rcases hran.reads (comment_reads hcomment) with rfl | hlog
    · refine ⟨_, .cons hfirst .nil, ?_, by simp, nofun⟩
      rw [making, describing, List.cons_append]
      exact List.prefix_cons_inj _ |>.mpr List.nil_prefix
    · refine ⟨_, .cons hfirst hlog, ?_, by simp, nofun⟩
      rw [making, describing, hgiven]
      exact List.prefix_append _ _
  | unfound find e made log hmade hfind hran =>
    rcases hran.reads (find_reads hfind) with rfl | hlog
    · rw [List.append_nil]
      exact ⟨_, hmade.reads, List.prefix_append _ _, by simp [describing], nofun⟩
    · exact ⟨_, List.rel_append hmade.reads hlog, List.prefix_rfl, by simp [describing], nofun⟩
  | unnumbered find row made hmade hfind _ =>
    exact ⟨making t, List.rel_append hmade.reads (.cons (find_reads hfind _) .nil), List.prefix_rfl,
      by simp [making], nofun⟩
  | created find row oid made hmade hfind _ =>
    exact ⟨making t, List.rel_append hmade.reads (.cons (find_reads hfind _) .nil), List.prefix_rfl,
      by simp [making], fun _ _ => rfl⟩

theorem Creates.refused {r : Except Error Table} {log : List Message} {e : Sql.IdentifierError} (h : Creates t r log)
    (hcreate : Statement.create t = .error e) : log = [] ∧ r = .error (.ofMessage e.message) := by
  have hnot : ∀ s, Statement.create t ≠ .ok s := by
    intro s hs
    rw [hcreate] at hs
    cases hs
  have hundescribed : ∀ made, ¬Described t made := by
    intro made hmade
    cases hmade with
    | bare create rows hs _ => exact hnot create hs
    | commented create comment text rows more hs _ _ => exact hnot create hs
  cases h with
  | unnamed e' he' =>
    cases hcreate.symm.trans he'
    exact ⟨rfl, rfl⟩
  | uncreated create e' log hs _ => exact absurd hs (hnot create)
  | uncommented create comment text rows e' log hs _ _ _ => exact absurd hs (hnot create)
  | unfound find e' made log hmade _ _ => exact absurd hmade (hundescribed made)
  | unnumbered find row made hmade _ _ => exact absurd hmade (hundescribed made)
  | created find row oid made hmade _ _ => exact absurd hmade (hundescribed made)

end

/-! ## Names that are refused -/

theorem quote_error {name : String} {e : Sql.IdentifierError} (h : Sql.Identifier.quote name = .error e) :
    check name = .error e := by
  rcases bind_error_iff.mp h with hcheck | ⟨_, -, hpure⟩
  · exact hcheck
  · cases hpure

theorem qualify_error {schema name : String} {e : Sql.IdentifierError} (h : qualify schema name = .error e) :
    ∃ n ∈ [schema, name], check n = .error e := by
  rcases bind_error_iff.mp h with hschema | ⟨_, -, hrest⟩
  · exact ⟨schema, by simp, quote_error hschema⟩
  · rcases bind_error_iff.mp hrest with hname | ⟨_, -, hpure⟩
    · exact ⟨name, by simp, quote_error hname⟩
    · cases hpure

theorem create_error {t : NewTable} {e : Sql.IdentifierError} (h : Statement.create t = .error e) :
    ∃ name ∈ t.schema :: t.name :: t.columns, check name = .error e := by
  rcases bind_error_iff.mp h with htable | ⟨_, -, hrest⟩
  · obtain ⟨name, hmem, hname⟩ := qualify_error htable
    exact ⟨name, List.mem_append_left t.columns hmem, hname⟩
  · rcases bind_error_iff.mp hrest with hcolumns | ⟨_, -, hpure⟩
    · obtain ⟨name, hmem, hcolumn⟩ := mapM_error hcolumns
      rcases bind_error_iff.mp hcolumn with hquote | ⟨_, -, hpure⟩
      · exact ⟨name, List.mem_cons_of_mem _ (List.mem_cons_of_mem _ hmem), quote_error hquote⟩
      · cases hpure
    · cases hpure

theorem call_error {schema name : String} {args : List Argument} {e : Sql.IdentifierError}
    (h : Statement.call schema name args = .error e) : ∃ n ∈ [schema, name], check n = .error e := by
  rcases bind_error_iff.mp h with hqualify | ⟨_, -, hpure⟩
  · exact qualify_error hqualify
  · cases hpure

/-! ## One statement each -/

theorem making_single (t : NewTable) : ∀ reading ∈ making t, reading.Single := by
  have hcreate : ∀ token ∈ Statement.createTokens t, token ≠ .sign ';' := by
    have hlist : ∀ token ∈ [Token.sign ','].intercalate (Statement.keyTokens :: t.columns.map Statement.columnTokens),
        token ≠ .sign ';' := by
      refine Sql.forall_mem_intercalate (by decide) ?_
      simp [Statement.keyTokens, Statement.columnTokens]
    rw [Statement.createTokens, List.forall_mem_append, List.forall_mem_append]
    exact ⟨⟨by simp, hlist⟩, by simp⟩
  have hcomment : ∀ text, ∀ token ∈ Statement.commentTokens t text, token ≠ .sign ';' := by
    simp [Statement.commentTokens]
  have hsingle : ∀ {ts : List Token} {parameters}, (∀ token ∈ ts, token ≠ .sign ';') →
      Reading.Single ⟨ts.map .token, parameters⟩ := by
    intro ts parameters h hmem
    obtain ⟨token, htoken, heq⟩ := List.mem_map.mp hmem
    cases heq
    exact h _ htoken rfl
  rw [making, List.forall_mem_append, describing, List.forall_mem_cons]
  refine ⟨⟨hsingle hcreate, ?_⟩, ?_⟩
  · cases t.comment with
    | none => simp
    | some text => simpa using hsingle (hcomment text)
  · simp [Reading.Single, Statement.findParts]

theorem calling_single (schema name : String) (args : List Argument) : (calling schema name args).Single := by
  have hlist : ∀ part ∈ [Part.token (.sign ',')].intercalate
      (args.mapIdx fun i a => Statement.placeholderParts (i + 1) a), part ≠ .token (.sign ';') := by
    refine Sql.forall_mem_intercalate (by decide) ?_
    intro ps hps
    obtain ⟨i, _, rfl⟩ := List.mem_mapIdx.mp hps
    simp [Statement.placeholderParts]
  intro hmem
  simp only [calling, Statement.callParts, List.mem_append] at hmem
  rcases hmem with (hhead | hmem) | hlast
  · simp at hhead
  · exact hlist _ hmem rfl
  · simp at hlast

/-! ## Every table and every call -/

/-- A table with names that the server keeps: what is sent is read as what makes it, from the first statement on,
    and is all of that if it succeeds. -/
def Makes (t : NewTable) (r : Except Error Table) (log : List Message) : Prop :=
  ∃ readings, List.Forall₂ Message.ReadsAs log readings ∧ readings <+: making t ∧ readings ≠ [] ∧
    ∀ table, r = .ok table → readings = making t

theorem createTable_readings (server : Server σ) (procedures : String) (t : NewTable) :
    Runs ((Session.database server procedures).createTable t) ((Session.database server.traced procedures).createTable t)
      fun r log =>
        ((∃ name ∈ t.schema :: t.name :: t.columns, ¬Nameable name) → Refused (t.schema :: t.name :: t.columns) r log) ∧
        ((∀ name ∈ t.schema :: t.name :: t.columns, Nameable name) → Makes t r log) := by
  refine (createTable_runs server t).mono fun r log h => ?_
  cases hcreate : Statement.create t with
  | error e =>
    obtain ⟨name, hmem, hname⟩ := create_error hcreate
    obtain ⟨hlog, hr⟩ := h.refused hcreate
    refine ⟨fun _ => ⟨hlog, name, hmem, e, hname, hr⟩, fun hall => ?_⟩
    have hok := check_ok_iff.mpr (hall name hmem)
    rw [hname] at hok
    cases hok
  | ok s =>
    obtain ⟨⟨hschema, hname⟩, hcolumns, -⟩ := Statement.create_ok_iff.mp hcreate
    refine ⟨fun hbad => ?_, fun _ => h.readings hcreate⟩
    obtain ⟨name, hmem, hnot⟩ := hbad
    refine absurd (check_ok_iff.mp ?_) hnot
    rcases List.mem_cons.mp hmem with rfl | hmem
    · exact hschema
    · rcases List.mem_cons.mp hmem with rfl | hmem
      · exact hname
      · exact hcolumns name hmem

theorem call_readings (server : Server σ) (procedures name : String) (args : List Argument) :
    Runs ((Session.database server procedures).call name args) ((Session.database server.traced procedures).call name args)
      fun r log =>
        ((∃ n ∈ [procedures, name], ¬Nameable n) → Refused [procedures, name] r log) ∧
        ((∀ n ∈ [procedures, name], Nameable n) → List.Forall₂ Message.ReadsAs log [calling procedures name args]) := by
  refine runs_statement ?_ fun call hcall => ?_
  · intro e he
    obtain ⟨n, hmem, hn⟩ := call_error he
    refine ⟨fun _ => ⟨rfl, n, hmem, e, hn, rfl⟩, fun hall => ?_⟩
    have hok := check_ok_iff.mpr (hall n hmem)
    rw [hn] at hok
    cases hok
  · obtain ⟨⟨hschema, hname⟩, -⟩ := Statement.call_ok_iff.mp hcall
    refine (runOne_runs server call).mono fun r log h => ⟨fun hbad => ?_, fun _ => ?_⟩
    · simp only [List.mem_cons, List.not_mem_nil, or_false, exists_eq_or_imp, exists_eq_left] at hbad
      rcases hbad with hnot | hnot
      · exact absurd (check_ok_iff.mp hschema) hnot
      · exact absurd (check_ok_iff.mp hname) hnot
    · obtain ⟨answer, rfl⟩ := h.sent_of_sendable (Statement.call_sendable hcall)
      exact .cons (call_reads hcall answer) .nil

/-- Whatever is in names and comment: a table takes one statement that makes it with the columns asked for,
    one that sets its comment just where there is one, and one that looks it up; a call takes one, with a
    parameter for each argument. If the server would not keep a name as it is, nothing is sent. -/
theorem session_readings (server : Server σ) (procedures : String) :
    (∀ t, Runs ((Session.database server procedures).createTable t)
      ((Session.database server.traced procedures).createTable t) fun r log =>
        ((∃ name ∈ t.schema :: t.name :: t.columns, ¬Nameable name) → Refused (t.schema :: t.name :: t.columns) r log) ∧
        ((∀ name ∈ t.schema :: t.name :: t.columns, Nameable name) → Makes t r log)) ∧
    (∀ name args, Runs ((Session.database server procedures).call name args)
      ((Session.database server.traced procedures).call name args) fun r log =>
        ((∃ n ∈ [procedures, name], ¬Nameable n) → Refused [procedures, name] r log) ∧
        ((∀ n ∈ [procedures, name], Nameable n) → List.Forall₂ Message.ReadsAs log [calling procedures name args])) ∧
    (∀ t, ∀ reading ∈ making t, reading.Single) ∧ ∀ name args, (calling procedures name args).Single := by
  refine ⟨?_, ?_, making_single, fun name args => calling_single procedures name args⟩
  · intro t
    exact createTable_readings server procedures t
  · intro name args
    exact call_readings server procedures name args

def agreeable : Server Unit where
  run := fun _ => pure (.ok [some "16384"])
  copyIn := fun _ => pure (.ok ())
  write := fun _ => pure (.ok ())
  flush := pure (.ok ())
  finish := pure (.ok 0)

def makingRun (t : NewTable) : Except Error Table × List Message :=
  let made := ((Session.database agreeable.traced "msar").createTable t).run ⟨(), []⟩
  (made.1, made.2.log)

/-- Names and a comment that would be SQL of their own if they ended early. -/
def hostile : NewTable :=
  ⟨"a\"; DROP SCHEMA b", "t\\'--", ["\") ; DELETE FROM c; /*", "it's\nso"], some "5\\'; DROP TABLE d; --"⟩

theorem readings_of_hostile :
    List.Forall₂ Message.ReadsAs (makingRun hostile).2 (making hostile) ∧
    Refused ["a", "t", "b\x00"] (makingRun ⟨"a", "t", ["b\x00"], none⟩).1 (makingRun ⟨"a", "t", ["b\x00"], none⟩).2 := by
  have hcreate := (session_readings agreeable "msar").1
  constructor
  · obtain ⟨log, hrun, -, hmakes⟩ := hcreate hostile () []
    have hnames : ∀ name ∈ hostile.schema :: hostile.name :: hostile.columns, Nameable name := by
      unfold Nameable
      decide
    obtain ⟨readings, hreads, -, -, hall⟩ := hmakes hnames
    have hmade : (((Session.database agreeable "msar").createTable hostile).run ()).1.toOption =
        some ⟨16384, hostile.schema, hostile.name⟩ := by decide +kernel
    have hreadings : readings = making hostile := by
      generalize (((Session.database agreeable "msar").createTable hostile).run ()).1 = r at hmade hall
      cases r with
      | ok table => exact hall table rfl
      | error e => cases hmade
    rw [makingRun, hrun, List.nil_append, ← hreadings]
    exact hreads
  · obtain ⟨log, hrun, hrefused, -⟩ := hcreate ⟨"a", "t", ["b\x00"], none⟩ () []
    rw [makingRun, hrun, List.nil_append]
    refine hrefused ⟨"b\x00", by simp, ?_⟩
    intro h
    exact h.2.1 (by decide)

end Intake.Database
