/-
  Intake.Proofs.Database.Statements — the statements of a session.

  Proved:
  - `create_ok_iff`, `comment_ok_iff`, `tableOid_ok_iff`: when there is a statement, and which.
  - `tokens_createText`: how the server reads the text that makes a table.
  - `create_not_bound`, `comment_not_bound`, `tableOid_not_bound`, `call_not_bound`: no statement of a
    request begins or ends a transaction.
-/

import Intake.Database.Session
import Intake.Proofs.Sql.Tokens

namespace Intake.Database

open Sql (Apart IdentifierError ReadsAs Token reads_name reads_nil reads_word)
open Sql.Identifier (check quoted qualify quote_ok_iff qualify_ok_iff)

namespace Statement

/-! ## When there is a statement -/

def tableText (t : NewTable) : String := quoted t.schema ++ "." ++ quoted t.name

def columnText (name : String) : String := quoted name ++ " text"

theorem columnDefinition_ok_iff {name text : String} :
    columnDefinition name = .ok text ↔ check name = .ok () ∧ text = columnText name := by
  unfold columnDefinition
  rw [bind_ok_iff]
  constructor
  · intro h
    obtain ⟨q, hq, htext⟩ := h
    obtain ⟨hname, rfl⟩ := quote_ok_iff.mp hq
    exact ⟨hname, (pure_ok_iff.mp htext).symm⟩
  · intro h
    obtain ⟨hname, rfl⟩ := h
    exact ⟨_, quote_ok_iff.mpr ⟨hname, rfl⟩, rfl⟩

theorem columnDefinitions_ok_iff {names texts : List String} :
    names.mapM columnDefinition = .ok texts ↔
      (∀ name ∈ names, check name = .ok ()) ∧ texts = names.map columnText :=
  mapM_ok_iff columnDefinition_ok_iff

def createText (t : NewTable) : String :=
  "CREATE TABLE " ++ tableText t ++ " (" ++ ", ".intercalate (keyColumn :: t.columns.map columnText) ++ ")"

theorem create_ok_iff {t : NewTable} {s : Statement} :
    create t = .ok s ↔ (check t.schema = .ok () ∧ check t.name = .ok ()) ∧
      (∀ column ∈ t.columns, check column = .ok ()) ∧ s = ⟨.create, createText t, none⟩ := by
  unfold create
  simp only [bind_ok_iff, pure_ok_iff, qualify_ok_iff, columnDefinitions_ok_iff]
  constructor
  · intro h
    obtain ⟨-, ⟨hschema, hname, rfl⟩, -, ⟨hcolumns, rfl⟩, rfl⟩ := h
    exact ⟨⟨hschema, hname⟩, hcolumns, rfl⟩
  · intro h
    obtain ⟨⟨hschema, hname⟩, hcolumns, rfl⟩ := h
    exact ⟨_, ⟨hschema, hname, rfl⟩, _, ⟨hcolumns, rfl⟩, rfl⟩

def commentText (t : NewTable) (text : String) : String :=
  "COMMENT ON TABLE " ++ tableText t ++ " IS " ++ Sql.Literal.quote text

theorem comment_ok_iff {t : NewTable} {text : String} {s : Statement} :
    comment t text = .ok s ↔ (check t.schema = .ok () ∧ check t.name = .ok ()) ∧
      s = ⟨.comment, commentText t text, none⟩ := by
  unfold comment
  simp only [bind_ok_iff, pure_ok_iff, qualify_ok_iff]
  constructor
  · intro h
    obtain ⟨-, ⟨hschema, hname, rfl⟩, rfl⟩ := h
    exact ⟨⟨hschema, hname⟩, rfl⟩
  · intro h
    obtain ⟨⟨hschema, hname⟩, rfl⟩ := h
    exact ⟨_, ⟨hschema, hname, rfl⟩, rfl⟩

theorem tableOid_ok_iff {t : NewTable} {s : Statement} :
    tableOid t = .ok s ↔ (check t.schema = .ok () ∧ check t.name = .ok ()) ∧
      s = ⟨.tableOid, "SELECT $1::text::regclass::oid", some [.text (tableText t)]⟩ := by
  unfold tableOid
  simp only [bind_ok_iff, pure_ok_iff, qualify_ok_iff]
  constructor
  · intro h
    obtain ⟨-, ⟨hschema, hname, rfl⟩, rfl⟩ := h
    exact ⟨⟨hschema, hname⟩, rfl⟩
  · intro h
    obtain ⟨⟨hschema, hname⟩, rfl⟩ := h
    exact ⟨_, ⟨hschema, hname, rfl⟩, rfl⟩

/-! ## Reading the text -/

def keyTokens : List Token :=
  [.name "id", .word "integer", .word "PRIMARY", .word "KEY", .word "GENERATED", .word "ALWAYS", .word "AS",
   .word "IDENTITY"]

def columnTokens (name : String) : List Token := [.name name, .word "text"]

/-- The text that makes a table as the server reads it. -/
def createTokens (t : NewTable) : List Token :=
  [.word "CREATE", .word "TABLE", .name t.schema, .sign '.', .name t.name, .sign '('] ++
    [Token.sign ','].intercalate (keyTokens :: t.columns.map columnTokens) ++ [.sign ')']

theorem reads_key : ReadsAs Apart keyColumn.toList keyTokens := by
  have htext : keyColumn.toList = (quoted "id").toList ++ ' ' :: ("integer".toList ++ ' ' ::
      ("PRIMARY".toList ++ ' ' :: ("KEY".toList ++ ' ' :: ("GENERATED".toList ++ ' ' ::
        ("ALWAYS".toList ++ ' ' :: ("AS".toList ++ ' ' :: "IDENTITY".toList)))))) := by decide
  have hidentity := (reads_word (w := "AS") (by decide)).spaced (reads_word (w := "IDENTITY") (by decide))
  have halways := (reads_word (w := "ALWAYS") (by decide)).spaced hidentity
  have hgenerated := (reads_word (w := "GENERATED") (by decide)).spaced halways
  have hkey := (reads_word (w := "KEY") (by decide)).spaced hgenerated
  have hprimary := (reads_word (w := "PRIMARY") (by decide)).spaced hkey
  have hinteger := (reads_word (w := "integer") (by decide)).spaced hprimary
  rw [htext]
  exact (reads_name "id").spaced hinteger

theorem reads_columns (columns : List String) :
    List.Forall₂ (ReadsAs Apart) ((columns.map columnText).map String.toList) (columns.map columnTokens) := by
  rw [List.map_map, List.forall₂_map_left_iff, List.forall₂_map_right_iff, List.forall₂_same]
  intro name _
  show ReadsAs Apart (quoted name ++ " text").toList (columnTokens name)
  rw [String.toList_append]
  exact (reads_name name).spaced (reads_word (w := "text") (by decide))

theorem toList_createText (t : NewTable) :
    (createText t).toList =
      "CREATE".toList ++ ' ' :: ("TABLE".toList ++ ' ' :: ((quoted t.schema).toList ++ '.' ::
        ((quoted t.name).toList ++ ' ' :: '(' ::
          ([',', ' '].intercalate ((keyColumn :: t.columns.map columnText).map String.toList) ++ [')'])))) := by
  have hcreate : "CREATE TABLE ".toList = "CREATE".toList ++ ' ' :: ("TABLE".toList ++ [' ']) := by decide
  have hdot : ".".toList = ['.'] := by decide
  have hopen : " (".toList = [' ', '('] := by decide
  have hclose : ")".toList = [')'] := by decide
  unfold createText tableText
  simp only [String.toList_append, Sql.toList_listed]
  rw [hcreate, hdot, hopen, hclose]
  simp only [List.append_assoc, List.cons_append, List.nil_append]

theorem tokens_createText (t : NewTable) : Sql.tokens (createText t).toList = some (createTokens t) := by
  have hlist := ReadsAs.listed (List.Forall₂.cons reads_key (reads_columns t.columns))
  have hcolumns := ReadsAs.signed (c := ')') (by decide) hlist reads_nil
  have hname := (reads_name t.name).spaced (hcolumns.sign (c := '(') (by decide))
  have hschema := ReadsAs.signed (c := '.') (by decide) (reads_name t.schema) hname
  have htable := (reads_word (w := "TABLE") (by decide)).spaced hschema
  have h := (reads_word (w := "CREATE") (by decide)).spaced htable
  rw [toList_createText, List.map_cons, h.all trivial]
  simp only [createTokens, List.cons_append, List.nil_append]

/-! ## Transactions -/

/-- The texts that begin and end transactions. -/
def bounds : List String := [begin.text, commit.text, rollback.text]

theorem not_bound_append {p : String} (h : ∀ text ∈ bounds, ¬ p.toList <+: text.toList) (rest : String) :
    p ++ rest ∉ bounds := by
  intro hbound
  refine h _ hbound ?_
  rw [String.toList_append]
  exact List.prefix_append _ _

theorem create_not_bound {t : NewTable} {s : Statement} (h : create t = .ok s) : s.text ∉ bounds := by
  obtain ⟨-, -, rfl⟩ := create_ok_iff.mp h
  unfold createText
  simp only [String.append_assoc]
  exact not_bound_append (by decide) _

theorem comment_not_bound {t : NewTable} {text : String} {s : Statement} (h : comment t text = .ok s) :
    s.text ∉ bounds := by
  obtain ⟨-, rfl⟩ := comment_ok_iff.mp h
  unfold commentText
  simp only [String.append_assoc]
  exact not_bound_append (by decide) _

theorem tableOid_not_bound {t : NewTable} {s : Statement} (h : tableOid t = .ok s) : s.text ∉ bounds := by
  obtain ⟨-, rfl⟩ := tableOid_ok_iff.mp h
  show "SELECT $1::text::regclass::oid" ∉ bounds
  decide

theorem call_not_bound {schema name : String} {args : List Argument} {s : Statement}
    (h : call schema name args = .ok s) : s.text ∉ bounds := by
  unfold call at h
  obtain ⟨procedure, -, h⟩ := bind_ok_iff.mp h
  rw [← pure_ok_iff.mp h]
  simp only [String.append_assoc]
  exact not_bound_append (by decide) _

end Statement

end Intake.Database
