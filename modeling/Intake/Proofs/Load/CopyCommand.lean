/-
  Intake.Proofs.Load.CopyCommand — the command of a bulk load, taken apart by the server.

  The server takes the text apart into the words and the punctuation of the command and, in their
  places, the names and characters that were given (`tokens_rendered`). Which names and characters
  those are cannot change the rest (`outline_tokens`), and they can all be read off the command
  (`tokens_injective`). Only a name that no table or column can have makes the command fail
  (`text_error_iff`).
-/

import Intake.Load.CopyCommand
import Intake.Proofs.Delimited.Again
import Intake.Proofs.Sql.Tokens

namespace Intake.Load.CopyCommand

open Delimited (byteChar)
open Sql (Token ReadsAs Apart Any)
open Sql.Identifier (quoted check check_error_iff)

def names (c : CopyCommand) : List String := c.schema :: c.table :: c.columns

/-- A character of the dialect as the server reads it. -/
def charConstant (b : UInt8) : Token := .constant (String.singleton (byteChar b))

def optionTokens (c : CopyCommand) : List (List Token) :=
  [[.word "FORMAT", .word "csv"], [.word "HEADER", .word (if c.header then "true" else "false")],
   [.word "DELIMITER", charConstant c.dialect.delimiter], [.word "QUOTE", charConstant c.dialect.quote]] ++
    (c.dialect.escape.map fun escape => [.word "ESCAPE", charConstant escape]).toList ++
    [[.word "ENCODING", .constant c.encoding]]

def listed (tss : List (List Token)) : List Token := [Token.sign ','].intercalate tss

/-- The command as the server is to read it. -/
def tokens (c : CopyCommand) : List Token :=
  [.word "COPY", .name c.schema, .sign '.', .name c.table, .sign '('] ++
    listed (c.columns.map fun n => [.name n]) ++
    [.sign ')', .word "FROM", .word "STDIN", .word "WITH", .sign '('] ++ listed c.optionTokens ++ [.sign ')']

/-- The text of the command, whether or not its names are accepted. -/
def rendered (c : CopyCommand) : String :=
  "COPY " ++ (quoted c.schema ++ "." ++ quoted c.table) ++ " (" ++
    ", ".intercalate (c.columns.map quoted) ++ ") FROM STDIN WITH (" ++
    ", ".intercalate c.options ++ ")"

theorem text_ok_iff {c : CopyCommand} {text : String} :
    c.text = .ok text ↔ (∀ n ∈ c.names, check n = .ok ()) ∧ text = c.rendered := by
  simp only [CopyCommand.text, bind_ok_iff, pure_ok_iff, Sql.Identifier.mapM_quote_ok_iff,
    Sql.Identifier.qualify_ok_iff, names, List.forall_mem_cons]
  constructor
  · rintro ⟨-, ⟨hc, rfl⟩, -, ⟨hs, ht, rfl⟩, rfl⟩
    exact ⟨⟨hs, ht, hc⟩, rfl⟩
  · rintro ⟨⟨hs, ht, hc⟩, rfl⟩
    exact ⟨_, ⟨hc, rfl⟩, _, ⟨hs, ht, rfl⟩, rfl⟩

theorem text_error_iff {c : CopyCommand} :
    (∃ e, c.text = .error e) ↔
      ∃ n ∈ c.names, n = "" ∨ '\x00' ∈ n.toList ∨ Sql.maxIdentifierBytes < n.utf8ByteSize := by
  have h : (∃ e, c.text = .error e) ↔ ¬ ∀ n ∈ c.names, check n = .ok () := by
    cases ht : c.text with
    | error e =>
      refine iff_of_true ⟨e, rfl⟩ fun hall => ?_
      have := text_ok_iff.mpr ⟨hall, rfl⟩
      rw [ht] at this
      cases this
    | ok text => exact iff_of_false (fun ⟨e, he⟩ => by cases he) fun hn => hn (text_ok_iff.mp ht).1
  rw [h]
  simp only [← check_error_iff]
  constructor
  · intro hn
    obtain ⟨n, hm, hc⟩ : ∃ n ∈ c.names, check n ≠ .ok () := by simpa using hn
    cases hcn : check n with
    | error e => exact ⟨n, hm, e, hcn⟩
    | ok u => exact absurd hcn hc
  · rintro ⟨n, hm, e, he⟩ hall
    rw [hall n hm] at he
    cases he

/-! ## Reading the text -/

theorem reads_option {w s : String} (hs : s = w ++ " ") (hw : Sql.isWord w.toList = true) (v : String) :
    ReadsAs Apart (s ++ Sql.Literal.quote v).toList [.word w, .constant v] := by
  have h := (Sql.reads_word hw).spaced (Sql.reads_constant v)
  rwa [hs, String.toList_append, String.toList_append, List.append_assoc]

theorem reads_header (b : Bool) :
    ReadsAs Apart ("HEADER " ++ (if b then "true" else "false")).toList
      [.word "HEADER", .word (if b then "true" else "false")] := by
  have hw : ReadsAs Apart "HEADER".toList [.word "HEADER"] := Sql.reads_word (by decide)
  cases b
  · exact hw.spaced (Sql.reads_word (w := "false") (by decide))
  · exact hw.spaced (Sql.reads_word (w := "true") (by decide))

theorem reads_options (c : CopyCommand) :
    List.Forall₂ (ReadsAs Apart) (c.options.map String.toList) c.optionTokens := by
  have hf : ReadsAs Apart "FORMAT csv".toList [.word "FORMAT", .word "csv"] :=
    (Sql.reads_word (w := "FORMAT") (by decide)).spaced (Sql.reads_word (w := "csv") (by decide))
  have hd := reads_option (s := "DELIMITER ") (w := "DELIMITER") (by decide) (by decide)
    (String.singleton (byteChar c.dialect.delimiter))
  have hq := reads_option (s := "QUOTE ") (w := "QUOTE") (by decide) (by decide)
    (String.singleton (byteChar c.dialect.quote))
  have he : List.Forall₂ (ReadsAs Apart)
      ((c.dialect.escape.map fun escape => "ESCAPE " ++ charLiteral escape).toList.map String.toList)
      (c.dialect.escape.map fun escape => [.word "ESCAPE", charConstant escape]).toList := by
    cases c.dialect.escape with
    | none => exact .nil
    | some escape => exact .cons (reads_option (by decide) (by decide) _) .nil
  have hn := reads_option (s := "ENCODING ") (w := "ENCODING") (by decide) (by decide) c.encoding
  simp only [options, optionTokens, List.map_append]
  refine List.rel_append (List.rel_append ?_ he) ?_
  · exact .cons hf (.cons (reads_header c.header) (.cons hd (.cons hq .nil)))
  · exact .cons hn .nil

theorem reads_columns (columns : List String) :
    List.Forall₂ (ReadsAs Apart) ((columns.map quoted).map String.toList)
      (columns.map fun n => [.name n]) := by
  rw [List.map_map, List.forall₂_map_left_iff, List.forall₂_map_right_iff, List.forall₂_same]
  intro n _
  exact Sql.reads_name n

theorem toList_rendered (c : CopyCommand) :
    c.rendered.toList =
      "COPY".toList ++ ' ' :: ((quoted c.schema).toList ++ '.' :: ((quoted c.table).toList ++ ' ' :: '(' ::
        ([',', ' '].intercalate ((c.columns.map quoted).map String.toList) ++ ')' :: ' ' ::
          ("FROM".toList ++ ' ' :: ("STDIN".toList ++ ' ' :: ("WITH".toList ++ ' ' :: '(' ::
            ([',', ' '].intercalate (c.options.map String.toList) ++ [')']))))))) := by
  have hcopy : "COPY ".toList = "COPY".toList ++ [' '] := by decide
  have hdot : ".".toList = ['.'] := by decide
  have hopen : " (".toList = [' ', '('] := by decide
  have hfrom : ") FROM STDIN WITH (".toList = ')' :: ' ' :: ("FROM".toList ++ ' ' :: ("STDIN".toList ++ ' ' ::
      ("WITH".toList ++ [' ', '(']))) := by decide
  have hclose : ")".toList = [')'] := by decide
  unfold rendered
  simp only [String.toList_append, Sql.toList_listed]
  rw [hcopy, hdot, hopen, hfrom, hclose]
  simp only [List.append_assoc, List.cons_append, List.nil_append]

theorem tokens_rendered (c : CopyCommand) : Sql.tokens c.rendered.toList = some c.tokens := by
  have hopen := ReadsAs.signed (c := ')') (by decide) (ReadsAs.listed (reads_options c)) Sql.reads_nil
  have hwith := (Sql.reads_word (w := "WITH") (by decide)).spaced (hopen.sign (c := '(') (by decide))
  have hfrom := (Sql.reads_word (w := "FROM") (by decide)).spaced
    ((Sql.reads_word (w := "STDIN") (by decide)).spaced hwith)
  have hcolumns := ReadsAs.signed (c := ')') (by decide) (ReadsAs.listed (reads_columns c.columns)) hfrom.gap
  have htable := (Sql.reads_name c.table).spaced (hcolumns.sign (c := '(') (by decide))
  have hschema := ReadsAs.signed (c := '.') (by decide) (Sql.reads_name c.schema) htable
  have h := (Sql.reads_word (w := "COPY") (by decide)).spaced hschema
  rw [toList_rendered, h.all trivial]
  simp [tokens, listed]

/-! ## What the tokens tell -/

theorem filterMap_listed {α : Type} {f : Token → Option α} (hf : f (.sign ',') = none)
    (tss : List (List Token)) : (listed tss).filterMap f = tss.flatMap (·.filterMap f) := by
  induction tss with
  | nil => rfl
  | cons ts tss ih =>
    cases tss with
    | nil => simp [listed]
    | cons us tss =>
      rw [listed, List.intercalate_cons_cons, List.filterMap_append, List.filterMap_append]
      rw [listed] at ih
      simp [hf, ih]

theorem map_listed (f : Token → Token) (tss : List (List Token)) :
    (listed tss).map f = [f (.sign ',')].intercalate (tss.map (·.map f)) := by
  induction tss with
  | nil => rfl
  | cons ts tss ih =>
    cases tss with
    | nil => simp [listed]
    | cons us tss =>
      rw [listed, List.intercalate_cons_cons, List.map_append, List.map_append]
      rw [listed] at ih
      simp [ih]

theorem names_tokens (c : CopyCommand) : c.tokens.filterMap Token.name? = c.names := by
  have hc : ∀ columns : List String,
      (columns.map fun n => [Token.name n]).flatMap (·.filterMap Token.name?) = columns := by
    intro columns
    induction columns with
    | nil => rfl
    | cons n columns ih => simp [Token.name?, ih]
  have ho : c.optionTokens.flatMap (·.filterMap Token.name?) = [] := by
    cases h : c.dialect.escape <;> simp [optionTokens, h, List.filterMap_cons, Token.name?, charConstant]
  simp only [tokens, List.filterMap_append, filterMap_listed (f := Token.name?) rfl, hc, ho]
  simp [List.filterMap_cons, Token.name?, names]

theorem constants_tokens (c : CopyCommand) :
    c.tokens.filterMap Token.constant? =
      ([c.dialect.delimiter, c.dialect.quote] ++ c.dialect.escape.toList).map
        (fun b => String.singleton (byteChar b)) ++ [c.encoding] := by
  have hc : ∀ columns : List String,
      (columns.map fun n => [Token.name n]).flatMap (·.filterMap Token.constant?) = [] := by
    intro columns
    simp [List.flatMap_map, List.filterMap_cons, Token.constant?]
  simp only [tokens, List.filterMap_append, filterMap_listed (f := Token.constant?) rfl, hc]
  cases h : c.dialect.escape <;> simp [optionTokens, h, List.filterMap_cons, Token.constant?, charConstant]

theorem words_tokens (c : CopyCommand) :
    c.tokens.filterMap Token.word? =
      ["COPY", "FROM", "STDIN", "WITH", "FORMAT", "csv", "HEADER", if c.header then "true" else "false",
        "DELIMITER", "QUOTE"] ++ (c.dialect.escape.map fun _ => "ESCAPE").toList ++ ["ENCODING"] := by
  have hc : ∀ columns : List String,
      (columns.map fun n => [Token.name n]).flatMap (·.filterMap Token.word?) = [] := by
    intro columns
    simp [List.flatMap_map, List.filterMap_cons, Token.word?]
  simp only [tokens, List.filterMap_append, filterMap_listed (f := Token.word?) rfl, hc]
  cases h : c.dialect.escape <;> simp [optionTokens, h, List.filterMap_cons, Token.word?, charConstant]

theorem tokens_injective {c d : CopyCommand} (h : c.tokens = d.tokens) : c = d := by
  have hn : c.names = d.names := by rw [← names_tokens, ← names_tokens, h]
  have hk := constants_tokens c
  have hw := words_tokens c
  rw [h, constants_tokens] at hk
  rw [h, words_tokens] at hw
  obtain ⟨schema, table, columns, header, ⟨delimiter, quote, escape⟩, encoding⟩ := c
  obtain ⟨schema', table', columns', header', ⟨delimiter', quote', escape'⟩, encoding'⟩ := d
  have hheader : header = header' := by
    cases header <;> cases header' <;> simp_all
  have hchar : ∀ {a b : UInt8}, String.singleton (byteChar a) = String.singleton (byteChar b) → a = b :=
    fun e => Delimited.byteChar_injective (by simpa using congrArg String.toList e)
  simp only [names, List.cons.injEq] at hn
  obtain ⟨rfl, rfl, rfl⟩ := hn
  cases escape with
  | none =>
    cases escape' with
    | none =>
      simp only [Option.toList_none, List.append_nil, List.map_cons, List.map_nil, List.cons_append,
        List.nil_append, List.cons.injEq, and_true] at hk
      obtain ⟨hd, hq, rfl⟩ := hk
      rw [hchar hd, hchar hq, hheader]
    | some e' => simp at hk
  | some e =>
    cases escape' with
    | none => simp at hk
    | some e' =>
      simp only [Option.toList_some, List.map_cons, List.map_nil, List.cons_append, List.nil_append,
        List.cons.injEq, and_true] at hk
      obtain ⟨hd, hq, he, rfl⟩ := hk
      rw [hchar hd, hchar hq, hchar he, hheader]

/-- How many columns there are, the header and whether there is an escape decide the rest. -/
theorem outline_tokens {c d : CopyCommand} (hc : c.columns.length = d.columns.length)
    (hh : c.header = d.header) (he : c.dialect.escape.isSome = d.dialect.escape.isSome) :
    c.tokens.map Token.outline = d.tokens.map Token.outline := by
  have hcolumns : ∀ c : CopyCommand, (c.columns.map fun n => [Token.name n]).map (·.map Token.outline) =
      List.replicate c.columns.length [Token.name ""] := by
    intro c
    simp [Function.comp_def, Token.outline]
  have hoptions : c.optionTokens.map (·.map Token.outline) = d.optionTokens.map (·.map Token.outline) := by
    cases hce : c.dialect.escape <;> cases hde : d.dialect.escape <;>
      simp_all [optionTokens, charConstant, Token.outline]
  simp only [tokens, List.map_append, map_listed, hcolumns, hoptions, hc, List.map_cons, Token.outline]

/-- The server reads the command as it was meant: the words and the punctuation of the command, and
    the given names and characters in their places, so none of these can change what the command
    does, and no two commands have one text. There is no text only when a name is empty, holds a NUL
    or is longer than the server keeps. -/
theorem server_reads_the_command (c : CopyCommand) :
    (∀ text, c.text = .ok text → Sql.tokens text.toList = some c.tokens) ∧
    ((∃ e, c.text = .error e) ↔
      ∃ n ∈ c.schema :: c.table :: c.columns, n = "" ∨ '\x00' ∈ n.toList ∨ 63 < n.utf8ByteSize) ∧
    (∀ d : CopyCommand, c.columns.length = d.columns.length → c.header = d.header →
      c.dialect.escape.isSome = d.dialect.escape.isSome →
        c.tokens.map Token.outline = d.tokens.map Token.outline) ∧
    ∀ (d : CopyCommand) text, c.text = .ok text → d.text = .ok text → c = d := by
  have htokens : ∀ {c : CopyCommand} {text : String}, c.text = .ok text →
      Sql.tokens text.toList = some c.tokens := by
    intro c text h
    rw [(text_ok_iff.mp h).2, tokens_rendered]
  refine ⟨fun text h => htokens h, text_error_iff, fun d hc hh he => outline_tokens hc hh he, ?_⟩
  intro d text hc hd
  have h := htokens hc
  rw [htokens hd] at h
  exact (tokens_injective (Option.some.inj h)).symm

/-- Quotes in a column name, a quote as the quote and a backslash as the escape. -/
def hostile : CopyCommand :=
  ⟨"public", "my table", ["a", "b \"quoted\""], true, ⟨0x09, 0x27, some 0x5C⟩, "WIN1252"⟩

theorem server_reads_hostile :
    Sql.tokens ("COPY \"public\".\"my table\" (\"a\", \"b \"\"quoted\"\"\") FROM STDIN WITH (FORMAT csv, " ++
      "HEADER true, DELIMITER '\t', QUOTE '''', ESCAPE E'\\\\', ENCODING 'WIN1252')").toList =
        some [.word "COPY", .name "public", .sign '.', .name "my table", .sign '(', .name "a", .sign ',',
          .name "b \"quoted\"", .sign ')', .word "FROM", .word "STDIN", .word "WITH", .sign '(',
          .word "FORMAT", .word "csv", .sign ',', .word "HEADER", .word "true", .sign ',',
          .word "DELIMITER", .constant "\t", .sign ',', .word "QUOTE", .constant "\x27", .sign ',',
          .word "ESCAPE", .constant "\\", .sign ',', .word "ENCODING", .constant "WIN1252", .sign ')'] ∧
    hostile.tokens.map Token.outline =
      { hostile with table := "t", dialect := ⟨0x2C, 0x22, some 0x22⟩ }.tokens.map Token.outline := by
  have h := server_reads_the_command hostile
  exact ⟨h.1 _ (by decide +kernel), h.2.2.1 _ rfl rfl rfl⟩

end Intake.Load.CopyCommand
