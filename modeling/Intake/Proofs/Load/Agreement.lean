/-
  Intake.Proofs.Load.Agreement — the text that is inspected and the text that the server reads.

  The columns of a file are found in the text it is inspected as. The server reads the bytes that are
  written, in the encoding that is declared for them. A converted file is written as just the text it
  is inspected as. A file that is sent as it is keeps all that follows its own mark, and inspection may
  drop more of it: another encoding's mark, or a second one of its own.

  Proved:
  - `decode_sent`: what the server reads is the file from `skipped` on.
  - `skipped_eq_iff`: where this is what is inspected.
  - `sent_text`: so for the bytes that are written of a file that a plan was made for.
-/

import Intake.Proofs.Load.Import

namespace Intake

/-! ## The text that is sent -/

namespace Charset

theorem source_transfer (c : Charset) : c.transfer.source = c := by
  rw [transfer]
  cases c.serverName? <;> rfl

/-- Only UTF-8 is sent instead of the encoding of the file. -/
theorem sent_transfer (c : Charset) : c.transfer.sent = if c.transfer.transcodes then utf8 else c := by
  rw [Transfer.transcodes, transfer]
  cases hname : c.serverName? with
  | none =>
    have hne : c ≠ utf8 := by
      rintro rfl
      cases hname
    simp [hne]
  | some name => simp

theorem decode_encode [Codecs] (cs : List Char) : utf8.decode (Text.Utf8.encode cs) = cs := by
  change legible (Text.Utf8.decoder.run _) = cs
  rw [Text.Utf8.run_encode, legible, List.map_map]
  exact List.map_id cs

end Charset

namespace Load

open Database (Exchange Traced Runs)
open Storage (Files)
open Intake.Stream (taken)

/-- How many bytes at the start of a file are not sent. -/
def Prepared.skipped (p : Prepared) (contents : List UInt8) : Nat :=
  if p.transfer.transcodes then p.transfer.source.strippedLength contents
  else p.transfer.source.ownMarkLength contents

theorem decode_sent [Codecs] {p : Prepared} {c : Charset} (h : p.transfer = c.transfer) (contents : List UInt8) :
    p.transfer.sent.decode (p.sent contents) = c.decode (contents.drop (p.skipped contents)) := by
  rw [Prepared.sent, Prepared.skipped, h, Charset.sent_transfer, Charset.source_transfer]
  by_cases ht : c.transfer.transcodes = true
  · rw [if_pos ht, if_pos ht, if_pos ht, Charset.inspectBytes, Charset.decode_encode, Charset.inspect_eq]
  · rw [if_neg ht, if_neg ht, if_neg ht]

theorem skipped_eq_iff {p : Prepared} {c : Charset} (h : p.transfer = c.transfer) {contents : List UInt8} :
    p.skipped contents = c.strippedLength contents ↔
      p.transfer.transcodes = true ∨ c.OwnMarkOnly contents := by
  rw [Prepared.skipped, h, Charset.source_transfer]
  by_cases ht : c.transfer.transcodes = true
  · rw [if_pos ht]
    exact ⟨fun _ => .inl ht, fun _ => rfl⟩
  · rw [if_neg ht, eq_comm, Charset.strippedLength_eq_iff]
    simp [ht]

/-! ## The bytes that are written -/

def written (log : List Exchange) : List UInt8 :=
  log.flatMap fun
    | .write bytes (.ok ()) => bytes
    | _ => []

theorem written_append (xs ys : List Exchange) : written (xs ++ ys) = written xs ++ written ys :=
  List.flatMap_append

theorem written_taken (ps : List (List UInt8)) : written (taken ps) = ps.flatten := by
  rw [written, taken, List.flatMap_map, List.flatMap_def, List.map_id']

section

variable [Codecs] {σ : Type}

theorem written_of_sent {files : Files} {p : Prepared} {n : Nat} {log : List Exchange} (h : Sent files p (.ok n) log) :
    ∃ contents, files.read p.path = .ok contents ∧ written log = p.sent contents := by
  obtain ⟨entry, hopen, hcopied⟩ := h
  generalize hr : (Except.ok n : Except String Nat) = r at hcopied
  cases hcopied with
  | whole ps hall hfault =>
    obtain ⟨contents, hread, hsame⟩ := sentOf_whole hopen hfault
    refine ⟨contents, hread, ?_⟩
    rw [written_append, written_taken, hall, hsame]
    exact List.append_nil _
  | broken ps m _ _ => cases hr
  | refused ps q m _ => cases hr
  | unflushed ps m _ _ => cases hr

/-! ## Agreement -/

/-- The columns of a plan come from the text that the file is inspected as, and a file that can be read can
    be sent. When all of it is sent the server reads what is not skipped. This is the text that was inspected
    if the file is converted, or starts with no mark but its own. -/
theorem sent_text (db : Database σ) {files : Files} {path : String} {header : Option Bool}
    {dialect : Option Delimited.Dialect} {charset : Option Charset} {p : Prepared}
    (hplan : prepare files path header dialect charset = .ok p) :
    ∃ c, charsetOf files path charset = .ok c ∧
      (∀ contents, files.read p.path = .ok contents → ∃ layout source,
        Delimited.layout p.dialect header (Text.Utf8.encode (c.inspect contents)) = .ok layout ∧
        layout.headers = p.headers ∧ openSource files p = .ok source) ∧
      ∀ source, openSource files p = .ok source →
        Runs (send db source).run (send db.traced source).run fun r log => ∀ n, r = .ok n →
          ∃ contents, files.read p.path = .ok contents ∧
            p.transfer.sent.decode (written log) = c.decode (contents.drop (p.skipped contents)) ∧
            (p.transfer.transcodes = true ∨ c.OwnMarkOnly contents →
              p.transfer.sent.decode (written log) = c.inspect contents) := by
  obtain ⟨c, layout, hcharset, -, hlayout, -, hp⟩ := prepare_made hplan
  have hpath : p.path = path := by rw [hp]
  have hheaders : layout.headers = p.headers := by rw [hp]
  have htransfer : p.transfer = c.transfer := by rw [hp]
  refine ⟨c, hcharset, fun contents hread => ?_, fun source hopen => ?_⟩
  · rw [layoutOf_read (hpath ▸ hread)] at hlayout
    exact ⟨layout, _, mapError_ok_iff.mp hlayout, hheaders, openSource_read hread⟩
  · refine (send_runs db hopen).mono ?_
    rintro r log hsent n rfl
    obtain ⟨contents, hread, hwritten⟩ := written_of_sent hsent
    have htext : p.transfer.sent.decode (written log) = c.decode (contents.drop (p.skipped contents)) := by
      rw [hwritten, decode_sent htransfer]
    refine ⟨contents, hread, htext, fun hagree => ?_⟩
    rw [htext, (skipped_eq_iff htransfer).mpr hagree, Charset.inspect_eq]

end

def willing : Database.Scripted := .ofScript ⟨[], [], none⟩

/-- A file with these bytes before the heading of its second column. -/
def pairsAfter (first : List UInt8) : List UInt8 := first ++ [0x2C, 0x62, 0x0A, 0x31, 0x2C, 0x32, 0x0A]

def pairs (first : List UInt8) : Files :=
  (Files.empty ["home"]).enter "pairs.csv" (.file (pairsAfter first))

/-- The plan for it in an encoding of single bytes, if this is how its first column is named. -/
def pairsPlan (column : String) : Prepared :=
  ⟨"pairs.csv", (Charset.single .windows1252).transfer, ⟨0x2C, 0x22, none⟩, true, [column, "b"], [column, "b"]⟩

section

open scoped Excerpt

/-- A text between escape sequences is converted, and these are neither inspected nor sent. -/
example : (prepare (pairs [0x1B, 0x24, 0x42, 0x24, 0x22, 0x1B, 0x28, 0x42]) "pairs.csv" (some true) none
      (some .iso2022Jp)).toOption.map (fun p => (p.columns, p.transfer.declared,
        p.sent (pairsAfter [0x1B, 0x24, 0x42, 0x24, 0x22, 0x1B, 0x28, 0x42]))) =
    some (["あ", "b"], "UTF8", Text.Utf8.encode "あ,b\n1,2\n".toList) := by
  decide +kernel

theorem sent_text_of_accented :
    prepare (pairs [0xE9]) "pairs.csv" (some true) none (some (.single .windows1252)) = .ok (pairsPlan "é") ∧
      ∃ source, openSource (pairs [0xE9]) (pairsPlan "é") = .ok source ∧
        (Charset.single .windows1252).decode (written ((send Database.Scripted.database.traced source).run.run
          ⟨willing, []⟩).2.log) = (Charset.single .windows1252).inspect (pairsAfter [0xE9]) := by
  have hplan : prepare (pairs [0xE9]) "pairs.csv" (some true) none (some (.single .windows1252)) =
      .ok (pairsPlan "é") := by decide +kernel
  obtain ⟨c, hcharset, hfile, hruns⟩ := sent_text Database.Scripted.database hplan
  obtain rfl : .single .windows1252 = c := Except.ok.inj hcharset
  have hread : (pairs [0xE9]).read "pairs.csv" = .ok (pairsAfter [0xE9]) := rfl
  obtain ⟨-, source, -, -, hopen⟩ := hfile _ hread
  have hdirect : openSource (pairs [0xE9]) (pairsPlan "é") =
      .ok (.direct (.single .windows1252) (Intake.Stream.ofBytes (pairsAfter [0xE9]))) := rfl
  refine ⟨hplan, source, hopen, ?_⟩
  obtain ⟨log, hrun, hsent⟩ := hruns source hopen willing []
  obtain rfl := Except.ok.inj (hdirect.symm.trans hopen)
  have hall : ((send Database.Scripted.database (.direct (.single .windows1252)
      (Intake.Stream.ofBytes (pairsAfter [0xE9])))).run.run willing).1 = .ok 8 := by decide +kernel
  rw [hrun]
  obtain ⟨contents, hsame, -, htext⟩ := hsent 8 hall
  obtain rfl := Except.ok.inj (hread.symm.trans hsame)
  exact htext (.inr (by decide +kernel))

/-- What a text starts with that is not in UTF-16 may look like the mark of UTF-16. The server reads it,
    and the column is named without it. -/
theorem column_named_without_data :
    prepare (pairs [0xFF, 0xFE, 0x61]) "pairs.csv" (some true) none (some (.single .windows1252)) =
        .ok (pairsPlan "a") ∧
      (Charset.single .windows1252).inspect (pairsAfter [0xFF, 0xFE, 0x61]) = "a,b\n1,2\n".toList ∧
      ∃ source, openSource (pairs [0xFF, 0xFE, 0x61]) (pairsPlan "a") = .ok source ∧
        (Charset.single .windows1252).decode (written ((send Database.Scripted.database.traced source).run.run
          ⟨willing, []⟩).2.log) = "ÿþa,b\n1,2\n".toList := by
  refine ⟨by decide +kernel, by decide +kernel, _, rfl, ?_⟩
  decide +kernel

end

end Load

end Intake
