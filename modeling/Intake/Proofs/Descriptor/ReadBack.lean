/-
  Intake.Proofs.Descriptor.ReadBack — a descriptor that was written, read.

  A descriptor is written as one entry for each thing it says. Whether texts and truth values come back as
  they went is a matter of the notation (`ReadsBack`); that a descriptor whose scalars come back comes back
  itself is a matter of its keys: each is written once at most, and read where it was written.

  Proved:
  - `filter_written`: under a key stands what was written under it.
  - `find_written`: and that is what is found.
  - `read?_write`: a descriptor whose scalars come back is read as it was written.
-/

import Intake.Descriptor.Basic
import Mathlib.Data.List.Forall2

namespace Intake.Descriptor

open Yaml (Document Node Scalar)

/-! ## What is written -/

inductive Written where
  | text (s : String)
  | flag (b : Bool)

def Written.ReadBy (s : Scalar) : Written → Prop
  | text t => s.text = t ∧ s.isNull? = some false
  | flag b => s.bool? = some b ∧ s.isNull? = some false

def Written.char (c : Char) : Written := text (String.singleton c)

/-- All keys of a descriptor, in the order in which they are written, and what each says. -/
def table (d : Descriptor) : List (String × Option Written) :=
  [("path", some (.text d.path)), ("header", d.header.map .flag), ("delimiter", d.delimiter.map .char),
   ("quotechar", some (.char d.quote)), ("escapechar", d.escape.map .char), ("encoding", d.encoding.map .text)]

/-- The entries of a table: those keys that say something. -/
def written (rows : List (String × Option Written)) : List (String × Written) :=
  rows.filterMap fun row => row.2.map (row.1, ·)

/-- An entry is read as it was written, its key and its value. -/
def Faithful (document : Document) (node : Node × Node) (entry : String × Written) : Prop :=
  (∃ key ∈ document.scalar? node.1, key.text = entry.1) ∧
    ∃ value ∈ document.scalar? node.2, Written.ReadBy value entry.2

/-- The text of the descriptor is read as a mapping of its entries, each as it was written. -/
def ReadsBack (d : Descriptor) : Prop :=
  ∃ document ∈ Document.read? (Text.Utf8.encode d.write), ∃ nodes ∈ document.entries?,
    List.Forall₂ (Faithful document) nodes (written d.table)

instance (s : Scalar) (w : Written) : Decidable (w.ReadBy s) :=
  match w with
  | .text _ => inferInstanceAs (Decidable (_ ∧ _))
  | .flag _ => inferInstanceAs (Decidable (_ ∧ _))

instance (document : Document) (node : Node × Node) (entry : String × Written) :
    Decidable (Faithful document node entry) :=
  inferInstanceAs (Decidable (_ ∧ _))

instance (d : Descriptor) : Decidable (ReadsBack d) :=
  inferInstanceAs (Decidable (∃ document ∈ Document.read? (Text.Utf8.encode d.write), ∃ nodes ∈ document.entries?,
    List.Forall₂ (Faithful document) nodes (written d.table)))

/-! ## What is found -/

theorem filter_written {rows : List (String × Option Written)} (hkeys : (rows.map (·.1)).Nodup) {key : String}
    {value : Option Written} (h : (key, value) ∈ rows) :
    (written rows).filter (fun entry => entry.1 = key) = (value.map (key, ·)).toList := by
  induction rows with
  | nil => cases h
  | cons row rows ih =>
    obtain ⟨name, said⟩ := row
    obtain ⟨hname, hrows⟩ := List.nodup_cons.mp hkeys
    have hsplit : written ((name, said) :: rows) = (said.map (name, ·)).toList ++ written rows := by
      unfold written
      rw [List.filterMap_cons]
      cases said <;> rfl
    rw [hsplit, List.filter_append]
    by_cases hkey : name = key
    · -- the key stands in this row, and so in no other
      subst hkey
      have hrest : (written rows).filter (fun entry => entry.1 = name) = [] := by
        rw [List.filter_eq_nil_iff]
        intro entry hentry
        obtain ⟨other, hother, hmap⟩ := List.mem_filterMap.mp hentry
        obtain ⟨w, -, rfl⟩ := Option.map_eq_some_iff.mp hmap
        have hne : other.1 ≠ name := by
          intro heq
          exact hname (List.mem_map.mpr ⟨other, hother, heq⟩)
        simpa using hne
      have hvalue : value = said := by
        rcases List.mem_cons.mp h with heq | hmem
        · exact (Prod.mk.inj heq).2
        · exact absurd (List.mem_map_of_mem hmem) hname
      rw [hrest, List.append_nil, hvalue]
      cases said <;> simp
    · have hmem : (key, value) ∈ rows := by
        rcases List.mem_cons.mp h with heq | hmem
        · exact absurd (Prod.mk.inj heq).1.symm hkey
        · exact hmem
      rw [ih hrows hmem]
      cases said <;> simp [hkey]

section

variable {document : Document} {entries : List (Scalar × Node)} {rows : List (String × Option Written)}

def Kept (document : Document) (entry : Scalar × Node) (w : String × Written) : Prop :=
  entry.1.text = w.1 ∧ ∃ value ∈ document.scalar? entry.2, Written.ReadBy value w.2

theorem find_written (hkeys : (rows.map (·.1)).Nodup) (h : List.Forall₂ (Kept document) entries (written rows))
    {key : String} {value : Option Written} (hrow : (key, value) ∈ rows) :
    ∃ found, scalar? document entries key = some found ∧ Option.Rel Written.ReadBy found value := by
  have hunder : List.Forall₂ (Kept document) (entries.filter fun e => e.1.text = key)
      ((value.map (key, ·)).toList) := by
    rw [← filter_written hkeys hrow]
    refine List.rel_filter ?_ h
    intro entry w hentry
    simp only [decide_eq_true_eq, hentry.1]
  unfold scalar? lookup?
  cases value with
  | none =>
    cases hfilter : entries.filter fun e => e.1.text = key with
    | nil => exact ⟨none, rfl, .none⟩
    | cons e es =>
      rw [hfilter] at hunder
      cases hunder
  | some w =>
    cases hfilter : entries.filter fun e => e.1.text = key with
    | nil =>
      rw [hfilter] at hunder
      cases hunder
    | cons e es =>
      rw [hfilter] at hunder
      cases hunder with
      | cons he hes =>
        cases hes
        obtain ⟨-, found, hfound, hread⟩ := he
        refine ⟨some found, ?_, .some hread⟩
        show (document.scalar? e.2).map some = some (some found)
        rw [hfound]
        rfl

end

theorem entries?_of {document : Document} {nodes : List (Node × Node)} {ws : List (String × Written)}
    (hnodes : document.entries? = some nodes) (h : List.Forall₂ (Faithful document) nodes ws) :
    ∃ entries, entries? document = some entries ∧ List.Forall₂ (Kept document) entries ws := by
  unfold entries?
  rw [hnodes]
  show ∃ entries, (nodes.mapM fun e => (document.scalar? e.1).map fun key => (key, e.2)) = some entries ∧ _
  clear hnodes
  induction h with
  | nil => exact ⟨[], rfl, .nil⟩
  | cons hentry _ ih =>
    obtain ⟨⟨key, hkey, htext⟩, hvalue⟩ := hentry
    obtain ⟨entries, hentries, hkept⟩ := ih
    refine ⟨(key, _) :: entries, ?_, .cons ⟨htext, hvalue⟩ hkept⟩
    rw [List.mapM_cons, Option.mem_def.mp hkey, hentries]
    rfl

theorem optional?_of {α : Type} {read : Scalar → Option α} {write : α → Written} {found : Option Scalar}
    {value : Option α} (h : Option.Rel Written.ReadBy found (value.map write))
    (hread : ∀ s a, (write a).ReadBy s → s.isNull? = some false ∧ read s = some a) :
    optional? read found = some value := by
  cases value with
  | none =>
    cases h
    rfl
  | some a =>
    cases h with
    | some hs =>
      obtain ⟨hnull, ha⟩ := hread _ a hs
      simp [optional?, hnull, ha]

theorem char?_of {s : Scalar} {c : Char} (h : (Written.char c).ReadBy s) : s.isNull? = some false ∧ s.char? = some c := by
  obtain ⟨htext, hnull⟩ := h
  refine ⟨hnull, ?_⟩
  simp [Scalar.char?, htext]

theorem read?_write {d : Descriptor} (h : ReadsBack d) : read? (Text.Utf8.encode d.write) = some d := by
  obtain ⟨document, hdocument, nodes, hnodes, hfaithful⟩ := h
  obtain ⟨entries, hentries, hkept⟩ := entries?_of hnodes hfaithful
  have hkeys : (d.table.map (·.1)).Nodup := by
    show ["path", "header", "delimiter", "quotechar", "escapechar", "encoding"].Nodup
    decide
  have hfind : ∀ key value, (key, value) ∈ d.table →
      ∃ found, scalar? document entries key = some found ∧ Option.Rel Written.ReadBy found value :=
    fun _ _ hrow => find_written hkeys hkept hrow
  obtain ⟨path, hpath, hpathSaid⟩ := hfind "path" (some (.text d.path)) (by simp [table])
  obtain ⟨header, hheader, hheaderSaid⟩ := hfind "header" (d.header.map .flag) (by simp [table])
  obtain ⟨delimiter, hdelimiter, hdelimiterSaid⟩ := hfind "delimiter" (d.delimiter.map .char) (by simp [table])
  obtain ⟨quote, hquote, hquoteSaid⟩ := hfind "quotechar" (some (.char d.quote)) (by simp [table])
  obtain ⟨escape, hescape, hescapeSaid⟩ := hfind "escapechar" (d.escape.map .char) (by simp [table])
  obtain ⟨encoding, hencoding, hencodingSaid⟩ := hfind "encoding" (d.encoding.map .text) (by simp [table])
  have hheader' : optional? Scalar.bool? header = some d.header :=
    optional?_of hheaderSaid fun s a hs => ⟨hs.2, hs.1⟩
  have hdelimiter' : optional? Scalar.char? delimiter = some d.delimiter :=
    optional?_of hdelimiterSaid fun s a hs => char?_of hs
  have hescape' : optional? Scalar.char? escape = some d.escape :=
    optional?_of hescapeSaid fun s a hs => char?_of hs
  have hencoding' : optional? (fun s => some s.text) encoding = some d.encoding :=
    optional?_of hencodingSaid fun s a hs => ⟨hs.2, congrArg some hs.1⟩
  cases hpathSaid with
  | some hpathText =>
    cases hquoteSaid with
    | some hquoteText =>
      unfold read?
      simp only [Option.mem_def.mp hdocument, Option.bind_some, ofDocument?, hentries, bind, hpath, hheader, hheader', hdelimiter,
        hdelimiter', hquote, (char?_of hquoteText).2, hescape, hescape', hencoding, hencoding', Option.map_some, pure,
        hpathText.1]

end Intake.Descriptor
