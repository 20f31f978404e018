/-
  Intake.Proofs.Sql.Scanning — texts that are taken apart from their start, put together again.

  A scanner gives all pieces of a text, or nothing if some of the text is no piece. How far a piece goes
  can depend on what follows it, so a part of a text is described by what it gives before any rest of a
  certain kind.

  Proved:
  - `Yields.append`, `Yields.listed`: parts of a text in a row, and with commas between them.
  - `forall_mem_intercalate`: what holds of all parts and of what separates them holds of the whole.
-/

import Mathlib.Data.List.Forall2

namespace Intake.Sql

variable {τ : Type} {scan : List Char → Option (List τ)} {ok ok' : List Char → Prop}

/-- The text gives these pieces before every rest that is as `ok` says. -/
def Yields (scan : List Char → Option (List τ)) (ok : List Char → Prop) (text : List Char) (ts : List τ) : Prop :=
  ∀ rest, ok rest → scan (text ++ rest) = (scan rest).map (ts ++ ·)

theorem Yields.append {a b : List Char} {ts us : List τ} (ha : Yields scan ok a ts) (hb : Yields scan ok' b us)
    (h : ∀ rest, ok' rest → ok (b ++ rest)) : Yields scan ok' (a ++ b) (ts ++ us) := by
  intro rest hr
  rw [List.append_assoc, ha _ (h rest hr), hb rest hr, Option.map_map]
  congr 1
  funext vs
  simp

/-- Parts with a comma and a space between them, each of which the comma ends. -/
theorem Yields.listed {comma : τ} (hcomma : Yields scan (fun _ => True) [',', ' '] [comma])
    (hok : ∀ rest, ok (',' :: rest)) {texts : List (List Char)} {tss : List (List τ)}
    (h : List.Forall₂ (Yields scan ok) texts tss) :
    Yields scan ok ([',', ' '].intercalate texts) ([comma].intercalate tss) := by
  induction h with
  | nil =>
    intro rest _
    simp
  | cons ht hts ih =>
    cases hts with
    | nil => simpa using ht
    | cons hu hus =>
      rw [List.intercalate_cons_cons, List.intercalate_cons_cons, List.append_assoc, List.append_assoc]
      exact ht.append (hcomma.append ih fun _ _ => trivial) fun rest _ => hok _

theorem forall_mem_intercalate {P : τ → Prop} {separator : List τ} (hseparator : ∀ x ∈ separator, P x)
    {tss : List (List τ)} (h : ∀ ts ∈ tss, ∀ t ∈ ts, P t) : ∀ t ∈ separator.intercalate tss, P t := by
  induction tss with
  | nil => simp
  | cons ts tss ih =>
    rw [List.forall_mem_cons] at h
    cases tss with
    | nil => simpa using h.1
    | cons us tss =>
      rw [List.intercalate_cons_cons, List.forall_mem_append, List.forall_mem_append]
      exact ⟨⟨h.1, hseparator⟩, ih h.2⟩

end Intake.Sql
