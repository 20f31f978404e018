/-
  Intake.Proofs.Alteration.Calls — what an alteration asks the database for.

  There are five ways to alter columns: by a request for one column, of which a new type and a new
  name are special cases, and by items for several columns, with few keys or with all. They differ
  in what they accept, in what they answer with, and in whether they speak of one column.

  Proved:
  - `explain_runs`: the name of a column is asked for only where its type is at fault.
  - `normalizeAll_ok_iff`: items come to the changes of the items, in their order.
  - `alter_runs`: so an alteration asks for nothing if its input is not valid, and otherwise for all
    its changes in one call.
  - `calls_of_alterations`: and this is so of all five.
-/

import Intake.Alteration.Apply
import Intake.Proofs.Database.Traced
import Intake.Proofs.Outcome
import Mathlib.Data.List.Forall2

namespace Intake.Alteration

open Database (Exchange Traced Runs noted runs_noted runs_pure columnNameProcedure)

variable {σ α β : Type}

/-! ## Failures of the database -/

/-- Whether a failure says that the type is at fault: the procedure refuses the change, or a value
    cannot be read and it is not the default value that was to be set. -/
def blamesType (setsDefault : Bool) (e : Database.Error) : Bool :=
  match e.category with
  | .raiseException => true
  | .invalidTextRepresentation => !setsDefault
  | .invalidParameterValue | .syntaxError | .other => false

/-- The call that asks for the name of a column, if there is one to ask for. -/
def Looked (table : Nat) (column : Option Int) (log : List Exchange) : Prop :=
  match column with
  | none => log = []
  | some n => ∃ answer, log = [.call columnNameProcedure [.oid table, .integer n] answer]

theorem asked_runs (db : Database σ) (table : Nat) (n : Int) :
    Runs (db.columnName table n) (db.traced.columnName table n)
      fun r log => log = [.call columnNameProcedure [.oid table, .integer n] r] :=
  runs_noted fun _ => rfl

theorem columnName_runs (db : Database σ) (context : Context) :
    Runs (context.columnName db) (context.columnName db.traced)
      fun _ log => Looked context.table context.attnum log := by
  obtain ⟨table, attnum, requested, setsDefault⟩ := context
  cases attnum with
  | none => exact runs_pure rfl
  | some n =>
    refine (asked_runs db table n).bindState fun r log hlog => ?_
    -- the answer decides on the name only, not on what was asked
    cases r with
    | ok name => exact runs_pure ⟨.ok name, by rw [List.append_nil]; exact hlog⟩
    | error e => exact runs_pure ⟨.error e, by rw [List.append_nil]; exact hlog⟩

theorem invalidType_runs (db : Database σ) (context : Context) (e : Database.Error) :
    Runs (context.invalidType db e) (context.invalidType db.traced e)
      fun f log => f.cause? = some e ∧ Looked context.table context.attnum log := by
  refine (columnName_runs db context).bindState fun name log hlog => runs_pure ⟨rfl, ?_⟩
  rw [List.append_nil]
  exact hlog

theorem explain_runs (db : Database σ) (context : Context) (e : Database.Error) :
    Runs (context.explain db e) (context.explain db.traced e) fun f log => f.cause? = some e ∧
      Looked context.table (if blamesType context.setsDefault e then context.attnum else none) log := by
  have htype := invalidType_runs db context e
  obtain ⟨category, state, message⟩ := e
  cases category with
  | invalidParameterValue => exact runs_pure ⟨rfl, rfl⟩
  | invalidTextRepresentation =>
    by_cases hdefault : context.setsDefault = true
    · have hnot : blamesType context.setsDefault ⟨.invalidTextRepresentation, state, message⟩ = false := by
        simp [blamesType, hdefault]
      rw [hnot]
      simp only [Context.explain, hdefault, if_true]
      exact runs_pure ⟨rfl, rfl⟩
    · have hblames : blamesType context.setsDefault ⟨.invalidTextRepresentation, state, message⟩ = true := by
        simp [blamesType, hdefault]
      rw [hblames]
      simp only [Context.explain, hdefault]
      exact htype
  | raiseException => exact htype
  | syntaxError => exact runs_pure ⟨rfl, rfl⟩
  | other => exact runs_pure ⟨rfl, rfl⟩

/-! ## One call for all changes -/

def alterCall (table : Nat) (cs : List Change) (answer : Except Database.Error (Option String)) : Exchange :=
  .call alterProcedure [.oid table, .jsonb (.array (cs.map Change.payload))] answer

theorem called_runs (db : Database σ) (table : Nat) (cs : List Change) :
    Runs (db.call alterProcedure [.oid table, .jsonb (.array (cs.map Change.payload))])
      (db.traced.call alterProcedure [.oid table, .jsonb (.array (cs.map Change.payload))])
      fun r log => log = [alterCall table cs r] :=
  runs_noted fun _ => rfl

theorem send_runs (db : Database σ) (context : Context) (cs : List Change) :
    Runs (send db context cs).run (send db.traced context cs).run fun r log =>
      ∃ answer looked, log = alterCall context.table cs answer :: looked ∧
        match answer with
        | .ok _ => r = .ok () ∧ looked = []
        | .error e => (∃ f, r = .error f ∧ f.cause? = some e) ∧
            Looked context.table (if blamesType context.setsDefault e then context.attnum else none) looked := by
  refine (called_runs db context.table cs).bindState fun answer log hlog => ?_
  cases answer with
  | ok v => exact runs_pure ⟨.ok v, [], by rw [hlog]; rfl, rfl, rfl⟩
  | error e =>
    refine (explain_runs db context e).bindState fun f looked hf => runs_pure ?_
    exact ⟨.error e, looked, by rw [hlog, List.append_nil]; rfl, ⟨f, rfl, hf.1⟩, hf.2⟩

/-! ## Ways to alter columns -/

/-- What is sent for an input that comes to a `β`, and what is answered. -/
structure Entry (β α : Type) where
  changes : β → List Change
  /-- The change of one column, whose name may be asked for. -/
  single : β → Option Change
  reply : β → α

namespace Entry

def column : Entry Change Change := ⟨fun c => [c], some, id⟩

def columns : Entry (List Change) (List Change) := ⟨id, fun _ => none, id⟩

def count : Entry (List Change) Nat := ⟨id, fun _ => none, List.length⟩

def lookedUp (entry : Entry β α) (b : β) (e : Database.Error) : Option Int :=
  (entry.single b).bind fun c => if blamesType c.setsDefault e then some c.attnum else none

end Entry

/-- All changes have gone into one call. After it the name of a column is asked for, or nothing. -/
def Carried (table : Nat) (entry : Entry β α) (b : β) (r : Except Failure α) (log : List Exchange) : Prop :=
  ∃ answer looked, log = alterCall table (entry.changes b) answer :: looked ∧
    match answer with
    | .ok _ => r = .ok (entry.reply b) ∧ looked = []
    | .error e => (∃ f, r = .error f ∧ f.cause? = some e) ∧ Looked table (entry.lookedUp b e) looked

/-- An alteration that ends in this way and asks for this. `accepts` says what its input comes to. -/
structure Alters (table : Nat) (entry : Entry β α) (accepts : β → Prop) (r : Except Failure α)
    (log : List Exchange) : Prop where
  /-- It fails as invalid if its input comes to nothing, and only then. -/
  invalid : (∃ e, r = .error (.invalid e)) ↔ ∀ b, ¬accepts b
  silent : (∀ b, ¬accepts b) → log = []
  carried : ∀ b, accepts b → Carried table entry b r log

section

variable {table : Nat} {entry : Entry β α} {accepts : β → Prop}

theorem alters_rejected {e : Invalid} (hnone : ∀ b, ¬accepts b) :
    Alters table entry accepts (.error (.invalid e)) [] where
  invalid := ⟨fun _ => hnone, fun _ => ⟨e, rfl⟩⟩
  silent := fun _ => rfl
  carried := fun b hb => absurd hb (hnone b)

theorem Carried.valid {b : β} {r : Except Failure α} {log : List Exchange} (h : Carried table entry b r log) :
    ¬∃ e, r = .error (.invalid e) := by
  rintro ⟨e, rfl⟩
  obtain ⟨answer, looked, -, hanswer⟩ := h
  cases answer with
  | ok v => cases hanswer.1
  | error e' =>
    obtain ⟨⟨f, ⟨⟩, hcause⟩, -⟩ := hanswer
    cases hcause

theorem alters_carried {b : β} {r : Except Failure α} {log : List Exchange} (hb : accepts b)
    (honly : ∀ b', accepts b' → b' = b) (h : Carried table entry b r log) :
    Alters table entry accepts r log where
  invalid := ⟨fun hinvalid => absurd hinvalid h.valid, fun hnone => absurd hb (hnone b)⟩
  silent := fun hnone => absurd hb (hnone b)
  carried := fun b' hb' => by rw [honly b' hb']; exact h

/-- An alteration is its check and then its call, and ends as the call does. -/
theorem runs_alteration (db : Database σ) (entry : Entry β α) (context : β → Context) {x : Except Invalid β}
    {Q : Except Failure α → List Exchange → Prop} (hinvalid : ∀ e, x = .error e → Q (.error (.invalid e)) [])
    (hsent : ∀ b, x = .ok b → Runs (send db (context b) (entry.changes b)).run
      (send db.traced (context b) (entry.changes b)).run fun r log => Q (r.map fun _ => entry.reply b) log) :
    Runs (check x >>= fun b => send db (context b) (entry.changes b) >>= fun _ => pure (entry.reply b)).run
      (check x >>= fun b => send db.traced (context b) (entry.changes b) >>= fun _ => pure (entry.reply b)).run Q := by
  refine Database.runs_settled ?_ fun b hb => ?_
  · intro f hf
    obtain ⟨e, he, rfl⟩ := mapError_error_iff.mp hf
    exact hinvalid e he
  · refine (hsent b (mapError_ok_iff.mp hb)).bind (fun f log h => h) fun _ log h => runs_pure ?_
    rw [List.append_nil]
    exact h

theorem alter_runs (db : Database σ) (entry : Entry β α) (context : β → Context) {x : Except Invalid β}
    (hx : ∀ b, x = .ok b ↔ accepts b) (htable : ∀ b, (context b).table = table)
    (hlooked : ∀ b e, (if blamesType (context b).setsDefault e then (context b).attnum else none) =
      entry.lookedUp b e) :
    Runs (check x >>= fun b => send db (context b) (entry.changes b) >>= fun _ => pure (entry.reply b)).run
      (check x >>= fun b => send db.traced (context b) (entry.changes b) >>= fun _ => pure (entry.reply b)).run
      (Alters table entry accepts) := by
  refine runs_alteration db entry context ?_ fun b hb => ?_
  · intro e hinvalid
    refine alters_rejected fun b hb => ?_
    rw [(hx b).mpr hb] at hinvalid
    cases hinvalid
  · have honly : ∀ b', accepts b' → b' = b := fun b' hb' => by
      have hsame := (hx b').mpr hb'
      rw [hb] at hsame
      cases hsame
      rfl
    have hsent := send_runs db (context b) (entry.changes b)
    simp only [htable, hlooked] at hsent
    refine hsent.mono fun r log h => alters_carried ((hx b).mp hb) honly ?_
    obtain ⟨answer, looked, hlog, hanswer⟩ := h
    refine ⟨answer, looked, hlog, ?_⟩
    cases answer with
    | ok v =>
      obtain ⟨rfl, hnothing⟩ := hanswer
      exact ⟨rfl, hnothing⟩
    | error e =>
      obtain ⟨⟨f, rfl, hcause⟩, hlook⟩ := hanswer
      exact ⟨⟨f, rfl, hcause⟩, hlook⟩

end

/-! ## Items -/

/-- Items come to these changes, one each. -/
def Canonical (items : List Json) (cs : List Change) : Prop :=
  List.Forall₂ (fun v c => normalize v none = .ok c) items cs

theorem normalizeFrom_ok_iff {index : Nat} {items : List Json} {cs : List Change} :
    normalizeFrom index items = .ok cs ↔ Canonical items cs := by
  induction items generalizing index cs with
  | nil =>
    cases cs with
    | nil => exact ⟨fun _ => .nil, fun _ => rfl⟩
    | cons c cs => exact ⟨nofun, nofun⟩
  | cons v vs ih =>
    rw [normalizeFrom, bind_ok_iff]
    constructor
    · rintro ⟨c, hc, hrest⟩
      obtain ⟨cs', hcs, hpure⟩ := bind_ok_iff.mp hrest
      obtain rfl := pure_ok_iff.mp hpure
      exact .cons (mapError_ok_iff.mp hc) (ih.mp hcs)
    · rintro (_ | ⟨hc, hcs⟩)
      exact ⟨_, mapError_ok_iff.mpr hc, bind_ok_iff.mpr ⟨_, ih.mpr hcs, rfl⟩⟩

theorem normalizeAll_ok_iff {items : List Json} {cs : List Change} :
    normalizeAll items = .ok cs ↔ Canonical items cs :=
  normalizeFrom_ok_iff

/-! ## Every alteration -/

theorem check_bind {γ : Type} {x : Except Invalid α} {y : α → Except Invalid β} {f : β → Action σ γ} :
    check (x >>= y) >>= f = check x >>= fun a => check (y a) >>= f := by
  cases x <;> rfl

def typeRequest (name : String) (options : Option Json) : Json :=
  .ofMembers [("type", .string name), ("type_options", options.getD .null)]

def nameRequest (name : String) : Json := .ofMembers [("name", .string name)]

theorem alterColumn_runs (db : Database σ) (table : Nat) (attnum : Int) (request : Json) :
    Runs (alterColumn db table attnum request).run (alterColumn db.traced table attnum request).run
      (Alters table .column fun c => normalize request (some attnum) = .ok c) :=
  alter_runs db .column (.single table) (fun _ => Iff.rfl) (fun _ => rfl) fun _ _ => rfl

theorem updateColumns_runs (db : Database σ) (table : Nat) (items : List Json) :
    Runs (updateColumns db table items).run (updateColumns db.traced table items).run
      (Alters table .columns fun cs => checkBatch items = .ok () ∧ Canonical items cs) := by
  have hx : ∀ cs, (checkBatch items >>= fun _ => normalizeAll items) = .ok cs ↔
      checkBatch items = .ok () ∧ Canonical items cs := by
    intro cs
    rw [bind_ok_iff, ← normalizeAll_ok_iff]
    exact ⟨fun ⟨_, hkeys, hcs⟩ => ⟨hkeys, hcs⟩, fun ⟨hkeys, hcs⟩ => ⟨(), hkeys, hcs⟩⟩
  have hruns := alter_runs db .columns (.batch table) hx (fun _ => rfl) fun _ _ => ite_self _
  rw [check_bind, check_bind] at hruns
  exact hruns

theorem alterColumns_runs (db : Database σ) (table : Nat) (items : List Json) :
    Runs (alterColumns db table items).run (alterColumns db.traced table items).run
      (Alters table .count (Canonical items)) :=
  alter_runs db .count (.batch table) (fun _ => normalizeAll_ok_iff) (fun _ => rfl) fun _ _ => ite_self _

/-- Whatever the database answers, an alteration fails as invalid exactly if its input is not valid,
    and then nothing is asked. Otherwise its changes, in the order of the items, go into one call. If
    that succeeds, the changes or their number are the answer. If it fails, the name of a column is
    asked for in a second call exactly if one column was to be changed and its type is at fault. -/
theorem calls_of_alterations (db : Database σ) (table : Nat) :
    (∀ attnum request, Runs (alterColumn db table attnum request).run
      (alterColumn db.traced table attnum request).run
      (Alters table .column fun c => normalize request (some attnum) = .ok c)) ∧
    (∀ attnum name options, Runs (alterType db table attnum name options).run
      (alterType db.traced table attnum name options).run
      (Alters table .column fun c => normalize (typeRequest name options) (some attnum) = .ok c)) ∧
    (∀ attnum name, Runs (renameColumn db table attnum name).run
      (renameColumn db.traced table attnum name).run
      (Alters table .column fun c => normalize (nameRequest name) (some attnum) = .ok c)) ∧
    (∀ items, Runs (updateColumns db table items).run (updateColumns db.traced table items).run
      (Alters table .columns fun cs => checkBatch items = .ok () ∧ Canonical items cs)) ∧
    ∀ items, Runs (alterColumns db table items).run (alterColumns db.traced table items).run
      (Alters table .count (Canonical items)) := by
  refine ⟨fun attnum request => alterColumn_runs db table attnum request, ?_, ?_, ?_, ?_⟩
  · intro attnum name options
    exact alterColumn_runs db table attnum (typeRequest name options)
  · intro attnum name
    exact alterColumn_runs db table attnum (nameRequest name)
  · intro items
    exact updateColumns_runs db table items
  · intro items
    exact alterColumns_runs db table items

end Intake.Alteration
