/-
  Intake.Proofs.Alteration.Explained — what the failure of an alteration is told as.

  The database tells by a state code what was wrong. Four codes say that the change asked for something
  impossible: of its options, of its default value or of its type. Which of these it is depends on the
  code and on whether a default value was to be set. The failure itself is always kept.

  Proved:
  - `ofState_classified`: which codes make up which category.
  - `setsDefault_iff`: a change sets a default value just when the database gets one that is not null.
  - `columnName_named`: a column is named just when its name was asked for and found.
  - `explain_explained`, `alter_explained`: what is made of a failure, and so of a failed alteration.
  - `failures_explained`: this is so of all five alterations, and a batch never blames a default value.
-/

import Intake.Proofs.Alteration.Batch

namespace Intake.Alteration

open Database (Exchange Runs runs_pure columnNameProcedure)
open Json (Members)

variable {σ α β : Type}

/-! ## State codes -/

/-- A failure with a state code keeps code and message, and its category follows from the code. -/
theorem ofState_classified (code message : String) :
    ∃ category, Database.Error.ofState code message = ⟨category, some code, message⟩ ∧
      (category = .invalidParameterValue ↔ code = "22023") ∧ (category = .syntaxError ↔ code = "42601") ∧
      (category = .invalidTextRepresentation ↔ code = "22P02") ∧ (category = .raiseException ↔ code = "P0001") ∧
      (category = .other ↔ code ∉ ["22023", "42601", "22P02", "P0001"]) := by
  refine ⟨.ofState code, rfl, ?_⟩
  unfold Database.Category.ofState
  split
  · simp
  · simp
  · simp
  · simp
  · rename_i h1 h2 h3 h4
    simp_all

/-! ## Default values -/

def SetsValue (c : Change) : Prop := ∃ v, c.payload.get? "default" = some v ∧ v ≠ .null

/-- Whatever wraps a default value, it gives a member that is missing, null, or the value. -/
theorem readDefault_ofMember {ms : Members} {key : String} {p : Patch Json} (h : readDefault ms key = .ok p) :
    ∃ v, p = .ofMember v := by
  unfold readDefault at h
  split at h
  · cases h
    exact ⟨none, rfl⟩
  · unfold readWrapper at h
    split at h
    · cases h
      exact ⟨some .null, rfl⟩
    · split at h
      · cases h
        exact ⟨none, rfl⟩
      · cases h
        exact ⟨some _, rfl⟩
    · cases h
      exact ⟨none, rfl⟩
    · cases h
      exact ⟨some _, rfl⟩
    · cases h
    · cases h

theorem normalize_ofMember {v : Json} {fallback : Option Int} {c : Change} (h : normalize v fallback = .ok c) :
    ∃ w, c.defaultValue = .ofMember w := by
  obtain ⟨ms, r, rfl, hr, hn⟩ := normalize_ok_iff.mp h
  rw [(request_keeps hn).1]
  have hread := hr.specific
  cases hshape : Shape.detect ms with
  | wrappedDefault =>
    rw [hshape] at hread
    exact readDefault_ofMember (readFlat_ok_iff.mp hread).1
  | current =>
    rw [hshape] at hread
    exact readDefault_ofMember (readFlat_ok_iff.mp hread).1
  | nestedType =>
    rw [hshape] at hread
    obtain ⟨spec, htype⟩ := detect_nestedType hshape
    exact readDefault_ofMember ((readNested_ok_iff htype).mp hread).1

theorem setsDefault_iff {v : Json} {fallback : Option Int} {c : Change} (h : normalize v fallback = .ok c) :
    c.setsDefault = true ↔ SetsValue c := by
  obtain ⟨w, hw⟩ := normalize_ofMember h
  unfold Change.setsDefault SetsValue
  rw [payload_default, hw, isSet_ofMember, member_ofMember]
  cases w <;> simp

theorem anySetsDefault_iff {items : List Json} {cs : List Change} (h : Canonical items cs) :
    cs.any Change.setsDefault = true ↔ ∃ c ∈ cs, SetsValue c := by
  induction h with
  | nil => simp
  | cons hc _ ih => simp [List.any_cons, setsDefault_iff hc, ih]

/-! ## Failures -/

/-- What a failure is told as: of a call for changes of which some may set a default value (`sets`), and
    where one column was to be changed (`column`), to a type that may have been asked for (`requested`).
    What was looked up after the failure is in the log. -/
structure Explained (table : Nat) (column : Option Int) (requested : Option String) (sets : Prop)
    (e : Database.Error) (looked : List Exchange) (f : Failure) : Prop where
  cause : f.cause? = some e
  parameter : e.category = .invalidParameterValue → f = .invalidTypeOption none e ∧ f.code = "invalid_type_option"
  syntaxError : e.category = .syntaxError →
    f = .invalidTypeOption (some e.message) e ∧ f.code = "invalid_type_option"
  default : e.category = .invalidTextRepresentation → sets → f = .invalidDefault e ∧ f.code = "invalid_default"
  /-- The column has a name just when it was looked up and found. -/
  type : e.category = .raiseException ∨ e.category = .invalidTextRepresentation ∧ ¬sets →
    ∃ name, f = .invalidType name requested e ∧ f.code = "invalid_type" ∧
      ∀ s, name = some s ↔
        ∃ n, column = some n ∧ looked = [.call "get_column_name" [.oid table, .integer n] (.ok (some s))]
  other : e.category = .other → f = .database e ∧ f.code = "database_error"

theorem Explained.blames_no_default {table : Nat} {column : Option Int} {requested : Option String} {sets : Prop}
    {e : Database.Error} {looked : List Exchange} {f : Failure} (h : Explained table column requested sets e looked f)
    (hsets : ¬sets) (e' : Database.Error) : f ≠ .invalidDefault e' := by
  intro hf
  subst hf
  cases hcategory : e.category with
  | invalidParameterValue => cases (h.parameter hcategory).1
  | syntaxError => cases (h.syntaxError hcategory).1
  | invalidTextRepresentation =>
    obtain ⟨name, htype, -⟩ := h.type (.inr ⟨hcategory, hsets⟩)
    cases htype
  | raiseException =>
    obtain ⟨name, htype, -⟩ := h.type (.inl hcategory)
    cases htype
  | other => cases (h.other hcategory).1

/-- A failed look-up finds no name, and so does one that is not made. -/
theorem columnName_named (db : Database σ) (context : Context) :
    Runs (context.columnName db) (context.columnName db.traced) fun name looked => ∀ s, name = some s ↔
      ∃ n, context.attnum = some n ∧
        looked = [.call columnNameProcedure [.oid context.table, .integer n] (.ok (some s))] := by
  obtain ⟨table, attnum, requested, setsDefault⟩ := context
  cases attnum with
  | none => exact runs_pure fun s => by simp
  | some n =>
    refine (asked_runs db table n).bindState fun r log hlog => ?_
    cases r with
    | ok name => exact runs_pure fun s => by simp [hlog]
    | error e => exact runs_pure fun s => by simp [hlog]

theorem explain_explained (db : Database σ) (context : Context) (e : Database.Error) :
    Runs (context.explain db e) (context.explain db.traced e) fun f looked =>
      Explained context.table context.attnum context.requestedType (context.setsDefault = true) e looked f := by
  obtain ⟨category, state, message⟩ := e
  have htype : category = .raiseException ∨ category = .invalidTextRepresentation ∧ ¬context.setsDefault = true →
      Runs (context.invalidType db ⟨category, state, message⟩) (context.invalidType db.traced ⟨category, state, message⟩)
        fun f looked => Explained context.table context.attnum context.requestedType (context.setsDefault = true)
          ⟨category, state, message⟩ looked f := by
    intro hblamed
    refine (columnName_named db context).bindState fun name looked hname => runs_pure ?_
    rw [List.append_nil]
    refine ⟨rfl, ?_, ?_, ?_, fun _ => ⟨name, rfl, rfl, hname⟩, ?_⟩
    · rintro rfl
      simp at hblamed
    · rintro rfl
      simp at hblamed
    · rintro rfl hsets
      simp [hsets] at hblamed
    · rintro rfl
      simp at hblamed
  cases category with
  | invalidParameterValue =>
    refine runs_pure ⟨rfl, fun _ => ⟨rfl, rfl⟩, ?_, ?_, ?_, ?_⟩ <;> simp
  | invalidTextRepresentation =>
    by_cases hsets : context.setsDefault = true
    · simp only [Context.explain, hsets, if_true]
      refine runs_pure ⟨rfl, ?_, ?_, fun _ _ => ⟨rfl, rfl⟩, ?_, ?_⟩ <;> simp
    · have h := htype (.inr ⟨rfl, hsets⟩)
      simp only [Context.explain, hsets]
      simp only [hsets] at h
      exact h
  | raiseException => exact htype (.inl rfl)
  | syntaxError =>
    refine runs_pure ⟨rfl, ?_, fun _ => ⟨rfl, rfl⟩, ?_, ?_, ?_⟩ <;> simp
  | other =>
    refine runs_pure ⟨rfl, ?_, ?_, ?_, ?_, fun _ => ⟨rfl, rfl⟩⟩ <;> simp

/-! ## Alterations -/

theorem send_explained (db : Database σ) (context : Context) (cs : List Change) :
    Runs (send db context cs).run (send db.traced context cs).run fun r log =>
      ∃ answer looked, log = alterCall context.table cs answer :: looked ∧ ∀ e, answer = .error e →
        ∃ f, r = .error f ∧
          Explained context.table context.attnum context.requestedType (context.setsDefault = true) e looked f := by
  refine (called_runs db context.table cs).bindState fun answer log hlog => ?_
  cases answer with
  | ok v => exact runs_pure ⟨.ok v, [], by rw [hlog]; rfl, nofun⟩
  | error e =>
    refine (explain_explained db context e).bindState fun f looked hf => runs_pure ?_
    refine ⟨.error e, looked, by rw [hlog, List.append_nil]; rfl, ?_⟩
    intro e' he
    cases he
    exact ⟨f, rfl, hf⟩

/-- All changes go into one call, and if that fails, its failure is told as it should be. The column and the
    type are those of the only change, where the alteration is one of a single column. -/
def Explains (table : Nat) (entry : Entry β α) (b : β) (r : Except Failure α) (log : List Exchange) : Prop :=
  ∃ answer looked, log = alterCall table (entry.changes b) answer :: looked ∧ ∀ e, answer = .error e →
    ∃ f, r = .error f ∧
      Explained table ((entry.single b).map Change.attnum) ((entry.single b).bind Change.requestedType)
        (∃ c ∈ entry.changes b, SetsValue c) e looked f

theorem alter_explained (db : Database σ) {table : Nat} (entry : Entry β α) (context : β → Context)
    {x : Except Invalid β} (htable : ∀ b, (context b).table = table)
    (hcolumn : ∀ b, (context b).attnum = (entry.single b).map Change.attnum)
    (hrequested : ∀ b, (context b).requestedType = (entry.single b).bind Change.requestedType)
    (hsets : ∀ b, x = .ok b → ((context b).setsDefault = true ↔ ∃ c ∈ entry.changes b, SetsValue c)) :
    Runs (check x >>= fun b => send db (context b) (entry.changes b) >>= fun _ => pure (entry.reply b)).run
      (check x >>= fun b => send db.traced (context b) (entry.changes b) >>= fun _ => pure (entry.reply b)).run
      fun r log => ∀ b, x = .ok b → Explains table entry b r log := by
  refine runs_alteration db entry context ?_ fun b hb => ?_
  · intro e he b hb
    rw [hb] at he
    cases he
  · have hsent := send_explained db (context b) (entry.changes b)
    simp only [htable, hcolumn, hrequested, hsets b hb] at hsent
    refine hsent.mono fun r log h b' hb' => ?_
    obtain rfl := Except.ok.inj (hb.symm.trans hb')
    obtain ⟨answer, looked, hlog, hfailed⟩ := h
    refine ⟨answer, looked, hlog, fun e he => ?_⟩
    obtain ⟨f, rfl, hexplained⟩ := hfailed e he
    exact ⟨f, rfl, hexplained⟩

theorem alterColumn_explained (db : Database σ) (table : Nat) (attnum : Int) (request : Json) :
    Runs (alterColumn db table attnum request).run (alterColumn db.traced table attnum request).run
      fun r log => ∀ c, normalize request (some attnum) = .ok c → Explains table .column c r log := by
  refine alter_explained db .column (.single table) (fun _ => rfl) (fun _ => rfl) (fun _ => rfl) fun c hc => ?_
  have hsingle : (∃ c' ∈ Entry.column.changes c, SetsValue c') ↔ SetsValue c := by simp [Entry.column]
  rw [hsingle]
  exact setsDefault_iff hc

theorem updateColumns_explained (db : Database σ) (table : Nat) (items : List Json) :
    Runs (updateColumns db table items).run (updateColumns db.traced table items).run
      fun r log => ∀ cs, checkBatch items = .ok () → Canonical items cs → Explains table .columns cs r log := by
  have hsets : ∀ cs, (checkBatch items >>= fun _ => normalizeAll items) = .ok cs →
      (cs.any Change.setsDefault = true ↔ ∃ c ∈ cs, SetsValue c) := by
    intro cs hx
    obtain ⟨_, -, hcs⟩ := bind_ok_iff.mp hx
    exact anySetsDefault_iff (normalizeAll_ok_iff.mp hcs)
  have hruns := alter_explained db .columns (.batch table) (fun _ => rfl) (fun _ => rfl) (fun _ => rfl) hsets
  rw [check_bind, check_bind] at hruns
  refine hruns.mono fun r log h cs hkeys hcs => h cs ?_
  exact bind_ok_iff.mpr ⟨(), hkeys, normalizeAll_ok_iff.mpr hcs⟩

theorem alterColumns_explained (db : Database σ) (table : Nat) (items : List Json) :
    Runs (alterColumns db table items).run (alterColumns db.traced table items).run
      fun r log => ∀ cs, Canonical items cs → Explains table .count cs r log := by
  have hsets : ∀ cs, normalizeAll items = .ok cs → (cs.any Change.setsDefault = true ↔ ∃ c ∈ cs, SetsValue c) :=
    fun cs hcs => anySetsDefault_iff (normalizeAll_ok_iff.mp hcs)
  have hruns := alter_explained db .count (.batch table) (fun _ => rfl) (fun _ => rfl) (fun _ => rfl) hsets
  exact hruns.mono fun r log h cs hcs => h cs (normalizeAll_ok_iff.mpr hcs)

theorem items_set_nothing {items : List Json} {cs : List Change} (hitems : ∀ v ∈ items, IsItem v)
    (hcs : Canonical items cs) : ¬∃ c ∈ cs, SetsValue c := by
  induction hcs with
  | nil => simp
  | cons hc _ ih =>
    obtain ⟨hv, hvs⟩ := List.forall_mem_cons.mp hitems
    obtain ⟨-, -, hdefault, -⟩ := item_change hv hc
    rw [List.exists_mem_cons_iff, not_or]
    refine ⟨?_, ih hvs⟩
    intro hsets
    obtain ⟨v, hv, -⟩ := hsets
    rw [payload_default, hdefault] at hv
    cases hv

/-- So a batch is never told of a default value. -/
theorem updateColumns_blames_no_default (db : Database σ) (table : Nat) (items : List Json) :
    Runs (updateColumns db table items).run (updateColumns db.traced table items).run
      fun r _ => ∀ e, r ≠ .error (.invalidDefault e) := by
  refine ((updateColumns_runs db table items).and (updateColumns_explained db table items)).mono ?_
  intro r log h e hr
  subst hr
  obtain ⟨hinvalid, hcarried⟩ := h
  by_cases haccepted : ∃ cs, checkBatch items = .ok () ∧ Canonical items cs
  · obtain ⟨cs, hkeys, hcs⟩ := haccepted
    obtain ⟨answer, looked, hlog, hanswer⟩ := hinvalid.carried cs ⟨hkeys, hcs⟩
    obtain ⟨answer', looked', hlog', hfailed⟩ := hcarried cs hkeys hcs
    have hsame : answer' = answer := by
      rw [hlog'] at hlog
      injection hlog with hcall
      injection hcall
    subst hsame
    cases answer' with
    | ok v => cases hanswer.1
    | error e' =>
      obtain ⟨f, hf, hexplained⟩ := hfailed e' rfl
      cases hf
      -- one category is told as a default value, and that needs one that is set
      exact hexplained.blames_no_default (items_set_nothing (checkFrom_ok_iff.mp hkeys) hcs) e rfl
  · obtain ⟨e', he⟩ := hinvalid.invalid.mpr fun cs hcs => haccepted ⟨cs, hcs⟩
    cases he

/-- A failure of the database is told in the words of the request, and kept. Its category follows from its
    code. What it is told as follows from the category, from whether a default value was to be set and, where
    one column was to be changed, from the type asked for and the name found. A batch has no default values. -/
theorem failures_explained (db : Database σ) (table : Nat) :
    (∀ code message, ∃ category, Database.Error.ofState code message = ⟨category, some code, message⟩ ∧
      (category = .invalidParameterValue ↔ code = "22023") ∧ (category = .syntaxError ↔ code = "42601") ∧
      (category = .invalidTextRepresentation ↔ code = "22P02") ∧ (category = .raiseException ↔ code = "P0001") ∧
      (category = .other ↔ code ∉ ["22023", "42601", "22P02", "P0001"])) ∧
    (∀ attnum request, Runs (alterColumn db table attnum request).run
      (alterColumn db.traced table attnum request).run fun r log =>
        ∀ c, normalize request (some attnum) = .ok c → Explains table .column c r log) ∧
    (∀ attnum name options, Runs (alterType db table attnum name options).run
      (alterType db.traced table attnum name options).run fun r log =>
        ∀ c, normalize (typeRequest name options) (some attnum) = .ok c → Explains table .column c r log) ∧
    (∀ attnum name, Runs (renameColumn db table attnum name).run
      (renameColumn db.traced table attnum name).run fun r log =>
        ∀ c, normalize (nameRequest name) (some attnum) = .ok c → Explains table .column c r log) ∧
    (∀ items, Runs (updateColumns db table items).run (updateColumns db.traced table items).run fun r log =>
      (∀ cs, checkBatch items = .ok () → Canonical items cs → Explains table .columns cs r log) ∧
        ∀ e, r ≠ .error (.invalidDefault e)) ∧
    ∀ items, Runs (alterColumns db table items).run (alterColumns db.traced table items).run fun r log =>
      ∀ cs, Canonical items cs → Explains table .count cs r log := by
  refine ⟨ofState_classified, fun attnum request => alterColumn_explained db table attnum request, ?_, ?_, ?_, ?_⟩
  · intro attnum name options
    exact alterColumn_explained db table attnum (typeRequest name options)
  · intro attnum name
    exact alterColumn_explained db table attnum (nameRequest name)
  · intro items
    exact (updateColumns_explained db table items).and (updateColumns_blames_no_default db table items)
  · intro items
    exact alterColumns_explained db table items

/-- A database that carries out no change, and that answers when asked for a name. -/
def refusing (e : Database.Error) (name : Except Database.Error (Option String)) : Database Unit :=
  { willing with call := fun procedure _ => pure (if procedure = alterProcedure then .error e else name) }

def unreadable : Database.Error := .ofState "22P02" "invalid input syntax for type date"

/-- A request that clears the default value and asks for a type. -/
def datedRequest : Json := .object [("default", .null), ("type", .string "date")]

def aborted : Database.Error := .ofState "25P02" "current transaction is aborted"

def datedColumn (name : Except Database.Error (Option String)) :
    Except Failure Change × Database.Traced Unit :=
  (alterColumn (refusing unreadable name).traced 7 3 datedRequest).run.run ⟨(), []⟩

def datedItems : List Json :=
  [.object [("attnum", .int 1), ("type", .string "date")],
   .object [("attnum", .int 2), ("default", .object [("value", .string "tomorow")]), ("type", .string "date")]]

def datedColumns : Except Failure Nat × Database.Traced Unit :=
  (alterColumns (refusing unreadable (.error aborted)).traced 7 datedItems).run.run ⟨(), []⟩

/-- The column is named if its name is found. A look-up that fails takes nothing from what is told. -/
theorem failures_of_dates :
    (∀ name, ∃ c, normalize datedRequest (some 3) = .ok c ∧
      Explains 7 .column c (datedColumn name).1 (datedColumn name).2.log) ∧
    (datedColumn (.ok (some "due"))).1 = .error (.invalidType (some "due") (some "date") unreadable) ∧
    (datedColumn (.error aborted)).1 = .error (.invalidType none (some "date") unreadable) ∧
    (∃ cs, Canonical datedItems cs ∧ Explains 7 .count cs datedColumns.1 datedColumns.2.log) ∧
    datedColumns.1 = .error (.invalidDefault unreadable) := by
  refine ⟨fun name => ?_, rfl, rfl, ?_, rfl⟩
  · obtain ⟨-, hcolumn, -⟩ := failures_explained (refusing unreadable name) 7
    obtain ⟨log, hrun, hexplains⟩ := hcolumn 3 datedRequest () []
    rw [datedColumn, hrun, List.nil_append]
    exact ⟨_, rfl, hexplains _ rfl⟩
  · obtain ⟨-, -, -, -, -, hcolumns⟩ := failures_explained (refusing unreadable (.error aborted)) 7
    obtain ⟨log, hrun, hexplains⟩ := hcolumns datedItems () []
    rw [datedColumns, hrun, List.nil_append]
    have hcs : normalizeAll datedItems = .ok _ := rfl
    exact ⟨_, normalizeAll_ok_iff.mp hcs, hexplains _ (normalizeAll_ok_iff.mp hcs)⟩

end Intake.Alteration
