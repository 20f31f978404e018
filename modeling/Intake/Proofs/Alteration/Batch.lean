/-
  Intake.Proofs.Alteration.Batch — which batches reach the database, and with what.

  An item of a batch is an object that says which column it means, and that has few other keys. The keys
  of all items are looked at before any item is read, so an item with a wrong key is told of even where
  an item before it asks for something that cannot be.

  Proved:
  - `firstFault_cons`: which item is the first at fault, item by item.
  - `checkFrom_ok_iff`, `checkFrom_error`: the keys of all items are in order, or the first item with
    wrong keys says what fails.
  - `normalizeFrom_error`: the first item that comes to no change says what fails.
  - `item_change`: the change of an item is for its column, and leaves alone what no item has a key for.
  - `batch_all_or_nothing`: so the database gets all items or none.
-/

import Intake.Proofs.Alteration.Calls
import Intake.Proofs.Alteration.Kept

namespace Intake.Alteration

open Database (Exchange Runs runs_pure)
open Json (Members)

variable {σ : Type}

/-! ## The first item at fault -/

/-- Some item, of those that begin with this number the first that is not good, fails with `e`. -/
def FirstFault (good : Json → Prop) (fault : Nat → Json → Invalid → Prop) (index : Nat) (items : List Json)
    (e : Invalid) : Prop :=
  ∃ before v after, items = before ++ v :: after ∧ (∀ w ∈ before, good w) ∧ fault (index + before.length) v e

section

variable {good : Json → Prop} {fault : Nat → Json → Invalid → Prop} {index : Nat} {e : Invalid}

theorem firstFault_cons {v : Json} {vs : List Json} :
    FirstFault good fault index (v :: vs) e ↔
      fault index v e ∨ good v ∧ FirstFault good fault (index + 1) vs e := by
  constructor
  · intro h
    obtain ⟨before, w, after, hitems, hbefore, hw⟩ := h
    cases before with
    | nil =>
      obtain ⟨rfl, rfl⟩ := List.cons.inj hitems
      exact .inl hw
    | cons b before =>
      obtain ⟨rfl, rfl⟩ := List.cons.inj hitems
      obtain ⟨hb, hbefore⟩ := List.forall_mem_cons.mp hbefore
      refine .inr ⟨hb, before, w, after, rfl, hbefore, ?_⟩
      rw [List.length_cons] at hw
      rwa [Nat.add_assoc, Nat.add_comm 1]
  · intro h
    rcases h with hv | ⟨hv, before, w, after, rfl, hbefore, hw⟩
    · exact ⟨[], v, vs, rfl, by simp, hv⟩
    · refine ⟨v :: before, w, after, rfl, List.forall_mem_cons.mpr ⟨hv, hbefore⟩, ?_⟩
      rw [List.length_cons]
      rwa [Nat.add_assoc, Nat.add_comm 1] at hw

theorem FirstFault.not_all {items : List Json} (h : FirstFault good fault index items e)
    (hfault : ∀ i v, fault i v e → ¬good v) : ¬∀ v ∈ items, good v := by
  intro hall
  obtain ⟨before, v, after, rfl, -, hv⟩ := h
  exact hfault _ v hv (hall v (by simp))

end

/-! ## Keys -/

/-- An object that says which column it means, and has no other keys than an item can have. -/
def IsItem (v : Json) : Prop :=
  ∃ ms : Members, v = .object ms ∧ ms.has "attnum" = true ∧
    ∀ m ∈ ms, m.1 ∈ ["attnum", "name", "type", "type_options", "delete"]

/-- What is wrong with the keys of the item of this number. -/
inductive KeyFault (index : Nat) : Json → Invalid → Prop
  | notObject (v : Json) (h : ∀ ms, v ≠ .object ms) : KeyFault index v (.itemNotObject index v)
  | withoutAttnum (ms : Members) (h : ms.has "attnum" = false) : KeyFault index (.object ms) .itemWithoutAttnum
  /-- The first key that no item can have. -/
  | unknownKey (before after : Members) (m : String × Json)
      (hattnum : Members.has (before ++ m :: after) "attnum" = true) (hbefore : ∀ b ∈ before, b.1 ∈ batchKeys)
      (hm : m.1 ∉ batchKeys) : KeyFault index (.object (before ++ m :: after)) (.unknownKey m.1)

section

variable {index : Nat} {v : Json} {e : Invalid}

theorem checkItem_notObject (h : ∀ ms, v ≠ .object ms) : checkItem index v = .error (.itemNotObject index v) := by
  cases v with
  | object ms => exact absurd rfl (h ms)
  | null => rfl
  | bool b => rfl
  | number n => rfl
  | string s => rfl
  | array items => rfl

theorem checkItem_fault (h : checkItem index v = .error e) : KeyFault index v e := by
  by_cases hobject : ∃ ms, v = .object ms
  · obtain ⟨ms, rfl⟩ := hobject
    rw [checkItem] at h
    by_cases hattnum : Members.has ms "attnum" = true
    · rw [if_neg (by simp [hattnum])] at h
      cases hfind : ms.find? fun m => !batchKeys.contains m.1 with
      | none =>
        rw [hfind] at h
        cases h
      | some m =>
        rw [hfind] at h
        cases h
        obtain ⟨hm, before, after, rfl, hbefore⟩ := List.find?_eq_some_iff_append.mp hfind
        refine .unknownKey before after m hattnum ?_ (by simpa using hm)
        intro b hb
        simpa using hbefore b hb
    · rw [if_pos (by simp [hattnum])] at h
      cases h
      exact .withoutAttnum ms (Bool.eq_false_iff.mpr hattnum)
  · have hnot : ∀ ms, v ≠ .object ms := fun ms hv => hobject ⟨ms, hv⟩
    rw [checkItem_notObject hnot] at h
    cases h
    exact .notObject v hnot

theorem KeyFault.not_item (h : KeyFault index v e) : ¬IsItem v := by
  intro hitem
  obtain ⟨ms, rfl, hattnum, hkeys⟩ := hitem
  cases h with
  | notObject v hnot => exact hnot ms rfl
  | withoutAttnum ms hwithout =>
    rw [hwithout] at hattnum
    cases hattnum
  | unknownKey before after m _ _ hm => exact hm (hkeys m (by simp))

theorem checkItem_ok_iff : checkItem index v = .ok () ↔ IsItem v := by
  constructor
  · intro h
    by_cases hobject : ∃ ms, v = .object ms
    · obtain ⟨ms, rfl⟩ := hobject
      rw [checkItem] at h
      split at h
      · cases h
      · rename_i hattnum
        split at h
        · cases h
        · rename_i hfind
          have hkeys : ∀ m ∈ ms, m.1 ∈ batchKeys := fun m hm => by
            simpa using List.find?_eq_none.mp hfind m hm
          exact ⟨ms, rfl, by simpa using hattnum, hkeys⟩
    · rw [checkItem_notObject fun ms hv => hobject ⟨ms, hv⟩] at h
      cases h
  · intro h
    cases hcheck : checkItem index v with
    | ok u => rfl
    | error e => exact absurd h (checkItem_fault hcheck).not_item

/-! ## All items -/

theorem checkFrom_ok_iff {items : List Json} : checkFrom index items = .ok () ↔ ∀ w ∈ items, IsItem w := by
  induction items generalizing index with
  | nil => simp [checkFrom]
  | cons w ws ih =>
    rw [checkFrom, bind_ok_iff, List.forall_mem_cons]
    constructor
    · intro h
      obtain ⟨⟨⟩, hw, hws⟩ := h
      exact ⟨checkItem_ok_iff.mp hw, ih.mp hws⟩
    · intro h
      exact ⟨(), checkItem_ok_iff.mpr h.1, ih.mpr h.2⟩

theorem checkFrom_error {items : List Json} (h : checkFrom index items = .error e) :
    FirstFault IsItem KeyFault index items e := by
  induction items generalizing index with
  | nil => cases h
  | cons w ws ih =>
    rw [checkFrom] at h
    rw [firstFault_cons]
    rcases bind_error_iff.mp h with hw | ⟨⟨⟩, hw, hws⟩
    · exact .inl (checkItem_fault hw)
    · exact .inr ⟨checkItem_ok_iff.mp hw, ih hws⟩

def Normalizes (v : Json) : Prop := ∃ c, normalize v none = .ok c

/-- The item of this number comes to no change; what fails is told with the number before it. -/
def ItemFault (index : Nat) (v : Json) (e : Invalid) : Prop :=
  ∃ e', normalize v none = .error e' ∧ e = .item index e' ∧ e.detail = "item " ++ toString index ++ ": " ++ e'.detail

theorem ItemFault.not_normalizes (h : ItemFault index v e) : ¬Normalizes v := by
  intro hv
  obtain ⟨e', he, -⟩ := h
  obtain ⟨c, hc⟩ := hv
  rw [hc] at he
  cases he

theorem normalizeFrom_error {items : List Json} (h : normalizeFrom index items = .error e) :
    FirstFault Normalizes ItemFault index items e := by
  induction items generalizing index with
  | nil => cases h
  | cons w ws ih =>
    rw [normalizeFrom] at h
    rw [firstFault_cons]
    rcases bind_error_iff.mp h with hfailed | ⟨c, hw, hrest⟩
    · obtain ⟨e', hw, rfl⟩ := mapError_error_iff.mp hfailed
      exact .inl ⟨e', hw, rfl, rfl⟩
    · rcases bind_error_iff.mp hrest with hws | ⟨cs, -, hpure⟩
      · exact .inr ⟨⟨c, mapError_ok_iff.mp hw⟩, ih hws⟩
      · cases hpure

end

/-! ## What an item comes to -/

section

variable {ms : Members} {fallback : Option Int} {c : Change}

theorem integerAt_none {key : String} (h : ms.get? key = none) : integerAt ms key = none := by
  simp [integerAt, h]

theorem integerAt_some {key : String} {n : Int} (h : integerAt ms key = some n) : ms.get? key = some (.int n) := by
  unfold integerAt at h
  split at h
  · rename_i m hget
    cases h
    exact hget
  · cases h

theorem payload_attnum (c : Change) : c.payload.get? "attnum" = some (.int c.attnum) := by
  simp [Change.payload, Json.get?, get?_withPatch, get?_withMember, Members.get?_insert]

theorem payload_notNull (c : Change) : c.payload.get? "not_null" = c.notNull.map .bool := by
  simp [Change.payload, Json.get?, get?_withPatch, get?_withMember, Members.get?_insert]

/-- A change whose request gives neither another number nor a nullability. -/
theorem normalize_bare (hid : ms.get? "id" = none) (hnullable : ms.get? "nullable" = none)
    (hc : normalize (.object ms) none = .ok c) : ms.get? "attnum" = some (.int c.attnum) ∧ c.notNull = none := by
  obtain ⟨ms', r, hms, hr, hn⟩ := normalize_ok_iff.mp hc
  cases hms
  obtain ⟨-, hexplicit⟩ := readInteger_ok_iff.mp hr.attnum
  obtain ⟨-, halternate⟩ := readInteger_ok_iff.mp hr.id
  obtain ⟨n, hresolved, hchange⟩ := bind_ok_iff.mp hn
  obtain ⟨hnumber, -⟩ := resolveAttnum_ok_iff.mp hresolved
  obtain rfl := pure_ok_iff.mp hchange
  constructor
  · rw [hexplicit, halternate, integerAt_none hid] at hnumber
    exact integerAt_some (by simpa using hnumber)
  · have hread := hr.nullable
    simp only [value, hnullable, Option.getD_none, readBoolean, Except.ok.injEq] at hread
    show r.nullable.map _ = none
    rw [← hread]
    rfl

/-- The change of an item is for the column that the item means, and leaves alone what no item has a
    key for. -/
theorem item_change {v : Json} (hv : IsItem v) (hc : normalize v none = .ok c) :
    v.get? "attnum" = some (.int c.attnum) ∧ c.notNull = none ∧ c.defaultValue = .unset ∧
      c.description = .unset := by
  obtain ⟨ms, rfl, -, hkeys⟩ := hv
  have hmissing : ∀ key, key ∉ batchKeys → ms.get? key = none := by
    intro key hkey
    refine Members.get?_eq_none fun m hm hname => hkey ?_
    rw [← hname]
    exact hkeys m hm
  have hwrapper : ms.get? (Shape.detect ms).wrapperKey = none := by
    refine hmissing _ ?_
    cases Shape.detect ms <;> decide
  obtain ⟨hattnum, hnotNull⟩ := normalize_bare (hmissing "id" (by decide)) (hmissing "nullable" (by decide)) hc
  obtain ⟨hdefault, hdescription⟩ := normalize_keeps (by rw [hwrapper]; trivial) hc
  refine ⟨hattnum, hnotNull, by rw [hdefault, hwrapper]; rfl, ?_⟩
  rw [hmissing "description" (by decide)] at hdescription
  cases hpatch : c.description with
  | unset => rfl
  | clear => simp [hpatch, Patch.member] at hdescription
  | set s => simp [hpatch, Patch.member] at hdescription

end

/-! ## The database gets all items or none -/

/-- What is sent for an item: it is for the column of the item, and says nothing of what no item has a key
    for. -/
structure SentFor (v payload : Json) : Prop where
  attnum : ∃ n : Int, v.get? "attnum" = some (.int n) ∧ payload.get? "attnum" = some (.int n)
  notNull : payload.get? "not_null" = none
  default : payload.get? "default" = none
  description : payload.get? "description" = none

theorem sentFor_change {v : Json} {c : Change} (hv : IsItem v) (hc : normalize v none = .ok c) :
    SentFor v c.payload := by
  obtain ⟨hattnum, hnotNull, hdefault, hdescription⟩ := item_change hv hc
  constructor
  · exact ⟨c.attnum, hattnum, payload_attnum c⟩
  · rw [payload_notNull, hnotNull]
    rfl
  · rw [payload_default, hdefault]
    rfl
  · rw [payload_description, hdescription]
    rfl

theorem sentFor_all {items : List Json} {cs : List Change} (hitems : ∀ v ∈ items, IsItem v)
    (hcs : Canonical items cs) : List.Forall₂ SentFor items (cs.map Change.payload) := by
  induction hcs with
  | nil => exact .nil
  | cons hc hcs ih =>
    obtain ⟨hv, hvs⟩ := List.forall_mem_cons.mp hitems
    exact .cons (sentFor_change hv hc) (ih hvs)

theorem Canonical.normalizes {items : List Json} {cs : List Change} (h : Canonical items cs) :
    ∀ v ∈ items, Normalizes v := by
  induction h with
  | nil => simp
  | cons hc _ ih => exact List.forall_mem_cons.mpr ⟨⟨_, hc⟩, ih⟩

theorem runs_refused {α β : Type} {x : Except Invalid β} {e : Invalid} (h : x = .error e) {f : β → Action σ α}
    {g : β → Action (Database.Traced σ) α} :
    Runs (check x >>= f).run (check x >>= g).run fun r log => r = .error (.invalid e) ∧ log = [] := by
  subst h
  refine Database.runs_settled ?_ nofun
  intro e' he
  cases he
  exact ⟨rfl, rfl⟩

/-- A batch reaches the database exactly if each of its items has the keys of an item and comes to a change
    by itself. Then the database gets, in one call, something for each item in the order of the items, for the
    column of the item and without what no item can ask for. Otherwise nothing is asked for: the first item
    with wrong keys says what fails, even if one before it comes to no change; if all keys are in order, the
    first item that comes to no change does, with its number. -/
theorem batch_all_or_nothing (db : Database σ) (table : Nat) (items : List Json) :
    Runs (updateColumns db table items).run (updateColumns db.traced table items).run fun r log =>
      (log ≠ [] ↔ ∀ v ∈ items, IsItem v ∧ Normalizes v) ∧
      ((∀ v ∈ items, IsItem v ∧ Normalizes v) → ∃ payloads answer,
        log = [.call "alter_columns" [.oid table, .jsonb (.array payloads)] answer] ∧
        List.Forall₂ SentFor items payloads) ∧
      ((∃ v ∈ items, ¬IsItem v) → ∃ e, r = .error (.invalid e) ∧ FirstFault IsItem KeyFault 0 items e) ∧
      ((∀ v ∈ items, IsItem v) → (∃ v ∈ items, ¬Normalizes v) →
        ∃ e, r = .error (.invalid e) ∧ FirstFault Normalizes ItemFault 0 items e) := by
  have hstart : ∀ {τ : Type} (db : Database τ), updateColumns db table items =
      check (checkBatch items >>= fun _ => normalizeAll items) >>= fun cs =>
        send db (.batch table cs) cs >>= fun _ => pure cs := by
    intro τ db
    rw [check_bind]
    rfl
  cases hx : (checkBatch items >>= fun _ => normalizeAll items) with
  | ok cs =>
    obtain ⟨⟨⟩, hkeys, hchanges⟩ := bind_ok_iff.mp hx
    have hitems : ∀ v ∈ items, IsItem v := checkFrom_ok_iff.mp hkeys
    have hcs : Canonical items cs := normalizeAll_ok_iff.mp hchanges
    have hall : ∀ v ∈ items, IsItem v ∧ Normalizes v := fun v hv => ⟨hitems v hv, hcs.normalizes v hv⟩
    refine (updateColumns_runs db table items).mono fun r log h => ?_
    obtain ⟨answer, looked, hlog, hanswer⟩ := h.carried cs ⟨hkeys, hcs⟩
    -- a batch means no single column, so no name is looked up
    have hlooked : looked = [] := by
      cases answer with
      | ok v => exact hanswer.2
      | error e => exact hanswer.2
    subst hlooked
    refine ⟨⟨fun _ => hall, fun _ => by simp [hlog]⟩, fun _ => ?_, ?_, ?_⟩
    · exact ⟨_, answer, hlog, sentFor_all hitems hcs⟩
    · intro h
      obtain ⟨v, hv, hnot⟩ := h
      exact absurd (hitems v hv) hnot
    · intro _ h
      obtain ⟨v, hv, hnot⟩ := h
      exact absurd (hcs.normalizes v hv) hnot
  | error e =>
    rw [hstart db, hstart db.traced]
    refine (runs_refused hx).mono fun r log h => ?_
    obtain ⟨rfl, rfl⟩ := h
    rcases bind_error_iff.mp hx with hkeys | ⟨⟨⟩, hkeys, hchanges⟩
    · have hfault := checkFrom_error hkeys
      have hnot := hfault.not_all fun _ _ => KeyFault.not_item
      refine ⟨iff_of_false (by simp) fun h => hnot fun v hv => (h v hv).1, fun h => ?_, fun _ => ?_, fun h => ?_⟩
      · exact absurd (fun v hv => (h v hv).1) hnot
      · exact ⟨e, rfl, hfault⟩
      · exact absurd h hnot
    · have hitems : ∀ v ∈ items, IsItem v := checkFrom_ok_iff.mp hkeys
      have hfault := normalizeFrom_error hchanges
      have hnot := hfault.not_all fun _ _ => ItemFault.not_normalizes
      refine ⟨iff_of_false (by simp) fun h => hnot fun v hv => (h v hv).2, fun h => ?_, fun h => ?_, fun _ _ => ?_⟩
      · exact absurd (fun v hv => (h v hv).2) hnot
      · obtain ⟨v, hv, hkey⟩ := h
        exact absurd (hitems v hv) hkey
      · exact ⟨e, rfl, hfault⟩

def willing : Database Unit where
  call := fun _ _ => pure (.ok none)
  createTable := fun t => pure (.ok ⟨1, t.schema, t.name⟩)
  copyIn := fun _ => pure (.ok ())
  write := fun _ => pure (.ok ())
  flush := pure (.ok ())
  finish := pure (.ok 0)

def batchRun (items : List Json) : Except Failure (List Change) × Database.Traced Unit :=
  (updateColumns willing.traced 7 items).run.run ⟨(), []⟩

/-- Two items, the second in the shape with a type of its own. -/
def twoItems : List Json :=
  [.object [("attnum", .int 3), ("name", .string "a")],
   .object [("attnum", .int 1), ("type", .object [("name", .string "text")])]]

/-- An item without a column that there is, and one with a key that no item has. -/
def strayKey : List Json := [.object [("attnum", .null)], .object [("attnum", .int 1), ("nullable", .bool true)]]

def noColumn : List Json := [.object [("attnum", .int 1)], .object [("attnum", .null)]]

theorem batch_of_items :
    (∃ payloads answer, (batchRun twoItems).2.log = [.call "alter_columns" [.oid 7, .jsonb (.array payloads)] answer] ∧
      List.Forall₂ SentFor twoItems payloads) ∧
    (∃ e, (batchRun strayKey).1 = .error (.invalid e) ∧ FirstFault IsItem KeyFault 0 strayKey e) ∧
    (batchRun strayKey).1 = .error (.invalid (.unknownKey "nullable")) ∧ (batchRun strayKey).2.log = [] ∧
    (∃ e, (batchRun noColumn).1 = .error (.invalid e) ∧ FirstFault Normalizes ItemFault 0 noColumn e) ∧
    (batchRun noColumn).1 = .error (.invalid (.item 1 .attnumMissing)) ∧ (batchRun noColumn).2.log = [] := by
  have hnothing : ¬Normalizes (.object [("attnum", .null)]) := by
    intro h
    obtain ⟨c, hc⟩ := h
    cases hc
  refine ⟨?_, ?_, rfl, rfl, ?_, rfl, rfl⟩
  · obtain ⟨log, hrun, -, hsent, -⟩ := batch_all_or_nothing willing 7 twoItems () []
    rw [List.nil_append] at hrun
    rw [batchRun, hrun]
    refine hsent ?_
    simp only [twoItems, List.forall_mem_cons, List.not_mem_nil, false_implies, implies_true, and_true]
    exact ⟨⟨⟨_, rfl, rfl, by decide⟩, _, rfl⟩, ⟨_, rfl, rfl, by decide⟩, _, rfl⟩
  · obtain ⟨log, hrun, -, -, hkeys, -⟩ := batch_all_or_nothing willing 7 strayKey () []
    rw [batchRun, hrun]
    have hfault : KeyFault 1 (.object [("attnum", .int 1), ("nullable", .bool true)]) (.unknownKey "nullable") :=
      .unknownKey [("attnum", .int 1)] [] ("nullable", .bool true) rfl (by decide) (by decide)
    exact hkeys ⟨_, List.mem_cons_of_mem _ List.mem_cons_self, hfault.not_item⟩
  · obtain ⟨log, hrun, -, -, -, hchanges⟩ := batch_all_or_nothing willing 7 noColumn () []
    rw [batchRun, hrun]
    refine hchanges ?_ ⟨_, List.mem_cons_of_mem _ List.mem_cons_self, hnothing⟩
    simp only [noColumn, List.forall_mem_cons, List.not_mem_nil, false_implies, implies_true, and_true]
    exact ⟨⟨_, rfl, rfl, by decide⟩, _, rfl, rfl, by decide⟩

end Intake.Alteration
