import Mathlib.Data.List.Nodup
import Attest.Assert
import Attest.Proofs.Passing
import Attest.Proofs.Relocation

/-!
# Tables by Their Cells

A table is checked row by row, and described column by column.

A run makes a record of each row and holds the record against the schema. Whoever writes a
schema for a table thinks of columns: of what the cells below a label have to satisfy.
`Frame.cell` is that view. It looks a label up among the columns and takes one cell out of
the column, and where there is no column, or nothing in the cell, it gives the value that
does not exist. No record is mentioned.

The library that the table belongs to is any one. What counts as missing is what it says, and of its
rows it is assumed that they have the cells of the columns in their order (`IsFaithful`). The one
that is used is an instance (`standard_isFaithful`).

`assertFrame_by_cells` says that the two views agree: a table passes if it has an admitted
number of rows and every cell satisfies the entry of the schema for its label, and of several
cells that do not, the report is about the first one in the order of rows, and within a row in
the order of the schema. As only cells matter, columns may be exchanged, and those that say
nothing may come and go.

All of this needs every cell to be looked at. Whether a cell is missing is found out by a
comparison, and a decimal that refuses to be compared ends the run before there are records,
even in a column that no entry names.

## Main definitions

* `TableLibrary.isGap`: A value is a scalar that counts as missing.
* `Column.cell`, `Frame.cell`: A cell, by row and label.
* `Frame.IsRegular`: Columns of one length under different texts.
* `TableLibrary.IsFaithful`: The rows of a regular table are made of its cells.
* `Frame.IsReadable`: No cell refuses to be looked at.
* `Frame.cellChecks`: The checks of the cells of a row.

## Theorems

* `ofList_of_distinct`: Entries with different keys are kept as they are.
* `records_eq`: The records of a readable table.
* `get_rowEntries`: A field of the record of a row is a cell.
* `assertFrame_eq`: A table is checked by the checks of its cells, in order.
* `assertFrame_congr`: Only the number of rows and the cells that are named matter.
* `assertFrame_by_cells`: The verdict on a table, and its report, by cells.
* `unreadable_refused`: A cell that refuses to be looked at.
-/

namespace Attest

section Except

variable {α β : Type} {f : α → Except Fault β} {xs : List α}

theorem mapM_ok_of_forall {g : α → β} (h : ∀ x ∈ xs, f x = .ok (g x)) :
    xs.mapM f = .ok (xs.map g) := by
  induction xs with
  | nil => rfl
  | cons x xs ih =>
      rcases List.forall_mem_cons.mp h with ⟨hx, hxs⟩
      rw [List.mapM_cons, hx, ih hxs]
      rfl

theorem ok_of_mapM_ok {ys : List β} (h : xs.mapM f = .ok ys) : ∀ x ∈ xs, ∃ y, f x = .ok y := by
  induction xs generalizing ys with
  | nil => exact fun x hmem => absurd hmem List.not_mem_nil
  | cons x xs ih =>
      rw [List.mapM_cons] at h
      rcases except_bind_ok_iff.mp h with ⟨y, hy, hrest⟩
      rcases except_bind_ok_iff.mp hrest with ⟨_, hys, _⟩
      exact List.forall_mem_cons.mpr ⟨⟨y, hy⟩, ih hys⟩

end Except

namespace TableLibrary

/-- Whether a value is a scalar that counts as missing. -/
def isGap (library : TableLibrary) (v : Value) : Bool :=
  library.isScalar v && (library.isMissing v).toOption = some true

/-- The library says of a value whether it counts as missing, if the value is a scalar. -/
def Answers (library : TableLibrary) (v : Value) : Prop :=
  library.isScalar v = true → ∃ missing, library.isMissing v = .ok missing

theorem seen_of_answers {library : TableLibrary} {v : Value} (h : library.Answers v) :
    library.seen v = .ok (if library.isGap v then .undefined else v) := by
  by_cases hscalar : library.isScalar v = true
  · rcases h hscalar with ⟨missing, hmissing⟩
    cases missing <;> simp [seen, isGap, hscalar, hmissing, Except.toOption, bind, Except.bind] <;>
      rfl
  · simp only [seen, isGap, hscalar, Bool.false_eq_true, if_false, Bool.false_and]
    rfl

theorem answers_of_seen {library : TableLibrary} {v w : Value} (h : library.seen v = .ok w) :
    library.Answers v := by
  intro hscalar
  rcases hmissing : library.isMissing v with fault | missing
  · simp only [seen, hscalar, if_true, hmissing] at h
    exact absurd h (by simp only [bind, Except.bind, reduceCtorEq, not_false_eq_true])
  · exact ⟨missing, rfl⟩

end TableLibrary

/-- A cell of a column. A scalar that counts as missing is the value that does not exist. -/
def Column.cell (library : TableLibrary) (column : Column) (row : Nat) : Value :=
  if library.isGap (column.cells.native library.marker row) then .undefined
  else column.cells.native library.marker row

namespace Frame

/-- A cell of a table, by its row and the label of its column. Below a label that the table does
    not have, there is nothing. -/
def cell (library : TableLibrary) (f : Frame) (row : Nat) (key : Value) : Value :=
  match f.columns.find? fun column => column.label.isSameKey key with
  | none => .undefined
  | some column => column.cell library row

/-- A table is regular: it has columns, all of one length, under texts that differ from each
    other. -/
structure IsRegular (f : Frame) : Prop where
  /-- There is a column. -/
  hasColumns : f.columns ≠ []
  /-- The labels are texts. -/
  labelled : ∀ column ∈ f.columns, ∃ s, column.label = .text s
  /-- No label occurs twice. -/
  distinct : (f.columns.map Column.label).Nodup
  /-- All columns have a cell in each row. -/
  even : ∀ column ∈ f.columns, column.cells.length = f.height

/-- No cell of a table refuses to be looked at. -/
def IsReadable (library : TableLibrary) (f : Frame) : Prop :=
  ∀ column ∈ f.columns, ∀ row < f.height,
    library.Answers (column.cells.native library.marker row)

end Frame

/-- What is assumed of a library: the rows of a regular table have the values of its columns below
    their labels, in the order of the columns. -/
structure TableLibrary.IsFaithful (library : TableLibrary) : Prop where
  /-- The rows of a regular table. -/
  rows_eq : ∀ f : Frame, f.IsRegular →
    library.rows f = (List.range f.height).map (f.nativeRow library.marker)

namespace Entries

variable {α : Type}

/-- A key that is not present is written behind all others. -/
theorem insert_of_absent {key : Value} {entries : List (Value × α)}
    (h : ∀ entry ∈ entries, entry.1.isSameKey key = false) (value : α) :
    insert key value entries = entries ++ [(key, value)] := by
  induction entries with
  | nil => rfl
  | cons entry entries ih =>
      rcases List.forall_mem_cons.mp h with ⟨hentry, hentries⟩
      rw [insert, if_neg (Bool.eq_false_iff.mp hentry), ih hentries, List.cons_append]

/-- Entries of which no two have the same key are kept as they are. -/
theorem ofList_of_distinct {entries : List (Value × α)}
    (h : entries.Pairwise fun a b => a.1.isSameKey b.1 = false) : ofList entries = entries := by
  -- What has been written so far stays in front of what is still to be written.
  have hfold : ∀ rest written : List (Value × α),
      (written ++ rest).Pairwise (fun a b => a.1.isSameKey b.1 = false) →
        rest.foldl (fun written entry => insert entry.1 entry.2 written) written =
          written ++ rest := by
    intro rest
    induction rest with
    | nil => intro written _; exact (List.append_nil written).symm
    | cons entry rest ih =>
        intro written hall
        rcases entry with ⟨key, value⟩
        have habsent : ∀ earlier ∈ written, earlier.1.isSameKey key = false :=
          fun earlier hmem => (List.pairwise_append.mp hall).2.2 earlier hmem (key, value)
            List.mem_cons_self
        have hstep := ih (written ++ [(key, value)]) (by rwa [List.append_assoc])
        simp only [List.foldl_cons, insert_of_absent habsent, hstep, List.append_assoc,
          List.singleton_append]
  exact hfold entries [] h

end Entries

namespace Frame

variable {f : Frame}

theorem IsRegular.labels_differ (hf : f.IsRegular) :
    f.columns.Pairwise fun a b => a.label.isSameKey b.label = false := by
  have hne : f.columns.Pairwise fun a b => a.label ≠ b.label := List.pairwise_map.mp hf.distinct
  refine List.Pairwise.imp_of_mem (fun {a b} ha hb hab => ?_) hne
  rcases hf.labelled a ha with ⟨s, hs⟩
  rcases hf.labelled b hb with ⟨t, ht⟩
  rw [hs, ht] at hab ⊢
  simp only [Value.isSameKey, decide_eq_false_iff_not]
  exact fun hst => hab (congrArg Value.text hst)

theorem nativeRow_distinct (hf : f.IsRegular) (marker : Value) (row : Nat) :
    (f.nativeRow marker row).Pairwise fun a b => a.1.isSameKey b.1 = false :=
  List.pairwise_map.mpr hf.labels_differ

/-- The entries of a row: every label with the cell below it. -/
def rowEntries (library : TableLibrary) (f : Frame) (row : Nat) : List (Value × Value) :=
  f.columns.map fun column => (column.label, column.cell library row)

/-- A row, as a record. -/
def row (library : TableLibrary) (f : Frame) (i : Nat) : Value :=
  .dict (.row i) (f.rowEntries library i)

/-- The rows of a table, as records. -/
def rows (library : TableLibrary) (f : Frame) : List Value :=
  (List.range f.height).map (f.row library)

/-- A field of the record of a row is the cell below the label. -/
theorem get_rowEntries (library : TableLibrary) (f : Frame) (row : Nat) (key : Value) :
    Entries.get (f.rowEntries library row) key = f.cell library row key := by
  unfold Entries.get Entries.find? cell rowEntries
  rw [List.find?_map]
  have hcomp : ((fun entry : Value × Value => entry.1.isSameKey key) ∘
      fun column : Column => (column.label, column.cell library row)) =
        fun column => column.label.isSameKey key := rfl
  rw [hcomp]
  generalize f.columns.find? (fun column => column.label.isSameKey key) = found
  cases found <;> rfl

end Frame

namespace TableLibrary

variable {library : TableLibrary} {f : Frame}

/-- The library that is used makes its rows of the cells. -/
theorem standard_isFaithful : standard.IsFaithful where
  rows_eq _ hf := List.map_congr_left fun row _ =>
    Entries.ofList_of_distinct (Frame.nativeRow_distinct hf standard.marker row)

/-- The record of a row of which every cell can be looked at. -/
theorem record_eq (hf : f.IsRegular) {row : Nat} (hrow : row < f.height)
    (hread : f.IsReadable library) :
    library.record row (f.nativeRow library.marker row) = .ok (f.row library row) := by
  have hentries : (f.nativeRow library.marker row).mapM (fun cell => library.entry cell.1 cell.2) =
      .ok (f.rowEntries library row) := by
    unfold Frame.nativeRow Frame.rowEntries
    rw [List.mapM_map]
    refine mapM_ok_of_forall fun column hmem => ?_
    simp only [Function.comp_apply, entry, seen_of_answers (hread column hmem row hrow)]
    rfl
  have hdistinct : Entries.ofList (f.rowEntries library row) = f.rowEntries library row :=
    Entries.ofList_of_distinct (List.pairwise_map.mpr hf.labels_differ)
  rw [record, hentries, Frame.row]
  exact congrArg (fun entries => Except.ok (Value.dict (.row row) entries)) hdistinct

/-- Records are made row by row. -/
theorem recordsFrom_range' {cells : Nat → List (Value × Value)} {record : Nat → Value}
    (n index : Nat)
    (h : ∀ row, index ≤ row → row < index + n → library.record row (cells row) = .ok (record row)) :
    library.recordsFrom index ((List.range' index n).map cells) =
      .ok ((List.range' index n).map record) := by
  induction n generalizing index with
  | zero => rfl
  | succ n ih =>
      have hrest := ih (index + 1) fun row hle hlt => h row (by omega) (by omega)
      rw [List.range'_succ, List.map_cons, recordsFrom, h index (Nat.le_refl index) (by omega),
        hrest]
      rfl

/-- The records of a regular table of which every cell can be looked at. -/
theorem records_eq (hlibrary : library.IsFaithful) (hf : f.IsRegular)
    (hread : f.IsReadable library) : library.records f = .ok (f.rows library) := by
  unfold records Frame.rows
  rw [hlibrary.rows_eq f hf, List.range_eq_range']
  exact recordsFrom_range' f.height 0 fun row _ hrow => record_eq hf (by omega) hread

/-- Where there are records, every cell of every row has been looked at. -/
theorem answers_of_recordsFrom {rows : List (List (Value × Value))} {index : Nat}
    {records : List Value} (h : library.recordsFrom index rows = .ok records) :
    ∀ cells ∈ rows, ∀ cell ∈ cells, library.Answers cell.2 := by
  induction rows generalizing index records with
  | nil => exact fun cells hmem => absurd hmem List.not_mem_nil
  | cons cells rows ih =>
      rcases except_bind_ok_iff.mp h with ⟨record, hrecord, hrest⟩
      rcases except_bind_ok_iff.mp hrest with ⟨_, hrest, _⟩
      rcases except_bind_ok_iff.mp hrecord with ⟨entries, hentries, _⟩
      refine List.forall_mem_cons.mpr ⟨fun cell hmem => ?_, ih hrest⟩
      rcases ok_of_mapM_ok hentries cell hmem with ⟨entry, hentry⟩
      rcases except_bind_ok_iff.mp hentry with ⟨w, hseen, _⟩
      exact answers_of_seen hseen

end TableLibrary

namespace Assertion

/-- Fields without a cross-field entry are checked one after another. -/
theorem runFields_eq_inOrder {fields : List (Value × Assertion)}
    (h : ∀ field ∈ fields, isCrossField field.1 = .ok false) (entries : List (Value × Value))
    (c : Context) :
    runFields fields entries c = Check.inOrder (fields.map fun field =>
      field.2.run .part (Entries.get entries field.1) (.field c field.1)) := by
  induction fields with
  | nil => rfl
  | cons field fields ih =>
      rcases field with ⟨key, a⟩
      rcases List.forall_mem_cons.mp h with ⟨hkey, hfields⟩
      simp only [runFields, hkey, Check.ofExcept_ok, pure_bind, Bool.false_eq_true, if_false,
        ih hfields]
      rfl

/-- Elements that are numbered in order are checked one after another. -/
theorem runElements_range' (check : Value → Context → Check Unit) (c : Context) (f : Nat → Value)
    (n index : Nat) :
    runElements check c index ((List.range' index n).map f) =
      Check.inOrder ((List.range' index n).map fun i => check (f i) (.element c i)) := by
  induction n generalizing index with
  | zero => rfl
  | succ n ih =>
      rw [List.range'_succ]
      simp only [List.map_cons, runElements, ih, Check.inOrder]

section

variable {rules : ArrayRules} {v : Value} {items : List Value} (hv : v.array? = some items)
  {c : Context} {factory : ErrorFactory}

include hv

variable (hidentity : rules.identity = none)

include hidentity

theorem arrayItems_of_judge (h : rules.bounds.judge items.length = .ok none) :
    arrayItems rules v c = pure items := by
  unfold arrayItems
  simp only [hv, h, hidentity, Check.ofExcept_ok, pure_bind]

theorem arrayItems_passes_iff {rest : Check Unit} :
    ((arrayItems rules v c >>= fun _ => rest) factory).result = .ok () ↔
      rules.bounds.judge items.length = .ok none ∧ (rest factory).result = .ok () := by
  simp only [Check.bind_ok_iff, arrayItems_ok_iff, hv, hidentity, Option.some.injEq, reduceCtorEq,
    false_implies, implies_true, and_true]
  exact ⟨fun ⟨_, ⟨hitems, hjudge⟩, h⟩ => ⟨hitems ▸ hjudge, h⟩, fun h => ⟨items, ⟨rfl, h.1⟩, h.2⟩⟩

/-- Without an identity only the number of items is looked at. -/
theorem arrayItems_congr {w : Value} {others : List Value} (hw : w.array? = some others)
    (hlength : items.length = others.length) (rest : Check Unit) :
    (arrayItems rules v c >>= fun _ => rest) = (arrayItems rules w c >>= fun _ => rest) := by
  unfold arrayItems
  simp only [hv, hw, hidentity, hlength, bind_assoc]
  congr 1
  funext broken
  rcases broken with _ | _ | _
  · simp only [pure_bind]
  · simp only [Context.failUnder_bind]
  · simp only [Context.failUnder_bind]

end

end Assertion

namespace Frame

/-- The checks of the cells of a row, in the order of the schema. -/
def cellChecks (library : TableLibrary) (f : Frame) (fields : List (Value × Assertion))
    (c : Context) (row : Nat) : List (Check Unit) :=
  fields.map fun field =>
    field.2.run .part (f.cell library row field.1) (.field (.element c row) field.1)

variable {library : TableLibrary} {f : Frame} {form : SchemaForm}
  {fields : List (Value × Assertion)} {rules : ArrayRules}

theorem length_rows (library : TableLibrary) (f : Frame) : (f.rows library).length = f.height := by
  unfold rows
  rw [List.length_map, List.length_range]

/-- The record of a row is checked by the checks of its cells. -/
theorem run_row (hfields : ∀ field ∈ fields, Assertion.isCrossField field.1 = .ok false)
    (row : Nat) (c : Context) :
    (Assertion.schema form fields).run .part (f.row library row) (.element c row) =
      Check.inOrder (f.cellChecks library fields c row) := by
  have hentries : Assertion.objectEntries (f.row library row) (.element c row) =
      pure (f.rowEntries library row) := rfl
  have harray : (f.row library row).isArray = false := rfl
  simp only [Assertion.run, harray, Bool.false_eq_true, if_false, hentries, pure_bind,
    Assertion.runCrossField_of_absent hfields, bind_pure_unit,
    Assertion.runFields_eq_inOrder hfields, get_rowEntries]
  rfl

/-- A table is checked by its number of rows, and then by the checks of its cells. -/
theorem assertFrame_eq (hlibrary : library.IsFaithful) (hf : f.IsRegular)
    (hread : f.IsReadable library)
    (hfields : ∀ field ∈ fields, Assertion.isCrossField field.1 = .ok false) (c : Context) :
    assertFrame library (.schema form fields) rules (.frame f) c =
      (Assertion.arrayItems rules (.list .converted (f.rows library)) c >>= fun _ =>
        Check.inOrder ((List.range f.height).map fun row =>
          Check.inOrder (f.cellChecks library fields c row))) := by
  have helements : Assertion.runElements ((Assertion.schema form fields).run .part) c 0
      (f.rows library) =
      Check.inOrder ((List.range f.height).map fun row =>
        Check.inOrder (f.cellChecks library fields c row)) := by
    unfold rows
    rw [List.range_eq_range', Assertion.runElements_range']
    simp only [run_row hfields]
  unfold assertFrame Tabular.run
  simp only [TableLibrary.records_eq hlibrary hf hread, Check.ofExcept_ok, pure_bind,
    Assertion.run_array]
  rw [Assertion.arrayItems_bind rules rfl, helements]

/-- Of two tables with the same number of rows and the same cells below the labels that a schema
    names, one is checked like the other. -/
theorem assertFrame_congr {g : Frame} (hlibrary : library.IsFaithful) (hf : f.IsRegular)
    (hread : f.IsReadable library) (hg : g.IsRegular) (hreadg : g.IsReadable library)
    (hfields : ∀ field ∈ fields, Assertion.isCrossField field.1 = .ok false)
    (hidentity : rules.identity = none) (hheight : g.height = f.height)
    (hcells : ∀ field ∈ fields, ∀ row < f.height,
      g.cell library row field.1 = f.cell library row field.1) (c : Context) :
    assertFrame library (.schema form fields) rules (.frame g) c =
      assertFrame library (.schema form fields) rules (.frame f) c := by
  have hchecks :
      ((List.range f.height).map fun row => Check.inOrder (g.cellChecks library fields c row)) =
        (List.range f.height).map fun row => Check.inOrder (f.cellChecks library fields c row) := by
    refine List.map_congr_left fun row hrow => congrArg Check.inOrder ?_
    refine List.map_congr_left fun field hfield => ?_
    rw [hcells field hfield row (List.mem_range.mp hrow)]
  rw [assertFrame_eq hlibrary hf hread hfields, assertFrame_eq hlibrary hg hreadg hfields, hheight,
    hchecks]
  refine Assertion.arrayItems_congr rfl hidentity rfl ?_ _
  rw [length_rows, length_rows, hheight]

/-- The cell below a label is that of the one column that has the label. -/
theorem cell_of_mem (hf : f.IsRegular) {column : Column} (hmem : column ∈ f.columns) {key : Value}
    (hkey : column.label.isSameKey key = true) (row : Nat) :
    f.cell library row key = column.cell library row := by
  have hlabel : ∀ other ∈ f.columns, other.label.isSameKey key = true → other.label = key := by
    intro other hother hsame
    rcases hf.labelled other hother with ⟨s, hs⟩
    rw [hs] at hsame ⊢
    exact Value.eq_of_text_isSameKey hsame
  unfold cell
  rcases hfound : f.columns.find? (fun column => column.label.isSameKey key) with _ | other
  · exact absurd hkey (List.find?_eq_none.mp hfound column hmem)
  · have hother := List.mem_of_find?_eq_some hfound
    have hsame : other.label = column.label :=
      (hlabel other hother (by simpa only using List.find?_some hfound)).trans
        (hlabel column hmem hkey).symm
    rw [hfound, List.inj_on_of_nodup_map hf.distinct hother hmem hsame]

theorem cell_of_absent {key : Value}
    (h : ∀ column ∈ f.columns, column.label.isSameKey key = false) (row : Nat) :
    f.cell library row key = .undefined := by
  have hnone : f.columns.find? (fun column => column.label.isSameKey key) = none :=
    List.find?_eq_none.mpr fun column hmem => Bool.eq_false_iff.mp (h column hmem)
  unfold cell
  rw [hnone]

/-- A column that is lost makes no difference to a cell that it does not hold, or that it holds
    nothing in. -/
theorem cell_eq_of_subset {g : Frame} (hf : f.IsRegular) (hg : g.IsRegular)
    (hsub : ∀ column ∈ g.columns, column ∈ f.columns) {key : Value} {row : Nat}
    (hlost : ∀ column ∈ f.columns, column ∉ g.columns → column.label.isSameKey key = true →
      column.cell library row = .undefined) : g.cell library row key = f.cell library row key := by
  by_cases hkept : ∃ column ∈ g.columns, column.label.isSameKey key = true
  · rcases hkept with ⟨column, hmem, hkey⟩
    rw [cell_of_mem hg hmem hkey, cell_of_mem hf (hsub column hmem) hkey]
  · have hg : ∀ column ∈ g.columns, column.label.isSameKey key = false := fun column hmem =>
      Bool.eq_false_iff.mpr fun hkey => hkept ⟨column, hmem, hkey⟩
    rw [cell_of_absent hg]
    by_cases hlabel : ∃ column ∈ f.columns, column.label.isSameKey key = true
    · rcases hlabel with ⟨column, hmem, hkey⟩
      rw [cell_of_mem hf hmem hkey]
      refine (hlost column hmem (fun hmemg => ?_) hkey).symm
      exact hkept ⟨column, hmemg, hkey⟩
    · rw [cell_of_absent fun column hmem => Bool.eq_false_iff.mpr fun hkey =>
        hlabel ⟨column, hmem, hkey⟩]

/-- Some of the columns of a regular table make a regular table of the same height. -/
theorem IsRegular.of_subset {g : Frame} (hf : f.IsRegular)
    (hsub : ∀ column ∈ g.columns, column ∈ f.columns) (hne : g.columns ≠ [])
    (hdistinct : (g.columns.map Column.label).Nodup) : g.IsRegular ∧ g.height = f.height := by
  have hheight : g.height = f.height := by
    rcases g with ⟨_ | ⟨column, columns⟩⟩
    · exact absurd rfl hne
    · exact hf.even column (hsub column List.mem_cons_self)
  refine ⟨⟨hne, fun column hmem => hf.labelled column (hsub column hmem), hdistinct,
    fun column hmem => ?_⟩, hheight⟩
  rw [hf.even column (hsub column hmem), hheight]

/-- A table and one with some of its columns are checked alike, if the other columns are not
    named by the schema or hold nothing. -/
theorem assertFrame_of_subset {g : Frame} (hlibrary : library.IsFaithful) (hf : f.IsRegular)
    (hread : f.IsReadable library)
    (hfields : ∀ field ∈ fields, Assertion.isCrossField field.1 = .ok false)
    (hidentity : rules.identity = none) (hsub : ∀ column ∈ g.columns, column ∈ f.columns)
    (hne : g.columns ≠ []) (hdistinct : (g.columns.map Column.label).Nodup)
    (hlost : ∀ column ∈ f.columns, column ∉ g.columns →
      (∀ field ∈ fields, column.label.isSameKey field.1 = false) ∨
        ∀ row < f.height, column.cell library row = .undefined) (c : Context) :
    assertFrame library (.schema form fields) rules (.frame g) c =
      assertFrame library (.schema form fields) rules (.frame f) c := by
  rcases hf.of_subset hsub hne hdistinct with ⟨hg, hheight⟩
  have hreadg : g.IsReadable library := fun column hmem row hrow =>
    hread column (hsub column hmem) row (hheight ▸ hrow)
  refine assertFrame_congr hlibrary hf hread hg hreadg hfields hidentity hheight
    (fun field hfield row hrow => ?_) c
  refine cell_eq_of_subset hf hg hsub fun column hmem hout hkey => ?_
  rcases hlost column hmem hout with hunnamed | hmissing
  · rw [hunnamed field hfield] at hkey
    exact absurd hkey Bool.false_ne_true
  · exact hmissing row hrow

/-- If the number of rows is as it should be, the first failing check of a cell is what the run
    raises. -/
theorem assertFrame_raises (hlibrary : library.IsFaithful) (hf : f.IsRegular)
    (hread : f.IsReadable library)
    (hfields : ∀ field ∈ fields, Assertion.isCrossField field.1 = .ok false)
    (hidentity : rules.identity = none) (hjudge : rules.bounds.judge f.height = .ok none)
    {c : Context} {factory : ErrorFactory} {row k : Nat} {field : Value × Assertion}
    (hrow : row < f.height) (hk : fields[k]? = some field) {raised : Raised}
    (hraised : (field.2.run .part (f.cell library row field.1) (.field (.element c row) field.1)
      factory).result = .error raised)
    (hbefore : ∀ (i j : Nat) (other : Value × Assertion), i < row ∨ i = row ∧ j < k →
      fields[j]? = some other → (other.2.run .part (f.cell library i other.1)
        (.field (.element c i) other.1) factory).result = .ok ()) :
    (assertFrame library (.schema form fields) rules (.frame f) c factory).result =
      .error raised := by
  have hchecks : ∀ (i j : Nat) (x : Check Unit), (f.cellChecks library fields c i)[j]? = some x →
      ∃ other, fields[j]? = some other ∧
        other.2.run .part (f.cell library i other.1) (.field (.element c i) other.1) = x := by
    intro i j x hx
    rw [cellChecks, List.getElem?_map] at hx
    exact Option.map_eq_some_iff.mp hx
  rw [assertFrame_eq hlibrary hf hread hfields, Assertion.arrayItems_of_judge rfl hidentity
    (by rwa [length_rows]), pure_bind]
  refine Check.inOrder_raises (k := row) (x := .inOrder (f.cellChecks library fields c row)) ?_ ?_
    fun i hi y hy => ?_
  · rw [List.getElem?_map, List.getElem?_range hrow]
    rfl
  · -- Within the row, all fields in front have passed.
    refine Check.inOrder_raises (k := k) ?_ hraised fun j hj x hx => ?_
    · rw [cellChecks, List.getElem?_map, hk]
      rfl
    · rcases hchecks row j x hx with ⟨other, hother, rfl⟩
      exact hbefore row j other (Or.inr ⟨rfl, hj⟩) hother
  · -- All rows in front have passed as a whole.
    rw [List.getElem?_map, List.getElem?_range (Nat.lt_trans hi hrow), Option.map_some,
      Option.some.injEq] at hy
    rw [← hy, Check.inOrder_passes_iff]
    intro x hx
    rcases List.mem_iff_getElem?.mp hx with ⟨j, hj⟩
    rcases hchecks i j x hj with ⟨other, hother, rfl⟩
    exact hbefore i j other (Or.inl hi) hother

/-- The place of a cell: the text of the start, the index of the row and the label. -/
def cellPlace (start : String) (row : Nat) (label : Value) : Provider :=
  .ofText do return start ++ "[" ++ Value.natural row ++ "]" ++ "." ++ (← label.plain)

/-- The place that a run has come to at a cell is like a start with the text of the place. -/
theorem alike_cellPlace (start : String) (row : Nat) (label : Value) :
    (Context.field (.element (.root (some (.text start))) row) label).text =
        (Context.root (some (cellPlace start row label))).text ∧
      (Context.field (.element (.root (some (.text start))) row) label).evaluate =
        (Context.root (some (cellPlace start row label))).evaluate := by
  have hplace : cellPlace start row label =
      .ofText do return start ++ (← pathText [.element row, .field label]) := by
    unfold cellPlace
    refine congrArg Provider.ofText ?_
    rcases hlabel : label.plain with fault | s
    · simp only [pathText, Step.text, hlabel]
      rfl
    · simp only [pathText, Step.text, hlabel, bind, Except.bind, pure, Except.pure,
        String.append_assoc, String.append_empty]
  rw [hplace]
  exact Context.alike_ofText start [.element row, .field label]

/-- A table of which every cell can be looked at is checked as its cells say, in every library whose
    rows are made of the cells. It passes if and only if its number of rows is between the bounds
    and every cell satisfies the entry of the schema for its label. If only cells do not, the report
    is that of the first one, in the order of rows and within a row in that of the schema, checked
    alone at a place whose text is that of the start and of the steps to the cell. Hence it makes no
    difference in which order the columns stand, nor whether there is a column that no entry names
    or that holds nothing. -/
theorem assertFrame_by_cells (hlibrary : library.IsFaithful) (hf : f.IsRegular)
    (hread : f.IsReadable library)
    (hfields : ∀ field ∈ fields, Assertion.isCrossField field.1 = .ok false)
    (hintrinsic : ∀ field ∈ fields, field.2.Everywhere Assertion.IsIntrinsic)
    (hidentity : rules.identity = none) (hbounds : rules.bounds.IsReal) (start : String)
    (factory : ErrorFactory) :
    ((assertFrame library (.schema form fields) rules (.frame f) (.root (some (.text start)))
          factory).result = .ok () ↔
        rules.bounds.Spans f.height ∧ ∀ field ∈ fields, ∀ row < f.height,
          field.2.Satisfies factory (f.cell library row field.1)) ∧
      (∀ (row k : Nat) (field : Value × Assertion), rules.bounds.Spans f.height → row < f.height →
        fields[k]? = some field → ¬ field.2.Satisfies factory (f.cell library row field.1) →
        (∀ (i j : Nat) (other : Value × Assertion), i < row ∨ i = row ∧ j < k →
          fields[j]? = some other → other.2.Satisfies factory (f.cell library i other.1)) →
        ∃ raised, (assertFrame library (.schema form fields) rules (.frame f)
              (.root (some (.text start))) factory).result = .error raised ∧
            (field.2.run .part (f.cell library row field.1)
              (.root (some (cellPlace start row field.1))) factory).result = .error raised) ∧
      (∀ g : Frame, g.columns.Perm f.columns → ∀ c,
        assertFrame library (.schema form fields) rules (.frame g) c =
          assertFrame library (.schema form fields) rules (.frame f) c) ∧
      ∀ front column back, f.columns = front ++ column :: back → front ++ back ≠ [] →
        ((∀ field ∈ fields, column.label.isSameKey field.1 = false) ∨
          ∀ row < f.height, column.cell library row = .undefined) → ∀ c,
        assertFrame library (.schema form fields) rules (.frame ⟨front ++ back⟩) c =
          assertFrame library (.schema form fields) rules (.frame f) c := by
  have hlength : (Value.list .converted (f.rows library)).array? = some (f.rows library) := rfl
  have hcell : ∀ field ∈ fields, ∀ row c, field.2.Satisfies factory (f.cell library row field.1) ↔
      (field.2.run .part (f.cell library row field.1) c factory).result = .ok () :=
    fun field hmem row c => Assertion.satisfies_iff (hintrinsic field hmem) _ factory c
  refine ⟨?_, ?_, fun g hperm c => ?_, fun front column back hcolumns hne hlost c => ?_⟩
  · rw [assertFrame_eq hlibrary hf hread hfields, Assertion.arrayItems_passes_iff hlength hidentity,
      length_rows, Bounds.judge_real hbounds, Check.inOrder_passes_iff]
    refine and_congr_right fun _ => ?_
    simp only [List.forall_mem_map, List.mem_range, Check.inOrder_passes_iff, cellChecks]
    exact ⟨fun h field hmem row hrow => (hcell field hmem row _).mpr (h row hrow field hmem),
      fun h row hrow field hmem => (hcell field hmem row _).mp (h field hmem row hrow)⟩
  · intro row k field hspans hrow hk hnot hbefore
    have hmem : field ∈ fields := List.mem_of_getElem? hk
    have hfails := fun c => mt (hcell field hmem row c).mpr hnot
    -- The place of the cell, and the start of a run with the same text.
    have hplace : field.2.run .part (f.cell library row field.1)
        (.field (.element (.root (some (.text start))) row) field.1) =
          field.2.run .part (f.cell library row field.1)
            (.root (some (cellPlace start row field.1))) := by
      rcases alike_cellPlace start row field.1 with ⟨htext, heval⟩
      exact Assertion.run_dependsOnText (hintrinsic field hmem) .part _ _ _ htext heval
    rcases hraised : (field.2.run .part (f.cell library row field.1)
        (.root (some (cellPlace start row field.1))) factory).result with raised | ⟨⟩
    · refine ⟨raised, ?_, rfl⟩
      refine assertFrame_raises hlibrary hf hread hfields hidentity
        ((Bounds.judge_real hbounds f.height).mpr hspans) hrow hk (by rw [hplace, hraised])
        fun i j other hij hj => ?_
      exact (hcell other (List.mem_of_getElem? hj) i _).mp (hbefore i j other hij hj)
    · exact absurd hraised (hfails _)
  · refine assertFrame_of_subset hlibrary hf hread hfields hidentity
      (fun column hmem => hperm.mem_iff.mp hmem) (fun hnil => ?_) ((hperm.map Column.label).nodup_iff.mpr hf.distinct)
      (fun column hmem hout => absurd (hperm.mem_iff.mpr hmem) hout) c
    rw [hnil] at hperm
    exact hf.hasColumns hperm.nil_eq.symm
  · have hsublist : (front ++ back).Sublist f.columns := by
      rw [hcolumns]
      exact List.Sublist.append_left (List.sublist_cons_self column back) front
    refine assertFrame_of_subset hlibrary hf hread hfields hidentity
      (fun other hmem => hsublist.subset hmem) hne (hf.distinct.sublist (hsublist.map Column.label)) (fun other hmem hout => ?_) c
    have hother : other = column := by
      rw [hcolumns] at hmem
      rcases List.mem_append.mp hmem with hmem | hmem
      · exact absurd (List.mem_append_left back hmem) hout
      · rcases List.mem_cons.mp hmem with hmem | hmem
        · exact hmem
        · exact absurd (List.mem_append_right front hmem) hout
    rw [hother]
    exact hlost

/-- A table with members of a club and what they pay. -/
def dues : Frame :=
  ⟨[⟨.text "due", .integers [4, 5]⟩, ⟨.text "name", .objects [.text "ann", .null]⟩]⟩

/-- What each row of such a table has to satisfy. -/
def duesFields : List (Value × Assertion) :=
  [(.text "name", .primitive .string), (.text "due", .primitive .number)]

theorem dues_isRegular : dues.IsRegular := by
  refine ⟨by simp [dues], fun column hmem => ?_, ?_, fun column hmem => ?_⟩
  · simp only [dues, List.mem_cons, List.not_mem_nil, or_false] at hmem
    rcases hmem with rfl | rfl
    · exact ⟨"due", rfl⟩
    · exact ⟨"name", rfl⟩
  · simp [dues]
  · simp only [dues, List.mem_cons, List.not_mem_nil, or_false] at hmem
    rcases hmem with rfl | rfl <;> rfl

theorem dues_isReadable : dues.IsReadable .standard := by
  intro column hmem row hrow
  simp only [dues, List.mem_cons, List.not_mem_nil, or_false] at hmem
  have hcases : row = 0 ∨ row = 1 := by
    have hheight : row < 2 := hrow
    omega
  rcases hmem with rfl | rfl <;> rcases hcases with rfl | rfl <;> exact fun _ => ⟨_, rfl⟩

theorem assertFrame_by_cells_dues :
    (assertFrame .standard (.schema .dict duesFields) .lenient (.frame ⟨dues.columns.reverse⟩)
        (.root (some (.text "in"))) .standard).result =
      .error (.built .schemaError [.text "in[1].name: Not a string <undefined>"]) := by
  have hfields : ∀ field ∈ duesFields, Assertion.isCrossField field.1 = .ok false ∧
      field.2.Everywhere Assertion.IsIntrinsic := by
    intro field hmem
    simp only [duesFields, List.mem_cons, List.not_mem_nil, or_false] at hmem
    rcases hmem with rfl | rfl <;> exact ⟨rfl, trivial⟩
  rcases @assertFrame_by_cells .standard dues .dict duesFields .lenient
    TableLibrary.standard_isFaithful dues_isRegular dues_isReadable
    (fun field hmem => (hfields field hmem).1) (fun field hmem => (hfields field hmem).2) rfl
    ⟨⟨_, rfl⟩, _, rfl⟩ "in" .standard with ⟨_, hreport, hperm, _⟩
  rw [hperm ⟨dues.columns.reverse⟩ (List.reverse_perm dues.columns)]
  have hspans : ArrayRules.lenient.bounds.Spans dues.height :=
    (Bounds.judge_real ⟨⟨_, rfl⟩, _, rfl⟩ dues.height).mp rfl
  have hmissing :
      ¬ (Assertion.primitive .string).Satisfies .standard (dues.cell .standard 1 "name") := by
    have hfails : ((Assertion.primitive .string).run .part (dues.cell .standard 1 "name")
        (.root none) .standard).result =
          .error (.built .schemaError [.text "Not a string <undefined>"]) := rfl
    unfold Assertion.Satisfies
    rw [hfails]
    simp only [reduceCtorEq, not_false_eq_true]
  have hbefore : ∀ (i j : Nat) (other : Value × Assertion), i < 1 ∨ i = 1 ∧ j < 0 →
      duesFields[j]? = some other →
        other.2.Satisfies .standard (dues.cell .standard i other.1) := by
    intro i j other hij hj
    have hi : i = 0 := by omega
    subst hi
    simp only [duesFields] at hj
    have hmem := List.mem_of_getElem? hj
    simp only [List.mem_cons, List.not_mem_nil, or_false] at hmem
    rcases hmem with rfl | rfl <;> rfl
  rcases hreport 1 0 (.text "name", .primitive .string) hspans (by decide) rfl hmissing hbefore with
    ⟨raised, hraised, halone⟩
  rw [hraised, ← halone]
  rfl

/-- A cell that refuses to be looked at ends the run, whatever the schema says of its column. -/
theorem unreadable_refused (hlibrary : library.IsFaithful) (hf : f.IsRegular) {column : Column}
    (hmem : column ∈ f.columns) {row : Nat} (hrow : row < f.height)
    (hcell : ¬ library.Answers (column.cells.native library.marker row)) :
    ∃ fault, ∀ (a : Assertion) (rules : ArrayRules) (c : Context),
      assertFrame library a rules (.frame f) c = Check.raise (.fault fault) := by
  rcases hrecords : library.records f with fault | records
  · refine ⟨fault, fun a rules c => ?_⟩
    simp only [assertFrame, Tabular.run, hrecords, Check.ofExcept_error, Check.raise_bind]
  · have hlooked := TableLibrary.answers_of_recordsFrom hrecords
    rw [hlibrary.rows_eq f hf] at hlooked
    exact absurd (hlooked _ (List.mem_map_of_mem (List.mem_range.mpr hrow)) (column.label, _)
      (List.mem_map_of_mem hmem)) hcell

/-- A table with a column of notes, one of which is a decimal that refuses to be compared. -/
def noted : Frame :=
  ⟨[⟨.text "name", .objects [.text "ann"]⟩,
    ⟨.text "note", .objects [.decimal (.given 0) (.nan false true [])]⟩]⟩

/-- A single column that no entry names makes a difference, if it holds such a cell: all cells
    that are named satisfy their entries, and the run does not pass. -/
theorem assertFrame_noted_refused :
    noted.IsRegular ∧ ArrayRules.lenient.bounds.Spans noted.height ∧
      (∀ row < noted.height,
        (Assertion.primitive .string).Satisfies .standard (noted.cell .standard row "name")) ∧
      (assertFrame .standard (.schema .dict [(.text "name", .primitive .string)]) .lenient
        (.frame noted) (.root none) .standard).result = .error (.fault .invalidOperation) ∧
      (assertFrame .standard (.schema .dict [(.text "name", .primitive .string)]) .lenient
        (.frame ⟨[⟨.text "name", .objects [.text "ann"]⟩]⟩) (.root none) .standard).result =
          .ok () := by
  have hregular : noted.IsRegular := by
    refine ⟨by simp [noted], fun column hmem => ?_, by simp [noted], fun column hmem => ?_⟩
    · simp only [noted, List.mem_cons, List.not_mem_nil, or_false] at hmem
      rcases hmem with rfl | rfl
      · exact ⟨"name", rfl⟩
      · exact ⟨"note", rfl⟩
    · simp only [noted, List.mem_cons, List.not_mem_nil, or_false] at hmem
      rcases hmem with rfl | rfl <;> rfl
  refine ⟨hregular, (Bounds.judge_real ⟨⟨_, rfl⟩, _, rfl⟩ noted.height).mp rfl,
    fun row hrow => ?_, rfl, rfl⟩
  have hzero : row = 0 := Nat.lt_one_iff.mp hrow
  rw [hzero]
  rfl

end Frame

end Attest
