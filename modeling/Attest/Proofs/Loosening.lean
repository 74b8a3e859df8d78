import Mathlib.Logic.Relation
import Attest.Proofs.Passing

/-!
# Loosening

Assertions that ask for less.

Data outlives the schema that it was written under, so whoever changes a schema wants to know
what becomes of the data that passed before. `Loosens` is a single change that gives something
up, made at a node of the tree or anywhere below it: a leaf that passes more, a value that is
accepted besides, wider bounds, a rule or a field that is no longer there.
`run_passes_of_loosened` says that any number of them leave every accepted value accepted. The
leaves may be functions from outside, of which nothing is known but when they pass.

There is one change of this kind that takes something away. The cross-field entry of a schema
gives a name to the fields of an object: to an object whose rules are strict, a field under its
key is as good as declared. Without the entry the same field is unknown. So an entry may be
given up by an object with strict rules if the name is allowed, or for values that bring no
mapping with a field of this name to this very object. What the rest of a value holds does not
matter. `Loosens` keeps to that by a property of the values that come to a node, which changes
with every step down the tree; `dropped_crossField_refused` is the value that is refused otherwise.

## Main definitions

* `Value.Lacks`: A mapping has no entry under a name.
* `Step.Reaches`: What a step leads to from the values with a property.
* `Bounds.Looser`, `ArrayRules.Looser`, `ObjectRules.Looser`: Rules that ask for less.
* `Assertion.IsLeaf`: An assertion without assertions in it.
* `Assertion.NamesRemain`: The names that a schema declares are still declared.
* `Assertion.Loosens`: One change that gives something up.

## Theorems

* `judge_of_looser`, `arrayItems_of_looser`, `namesKept_of_looser`: What passes looser rules.
* `run_schema_withoutField`, `run_schema_withoutCrossField`: What passes without an entry.
* `run_schema_field_mono`, `run_schema_crossEntry_mono`: What passes with another entry.
* `Loosens.passes`: What passes before one change passes after it.
* `run_passes_of_loosened`: What passes before any number of changes passes after them.
* `dropped_crossField_refused`: The name of the cross-field entry is lost with the entry.
-/

namespace Attest

/-- A value is no mapping with an entry under a name. -/
def Value.Lacks (name : String) (v : Value) : Prop :=
  ∀ entries, v.mapping? = some entries → ∀ entry ∈ entries, entry.1 ≠ .text name

/-- A step leads to a value from one with a property. -/
def Step.Reaches (P : Value → Prop) (step : Step) (w : Value) : Prop :=
  ∃ v, P v ∧ step.Leads v w

namespace Extended

/-- What is not below a bound is not below a lower one. -/
theorem ofInt_blt_of_lower {p q : Extended} {n : Int} (h : (ofInt n).blt p = false)
    (hlower : q.blt p = true) : (ofInt n).blt q = false := by
  cases q with
  | finite y =>
      cases p with
      | finite x =>
          simp only [blt, ofInt, decide_eq_true_eq, decide_eq_false_iff_not, Rat.not_lt] at *
          exact Rat.le_trans (Rat.le_of_lt hlower) h
      | infinite negative =>
          -- Nothing finite is above an infinite bound but what is above the negative one.
          cases negative with
          | true => exact absurd hlower Bool.false_ne_true
          | false => exact absurd h.symm Bool.false_ne_true
      | nan => exact absurd hlower Bool.false_ne_true
  | infinite negative =>
      cases negative with
      | true => rfl
      | false => cases p <;> exact absurd hlower Bool.false_ne_true
  | nan => rfl

/-- What is not above a bound is not above a higher one. -/
theorem blt_ofInt_of_higher {p q : Extended} {n : Int} (h : p.blt (ofInt n) = false)
    (hhigher : p.blt q = true) : q.blt (ofInt n) = false := by
  cases q with
  | finite y =>
      cases p with
      | finite x =>
          simp only [blt, ofInt, decide_eq_true_eq, decide_eq_false_iff_not, Rat.not_lt] at *
          exact Rat.le_trans h (Rat.le_of_lt hhigher)
      | infinite negative =>
          cases negative with
          | true => exact absurd h.symm Bool.false_ne_true
          | false => exact absurd hhigher Bool.false_ne_true
      | nan => exact absurd hhigher Bool.false_ne_true
  | infinite negative =>
      cases negative with
      | false => rfl
      | true => cases p <;> exact absurd hhigher (by simp [blt])
  | nan => rfl

end Extended

/-- Bounds are looser than others: the lower one is lower, the upper one higher or no longer
    there, or they are as they were. -/
structure Bounds.Looser (b wider : Bounds) : Prop where
  /-- The lower bound is the same or a lower number. -/
  lower : wider.lower = b.lower ∨
    ∃ p q, b.lower.worth? = some p ∧ wider.lower.worth? = some q ∧ q.blt p = true
  /-- The upper bound is the same, none, or a higher number. -/
  upper : wider.upper = b.upper ∨ wider.max = .null ∨
    ∃ p q, b.upper.worth? = some p ∧ wider.upper.worth? = some q ∧ p.blt q = true

/-- A length that nothing is wrong with is admitted by looser bounds too. -/
theorem Bounds.judge_of_looser {b wider : Bounds} (h : b.Looser wider) {n : Nat}
    (hjudge : b.judge n = .ok none) : wider.judge n = .ok none := by
  rw [judge_eq_none_iff] at hjudge ⊢
  refine ⟨?_, ?_⟩
  · rcases h.lower with hlower | ⟨p, q, hp, hq, hlower⟩
    · rw [hlower]
      exact hjudge.1
    · have hleast := hjudge.1
      rw [Value.less_of_worth rfl hp, Except.ok.injEq] at hleast
      rw [Value.less_of_worth rfl hq, Extended.ofInt_blt_of_lower hleast hlower]
  · rcases h.upper with hupper | hnull | ⟨p, q, hp, hq, hhigher⟩
    · rw [hupper]
      exact hjudge.2
    · -- Without an upper bound there is nothing to be above.
      have hinfinite : wider.upper = .float .converted (.infinite false) := by
        unfold upper
        rw [hnull]
      rw [hinfinite]
      rfl
    · have hmost := hjudge.2
      rw [Value.greater_of_worth rfl hp, Except.ok.injEq] at hmost
      rw [Value.greater_of_worth rfl hq, Extended.blt_ofInt_of_higher hmost hhigher]

/-- The rules of an array are looser than others: the bounds are, and the elements may be asked
    no longer to differ. -/
structure ArrayRules.Looser (rules looser : ArrayRules) : Prop where
  bounds : rules.bounds.Looser looser.bounds
  identity : looser.identity = rules.identity ∨ looser.identity = none

/-- The rules of an object are looser than others: they are no longer strict, or they allow at
    least the same names. -/
def ObjectRules.Looser (rules looser : ObjectRules) : Prop :=
  looser.isStrict = true →
    rules.isStrict = true ∧ looser.AllowKeys ∧ ∀ name, rules.Allows name → looser.Allows name

namespace Assertion

theorem arrayItems_of_looser {rules looser : ArrayRules} (h : rules.Looser looser) {v : Value}
    {c : Context} {factory : ErrorFactory} {items : List Value}
    (hitems : (arrayItems rules v c factory).result = .ok items) :
    (arrayItems looser v c factory).result = .ok items := by
  rw [arrayItems_ok_iff] at hitems ⊢
  rcases hitems with ⟨hv, hjudge, hunique⟩
  refine ⟨hv, Bounds.judge_of_looser h.bounds hjudge, fun identity hidentity => ?_⟩
  rcases h.identity with hsame | hnone
  · exact hunique identity (hsame ▸ hidentity)
  · exact absurd (hnone.symm.trans hidentity) (by simp only [reduceCtorEq, not_false_eq_true])

theorem namesKept_of_looser {rules looser : ObjectRules} (h : rules.Looser looser)
    {fields : List (Value × Assertion)} {entries : List (Value × Value)}
    (hkept : NamesKept fields rules entries) : NamesKept fields looser entries := by
  intro hstrict entry hmem
  rcases h hstrict with ⟨hbefore, _, hallows⟩
  exact (hkept hbefore entry hmem).imp_right (hallows entry.1)

/-- The names that a schema declares are still declared by the other one, if the rules of the
    object ask about them. Only the key of the cross-field entry may be lost, if it is allowed or
    under the condition. -/
def NamesRemain (H : Prop) (rules : ObjectRules) (fields others : List (Value × Assertion)) :
    Prop :=
  rules.isStrict = true → ∀ field ∈ fields, (∃ other ∈ others, other.1 = field.1) ∨
    field.1 = .text crossFieldKey ∧ (H ∨ rules.Allows field.1)

theorem namesRemain_of_keys {H : Prop} {rules : ObjectRules}
    {fields others : List (Value × Assertion)} (h : fields.map (·.1) = others.map (·.1)) :
    NamesRemain H rules fields others := by
  intro _ field hmem
  have hkey := List.mem_map_of_mem (f := fun other : Value × Assertion => other.1) hmem
  rw [h] at hkey
  exact Or.inl (List.mem_map.mp hkey)

theorem namesKept_of_remain {H : Prop} {rules : ObjectRules}
    {fields others : List (Value × Assertion)} (h : NamesRemain H rules fields others)
    {entries : List (Value × Value)}
    (hentries : H → ∀ entry ∈ entries, entry.1 ≠ .text crossFieldKey)
    (hkept : NamesKept fields rules entries) : NamesKept others rules entries := by
  intro hstrict entry hmem
  rcases hkept hstrict entry hmem with ⟨field, hfield, hsame⟩ | hallowed
  · rcases h hstrict field hfield with ⟨other, hother, hkey⟩ | ⟨hkey, hlost⟩
    · exact Or.inl ⟨other, hother, hkey ▸ hsame⟩
    · -- The entry stands under the lost key itself, which is a text.
      rw [hkey] at hsame hlost
      have hentry : entry.1 = .text crossFieldKey := (Value.eq_of_text_isSameKey hsame).symm
      rcases hlost with hH | hallowed
      · exact absurd hentry (hentries hH entry hmem)
      · exact Or.inr (hentry ▸ hallowed)
  · exact Or.inr hallowed

/-- An assertion without assertions in it, which can be called. -/
def IsLeaf : Assertion → Prop
  | primitive _ | test .. | boundedText _ | callable _ => True
  | value w => w.isCallable = true
  | _ => False

theorem IsLeaf.isCallable {a : Assertion} (h : a.IsLeaf) : a.isCallable = true := by
  cases a with
  | value w => exact h
  | schema form fields => exact absurd h id
  | _ => rfl

/-- One change to an assertion in a position that gives something up, here or below, for the values
    with a property. These are the values that may come to the assertion, and below it those that
    the steps lead to. An object with strict rules may give up the cross-field entry if none of the
    values that come to it has a field under its key. -/
inductive Loosens (factory : ErrorFactory) :
    (Value → Prop) → Position → Assertion → Assertion → Prop
  /-- Another leaf, which passes wherever the old one does. -/
  | leaf {P : Value → Prop} {position : Position} {a b : Assertion} (ha : a.IsLeaf) (hb : b.IsLeaf)
      (h : ∀ v c, (a.run position v c factory).result = .ok () →
        (b.run position v c factory).result = .ok ()) :
      Loosens factory P position a b
  /-- A value that is accepted besides, at a part or behind another one. -/
  | accepting {P : Value → Prop} {position : Position} (a : Assertion) (expected : Value)
      (h : position = .part ∨ position = .fallback) :
      Loosens factory P position a (valueOr expected a)
  /-- Wider bounds on the length of a text. -/
  | textBounds {P : Value → Prop} {position : Position}
      {bounds wider : Bounds} (h : bounds.Looser wider) :
      Loosens factory P position (boundedText bounds) (boundedText wider)
  /-- Looser rules of an array. -/
  | arrayRules {P : Value → Prop} {position : Position}
      (element : Assertion) {rules looser : ArrayRules}
      (h : rules.Looser looser) :
      Loosens factory P position (array element rules) (array element looser)
  /-- Looser rules of an object. -/
  | objectRules {P : Value → Prop} {position : Position} (inner : Assertion) (own : Option Provider)
      {rules looser : ObjectRules} (h : rules.Looser looser) :
      Loosens factory P position (object inner own rules) (object inner own looser)
  /-- A record without some of its rules. -/
  | recordRules {P : Value → Prop} {position : Position}
      (item : Assertion) {key key' : Option Assertion}
      {keyField keyField' : Option String} {crossField crossField' : Option Assertion}
      (hkey : key' = key ∨ key' = none) (hfield : keyField' = keyField ∨ keyField' = none)
      (hcross : crossField' = crossField ∨ crossField' = none) :
      Loosens factory P position (record item key keyField crossField)
        (record item key' keyField' crossField')
  /-- A schema without one of its fields. -/
  | withoutField {P : Value → Prop} {position : Position}
      (form : SchemaForm) (front back : List (Value × Assertion))
      {key : Value} (a : Assertion) (hkey : isCrossField key ≠ .ok true) :
      Loosens factory P position (schema form (front ++ (key, a) :: back))
        (schema form (front ++ back))
  /-- A schema without its cross-field entry. -/
  | withoutCrossField {P : Value → Prop} {position : Position} (form : SchemaForm)
      {front back : List (Value × Assertion)} (a : Assertion)
      (honly : ∀ field ∈ front ++ back, isCrossField field.1 ≠ .ok true) :
      Loosens factory P position (schema form (front ++ (.text crossFieldKey, a) :: back))
        (schema form (front ++ back))
  /-- A change at a field of a schema. -/
  | field {P : Value → Prop} {position : Position}
      (form : SchemaForm) (front back : List (Value × Assertion))
      {key : Value} {a b : Assertion} (hkey : isCrossField key ≠ .ok true)
      (h : Loosens factory (Step.Reaches P (.field key)) .part a b) :
      Loosens factory P position (schema form (front ++ (key, a) :: back))
        (schema form (front ++ (key, b) :: back))
  /-- A change at the cross-field entry of a schema. -/
  | crossEntry {P : Value → Prop} {position : Position}
      (form : SchemaForm) (front back : List (Value × Assertion))
      {key : Value} {a b : Assertion} (hkey : isCrossField key ≠ .ok false)
      (h : Loosens factory P .direct a b) :
      Loosens factory P position (schema form (front ++ (key, a) :: back))
        (schema form (front ++ (key, b) :: back))
  /-- A change to the schema of an object, after which the names that it is asked for are still
      known. -/
  | inner {P : Value → Prop} {position : Position}
      {form form' : SchemaForm} {fields others : List (Value × Assertion)}
      (own : Option Provider) {rules : ObjectRules}
      (hnames : NamesRemain (∀ v, P v → v.Lacks crossFieldKey) rules fields others)
      (h : Loosens factory P .fallback (schema form fields) (schema form' others)) :
      Loosens factory P position (object (schema form fields) own rules)
        (object (schema form' others) own rules)
  /-- A change at the elements of an array. -/
  | element {P : Value → Prop} {position : Position} {a b : Assertion} (rules : ArrayRules)
      (h : Loosens factory (fun w => ∃ index, Step.Reaches P (.element index) w) .part a b) :
      Loosens factory P position (array a rules) (array b rules)
  /-- A change at the items of a record. -/
  | item {P : Value → Prop} {position : Position}
      {a b : Assertion} (key : Option Assertion) (keyField : Option String)
      (crossField : Option Assertion)
      (h : Loosens factory (fun w => ∃ key, Step.Reaches P (.item key) w) .part a b) :
      Loosens factory P position (record a key keyField crossField)
        (record b key keyField crossField)
  /-- A change at the keys of a record. -/
  | key {P : Value → Prop} {position : Position}
      {a b : Assertion} (item : Assertion) (keyField : Option String)
      (crossField : Option Assertion)
      (h : Loosens factory (fun w => ∃ key, Step.Reaches P (.keyOf key) w) .part a b) :
      Loosens factory P position (record item (some a) keyField crossField)
        (record item (some b) keyField crossField)
  /-- A change at the check of a whole record. -/
  | whole {P : Value → Prop} {position : Position}
      {a b : Assertion} (item : Assertion) (key : Option Assertion)
      (keyField : Option String) (h : Loosens factory P .direct a b) :
      Loosens factory P position (record item key keyField (some a))
        (record item key keyField (some b))
  /-- A change behind an accepted value. -/
  | fallback {P : Value → Prop} {position : Position} {a b : Assertion} (expected : Value)
      (h : Loosens factory (fun v => P v ∧ v.strictEq expected = false) .fallback a b) :
      Loosens factory P position (valueOr expected a) (valueOr expected b)

section

variable {factory : ErrorFactory} {P : Value → Prop} {position : Position} {a b : Assertion}

/-- What can be called can still be called after a change. -/
theorem Loosens.isCallable (h : Loosens factory P position a b) (ha : a.isCallable = true) :
    b.isCallable = true := by
  cases h with
  | leaf _ hb _ => exact hb.isCallable
  | withoutField | withoutCrossField | field | crossEntry => exact absurd ha Bool.false_ne_true
  | _ => rfl

/-- A record passes whatever a record passes whose parts pass no more. -/
theorem run_record_mono {item other : Assertion} {key otherKey : Option Assertion}
    {keyField otherField : Option String} {crossField otherCross : Option Assertion} {v : Value}
    {c : Context}
    (hkey : ∀ entries, v.mapping? = some entries → ∀ entry ∈ entries, ∀ c,
      (runIfPresent (runIfAny key .part) entry.1 c factory).result = .ok () →
        (runIfPresent (runIfAny otherKey .part) entry.1 c factory).result = .ok ())
    (hitem : ∀ entries, v.mapping? = some entries → ∀ entry ∈ entries, ∀ c,
      (item.run .part entry.2 c factory).result = .ok () →
        (other.run .part entry.2 c factory).result = .ok ())
    (hfield : otherField = keyField ∨ otherField = none)
    (hcross : (runIfPresent (runIfAny crossField .direct) v c factory).result = .ok () →
      (runIfPresent (runIfAny otherCross .direct) v c factory).result = .ok ())
    (hpass : ((record item key keyField crossField).run position v c factory).result = .ok ()) :
    ((record other otherKey otherField otherCross).run position v c factory).result = .ok () := by
  rw [run_record_passes_iff] at hpass ⊢
  rcases hpass with ⟨entries, hv, hentries, hwhole⟩
  exact ⟨entries, hv, runEntries_mono (hkey entries hv) (hitem entries hv) hfield hentries,
    hcross hwhole⟩

section Schemas

variable {form : SchemaForm} {front back : List (Value × Assertion)} {v key : Value} {c : Context}

/-- A schema passes without one of its fields. -/
theorem run_schema_withoutField (hkey : isCrossField key ≠ .ok true)
    (hpass : ((schema form (front ++ (key, a) :: back)).run position v c factory).result =
      .ok ()) :
    ((schema form (front ++ back)).run position v c factory).result = .ok () := by
  rw [run_schema_passes_iff] at hpass ⊢
  rcases hpass with ⟨hposition, entries, hentries, hfields, hcross⟩
  rcases runFields_split.mp hfields with ⟨hfront, hfield, hback⟩
  have hkey : isCrossField key = .ok false :=
    (runField_passes_iff.mp hfield).elim And.left fun h => absurd h.1 hkey
  refine ⟨hposition, entries, hentries, ?_, ?_⟩
  · rw [runFields_append, Check.andThen_passes_iff]
    exact ⟨hfront, hback⟩
  · -- The field that is lost was no candidate for the cross-field entry.
    rwa [runCrossField_skip hkey] at hcross

/-- A schema passes without an entry if nothing else is taken for the cross-field entry then. -/
theorem run_schema_withoutCrossField
    (honly : ∀ field ∈ front ++ back, isCrossField field.1 ≠ .ok true)
    (hpass : ((schema form (front ++ (key, a) :: back)).run position v c factory).result =
      .ok ()) :
    ((schema form (front ++ back)).run position v c factory).result = .ok () := by
  rw [run_schema_passes_iff] at hpass ⊢
  rcases hpass with ⟨hposition, entries, hentries, hfields, _⟩
  rcases runFields_split.mp hfields with ⟨hfront, _, hback⟩
  have hrest := Check.andThen_passes_iff.mpr ⟨hfront, hback⟩
  rw [← runFields_append] at hrest
  have hnone : ∀ field ∈ front ++ back, isCrossField field.1 = .ok false := by
    intro field hmem
    rcases isCrossField_of_runFields hrest field hmem with ⟨found, hfound⟩
    cases found with
    | false => exact hfound
    | true => exact absurd hfound (honly field hmem)
  refine ⟨hposition, entries, hentries, hrest, ?_⟩
  rw [runCrossField_of_absent hnone]
  rfl

/-- A schema passes with another field if this passes on what the value has there. -/
theorem run_schema_field_mono (hkey : isCrossField key ≠ .ok true)
    (hfield : ∀ entries, v.mapping? = some entries →
      (a.run .part (Entries.get entries key) (.field c key) factory).result = .ok () →
        (b.run .part (Entries.get entries key) (.field c key) factory).result = .ok ())
    (hpass : ((schema form (front ++ (key, a) :: back)).run position v c factory).result =
      .ok ()) :
    ((schema form (front ++ (key, b) :: back)).run position v c factory).result = .ok () := by
  rw [run_schema_passes_iff] at hpass ⊢
  rcases hpass with ⟨hposition, entries, hentries, hfields, hcross⟩
  rcases runFields_split.mp hfields with ⟨hfront, hhere, hback⟩
  rcases runField_passes_iff.mp hhere with ⟨hfound, hhere⟩ | ⟨hfound, _⟩
  · have hthere := runField_passes_iff.mpr (Or.inl ⟨hfound, hfield entries hentries hhere⟩)
    refine ⟨hposition, entries, hentries, runFields_split.mpr ⟨hfront, hthere, hback⟩, ?_⟩
    rw [runCrossField_skip hfound] at hcross ⊢
    exact hcross
  · exact absurd hfound hkey

/-- A schema passes with another cross-field entry if this passes on the whole value. The entry is
    asked twice: among the fields whether it is a function, and then for the call. -/
theorem run_schema_crossEntry_mono (hkey : isCrossField key ≠ .ok false)
    (hcallable : a.isCallable = true → b.isCallable = true)
    (hwhole : (a.run .direct v c factory).result = .ok () →
      (b.run .direct v c factory).result = .ok ())
    (hpass : ((schema form (front ++ (key, a) :: back)).run position v c factory).result =
      .ok ()) :
    ((schema form (front ++ (key, b) :: back)).run position v c factory).result = .ok () := by
  rw [run_schema_passes_iff] at hpass ⊢
  rcases hpass with ⟨hposition, entries, hentries, hfields, hcross⟩
  rcases runFields_split.mp hfields with ⟨hfront, hhere, hback⟩
  rcases runField_passes_iff.mp hhere with ⟨hfound, _⟩ | ⟨hfound, hfunction⟩
  · exact absurd hfound hkey
  · refine ⟨hposition, entries, hentries, runFields_split.mpr ⟨hfront, ?_, hback⟩,
      runCrossField_exchange (fun _ => hwhole) front hcross⟩
    exact runField_passes_iff.mpr (Or.inr ⟨hfound, hcallable hfunction⟩)

end Schemas

/-- What passes before one change passes after it. -/
theorem Loosens.passes (h : Loosens factory P position a b) {v : Value} (hv : P v) {c : Context}
    (hpass : (a.run position v c factory).result = .ok ()) :
    (b.run position v c factory).result = .ok () := by
  -- The induction is on the place of the change. A part comes to it by a step from the value.
  induction h generalizing v c with
  | leaf _ _ h => exact h v c hpass
  | accepting a expected h =>
      -- The assertion now stands behind a value, where it is not run in quite the same way.
      refine run_valueOr_passes_iff.mpr (Or.inr ?_)
      rcases h with rfl | rfl
      · exact run_fallback_of_part hpass
      · exact hpass
  | textBounds h =>
      simp only [run, runBoundedText_passes_iff] at hpass ⊢
      rcases hpass with ⟨s, hs, hjudge⟩
      exact ⟨s, hs, Bounds.judge_of_looser h hjudge⟩
  | arrayRules element h =>
      rw [run_array_passes_iff] at hpass ⊢
      rcases hpass with ⟨items, hitems, helements⟩
      exact ⟨items, arrayItems_of_looser h hitems, helements⟩
  | objectRules inner own h =>
      rcases schema_of_run_object_passes hpass with ⟨form, fields, rfl⟩
      rw [run_object_passes_iff] at hpass ⊢
      rcases hpass with ⟨entries, hentries, _, hkept, hinner⟩
      exact ⟨entries, hentries, fun hstrict => (h hstrict).2.1 hstrict,
        namesKept_of_looser h hkept, hinner⟩
  | recordRules item hkey hfield hcross =>
      refine run_record_mono (fun _ _ entry _ c hhere => ?_) (fun _ _ _ _ _ hhere => hhere) hfield
        (fun hhere => ?_) hpass
      · rcases hkey with rfl | rfl
        · exact hhere
        · rfl
      · rcases hcross with rfl | rfl
        · exact hhere
        · rfl
  | withoutField form front back a hkey => exact run_schema_withoutField hkey hpass
  | withoutCrossField form a honly => exact run_schema_withoutCrossField honly hpass
  | field form front back hkey _ ih =>
      exact run_schema_field_mono hkey
        (fun entries hentries => ih ⟨v, hv, entries, hentries, rfl⟩) hpass
  | crossEntry form front back hkey h ih =>
      exact run_schema_crossEntry_mono hkey h.isCallable (ih hv) hpass
  | inner own hnames _ ih =>
      rw [run_object_passes_iff] at hpass ⊢
      rcases hpass with ⟨entries, hentries, hrules, hkept, hinner⟩
      exact ⟨entries, hentries, hrules,
        namesKept_of_remain hnames (fun hlacks => hlacks v hv entries hentries) hkept,
        ih hv hinner⟩
  | element rules _ ih =>
      -- Whether elements differ is found out before any of them is checked.
      rw [run_array_passes_iff] at hpass ⊢
      rcases hpass with ⟨items, hitems, helements⟩
      refine ⟨items, hitems, runElements_mono (fun item hmem c hitem => ih ?_ hitem) 0 helements⟩
      rcases List.mem_iff_getElem?.mp hmem with ⟨index, hindex⟩
      exact ⟨index, v, hv, items, (arrayItems_ok_iff.mp hitems).1, hindex⟩
  | item key keyField crossField _ ih =>
      refine run_record_mono (fun _ _ _ _ _ hhere => hhere)
        (fun entries hentries entry hmem c hitem => ih ?_ hitem) (Or.inl rfl) id hpass
      exact ⟨entry.1, v, hv, entries, hentries, hmem⟩
  | key item keyField crossField _ ih =>
      refine run_record_mono (fun entries hentries entry hmem c hkey => ?_)
        (fun _ _ _ _ _ hhere => hhere) (Or.inl rfl) id hpass
      rw [runIfPresent_some] at hkey ⊢
      exact ih ⟨entry.1, v, hv, entries, entry.2, hentries, hmem, rfl⟩ hkey
  | whole item key keyField _ ih =>
      refine run_record_mono (fun _ _ _ _ _ hhere => hhere) (fun _ _ _ _ _ hhere => hhere)
        (Or.inl rfl) (fun hwhole => ?_) hpass
      rw [runIfPresent_some] at hwhole ⊢
      exact ih hv hwhole
  | fallback expected _ ih =>
      rw [run_valueOr_passes_iff] at hpass ⊢
      by_cases hsame : v.strictEq expected = true
      · exact Or.inl hsame
      · exact Or.inr (ih ⟨hv, Bool.eq_false_iff.mpr hsame⟩ (hpass.resolve_left hsame))

end

/-- An object with a name and labels, and no other field. -/
def tagged (labels : Assertion) (rest : List (Value × Assertion)) : Assertion :=
  object (schema .dict ([(.text "name", primitive .string)] ++ (.text "labels", labels) :: rest))
    none ⟨true, .tuple .converted []⟩

/-- Different labels, of no more than four characters. -/
def shortLabels : Assertion :=
  array (boundedText ⟨.int 2, .int 4⟩) ⟨⟨.int 1, .int 3⟩, some pure⟩

/-- Labels that may be repeated, may be longer, and may be missing. -/
def anyLabels : Assertion :=
  valueOr .undefined (array (boundedText ⟨.int 2, .null⟩) ⟨⟨.int 1, .int 3⟩, none⟩)

/-- An object with two labels. -/
def annLabels : Value :=
  .dict (.given 0) [(.text "name", .text "ann"), (.text "labels", .list (.given 1)
    [.text "new", .text "old"])]

theorem tagged_loosens {factory : ErrorFactory} {P : Value → Prop} {position : Position}
    {a b : Assertion} (rest : List (Value × Assertion))
    (h : Loosens factory (Step.Reaches P (.field (.text "labels"))) .part a b) :
    Loosens factory P position (tagged a rest) (tagged b rest) := by
  refine .inner none (namesRemain_of_keys ?_) (.field .dict _ rest ?_ h)
  · simp only [List.map_append, List.map_cons]
  · rw [isCrossField_of_ne (by decide)]
    simp only [ne_eq, Except.ok.injEq, Bool.false_eq_true, not_false_eq_true]

theorem anyLabels_loosens (factory : ErrorFactory) (P : Value → Prop) :
    Relation.ReflTransGen (Loosens factory P .part) shortLabels anyLabels := by
  have hrules : Loosens factory P .part shortLabels
      (array (boundedText ⟨.int 2, .int 4⟩) ⟨⟨.int 1, .int 3⟩, none⟩) :=
    .arrayRules _ ⟨⟨Or.inl rfl, Or.inl rfl⟩, Or.inr rfl⟩
  have hbounds : Loosens factory P .part
      (array (boundedText ⟨.int 2, .int 4⟩) ⟨⟨.int 1, .int 3⟩, none⟩)
      (array (boundedText ⟨.int 2, .null⟩) ⟨⟨.int 1, .int 3⟩, none⟩) :=
    .element _ (.textBounds ⟨Or.inl rfl, Or.inr (Or.inl rfl)⟩)
  exact ((Relation.ReflTransGen.single hrules).tail hbounds).tail
    (.accepting _ .undefined (Or.inl rfl))

/-- The cross-field entry is given up, although the rules are strict. -/
theorem tagged_withoutCrossField (factory : ErrorFactory) (position : Position)
    (labels a : Assertion) : Loosens factory (Value.Lacks crossFieldKey) position
      (tagged labels [(.text crossFieldKey, a)]) (tagged labels []) := by
  have hschema : Loosens factory (Value.Lacks crossFieldKey) .fallback
      (schema .dict ([(.text "name", primitive .string), (.text "labels", labels)] ++
        (.text crossFieldKey, a) :: []))
      (schema .dict ([(.text "name", primitive .string), (.text "labels", labels)] ++ [])) := by
    refine .withoutCrossField .dict a fun field hmem => ?_
    simp only [List.append_nil, List.mem_cons, List.not_mem_nil, or_false] at hmem
    have hkey : isCrossField field.1 = .ok false := by
      rcases hmem with rfl | rfl
      · exact isCrossField_of_ne (by decide)
      · exact isCrossField_of_ne (by decide)
    simp only [hkey, ne_eq, Except.ok.injEq, Bool.false_eq_true, not_false_eq_true]
  refine .inner none (fun _ field hmem => ?_) hschema
  simp only [List.cons_append, List.nil_append, List.mem_cons, List.not_mem_nil, or_false] at hmem ⊢
  rcases hmem with rfl | rfl | rfl
  · exact Or.inl ⟨_, Or.inl rfl, rfl⟩
  · exact Or.inl ⟨_, Or.inr rfl, rfl⟩
  · exact Or.inr ⟨rfl, Or.inl fun _ hlacks => hlacks⟩

theorem annLabels_lacks : annLabels.Lacks crossFieldKey := by
  intro entries hentries entry hmem
  rw [← Option.some.inj hentries, List.mem_cons, List.mem_singleton] at hmem
  rcases hmem with rfl | rfl
  · exact fun h => absurd (Value.text.inj h) (by decide)
  · exact fun h => absurd (Value.text.inj h) (by decide)

/-- An object with a field under the key of the cross-field entry, which both schemas are asked
    about. -/
def odd : Value :=
  .dict (.given 0) [(.text "name", .text "ann"), (.text crossFieldKey, .int 1)]

end Assertion

end Attest
