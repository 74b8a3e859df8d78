import Attest.Factory
import Attest.Proofs.Bounds
import Attest.Proofs.Decision
import Attest.Proofs.Visits

/-!
# Acceptance

The values that an assertion accepts, said without running it.

`Accepts` follows the tree. A primitive check accepts what has its property, an object
every mapping whose fields are accepted and named as its rules ask, an array every list or
tuple of admitted length whose items are accepted, and so on. There is no order in it, no
place, and no failure. `run_accepts_or_reports` says that a run finds out just this, for
trees of the library's own parts at any depth and for values of any shape, and that a value
which is not accepted is reported through the factory. The only thing that can get in the way
is that the report cannot be written. A check that used an operation before it was sure that the
value has it would leave a fault of that operation behind instead.

Each node is decided on its own first. The run over the parts of a container is then a
sequence of decisions, and the induction over the tree only puts these together.

## Main definitions

* `Assertion.NamesKept`: The names of an object's fields keep its rules.
* `Assertion.RepeatsKey`: An item repeats the key it is stored under.
* `Assertion.Accepts`: An assertion accepts a value.
* `Assertion.IsElementary`: A node of the library's own, put together as it is meant to be.
* `Assertion.ReportsAnswer`: A node whose reports raise nothing of their own.
* `Assertion.ReportsWritable`: A node whose reports can be written.
* `Position.Takes`: A position takes an assertion.

## Theorems

* `judge_decides`: To look at a length is to decide whether the bounds admit it.
* `runNames_decides`, `arrayItems_decides`, `runKeyField_decides`: The rules of containers.
* `runElements_decides`, `runEntries_decides`: Runs over the parts of a container.
* `run_decides`: A run decides whether its value is accepted.
* `run_accepts_or_reports`: A run passes if its value is accepted, and is reported if not.
-/

namespace Attest

namespace Value

theorem eq_text_of_isText {v : Value} (h : v.isText = true) : ∃ s, v = .text s := by
  cases v <;> simp only [isText, Bool.false_eq_true] at h
  exact ⟨_, rfl⟩

theorem mapping?_of_isArray {v : Value} (h : v.isArray = true) : v.mapping? = none := by
  cases v <;> simp only [isArray, Bool.false_eq_true] at h <;> rfl

end Value

/-- A name is one of those that the rules of an object allow. -/
def ObjectRules.Allows (rules : ObjectRules) (name : Value) : Prop :=
  ∃ names, rules.allowed.elements = .ok names ∧ ∃ allowed ∈ names, allowed.isSameKey name = true

/-- The names that the rules of an object allow, if they refuse any, are a collection of keys. -/
def ObjectRules.AllowKeys (rules : ObjectRules) : Prop :=
  rules.isStrict = true →
    ∃ names, rules.allowed.elements = .ok names ∧ Value.allHashable names = .ok ()

namespace Assertion

/-- The names of an object's fields keep its rules: if these are strict, each name is a field of
    the schema or allowed. -/
def NamesKept (fields : List (Value × Assertion)) (rules : ObjectRules)
    (entries : List (Value × Value)) : Prop :=
  rules.isStrict = true → ∀ entry ∈ entries,
    (∃ field ∈ fields, field.1.isSameKey entry.1 = true) ∨ rules.Allows entry.1

/-- An item is an object that repeats a key in the field that is asked to, if there is one. -/
def RepeatsKey (keyField : Option String) (key item : Value) : Prop :=
  ∀ field, keyField = some field →
    ∃ entries, item.mapping? = some entries ∧ (Entries.get entries field).strictEq key = true

mutual

/-- An assertion accepts a value. The factory is the one that predicates are asked under. -/
def Accepts (factory : ErrorFactory) : Assertion → Value → Prop
  | primitive p, v => p.holds v = true
  | test predicate _, v => ∃ answer, (predicate v factory).result = .ok answer ∧
      answer.isTruthy = true
  | boundedText bounds, v => ∃ s, v = .text s ∧ bounds.Admits s.length
  | schema _ fields, v => ∃ entries, v.mapping? = some entries ∧
      FieldsAccept factory fields entries
  | object (schema _ fields) _ rules, v => ∃ entries, v.mapping? = some entries ∧
      NamesKept fields rules entries ∧ FieldsAccept factory fields entries
  | array element rules, v => ∃ items, v.array? = some items ∧
      rules.bounds.Admits items.length ∧ ∀ item ∈ items, Accepts factory element item
  | record item key keyField _, v => ∃ entries, v.mapping? = some entries ∧
      ∀ entry ∈ entries, AcceptsIfAny factory key entry.1 ∧ Accepts factory item entry.2 ∧
        RepeatsKey keyField entry.1 entry.2
  | valueOr expected fallback, v => v.strictEq expected = true ∨ Accepts factory fallback v
  | _, _ => False

/-- An assertion that may be absent accepts a value. -/
def AcceptsIfAny (factory : ErrorFactory) : Option Assertion → Value → Prop
  | none, _ => True
  | some a, v => Accepts factory a v

/-- Each entry of a schema accepts the field that it names, where a field that is missing is the
    value that does not exist. -/
def FieldsAccept (factory : ErrorFactory) : List (Value × Assertion) → List (Value × Value) → Prop
  | [], _ => True
  | (key, a) :: fields, entries =>
    Accepts factory a (Entries.get entries key) ∧ FieldsAccept factory fields entries

end

/-- A node of the library's own, put together as it is meant to be: predicates answer, bounds are
    integral, schemas have no cross-field entry, objects have a schema, and nothing but the
    library's own checks is called. -/
def IsElementary (factory : ErrorFactory) : Assertion → Prop
  | test predicate _ => ∀ v, ∃ answer, (predicate v factory).result = .ok answer
  | boundedText bounds => bounds.IsIntegral
  | schema _ fields => ∀ field ∈ fields, isCrossField field.1 = .ok false
  | object inner _ rules => (∃ form fields, inner = schema form fields) ∧ rules.AllowKeys
  | array _ rules => rules.bounds.IsIntegral ∧ rules.identity = none
  | record _ _ keyField crossField => keyField ≠ some "" ∧ crossField = none
  | callable _ | value _ => False
  | _ => True

end Assertion

/-- Both bounds can be written. -/
def Bounds.IsWritable (b : Bounds) : Prop :=
  b.lower.IsWritable ∧ b.upper.IsWritable

/-- A position takes an assertion: a schema is no function, so it is not called. -/
def Position.Takes : Position → Assertion → Prop
  | called, .schema .. | direct, .schema .. => False
  | _, _ => True

namespace Assertion

/-- What a node brings along for its reports gives messages: neither the message of a predicate
    nor the own place of an object raises, and the latter gives no exception. -/
def ReportsAnswer (factory : ErrorFactory) : Assertion → Prop
  | test _ message => Provider.Answers factory message
  | object _ (some own) _ => (Context.root (some own)).Answers factory
  | _ => True

/-- What a node brings along for its reports can be written: the message of a predicate, bounds,
    the names of fields, and the own place of an object. -/
def ReportsWritable (factory : ErrorFactory) : Assertion → Prop
  | test _ message => Provider.GivesWritable factory message
  | boundedText bounds => bounds.IsWritable
  | schema _ fields => ∀ field ∈ fields, field.1.IsWritable
  | object _ (some own) _ => (Context.root (some own)).GivesWritable factory
  | array _ rules => rules.bounds.IsWritable
  | _ => True

section Nodes

variable {factory : ErrorFactory} {H W : Prop} {c : Context}

/-- To go on if nothing is wrong with a length, and to refuse it otherwise, is to decide whether
    integral bounds admit it. -/
theorem judge_decides {b : Bounds} (hb : b.IsIntegral) (n : Nat)
    {f : Option LengthFault → Check Unit} (hpass : f none = pure ())
    (hrefuse : ∀ broken, (f (some broken)).Refuses factory H W) :
    (Check.ofExcept (b.judge n) >>= f).Decides factory H W (b.Admits n) := by
  rcases Bounds.judge_integral hb n with ⟨broken, hjudge, hbroken⟩
  rw [hjudge, Check.ofExcept_ok, pure_bind]
  rcases broken with _ | broken
  · rw [hpass]
    exact Check.decides_of_yes (hbroken.mp rfl)
  · refine Or.inr ⟨fun h => ?_, hrefuse broken⟩
    exact absurd (hbroken.mpr h) (by simp only [reduceCtorEq, not_false_eq_true])

/-- The message that comes with a predicate can be had, if its provider answers. -/
theorem message_tells {message : Option Provider} (hmessage : Provider.Answers factory message)
    (hwritable : W → Provider.GivesWritable factory message) :
    (Provider.message message).Tells factory W := by
  rcases hmessage with ⟨w, hw⟩
  exact (Check.tells_of_ok hw).bind fun u hu =>
    Check.ofExcept_tells (render_written fun hW => hwritable hW u hu)

theorem textComplaint_written {bounds : Bounds} (hbounds : W → bounds.IsWritable) (n : Nat)
    (broken : LengthFault) : Written W (textComplaint bounds n broken) := by
  cases broken with
  | tooShort => exact (Value.plain_written fun hW => (hbounds hW).1).map _
  | tooLong => exact (Value.plain_written fun hW => (hbounds hW).2).map _

theorem arrayComplaint_written {bounds : Bounds} (hbounds : W → bounds.IsWritable) (n : Nat)
    (broken : LengthFault) : Written W (arrayComplaint bounds n broken) := by
  cases broken with
  | tooShort => exact (Value.plain_written fun hW => (hbounds hW).1).map _
  | tooLong => exact (Value.plain_written fun hW => (hbounds hW).2).map _

theorem recordComplaint_written {v : Value} (hv : W → v.IsWritable) :
    Written W (recordComplaint v) := by
  unfold recordComplaint
  split
  · exact written_ok _
  · split
    · exact written_ok _
    · exact withShown_written hv _

variable (hc : H → c.Speaks factory W)

include hc

theorem primitive_decides (p : Primitive) {v : Value} (hv : W → v.IsWritable) :
    (p.run v c).Decides factory H W (p.holds v = true) := by
  unfold Primitive.run
  by_cases hp : p.holds v = true
  · rw [if_pos hp]
    exact Check.decides_of_yes hp
  · rw [if_neg hp]
    exact Or.inr ⟨hp, Context.explain_refuses hc _ hv⟩

theorem runTest_decides {predicate : Value → Check Value} {message : Option Provider}
    {v answer : Value} (hanswer : (predicate v factory).result = .ok answer)
    (hmessage : H → Provider.Answers factory message)
    (hwritable : W → Provider.GivesWritable factory message) (hv : W → v.IsWritable) :
    (runTest predicate message v c).Decides factory H W
      (∃ answer, (predicate v factory).result = .ok answer ∧ answer.isTruthy = true) := by
  unfold runTest
  refine Check.decides_of_ok hanswer ?_
  by_cases htrue : answer.isTruthy = true
  · rw [if_pos htrue]
    exact Check.decides_of_yes ⟨answer, hanswer, htrue⟩
  · rw [if_neg htrue]
    refine Or.inr ⟨fun ⟨other, hother, hyes⟩ => ?_, ?_⟩
    · -- The predicate has given its answer, and there is no other one.
      rw [hanswer] at hother
      rw [Except.ok.inj hother] at htrue
      exact htrue hyes
    · refine Check.failText_refuses fun hH => ?_
      refine (hc hH).text.bind fun _ _ =>
        (message_tells (hmessage hH) hwritable).bind fun text _ => ?_
      -- The value is written only if the message is empty.
      by_cases hempty : text = ""
      · simp only [if_pos hempty]
        exact (Check.ofExcept_tells (checkedForm_written hv)).map _
      · simp only [if_neg hempty]
        exact Check.tells_of_ok rfl

theorem runBoundedText_decides {bounds : Bounds} (hb : bounds.IsIntegral)
    (hbounds : W → bounds.IsWritable) {v : Value} (hv : W → v.IsWritable) :
    (runBoundedText bounds v c).Decides factory H W
      (∃ s, v = .text s ∧ bounds.Admits s.length) := by
  unfold runBoundedText
  rcases primitive_decides hc .string hv with ⟨hholds, hpass⟩ | ⟨hno, hrefuses⟩
  · rcases Value.eq_text_of_isText hholds with ⟨s, rfl⟩
    have hquestion : bounds.Admits s.length ↔
        ∃ t, Value.text s = .text t ∧ bounds.Admits t.length :=
      ⟨fun h => ⟨s, rfl, h⟩, fun ⟨t, ht, h⟩ => Value.text.inj ht ▸ h⟩
    refine (Check.decides_of_ok hpass ?_).congr hquestion
    have hlength : (Value.text s).length = .ok s.length := rfl
    rw [hlength, Check.ofExcept_ok, pure_bind]
    exact judge_decides hb s.length rfl fun broken =>
      Context.failAt_refuses hc (textComplaint_written hbounds s.length broken)
  · -- What is no text is refused before its length is asked for.
    refine Or.inr ⟨fun ⟨s, hs, _⟩ => ?_, hrefuses.bind _⟩
    rw [hs] at hno
    exact hno rfl

theorem refuseUnknown_decides (declared : Value → Bool) (allowed : List Value) {names : List Value}
    (hnames : W → ∀ name ∈ names, name.IsWritable) :
    (refuseUnknown (fun name => .ok (declared name)) allowed c names).Decides factory H W
      (∀ name ∈ names, declared name = true ∨ ∃ other ∈ allowed, other.isSameKey name = true) := by
  induction names with
  | nil => exact Check.decides_of_yes fun name hmem => absurd hmem List.not_mem_nil
  | cons name names ih =>
      simp only [refuseUnknown, Check.ofExcept_ok, pure_bind, Bool.or_eq_true, List.any_eq_true,
        List.forall_mem_cons]
      by_cases hname : declared name = true ∨ ∃ other ∈ allowed, other.isSameKey name = true
      · rw [if_pos hname]
        have hrest := ih fun hW other hother => hnames hW other (List.mem_cons_of_mem _ hother)
        exact hrest.congr ⟨fun h => ⟨hname, h⟩, And.right⟩
      · rw [if_neg hname]
        have hwritten : Written W (nameComplaint name) :=
          (Value.plain_written fun hW => hnames hW name List.mem_cons_self).map _
        exact Or.inr ⟨fun h => hname h.1, Context.failAt_refuses hc hwritten⟩

theorem runNames_decides {form : SchemaForm} {fields : List (Value × Assertion)}
    {rules : ObjectRules} (hrules : rules.AllowKeys) {entries : List (Value × Value)}
    (hentries : W → ∀ entry ∈ entries, entry.1.IsWritable ∧ entry.2.IsWritable) :
    (runNames (schema form fields).declares rules entries c).Decides factory H W
      (NamesKept fields rules entries) := by
  unfold runNames NamesKept
  by_cases hstrict : rules.isStrict = true
  · rcases hrules hstrict with ⟨names, hnames, hkeys⟩
    have hdeclares : (schema form fields).declares =
        fun name => .ok (fields.any fun field => field.1.isSameKey name) := rfl
    simp only [if_pos hstrict, hnames, hkeys, Check.ofExcept_ok, pure_bind, hdeclares]
    refine (refuseUnknown_decides hc _ names fun hW => ?_).congr ?_
    · exact List.forall_mem_map.mpr fun entry hentry => (hentries hW entry hentry).1
    · simp only [List.any_eq_true, List.forall_mem_map, ObjectRules.Allows, hnames,
        Except.ok.injEq, exists_eq_left', hstrict, forall_const]
  · rw [if_neg hstrict]
    exact Check.decides_of_yes fun h => absurd h hstrict

theorem arrayItems_decides {rules : ArrayRules} (hb : rules.bounds.IsIntegral)
    (hbounds : W → rules.bounds.IsWritable) (hidentity : rules.identity = none) {v : Value}
    {items : List Value} (hv : v.array? = some items) :
    (arrayItems rules v c >>= fun _ => pure ()).Decides factory H W
      (rules.bounds.Admits items.length) := by
  unfold arrayItems
  simp only [hv, hidentity, bind_assoc]
  exact judge_decides hb items.length rfl fun broken =>
    (Context.failUnder_refuses hc (arrayComplaint_written hbounds items.length broken)).bind _

theorem runKeyField_decides {keyField : Option String} (hfield : keyField ≠ some "")
    (key : Value) {item : Value} (hitem : W → item.IsWritable) :
    (runKeyField keyField key item c).Decides factory H W (RepeatsKey keyField key item) := by
  unfold runKeyField RepeatsKey
  split
  · exact Check.decides_of_yes fun field h => absurd h (by simp only [reduceCtorEq,
      not_false_eq_true])
  · exact absurd rfl hfield
  · next field _ =>
      rcases hentries : item.mapping? with _ | entries
      · refine Or.inr ⟨fun h => ?_, Context.failBehind_refuses hc (withShown_written hitem _)⟩
        rcases h field rfl with ⟨entries, hsome, _⟩
        exact absurd hsome (by simp only [reduceCtorEq, not_false_eq_true])
      · by_cases hsame : (Entries.get entries field).strictEq key = true
        · simp only [hsame, if_true]
          exact Check.decides_of_yes fun other h => Option.some.inj h ▸ ⟨entries, rfl, hsame⟩
        · simp only [hsame, Bool.false_eq_true, if_false]
          have hrepeated : W → (Entries.get entries field).IsWritable := fun hW =>
            Value.isWritable_get (Value.isWritable_of_mem_mapping (hitem hW) hentries) field
          refine Or.inr ⟨fun h => ?_, Context.failBehind_refuses hc (withShown_written hrepeated _)⟩
          rcases h field rfl with ⟨others, hothers, hyes⟩
          rw [← Option.some.inj hothers] at hyes
          exact hsame hyes

end Nodes

section Parts

variable {factory : ErrorFactory} {H W : Prop}

theorem speaks_placeOf {inner : Assertion} {own : Option Provider} {rules : ObjectRules}
    {c : Context} (hc : H → c.Speaks factory W)
    (hown : H → (object inner own rules).ReportsAnswer factory)
    (hwritable : W → (object inner own rules).ReportsWritable factory) :
    H → (placeOf own c).Speaks factory W := by
  rcases own with _ | provider
  · exact hc
  · exact fun hH => (hown hH).speaks hwritable

/-- A run over elements decides a question about all of them, if the check decides it about
    each one. -/
theorem runElements_decides {check : Value → Context → Check Unit} {p : Value → Prop}
    (h : ∀ v c, (W → v.IsWritable) → (H → c.Speaks factory W) →
      (check v c).Decides factory H W (p v)) {c : Context} (hc : H → c.Speaks factory W)
    {items : List Value} (hitems : W → ∀ item ∈ items, item.IsWritable) (index : Nat) :
    (runElements check c index items).Decides factory H W (∀ item ∈ items, p item) := by
  induction items generalizing index with
  | nil => exact Check.decides_of_yes fun item hmem => absurd hmem List.not_mem_nil
  | cons item items ih =>
      rw [List.forall_mem_cons]
      have hitem := h item (.element c index) (fun hW => hitems hW item List.mem_cons_self)
        fun hH => Context.speaks_extend (hc hH) (.element index) fun _ => trivial
      exact hitem.andThen fun _ =>
        ih (fun hW other hother => hitems hW other (List.mem_cons_of_mem _ hother)) (index + 1)

/-- A run over the entries of a record decides the questions about each key, each item, and
    whether the item repeats the key. -/
theorem runEntries_decides {checkKey : Option (Value → Context → Check Unit)}
    {checkItem : Value → Context → Check Unit} {keyField : Option String} {p q : Value → Prop}
    (hkey : ∀ v c, (W → v.IsWritable) → (H → c.Speaks factory W) →
      (runIfPresent checkKey v c).Decides factory H W (p v))
    (hitem : ∀ v c, (W → v.IsWritable) → (H → c.Speaks factory W) →
      (checkItem v c).Decides factory H W (q v))
    (hfield : keyField ≠ some "") {c : Context} (hc : H → c.Speaks factory W)
    {entries : List (Value × Value)}
    (hentries : W → ∀ entry ∈ entries, entry.1.IsWritable ∧ entry.2.IsWritable) :
    (runEntries checkKey checkItem keyField c entries).Decides factory H W
      (∀ entry ∈ entries, p entry.1 ∧ q entry.2 ∧ RepeatsKey keyField entry.1 entry.2) := by
  induction entries with
  | nil => exact Check.decides_of_yes fun entry hmem => absurd hmem List.not_mem_nil
  | cons entry entries ih =>
      rcases entry with ⟨key, item⟩
      rw [List.forall_mem_cons, runEntries_cons]
      have hwritable : W → key.IsWritable ∧ item.IsWritable := fun hW =>
        hentries hW (key, item) List.mem_cons_self
      have hrest := ih fun hW other hother => hentries hW other (List.mem_cons_of_mem _ hother)
      have hplace : H → (Context.entry c key).Speaks factory W := fun hH =>
        Context.speaks_extend (hc hH) (.item key) fun hW => (hwritable hW).1
      have hkeyPlace : H → (Context.keyOf (.entry c key)).Speaks factory W := fun hH =>
        Context.speaks_extend (hc hH) (.keyOf key) fun hW => (hwritable hW).1
      -- The order of a run: the key, the item, the field of the item, the other entries.
      have hentry := (hkey key _ (fun hW => (hwritable hW).1) hkeyPlace).andThen fun _ =>
        (hitem item _ (fun hW => (hwritable hW).2) hplace).andThen fun _ =>
          (runKeyField_decides hplace hfield key fun hW => (hwritable hW).2).andThen fun _ => hrest
      exact hentry.congr (by simp only [and_assoc])

/-- Without a cross-field entry an object is not looked at once more. -/
theorem runCrossField_of_absent {fields : List (Value × Assertion)}
    (h : ∀ field ∈ fields, isCrossField field.1 = .ok false) (v : Value) (c : Context) :
    runCrossField fields v c = pure () := by
  induction fields with
  | nil => rfl
  | cons field fields ih =>
      rcases field with ⟨key, a⟩
      rcases List.forall_mem_cons.mp h with ⟨hkey, hfields⟩
      simp only [runCrossField, hkey, Check.ofExcept_ok, pure_bind, Bool.false_and,
        Bool.false_eq_true, if_false]
      exact ih hfields

/-- An object is decided by what is asked of its entries and of its fields, if there is no
    cross-field entry. -/
theorem runParts_decides {fields : List (Value × Assertion)} {v : Value} {c : Context}
    (hv : W → v.IsWritable) (hc : H → c.Speaks factory W)
    (habsent : ∀ field ∈ fields, isCrossField field.1 = .ok false)
    {ask : List (Value × Value) → Check Unit} {p : List (Value × Value) → Prop}
    (hask : ∀ entries, (W → ∀ entry ∈ entries, entry.1.IsWritable ∧ entry.2.IsWritable) →
      (ask entries).Decides factory H W (p entries))
    (hfields : ∀ entries, (W → ∀ entry ∈ entries, entry.1.IsWritable ∧ entry.2.IsWritable) →
      (runFields fields entries c).Decides factory H W (FieldsAccept factory fields entries)) :
    (objectEntries v c >>= fun entries => ask entries >>= fun _ =>
        runFields fields entries c >>= fun _ => runCrossField fields v c).Decides factory H W
      (∃ entries, v.mapping? = some entries ∧ p entries ∧ FieldsAccept factory fields entries) := by
  simp only [runCrossField_of_absent habsent, bind_pure_unit]
  rcases hentries : v.mapping? with _ | entries
  · rcases objectEntries_of_not_mapping hentries with ⟨message, hrefused⟩
    rw [hrefused]
    exact Or.inr ⟨fun ⟨_, h, _⟩ => absurd h (by simp only [reduceCtorEq, not_false_eq_true]),
      (Context.failAt_refuses hc (written_ok message)).bind _⟩
  · have hwritable : W → ∀ entry ∈ entries, entry.1.IsWritable ∧ entry.2.IsWritable :=
      fun hW => Value.isWritable_of_mem_mapping (hv hW) hentries
    rw [objectEntries_of_mapping hentries, pure_bind]
    simp only [Option.some.injEq, exists_eq_left']
    exact (hask entries hwritable).andThen fun _ => hfields entries hwritable

mutual

/-- A run decides whether its value is accepted. -/
theorem run_decides : ∀ (a : Assertion) (position : Position), a.Everywhere (IsElementary factory) →
    position.Takes a → (H → a.Everywhere (ReportsAnswer factory)) →
    (W → a.Everywhere (ReportsWritable factory)) → ∀ (v : Value) (c : Context),
    (W → v.IsWritable) → (H → c.Speaks factory W) →
      (run a position v c).Decides factory H W (Accepts factory a v)
  | primitive p, position, _, _, _, _, v, c, hv, hc => by
      simp only [run, Accepts]
      exact primitive_decides hc p hv
  | test predicate message, position, ha, _, hreports, hwritable, v, c, hv, hc => by
      rcases ha v with ⟨answer, hanswer⟩
      simp only [run, Accepts]
      exact runTest_decides hc hanswer hreports hwritable hv
  | boundedText bounds, position, ha, _, _, hwritable, v, c, hv, hc => by
      simp only [run, Accepts]
      exact runBoundedText_decides hc ha hwritable hv
  | schema form fields, position, ha, hposition, hreports, hwritable, v, c, hv, hc => by
      have hparts := runParts_decides (v := v) (p := fun _ => True) hv hc ha.1
        (fun _ _ => Check.decides_of_yes trivial) fun entries hentries =>
          runFields_decides fields ha.1 ha.2 (fun hH => (hreports hH).2) (fun hW => (hwritable hW).1)
            (fun hW => (hwritable hW).2) entries c hentries hc
      simp only [pure_bind, true_and] at hparts
      simp only [run, Accepts]
      cases position with
      | part =>
          by_cases harray : v.isArray = true
          · -- An array is no mapping, and the schema says so in words of its own.
            simp only [harray, if_true, Context.failBehind_bind, Value.mapping?_of_isArray harray]
            exact Or.inr ⟨fun ⟨_, h, _⟩ => absurd h (by simp only [reduceCtorEq,
              not_false_eq_true]), Context.failBehind_refuses hc (written_ok _)⟩
          · simp only [harray, Bool.false_eq_true, if_false]
            exact hparts
      | fallback =>
          simp only
          exact hparts
      | called => exact absurd hposition id
      | direct => exact absurd hposition id
  | object inner own rules, position, ha, _, hreports, hwritable, v, c, hv, hc => by
      rcases ha.1 with ⟨⟨form, fields, rfl⟩, hrules⟩
      have hplace : H → (placeOf own c).Speaks factory W :=
        speaks_placeOf hc (fun hH => (hreports hH).1) fun hW => (hwritable hW).1
      simp only [run, Accepts]
      exact runParts_decides hv hplace ha.2.1
        (fun entries hentries => runNames_decides hplace hrules hentries) fun entries hentries =>
          runFields_decides fields ha.2.1 ha.2.2 (fun hH => (hreports hH).2.2)
            (fun hW => (hwritable hW).2.1) (fun hW => (hwritable hW).2.2) entries _ hentries hplace
  | array element rules, position, ha, _, hreports, hwritable, v, c, hv, hc => by
      simp only [run, Accepts]
      rcases harray : v.array? with _ | items
      · -- The shape is refused before there are items to run over.
        rw [arrayItems_of_not_array rules harray]
        exact Or.inr ⟨fun ⟨_, h, _⟩ => absurd h (by simp only [reduceCtorEq, not_false_eq_true]),
          (Context.failUnder_refuses hc (withShown_written hv _)).bind _⟩
      · have hitems := arrayItems_decides hc ha.1.1 (fun hW => (hwritable hW).1) ha.1.2 harray
        have helements := runElements_decides (run_decides element .part ha.2 trivial
          (fun hH => (hreports hH).2) fun hW => (hwritable hW).2) hc
          (fun hW => Value.isWritable_of_mem_array (hv hW) harray) 0
        have hboth := hitems.andThen fun _ => helements
        simp only [bind_assoc, pure_bind] at hboth
        rw [arrayItems_bind rules harray]
        simp only [Option.some.injEq, exists_eq_left']
        exact hboth
  | record item key keyField crossField, position, ha, _, hreports, hwritable, v, c, hv, hc => by
      rcases ha with ⟨⟨hfield, rfl⟩, hitem, hkey, _⟩
      simp only [run, runIfAny, Accepts]
      rcases hentries : v.mapping? with _ | entries
      · -- Nor are there entries in anything but a mapping.
        rw [recordEntries_of_not_mapping hentries]
        exact Or.inr ⟨fun ⟨_, h, _⟩ => absurd h (by simp only [reduceCtorEq, not_false_eq_true]),
          (Context.failUnder_refuses hc (recordComplaint_written hv)).bind _⟩
      · rw [recordEntries_of_mapping hentries]
        simp only [pure_bind, bind_pure_unit, Option.some.injEq, exists_eq_left']
        exact runEntries_decides (runIfAny_decides key hkey (fun hH => (hreports hH).2.2.1)
            fun hW => (hwritable hW).2.2.1)
          (run_decides item .part hitem trivial (fun hH => (hreports hH).2.1)
            fun hW => (hwritable hW).2.1) hfield hc
          fun hW => Value.isWritable_of_mem_mapping (hv hW) hentries
  | valueOr expected fallback, position, ha, _, hreports, hwritable, v, c, hv, hc => by
      simp only [run, Accepts]
      by_cases hsame : v.strictEq expected = true
      · rw [if_pos hsame]
        exact Check.decides_of_yes (Or.inl hsame)
      · rw [if_neg hsame]
        exact (run_decides fallback .fallback ha.2 trivial (fun hH => (hreports hH).2)
          (fun hW => (hwritable hW).2) v c hv hc).congr ⟨Or.inr, fun h => h.resolve_left hsame⟩
  | callable f, _, ha, _, _, _, _, _, _, _ => absurd ha id
  | value w, _, ha, _, _, _, _, _, _, _ => absurd ha id

theorem runFields_decides : ∀ (fields : List (Value × Assertion)),
    (∀ field ∈ fields, isCrossField field.1 = .ok false) →
    EverywhereInFields (IsElementary factory) fields →
    (H → EverywhereInFields (ReportsAnswer factory) fields) →
    (W → ∀ field ∈ fields, field.1.IsWritable) →
    (W → EverywhereInFields (ReportsWritable factory) fields) →
    ∀ (entries : List (Value × Value)) (c : Context),
      (W → ∀ entry ∈ entries, entry.1.IsWritable ∧ entry.2.IsWritable) →
      (H → c.Speaks factory W) →
      (runFields fields entries c).Decides factory H W (FieldsAccept factory fields entries)
  | [], _, _, _, _, _, _, _, _, _ => Check.decides_of_yes trivial
  | (key, a) :: fields, habsent, ha, hreports, hkeys, hwritable, entries, c, hentries, hc => by
      rcases List.forall_mem_cons.mp habsent with ⟨hkey, hrest⟩
      simp only [runFields, FieldsAccept, hkey, Check.ofExcept_ok, pure_bind, Bool.false_eq_true,
        if_false]
      have hplace : H → (Context.field c key).Speaks factory W := fun hH =>
        Context.speaks_extend (hc hH) (.field key) fun hW =>
          hkeys hW (key, a) List.mem_cons_self
      have hfield := run_decides a .part ha.1 trivial (fun hH => (hreports hH).1)
        (fun hW => (hwritable hW).1) (Entries.get entries key) (.field c key)
        (fun hW => Value.isWritable_get (hentries hW) key) hplace
      exact hfield.andThen fun _ =>
        runFields_decides fields hrest ha.2 (fun hH => (hreports hH).2)
          (fun hW field hmem => hkeys hW field (List.mem_cons_of_mem _ hmem))
          (fun hW => (hwritable hW).2) entries c hentries hc

theorem runIfAny_decides : ∀ (a : Option Assertion), EverywhereIfAny (IsElementary factory) a →
    (H → EverywhereIfAny (ReportsAnswer factory) a) →
    (W → EverywhereIfAny (ReportsWritable factory) a) → ∀ (v : Value) (c : Context),
    (W → v.IsWritable) → (H → c.Speaks factory W) →
      (runIfPresent (runIfAny a .part) v c).Decides factory H W (AcceptsIfAny factory a v)
  | none, _, _, _, _, _, _, _ => Check.decides_of_yes trivial
  | some a, ha, hreports, hwritable, v, c, hv, hc => by
      simp only [runIfAny, runIfPresent, AcceptsIfAny]
      exact run_decides a .part ha trivial hreports hwritable v c hv hc

end

end Parts

/-- A record of members with no other fields than an identifier, which is also the key, and at
    most two tags. -/
def roster : Assertion :=
  record (object (schema .dict [(.text "id", primitive .string), (.text "tags", valueOr .undefined
      (array (boundedText ⟨.int 1, .null⟩) ⟨⟨.int 0, .int 2⟩, none⟩))])
    none ⟨true, .tuple .converted []⟩) (some (primitive .string)) (some "id") none

/-- A record of one member under a key. -/
def rosterOf (key : String) (fields : List (Value × Value)) : Value :=
  .dict (.given 0) [(.text key, .dict (.given 1) fields)]

theorem roster_isElementary : roster.Everywhere (IsElementary .standard) := by
  refine ⟨⟨by simp, rfl⟩, ⟨⟨⟨.dict, _, rfl⟩, fun _ => ⟨[], rfl, rfl⟩⟩, ?_, trivial,
    ⟨trivial, ⟨⟨Or.inr ⟨0, rfl⟩, Or.inr ⟨2, rfl⟩⟩, rfl⟩, Or.inr ⟨1, rfl⟩, Or.inl rfl⟩, trivial⟩,
    trivial, trivial⟩
  intro field hfield
  rcases List.mem_cons.mp hfield with rfl | hfield
  · rfl
  · rw [List.mem_singleton.mp hfield]
    rfl

theorem roster_reportsAnswer : roster.Everywhere (ReportsAnswer .standard) :=
  ⟨trivial, ⟨trivial, trivial, trivial, ⟨trivial, trivial, trivial⟩, trivial⟩, trivial, trivial⟩

theorem roster_reportsWritable : roster.Everywhere (ReportsWritable .standard) := by
  have hkeys : ∀ field ∈ [(Value.text "id", primitive .string), (.text "tags", valueOr .undefined
      (array (boundedText ⟨.int 1, .null⟩) ⟨⟨.int 0, .int 2⟩, none⟩))], field.1.IsWritable := by
    intro field hfield
    rcases List.mem_cons.mp hfield with rfl | hfield
    · exact trivial
    · rw [List.mem_singleton.mp hfield]
      exact trivial
  exact ⟨trivial, ⟨trivial, hkeys, trivial, ⟨trivial,
    ⟨Value.isWritable_digit (by decide), Value.isWritable_digit (by decide)⟩,
    Value.isWritable_digit (by decide), trivial⟩, trivial⟩, trivial, trivial⟩

theorem rosterOf_isWritable (key value : String) :
    (rosterOf key [(.text "id", .text value)]).IsWritable :=
  ⟨trivial, ⟨trivial, trivial, trivial⟩, trivial⟩

end Assertion

end Attest
