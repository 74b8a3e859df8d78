import Attest.Assertion.Run
import Attest.Proofs.Outcome

/-!
# What Can Be Written

Values, places and messages, and what is in the way of writing them.

A report is put together from texts: the place, what is wrong, and the value. Each of these is
written only when there is something to report, and writing may fail. An integer of more
than 4300 digits is not written, and what writes itself may raise instead. `IsWritable` says of a
value that it holds nothing of the kind. It is a property of the value alone, said without
writing it.

Two things are said of every text, and both are needed of all the parts that a text is made
of: it can be had if the values in it are writable, and if it cannot be had, then the fault is one
of writing and no other. `Written` and `Check.Tells` keep both in one statement, under a
condition that the run as a whole fixes. With a condition that does not hold, they only say what
the fault can be.

## Main definitions

* `Written`: A form can be had, or its fault comes from writing.
* `Value.IsWritable`: A value holds nothing that cannot be written.
* `Raised.ofReport`: What is raised for a report.
* `Check.Tells`: A computation ends with a value, or its fault comes from writing.

## Theorems

* `decimalForm_ok`, `decimalForm_error`: The integers that are written.
* `quoted_written`, `plain_written`, `shown_written`: The forms of writable values.
* `isWritable_of_mem_array`, `isWritable_get`: The parts of writable values.
* `render_written`, `complaint_written`: The forms that reports are made of.
-/

namespace Attest

/-- A form can be had, or else its fault comes from writing. Under the condition it can be had. -/
def Written {α : Type} (W : Prop) (x : Except Fault α) : Prop :=
  (∃ a, x = .ok a) ∨ (¬W ∧ ∃ f : Fault, f.IsUnwritable ∧ x = .error f)

section

variable {α β : Type} {W : Prop}

theorem written_ok (a : α) : Written W (.ok a) :=
  Or.inl ⟨a, rfl⟩

theorem Written.bind {x : Except Fault α} {f : α → Except Fault β} (hx : Written W x)
    (hf : ∀ a, Written W (f a)) : Written W (x >>= f) := by
  rcases hx with ⟨a, rfl⟩ | ⟨hW, fault, hfault, rfl⟩
  · exact hf a
  · exact Or.inr ⟨hW, fault, hfault, rfl⟩

/-- What is done with a form afterwards cannot fail. -/
theorem Written.map {x : Except Fault α} (hx : Written W x) (f : α → β) :
    Written W (x >>= fun a => pure (f a)) :=
  hx.bind fun a => written_ok (f a)

/-- What is said under a condition is said under every one that is as strong. -/
theorem Written.mono {V : Prop} {x : Except Fault α} (hx : Written W x) (h : V → W) :
    Written V x :=
  hx.imp_right fun hno => ⟨fun hV => hno.1 (h hV), hno.2⟩

theorem Written.exists_ok {x : Except Fault α} (hx : Written W x) (hW : W) : ∃ a, x = .ok a :=
  hx.resolve_right fun h => h.1 hW

theorem Written.isUnwritable {x : Except Fault α} (hx : Written W x) {f : Fault}
    (hf : x = .error f) : f.IsUnwritable := by
  rcases hx with ⟨a, ha⟩ | ⟨_, fault, hfault, herror⟩
  · rw [ha] at hf
    exact absurd hf (by simp only [reduceCtorEq, not_false_eq_true])
  · rw [herror, Except.error.injEq] at hf
    exact hf ▸ hfault

end

/-- An object that writes itself gives a text. -/
def Writing.IsText : Writing → Prop
  | text _ => True
  | refused .. => False

namespace ExceptionKind

/-- What the exceptions of a kind give standing alone, if they write themselves. -/
def ownPlain : ExceptionKind → Option Writing
  | own _ _ plain _ => plain
  | _ => none

/-- What the exceptions of a kind give inside a container, if they write themselves. -/
def ownQuoted : ExceptionKind → Option Writing
  | own _ _ _ quoted => quoted
  | _ => none

/-- The exceptions of a kind do not refuse to be written. -/
def IsWritable (kind : ExceptionKind) : Prop :=
  (∀ written, kind.ownPlain = some written → written.IsText) ∧
    ∀ written, kind.ownQuoted = some written → written.IsText

end ExceptionKind

namespace Value

mutual

/-- A value holds no integer of too many digits and nothing that refuses to be written. -/
def IsWritable : Value → Prop
  | int n => n.natAbs < Nat.pow 10 Grouped.mostDigits
  | fraction q =>
    q.num.natAbs < Nat.pow 10 Grouped.mostDigits ∧ q.den < Nat.pow 10 Grouped.mostDigits
  | list _ items | tuple _ items | set _ items | frozenSet _ items | applied _ items =>
    AreWritable items
  | dict _ entries | view _ entries | ordered _ entries => AreWritableEntries entries
  | object _ written _ => written.IsText
  | exception _ kind arguments => kind.IsWritable ∧ AreWritable arguments
  | _ => True

/-- All of the values are writable. -/
def AreWritable : List Value → Prop
  | [] => True
  | v :: vs => IsWritable v ∧ AreWritable vs

/-- All keys and values of the entries are writable. -/
def AreWritableEntries : List (Value × Value) → Prop
  | [] => True
  | (key, v) :: entries => IsWritable key ∧ IsWritable v ∧ AreWritableEntries entries

end

section Parts

variable {v : Value} {entries : List (Value × Value)}

theorem areWritable_iff {vs : List Value} : AreWritable vs ↔ ∀ v ∈ vs, v.IsWritable := by
  induction vs with
  | nil => exact ⟨fun _ v hv => absurd hv List.not_mem_nil, fun _ => trivial⟩
  | cons v vs ih => rw [AreWritable, ih, List.forall_mem_cons]

theorem areWritableEntries_iff : AreWritableEntries entries ↔
    ∀ entry ∈ entries, entry.1.IsWritable ∧ entry.2.IsWritable := by
  induction entries with
  | nil => exact ⟨fun _ entry hentry => absurd hentry List.not_mem_nil, fun _ => trivial⟩
  | cons entry entries ih => rw [AreWritableEntries, ih, List.forall_mem_cons, and_assoc]

theorem isWritable_of_mem_array {items : List Value} (hv : v.IsWritable)
    (hitems : v.array? = some items) : ∀ item ∈ items, item.IsWritable := by
  cases v <;> simp only [array?, reduceCtorEq, Option.some.injEq] at hitems <;> subst hitems <;>
    exact areWritable_iff.mp hv

theorem isWritable_of_mem_mapping (hv : v.IsWritable) (hentries : v.mapping? = some entries) :
    ∀ entry ∈ entries, entry.1.IsWritable ∧ entry.2.IsWritable := by
  cases v <;> simp only [mapping?, reduceCtorEq, Option.some.injEq] at hentries <;>
    subst hentries <;> exact areWritableEntries_iff.mp hv

/-- A field is writable if all entries are, and so is one that is missing. -/
theorem isWritable_get (h : ∀ entry ∈ entries, entry.1.IsWritable ∧ entry.2.IsWritable)
    (key : Value) : (Entries.get entries key).IsWritable := by
  rcases hfound : entries.find? fun entry => entry.1.isSameKey key with _ | entry
  · have hget : Entries.get entries key = undefined := by
      rw [Entries.get, Entries.find?, hfound, Option.map_none, Option.getD_none]
    rw [hget]
    exact trivial
  · have hget : Entries.get entries key = entry.2 := by
      rw [Entries.get, Entries.find?, hfound, Option.map_some, Option.getD_some]
    rw [hget]
    exact (h entry (List.mem_of_find?_eq_some hfound)).2

end Parts

section Forms

/-- A number has at most as many digits as the power of ten above it says. -/
theorem count_le_iff (n : Nat) {k : Nat} (hk : 0 < k) : Digits.count n ≤ k ↔ n < Nat.pow 10 k :=
  Nat.length_toDigits_le_iff (by decide) hk

theorem mostDigits_pos : 0 < Grouped.mostDigits := by
  decide

theorem decimalForm_ok {n : Int} (h : n.natAbs < Nat.pow 10 Grouped.mostDigits) :
    decimalForm n = .ok (String.ofList (Digits.ofInt n)) :=
  if_neg (Nat.not_lt.mpr ((count_le_iff _ mostDigits_pos).mpr h))

theorem decimalForm_error {n : Int} (h : Nat.pow 10 Grouped.mostDigits ≤ n.natAbs) :
    decimalForm n = .error .integerTooLong :=
  if_pos (Nat.lt_of_not_le fun hcount =>
    Nat.not_lt.mpr h ((count_le_iff _ mostDigits_pos).mp hcount))

variable {W : Prop}

theorem decimalForm_written {n : Int} (h : W → n.natAbs < Nat.pow 10 Grouped.mostDigits) :
    Written W (decimalForm n) := by
  by_cases hn : n.natAbs < Nat.pow 10 Grouped.mostDigits
  · exact Or.inl ⟨_, decimalForm_ok hn⟩
  · exact Or.inr ⟨fun hW => hn (h hW), .integerTooLong, trivial,
      decimalForm_error (Nat.le_of_not_lt hn)⟩

theorem form_written {written : Writing} (h : W → written.IsText) : Written W written.form := by
  cases written with
  | text s => exact written_ok s
  | refused id kind arguments => exact Or.inr ⟨h, .unwritable id kind arguments, trivial, rfl⟩

section Exceptions

variable {id : Identity} {kind : ExceptionKind} {arguments : List Value} {written : Writing}

theorem quoted_exception_of_some (h : kind.ownQuoted = some written) :
    quoted (exception id kind arguments) = written.form := by
  cases kind <;> simp only [ExceptionKind.ownQuoted, reduceCtorEq] at h
  subst h
  simp only [quoted]

theorem quoted_exception_of_none (h : kind.ownQuoted = none) :
    quoted (exception id kind arguments) =
      (quotedAll arguments >>= fun texts => pure (kind.name ++ "(" ++ commaList texts ++ ")")) := by
  cases kind <;> first | rfl | skip
  simp only [ExceptionKind.ownQuoted] at h
  subst h
  rfl

theorem plain_exception_of_some (h : kind.ownPlain = some written) :
    plain (exception id kind arguments) = written.form := by
  cases kind <;> simp only [ExceptionKind.ownPlain, reduceCtorEq] at h
  subst h
  simp only [plain]

/-- An exception about one thing, of a kind that does not write itself, shows that thing. -/
theorem plain_exception_single (h : kind.ownPlain = none) (argument : Value) :
    plain (exception id kind [argument]) = argument.quoted ∨
      plain (exception id kind [argument]) = argument.plain := by
  cases kind with
  | keyError => exact Or.inl rfl
  | own name isOrdinary plain quoted =>
      simp only [ExceptionKind.ownPlain] at h
      rw [h]
      exact Or.inr rfl
  | _ => exact Or.inr rfl

/-- Apart from that it shows nothing, or all that it holds. -/
theorem plain_exception_several (h : kind.ownPlain = none)
    (hseveral : ∀ argument, arguments ≠ [argument]) :
    plain (exception id kind arguments) = .ok "" ∨
      plain (exception id kind arguments) =
        (quotedAll arguments >>= fun texts => pure (parenthesised texts)) := by
  rcases arguments with _ | ⟨first, _ | ⟨second, rest⟩⟩
  · refine Or.inl ?_
    cases kind with
    | own name isOrdinary plain quoted =>
        simp only [ExceptionKind.ownPlain] at h
        rw [h]
        rfl
    | _ => rfl
  · exact absurd rfl (hseveral first)
  · refine Or.inr ?_
    cases kind with
    | own name isOrdinary plain quoted =>
        simp only [ExceptionKind.ownPlain] at h
        rw [h]
        rfl
    | _ => rfl

end Exceptions

mutual

/-- The form of a value inside a container can be had if the value is writable. -/
theorem quoted_written : ∀ {v : Value}, (W → v.IsWritable) → Written W v.quoted
  | int n, h => decimalForm_written h
  | fraction q, h => (decimalForm_written fun hW => (h hW).1).bind fun _ =>
      (decimalForm_written (n := q.den) fun hW => (h hW).2).map _
  | list _ items, h => (quotedAll_written h).map _
  | tuple _ items, h => (quotedAll_written h).map _
  | set _ items, h => (quotedAll_written h).map _
  | frozenSet _ items, h => (quotedAll_written h).map _
  | applied _ items, h => (quotedAll_written h).map _
  | dict _ entries, h => (quotedEntries_written h).map _
  | view _ entries, h => (quotedEntries_written h).map _
  | ordered _ entries, h => (quotedEntries_written h).map _
  | object _ written _, h => form_written h
  | exception id kind arguments, h => by
      rcases hown : kind.ownQuoted with _ | written
      · rw [quoted_exception_of_none hown]
        exact (quotedAll_written fun hW => (h hW).2).map _
      · rw [quoted_exception_of_some hown]
        exact form_written fun hW => (h hW).1.2 written hown
  | undefined, _ | null, _ | bool _, _ | float .., _ | decimal .., _ | text _, _ | bytes _, _
  | dateTime _, _ | timestamp _, _ | date _, _ | function .., _ | callable .., _ | builtin _, _ =>
      written_ok _

theorem quotedAll_written : ∀ {vs : List Value}, (W → AreWritable vs) → Written W (quotedAll vs)
  | [], _ => written_ok []
  | _ :: _, h => (quoted_written fun hW => (h hW).1).bind fun _ =>
      (quotedAll_written fun hW => (h hW).2).map _

theorem quotedEntries_written : ∀ {entries : List (Value × Value)},
    (W → AreWritableEntries entries) → Written W (quotedEntries entries)
  | [], _ => written_ok []
  | (_, _) :: _, h => (quoted_written fun hW => (h hW).1).bind fun _ =>
      (quoted_written fun hW => (h hW).2.1).bind fun _ =>
        (quotedEntries_written fun hW => (h hW).2.2).map _

end

theorem ratio_written {q : Rat} (h : W → (fraction q).IsWritable) : Written W (ratio q) := by
  unfold ratio
  refine (decimalForm_written fun hW => (h hW).1).bind fun numerator => ?_
  split
  · exact written_ok numerator
  · exact (decimalForm_written (n := q.den) fun hW => (h hW).2).map _

theorem plain_several_written {id : Identity} {kind : ExceptionKind} {arguments : List Value}
    (hseveral : ∀ argument, arguments ≠ [argument])
    (h : W → (exception id kind arguments).IsWritable) :
    Written W (plain (exception id kind arguments)) := by
  rcases hown : kind.ownPlain with _ | written
  · rcases plain_exception_several hown hseveral with hplain | hplain
    · rw [hplain]
      exact written_ok ""
    · rw [hplain]
      exact (quotedAll_written fun hW => (h hW).2).map _
  · rw [plain_exception_of_some hown]
    exact form_written fun hW => (h hW).1.1 written hown

/-- The form of a value that stands alone can be had if the value is writable. -/
theorem plain_written : ∀ {v : Value}, (W → v.IsWritable) → Written W v.plain
  | fraction q, h => ratio_written h
  | view _ _, h => (quotedEntries_written h).map _
  | exception _ kind [argument], h => by
      have hargument : W → argument.IsWritable := fun hW => (h hW).2.1
      rcases hown : kind.ownPlain with _ | written
      · rcases plain_exception_single hown argument with hplain | hplain
        · rw [hplain]
          exact quoted_written hargument
        · rw [hplain]
          exact plain_written hargument
      · rw [plain_exception_of_some hown]
        exact form_written fun hW => (h hW).1.1 written hown
  | exception _ _ [], h => plain_several_written (fun _ hsame => nomatch hsame) h
  | exception _ _ (_ :: _ :: _), h => plain_several_written (fun _ hsame => nomatch hsame) h
  | list .., h | tuple .., h | set .., h | frozenSet .., h | applied .., h | dict .., h
  | ordered .., h | object .., h | int _, h => quoted_written h
  | undefined, _ | null, _ | bool _, _ | float .., _ | decimal .., _ | text _, _ | bytes _, _
  | dateTime _, _ | timestamp _, _ | date _, _ | function .., _ | callable .., _ | builtin _, _ =>
      written_ok _

theorem scalar_written {v : Value} (h : W → v.IsWritable) : Written W v.scalar := by
  cases v with
  | function id name =>
      simp only [scalar]
      split
      · exact quoted_written h
      · exact written_ok name
  | applied c arguments => exact written_ok c.name
  | bool b => exact written_ok _
  | null => exact written_ok _
  | _ => exact plain_written h

/-- A value as messages name it. -/
theorem shown_written {v : Value} (h : W → v.IsWritable) : Written W v.shown := by
  cases v with
  | undefined => exact written_ok _
  | null => exact written_ok _
  | _ => exact (scalar_written h).map _

end Forms

end Value

namespace Value

/-- The least number that has too many digits. -/
def overlong : Value :=
  .int (Int.ofNat (Nat.pow 10 Grouped.mostDigits))

theorem ten_le_pow {k : Nat} (hk : 0 < k) : 10 ≤ Nat.pow 10 k :=
  Nat.pow_le_pow_right (Nat.succ_pos 9) hk

/-- A number of one digit can be written. -/
theorem isWritable_digit {n : Int} (h : n.natAbs < 10) : (int n).IsWritable :=
  Nat.lt_of_lt_of_le h (ten_le_pow mostDigits_pos)

section Overlong

variable {n : Nat} (h : Nat.pow 10 Grouped.mostDigits ≤ n)

include h

/-- A number of too many digits has no form inside a container. -/
theorem quoted_ofNat_error : quoted (.int (Int.ofNat n)) = .error .integerTooLong :=
  decimalForm_error h

theorem plain_ofNat_error : plain (.int (Int.ofNat n)) = .error .integerTooLong :=
  decimalForm_error h

theorem shown_ofNat_error : shown (.int (Int.ofNat n)) = .error .integerTooLong := by
  have hscalar : scalar (.int (Int.ofNat n)) = .error .integerTooLong := plain_ofNat_error h
  simp only [shown, hscalar]
  rfl

end Overlong

theorem isTruthy_ofNat {n : Nat} (h : 0 < n) : (int (Int.ofNat n)).isTruthy = true :=
  decide_eq_true fun hzero => Nat.ne_of_gt h (Int.ofNat.inj hzero)

theorem overlong_isTruthy : overlong.isTruthy = true :=
  isTruthy_ofNat (Nat.lt_of_lt_of_le (Nat.succ_pos 9) (ten_le_pow mostDigits_pos))

/-- The least number of too many digits has no form at all. -/
theorem quoted_overlong : overlong.quoted = .error .integerTooLong :=
  quoted_ofNat_error (Nat.le_refl _)

theorem plain_overlong : overlong.plain = .error .integerTooLong :=
  plain_ofNat_error (Nat.le_refl _)

theorem shown_overlong : overlong.shown = .error .integerTooLong :=
  shown_ofNat_error (Nat.le_refl _)

end Value

section Reports

variable {W : Prop}

/-- What a provider gave, as text. -/
theorem render_written {v : Value} (h : W → v.IsWritable) : Written W (Provider.render v) := by
  cases v with
  | text s => exact written_ok s
  | _ => exact (Value.plain_written h).map _

theorem withShown_written {v : Value} (h : W → v.IsWritable) (message : String) :
    Written W (Assertion.withShown message v) :=
  (Value.shown_written h).map _

/-- What is wrong with a value, behind what its place gave. -/
theorem complaint_written {place v : Value} (hplace : W → place.IsWritable)
    (hv : W → v.IsWritable) (message : String) :
    Written W (Context.complaint place message v) := by
  unfold Context.complaint
  split
  · exact (Value.plain_written hplace).bind fun _ => (Value.shown_written hv).map _
  · exact (Value.shown_written hv).map _

theorem checkedForm_written {v : Value} (h : W → v.IsWritable) :
    Written W (Assertion.checkedForm v) := by
  unfold Assertion.checkedForm
  split
  all_goals first
    | exact written_ok _
    | exact (Value.scalar_written h).map _

end Reports

/-- What is raised for a report: what the factory makes of its text, or the fault of writing it. -/
def Raised.ofReport (factory : ErrorFactory) : Except Fault String → Raised
  | .ok message => factory (.text message) []
  | .error f => .fault f

namespace Check

/-- A computation ends with a value, or else what it raises is a fault of writing. Under the
    condition it ends with a value. -/
def Tells {α : Type} (factory : ErrorFactory) (W : Prop) (x : Check α) : Prop :=
  (∃ a, (x factory).result = .ok a) ∨
    (¬W ∧ ∃ f : Fault, f.IsUnwritable ∧ (x factory).result = .error (.fault f))

variable {α β : Type} {factory : ErrorFactory} {W : Prop}

theorem tells_of_ok {x : Check α} {a : α} (h : (x factory).result = .ok a) : x.Tells factory W :=
  Or.inl ⟨a, h⟩

theorem ofExcept_tells {x : Except Fault α} (h : Written W x) : (ofExcept x).Tells factory W := by
  rcases h with ⟨a, rfl⟩ | ⟨hW, f, hf, rfl⟩
  · exact tells_of_ok rfl
  · exact Or.inr ⟨hW, f, hf, rfl⟩

theorem Tells.mono {V : Prop} {x : Check α} (hx : x.Tells factory W) (h : V → W) :
    x.Tells factory V :=
  hx.imp_right fun hno => ⟨fun hV => hno.1 (h hV), hno.2⟩

theorem Tells.bind {x : Check α} {f : α → Check β} (hx : x.Tells factory W)
    (hf : ∀ a, (x factory).result = .ok a → (f a).Tells factory W) :
    (x >>= f).Tells factory W := by
  unfold Tells
  rw [result_bind]
  rcases hx with ⟨a, ha⟩ | ⟨hW, fault, hfault, herror⟩
  · rw [ha]
    exact hf a ha
  · rw [herror]
    exact Or.inr ⟨hW, fault, hfault, rfl⟩

/-- To fail with a report that is not empty is to raise what comes of it. -/
theorem failText_ofExcept_raises {report : Except Fault String} (h : report ≠ .ok "") :
    ((failText (ofExcept report) : Check α) factory).result =
      .error (Raised.ofReport factory report) := by
  rw [failText_raises fun s hs hempty => h (hempty ▸ ofExcept_ok_iff.mp hs)]
  cases report <;> rfl

/-- What is done with a value afterwards cannot fail. -/
theorem Tells.map {x : Check α} (hx : x.Tells factory W) (f : α → β) :
    (x >>= fun a => pure (f a)).Tells factory W :=
  hx.bind fun _ _ => tells_of_ok rfl

theorem Tells.of_map {x : Check α} {f : α → β}
    (h : (x >>= fun a => pure (f a)).Tells factory W) : x.Tells factory W := by
  rcases hx : (x factory).result with raised | a
  · unfold Tells at h
    rw [result_bind, hx] at h
    rcases h with ⟨b, hb⟩ | ⟨hW, fault, hfault, herror⟩
    · exact absurd hb (by simp only [reduceCtorEq, not_false_eq_true])
    · exact Or.inr ⟨hW, fault, hfault, hx.trans (congrArg Except.error (Except.error.inj herror))⟩
  · exact tells_of_ok hx

end Check

end Attest
