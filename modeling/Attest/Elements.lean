import Attest.Outcome
import Attest.Value.Equality
import Attest.Value.Sequence

/-!
# Checks on Elements

Two checks on sequences that take a function: whether the elements are pairwise
different by an identity, and whether two sequences are equal by a comparison.

Elements are asked for their identity in order, once each, and identities are
compared as keys. The first identity that was met before ends the check, so no
element behind it is asked. A new identity is kept, and therefore has to be a key; one
that was met before is only looked for. A sequence of at most one element has nothing to
compare and asks nothing.

## Main definitions

* `hasUniqueElements`: No two elements have the same identity.
* `haveEqualElements`: Two sequences are equal, element by element.
-/

namespace Attest

/-- Whether no element has the identity of an earlier one, where `seen` are the
    identities met so far. -/
def uniqueAfter (identity : Value → Check Value) (seen : List Value) : List Value → Check Bool
  | [] => pure true
  | element :: elements => do
    let key ← identity element
    if ← Check.ofExcept (Value.isMember seen key) then return false
    else
      Check.ofExcept key.hashable
      uniqueAfter identity (key :: seen) elements

/-- Whether no two elements of a value have the same identity. -/
def hasUniqueElements (value : Value) (identity : Value → Check Value) : Check Bool := do
  let length ← Check.ofExcept value.length
  if length ≤ 1 then return true
  else uniqueAfter identity [] (← Check.ofExcept value.elements)

/-- Whether the comparison holds of all pairs, up to the first of which it does not. -/
def allPairs (compare : Value → Value → Check Value) : List (Value × Value) → Check Bool
  | [] => pure true
  | (a, b) :: pairs => do
    if (← compare a b).isTruthy then allPairs compare pairs else return false

/-- Whether two values have equal elements in the same order. A value that is
    missing equals only one that is missing in the same way. -/
def haveEqualElements (a b : Value) (compare : Value → Value → Check Value) : Check Bool := do
  if !a.isPresent || !b.isPresent then return a.isSame b
  else
    let m ← Check.ofExcept a.length
    let n ← Check.ofExcept b.length
    if m ≠ n then return false
    else
      let xs ← Check.ofExcept a.elements
      let ys ← Check.ofExcept b.elements
      allPairs compare (xs.zip ys)

end Attest
