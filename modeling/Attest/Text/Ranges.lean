/-!
# Ranges of Characters

Sets of characters given as a list of ranges of code points.

A property of characters that is fixed by a standard, such as being a letter of
some script, has no rule that could be computed; it is a table. A table is a
list of ranges in ascending order, each with its first and its last code point.

## Main definitions

* `Ranges.has`, `inRanges`: Membership of a code point and of a character in a table.

## Theorems

* `inRanges_of_mem`: A character between the ends of a range is in the table.
-/

namespace Attest

namespace Text

/-- A set of characters as ranges of code points, first and last included. -/
abbrev Ranges := List (Nat × Nat)

/-- Whether a code point lies in one of the ranges. -/
def Ranges.has (ranges : Ranges) (n : Nat) : Bool :=
  ranges.any fun (first, last) => first ≤ n && n ≤ last

/-- Whether a character lies in one of the ranges. -/
def inRanges (ranges : Ranges) (c : Char) : Bool :=
  ranges.has c.toNat

theorem inRanges_of_mem {ranges : Ranges} {first last : Nat} (h : (first, last) ∈ ranges)
    {c : Char} (hfirst : first ≤ c.toNat) (hlast : c.toNat ≤ last) : inRanges ranges c = true := by
  refine List.any_eq_true.mpr ⟨(first, last), h, ?_⟩
  simp only [decide_eq_true hfirst, decide_eq_true hlast, Bool.and_self]

end Text

end Attest
