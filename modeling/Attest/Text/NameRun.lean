/-!
# Runs of Names

Names of characters with successive code points.

Neighbours have similar names: letters of one script begin with its name. A run keeps
what all its names begin with only once, as the stem, and the endings between bars.

## Main definitions

* `NameRun`: A run.
* `NameRun.code?`: The code point that a name has in a run.
-/

namespace Attest

namespace Text

/-- Names of characters with successive code points. -/
structure NameRun where
  /-- The first code point. -/
  first : Nat
  /-- What all names begin with. -/
  stem : String
  /-- The endings of the names, in lines, between bars. -/
  endings : List String

/-- The parts of a line between bars, where `front` is the beginning of the first part,
    turned around. -/
def betweenBars (front : List Char) : List Char → List (List Char)
  | [] => [front.reverse]
  | c :: cs => if c = '|' then front.reverse :: betweenBars [] cs else betweenBars (c :: front) cs

/-- The code point that a name has in a run. -/
def NameRun.code? (r : NameRun) (name : List Char) : Option Nat :=
  let stem := r.stem.toList
  if stem.isPrefixOf name then
    let endings := r.endings.flatMap fun line => betweenBars [] line.toList
    (endings.idxOf? (name.drop stem.length)).map (r.first + ·)
  else none

end Text

end Attest
