import Attest.Number.Binary64

/-!
# Shortest Decimals

A floating number written with the fewest digits that identify it.

The reals that round to a number form an interval around it, reaching half way
to each neighbour, its ends included exactly if the significand is even. Of the
decimals in that interval the ones with the fewest digits are the candidates,
and of those the one nearest to the number is written. Both neighbours of the
number on the grid of `n`-digit decimals are tested for `n` from one to
seventeen; the first grid with a hit wins. Seventeen digits always suffice.

The selection says which digits; the layout says where the point goes. Layout
is positional while the decimal exponent lies between `-4` and `15`, and
scientific with a signed exponent of at least two digits outside of it.

## Main definitions

* `Binary64.Rounds`: The reals that round to a number, as a test on quotients.
* `Binary64.shortest`: The fewest digits that identify a number.
* `Binary64.text`: The written form of a number.
-/

namespace Attest

namespace Binary64

/-- The quotient `num / den` of naturals times `2 ^ q`, as a pair of naturals. -/
def raised (num den : Nat) (q : Int) : Nat × Nat :=
  if 0 ≤ q then (num * Nat.pow 2 q.toNat, den) else (num, den * Nat.pow 2 (-q).toNat)

/-- The lower and upper end of the interval of reals that round to `m · 2 ^ q`,
    in units of `2 ^ (q - 2)`. The gap below a power of two is half as wide,
    except at the smallest exponent. -/
def ends (m : Nat) (q : Int) : Nat × Nat :=
  (if m = Nat.pow 2 52 ∧ q ≠ -1074 then 4 * m - 1 else 4 * m - 2, 4 * m + 2)

/-- Whether the decimal `c · 10 ^ k` rounds to `m · 2 ^ q`. -/
def Rounds (m : Nat) (q : Int) (c : Nat) (k : Int) : Prop :=
  let (low, high) := ends m q
  let (cn, cd) := if 0 ≤ k then (c * Nat.pow 10 k.toNat, 1) else (c, Nat.pow 10 (-k).toNat)
  let (ln, ld) := raised low 1 (q - 2)
  let (hn, hd) := raised high 1 (q - 2)
  if m % 2 = 0 then ln * cd ≤ cn * ld ∧ cn * hd ≤ hn * cd
  else ln * cd < cn * ld ∧ cn * hd < hn * cd

instance (m : Nat) (q : Int) (c : Nat) (k : Int) : Decidable (Rounds m q c k) := by
  unfold Rounds
  infer_instance

/-- The decimal exponent of the leading digit of `num / den`, for a positive
    quotient. The lengths of the two digit strings pin it down to one of two. -/
def leadingExponent (num den : Nat) : Int :=
  let guess : Int := (Digits.write num).length - (Digits.write den).length
  let below : Bool :=
    if 0 ≤ guess then num < den * Nat.pow 10 guess.toNat else num * Nat.pow 10 (-guess).toNat < den
  if below then guess - 1 else guess

/-- The `n`-digit decimal nearest to `m · 2 ^ q` among the two next to it that
    round to it, as digits and a power of ten. The even digit string is taken if
    both are equally near. -/
def withDigits? (m : Nat) (q : Int) (n : Nat) : Option (Nat × Int) :=
  let (num, den) := raised m 1 q
  let k : Int := leadingExponent num den - n + 1
  let (gn, gd) :=
    if 0 ≤ k then (num, den * Nat.pow 10 k.toNat) else (num * Nat.pow 10 (-k).toNat, den)
  let c := gn / gd
  let twice := 2 * (gn % gd)
  -- Both neighbours identify the number, so the nearer one is taken.
  if Rounds m q c k ∧ Rounds m q (c + 1) k then
    if twice < gd ∨ (twice = gd ∧ c % 2 = 0) then some (c, k) else some (c + 1, k)
  else if Rounds m q c k then some (c, k)
  else if Rounds m q (c + 1) k then some (c + 1, k)
  else none

/-- Remove trailing zeros from a digit string. -/
def stripZeros (ds : List Char) : List Char :=
  (ds.reverse.dropWhile (· = '0')).reverse

/-- The fewest digits that identify `m · 2 ^ q`, and the decimal exponent of the
    first of them. -/
def shortest (m : Nat) (q : Int) : List Char × Int :=
  match (List.range 17).findSome? fun i => withDigits? m q (i + 1) with
  | some (c, k) =>
    let ds := Digits.write c
    (stripZeros ds, k + ds.length - 1)
  | none =>
    let (num, den) := raised m 1 q
    (Digits.write num, (Digits.write num).length - (Digits.write den).length)

/-- The exponent of the scientific form: a sign and at least two digits. -/
def exponentText (e : Int) : List Char :=
  (if e < 0 then '-' else '+') :: Digits.padded 2 e.natAbs

/-- Lay out digits with the decimal exponent of the first of them. -/
def layout (ds : List Char) (e : Int) : List Char :=
  if e < -4 ∨ 16 ≤ e then
    let mantissa := match ds with
      | d :: rest@(_ :: _) => d :: '.' :: rest
      | ds => ds
    mantissa ++ 'e' :: exponentText e
  else if e < 0 then
    '0' :: '.' :: (List.replicate (-e - 1).toNat '0' ++ ds)
  else
    -- The point stands behind the whole digits, which zeros fill up if need be.
    let whole := e.toNat + 1
    let digits := ds ++ List.replicate (whole - ds.length) '0'
    let fraction := digits.drop whole
    digits.take whole ++ '.' :: (if fraction = [] then ['0'] else fraction)

/-- The written form of a number: the fewest digits that identify it. -/
def text : Binary64 → String
  | nan => "nan"
  | infinite negative => if negative then "-inf" else "inf"
  | finite negative m q _ =>
    let body := if m = 0 then ['0', '.', '0'] else
      let (ds, e) := shortest m q
      layout ds e
    String.ofList (if negative then '-' :: body else body)

end Binary64

end Attest
