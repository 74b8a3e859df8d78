import Attest.Text.Decoder

/-!
# Punycode

A format that writes any text in letters and digits of ASCII.

In front of the last hyphen stand the characters of ASCII, in order. What follows are
numbers that tell, one after another, which code point to insert at which place: code
points are counted on from the one that was inserted last, and for each of them the
places are counted from left to right. A number is written with the least significant
digit first. Which digits go on and which end a number depends on a bias, which adapts
to the numbers that came before, so that small numbers are short.

## Main definitions

* `Punycode.number?`: The number at the head of digits.
* `Punycode.decoder`: The decoder.
-/

namespace Attest

namespace Text

namespace Punycode

/-- The code point in front of the first one that may be inserted. -/
def firstPoint : Nat := 0x80

/-- The bias at the beginning. -/
def firstBias : Nat := 72

/-- The least digit that goes on, at a place in a number. -/
def threshold (place bias : Nat) : Nat :=
  min 26 (max 1 (36 * (place + 1) - bias))

/-- How often a number is divided by 35 until it is small, and what is left. -/
def scaled (n : Nat) : Nat × Nat :=
  if 455 < n then
    let (times, rest) := scaled (n / 35)
    (times + 1, rest)
  else (0, n)
termination_by n
decreasing_by exact Nat.div_lt_self (by omega) (by omega)

/-- The bias behind a number, where `count` is the length of the text by then. -/
def adapt (n : Nat) (isFirst : Bool) (count : Nat) : Nat :=
  let n := if isFirst then n / 700 else n / 2
  let (times, rest) := scaled (n + n / count)
  36 * times + 36 * rest / (rest + 38)

/-- The worth of a digit. -/
def digit? (b : UInt8) : Option Nat :=
  if 0x41 ≤ b ∧ b ≤ 0x5a then some (b.toNat - 0x41)
  else if 0x61 ≤ b ∧ b ≤ 0x7a then some (b.toNat - 0x61)
  else if 0x30 ≤ b ∧ b ≤ 0x39 then some (b.toNat - 0x30 + 26)
  else none

/-- The number at the head of digits and the digits behind it, from a place on, where
    `weight` is the weight of the place. There is none if the digits end too early. -/
def number? (bias place weight : Nat) : List Nat → Option (Nat × List Nat)
  | [] => none
  | d :: ds =>
    let t := threshold place bias
    if d < t then some (d * weight, ds)
    else do
      let (n, rest) ← number? bias (place + 1) (weight * (36 - t)) ds
      some (d * weight + n, rest)

/-- Reading a number leaves fewer digits. -/
theorem length_lt_of_number? {bias place weight n : Nat} {ds rest : List Nat}
    (h : number? bias place weight ds = some (n, rest)) : rest.length < ds.length := by
  induction ds generalizing place weight n with
  | nil => simp only [number?, reduceCtorEq] at h
  | cons d ds ih =>
    simp only [number?] at h
    split at h
    · simp only [Option.some.injEq, Prod.mk.injEq] at h
      simp only [← h.2, List.length_cons]
      omega
    · cases hn : number? bias (place + 1) (weight * (36 - threshold place bias)) ds with
      | none => simp only [hn, bind, Option.bind, reduceCtorEq] at h
      | some pair =>
        obtain ⟨m, tail⟩ := pair
        simp only [hn, bind, Option.bind, Option.some.injEq, Prod.mk.injEq] at h
        obtain ⟨_, rfl⟩ := h
        exact Nat.lt_succ_of_lt (ih hn)

/-- Insert the code points that digits tell into a text, where `point` is the last one
    that was inserted and `place` the place behind it. -/
def insertAll (point place bias : Nat) (isFirst : Bool) (text ds : List Nat) :
    Except Refusal (List Nat) :=
  match ds with
  | [] => .ok text
  | d :: ds =>
    match _h : number? bias 0 1 (d :: ds) with
    | none => .error .badText
    | some (n, rest) =>
      -- The number counts places, over all code points that are passed on the way.
      let places := text.length + 1
      let point := point + (place + n) / places
      let place := (place + n) % places
      if point < 0x110000 then
        insertAll point (place + 1) (adapt n isFirst places) false
          (text.take place ++ point :: text.drop place) rest
      else .error .badText
termination_by ds.length
decreasing_by exact length_lt_of_number? (by assumption)

/-- The bytes in front of the last hyphen and those behind it. Without a hyphen, all are
    behind it. -/
def split (bs : List UInt8) : List UInt8 × List UInt8 :=
  let behind := (bs.reverse.takeWhile (· ≠ 0x2d)).reverse
  (bs.take (bs.length - behind.length - 1), behind)

/-- The decoder of the format. A number that ends too early, or with a sign, makes no
    text. -/
def decoder : Decoder :=
  fun bs =>
    let (base, extension) := split bs
    if bs.all (· < 0x80) then
      match extension.mapM digit? with
      | some ds => insertAll firstPoint 0 firstBias true (base.map UInt8.toNat) ds
      | none => .error .badText
    else .error .badBytes

end Punycode

end Text

end Attest
