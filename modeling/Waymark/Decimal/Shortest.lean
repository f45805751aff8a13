/-
  Waymark.Decimal.Shortest

  The decimal text of a floating-point number: the fewest digits that are read back as the same
  number and, of those, the ones nearest to it.
-/

import Waymark.Decimal.Binary64

namespace Waymark.Decimal

/-- The number `digits * 10 ^ exponent`. -/
structure Scientific where
  digits : Nat
  exponent : Int
deriving DecidableEq, Repr

namespace Scientific

/-- Moves zeros from the end of the digits into the exponent, at most `n` of them. -/
def trim : Nat → Scientific → Scientific
  | 0, s => s
  | n + 1, s => if s.digits ≠ 0 ∧ s.digits % 10 = 0 then trim n ⟨s.digits / 10, s.exponent + 1⟩ else s

end Scientific

namespace Binary64

/-- The numbers that are read back as the given positive number, as `(low, high, den, ends)`: all
    between `low / den` and `high / den`, the ends included if `ends`. -/
def readBack (x : Binary64) : Nat × Nat × Nat × Bool :=
  let m := x.significand
  -- in quarters of the last place; below a power of two the neighbour is half as far
  let low := if m = leastNormal ∧ -1074 < x.exponent then 4 * m - 1 else 4 * m - 2
  let high := 4 * m + 2
  if 0 ≤ x.exponent then
    let p := Nat.pow 2 x.exponent.toNat
    (low * p, high * p, 4, m % 2 == 0)
  else (low, high, 4 * Nat.pow 2 (-x.exponent).toNat, m % 2 == 0)

/-- Whether `c * 10 ^ e` is read back as the number of the interval. -/
def inside (interval : Nat × Nat × Nat × Bool) (c : Nat) (e : Int) : Bool :=
  let (low, high, den, ends) := interval
  let (n, d) := if 0 ≤ e then (c * Nat.pow 10 e.toNat, 1) else (c, Nat.pow 10 (-e).toNat)
  let v := n * den
  let lo := low * d
  let hi := high * d
  if ends then lo ≤ v && v ≤ hi else lo < v && v < hi

/-- The decimal exponent of the leading digit: the greatest `k` with `10 ^ k ≤ x`, searched
    downwards from `k`. -/
def leadingPlace (num den : Nat) : Nat → Int → Int
  | 0, k => k
  | n + 1, k =>
    let ok := if 0 ≤ k then den * Nat.pow 10 k.toNat ≤ num else den ≤ num * Nat.pow 10 (-k).toNat
    if ok then k else leadingPlace num den n (k - 1)

/-- A decimal of `count` digits that is read back as the number, if there is one: the neighbour of
    the number on that decimal grid which is nearer to it, a half going to the even one. -/
def withDigits (x : Binary64) (place : Int) (count : Nat) : Option Scientific :=
  let e := place - (count : Int) + 1
  let (num, den) := x.quotient
  let (n, d) := if 0 ≤ e then (num, den * Nat.pow 10 e.toNat) else (num * Nat.pow 10 (-e).toNat, den)
  let floor := n / d
  let near := roundQuotient n d
  let far := if near = floor then floor + 1 else floor
  let interval := x.readBack
  if inside interval near e then some ⟨near, e⟩
  else if inside interval far e then some ⟨far, e⟩
  else none

/-- The first count of digits, from `count` on, at which a decimal is read back. -/
def shortestFrom (x : Binary64) (place : Int) : Nat → Nat → Scientific
  | 0, _ => ⟨x.significand, 0⟩
  | n + 1, count =>
    match x.withDigits place count with
    | some s => s
    | none => shortestFrom x place n (count + 1)

/-- The shortest decimal of a positive number.  Seventeen digits always suffice. -/
def shortest (x : Binary64) : Scientific :=
  let (num, den) := x.quotient
  let guess : Int := ((num.log2 : Int) - (den.log2 : Int)) * 30103 / 100000 + 1
  let place := leadingPlace num den 5 guess
  (shortestFrom x place 17 1).trim 20

/-! ## Text -/

/-- Where positional notation ends and how exponents are written. -/
structure TextFormat where
  /-- Positional below ten to this power. -/
  positionalBelow : Int
  /-- Positional from ten to this power on. -/
  positionalFrom : Int

/-- Numbers are positional from 1e-5 up to 1e16, with a fraction part always; others carry an
    exponent with its sign. -/
def numberFormat : TextFormat := ⟨16, -5⟩

/-- The text of a positive decimal. -/
def TextFormat.text (f : TextFormat) (s : Scientific) : String :=
  let digits := toString s.digits
  let count : Int := digits.length
  let point := count + s.exponent
  if f.positionalFrom < point ∧ point ≤ f.positionalBelow then
    if 0 ≤ s.exponent then
      digits ++ String.ofList (List.replicate s.exponent.toNat '0') ++ ".0"
    else if 0 < point then
      String.ofList (digits.toList.take point.toNat) ++ "."
        ++ String.ofList (digits.toList.drop point.toNat)
    else
      "0." ++ String.ofList (List.replicate (-point).toNat '0') ++ digits
  else
    let e := point - 1
    let mantissa :=
      if count = 1 then digits
      else String.ofList (digits.toList.take 1) ++ "." ++ String.ofList (digits.toList.drop 1)
    let sign := if 0 ≤ e then "+" else "-"
    mantissa ++ "e" ++ sign ++ toString e.natAbs

/-- The text of a number. -/
def toText (x : Binary64) : String :=
  let sign := if x.negative then "-" else ""
  if x.isZero then sign ++ "0.0" else sign ++ numberFormat.text x.shortest

end Binary64

end Waymark.Decimal
