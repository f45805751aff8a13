/-
  Waymark.Decimal.Binary64

  Finite binary floating-point numbers of 64 bits, as exact data: a sign, a significand below
  2^53 and a power of two.  Every operation rounds an exact quotient of natural numbers to the
  nearest such number, a half going to the even significand.
-/

namespace Waymark.Decimal

/-- The number `± significand * 2 ^ exponent`.  Canonical values have `significand < 2 ^ 53`,
    `-1074 ≤ exponent ≤ 971`, and a significand below `2 ^ 52` only at the least exponent. -/
structure Binary64 where
  negative : Bool
  significand : Nat
  exponent : Int
deriving DecidableEq, Repr

namespace Binary64

/-! ## Rounding -/

/-- The quotient `num / den` rounded to the nearest integer, a half to the even one. -/
def roundQuotient (num den : Nat) : Nat :=
  let q := num / den
  let r := num % den
  if 2 * r < den then q
  else if den < 2 * r then q + 1
  else if q % 2 = 0 then q else q + 1

/-- `num / den / 2 ^ e` as a quotient of natural numbers. -/
def scale (num den : Nat) (e : Int) : Nat × Nat :=
  if 0 ≤ e then (num, den * Nat.pow 2 e.toNat) else (num * Nat.pow 2 (-e).toNat, den)

/-- The exponent of the last place that a quotient is rounded to: 53 bits are kept, fewer near
    zero. -/
def lastPlace (num den : Nat) : Int :=
  let e : Int := (num.log2 : Int) - (den.log2 : Int)
  let (n, d) := scale num den e
  let e := if n < d then e - 1 else e
  max (e - 52) (-1074)

/-- The least significand of 53 bits, `2 ^ 52`. -/
def leastNormal : Nat := 0x10000000000000

/-- The number nearest to `num / den`; `none` if it lies beyond the greatest one. -/
def ofQuotient (negative : Bool) (num den : Nat) : Option Binary64 :=
  if num = 0 then some ⟨negative, 0, -1074⟩
  else
    let e := lastPlace num den
    let (n, d) := scale num den e
    let m := roundQuotient n d
    let (m, e) := if m = 2 * leastNormal then (leastNormal, e + 1) else (m, e)
    if 971 < e then none else some ⟨negative, m, e⟩

/-! ## Arithmetic on magnitudes -/

/-- The magnitude as a quotient of natural numbers. -/
def quotient (x : Binary64) : Nat × Nat :=
  if 0 ≤ x.exponent then (x.significand * Nat.pow 2 x.exponent.toNat, 1)
  else (x.significand, Nat.pow 2 (-x.exponent).toNat)

/-- Whether the number is zero, of either sign. -/
def isZero (x : Binary64) : Bool := x.significand == 0

/-- The rounded product, with the sign of the first factor. -/
def mul (x y : Binary64) : Option Binary64 :=
  let (a, b) := x.quotient
  let (c, d) := y.quotient
  ofQuotient x.negative (a * c) (b * d)

/-- The rounded quotient, with the sign of the dividend. -/
def div (x y : Binary64) : Option Binary64 :=
  let (a, b) := x.quotient
  let (c, d) := y.quotient
  ofQuotient x.negative (a * d) (b * c)

/-- Equality of the numbers meant: both zeros are one number. -/
def same (x y : Binary64) : Bool := (x.isZero && y.isZero) || x == y

/-! ## Reading decimals -/

/-- The number nearest to `± digits * 10 ^ exponent`. -/
def ofDecimal (negative : Bool) (digits : Nat) (exponent : Int) : Option Binary64 :=
  if digits = 0 then ofQuotient negative 0 1
  else if 400 < exponent then none
  else if 0 ≤ exponent then ofQuotient negative (digits * Nat.pow 10 exponent.toNat) 1
  else ofQuotient negative digits (Nat.pow 10 (-exponent).toNat)

/-- The number nearest to a power of ten. -/
def powerOfTen (k : Nat) : Option Binary64 := ofQuotient false (Nat.pow 10 k) 1

/-- Divides by `10 ^ 308` until an exponent of at least -308 is left, at most `steps` times. -/
def lowerByTens : Nat → Binary64 → Int → Option (Binary64 × Int)
  | 0, x, e => some (x, e)
  | steps + 1, x, e =>
    if -308 ≤ e || x.isZero then some (x, e)
    else do
      let p ← powerOfTen 308
      let y ← x.div p
      lowerByTens steps y (e + 308)

/-- `± digits * 10 ^ exponent` in floating-point steps: the digits are rounded first, then the
    result is multiplied or divided by rounded powers of ten.  `none` beyond the greatest number.
    Four divisions bring every 64-bit digit string to zero. -/
def ofDigits (negative : Bool) (digits : Nat) (exponent : Int) : Option Binary64 := do
  let x ← ofQuotient negative digits 1
  let (x, e) ← lowerByTens 4 x exponent
  if x.isZero then some x
  else if 308 < e then none
  else if 0 ≤ e then x.mul (← powerOfTen e.toNat)
  else x.div (← powerOfTen (-e).toNat)

end Binary64

end Waymark.Decimal
