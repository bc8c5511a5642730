/-
**The double nearest to a decimal.**

A decimal `coefficient · 10 ^ place` lies between two neighbouring doubles; the nearer one is
taken, and half-way the one with the even significand.  The search runs in exact integers: the
decimal is a quotient of two natural numbers, the binary place of its leading bit is read off
their sizes, and the quotient on the grid of doubles is rounded once.  Decimals beyond the largest
double denote infinity.

Main definitions:

* `MediaTree.Decimal.roundQuotient` — a quotient rounded to a natural number, half to even;
* `MediaTree.Decimal.quotientBits`, `MediaTree.Decimal.singleBits` — the bits of the nearest number
  of either precision;
* `MediaTree.Decimal.nearest`, `MediaTree.Decimal.nearestSingle` — that number.
-/

import MediaTree.Decimal.Shortest

set_option autoImplicit false
set_option relaxedAutoImplicit false

namespace MediaTree.Decimal

/-- A quotient rounded to the nearest natural number; half-way to the even one. -/
def roundQuotient (num den : Nat) : Nat :=
  let q := num / den
  let r := num % den
  if den < 2 * r ∨ (2 * r = den ∧ q % 2 = 1) then q + 1 else q

/-- The place of the leading bit of a positive quotient. -/
def leadingBit (num den : Nat) : Int :=
  let top : Int := (Nat.log2 num : Int) - Nat.log2 den
  let reached :=
    if 0 ≤ top then den * Nat.pow 2 top.toNat ≤ num else den ≤ num * Nat.pow 2 (-top).toNat
  if reached then top else top - 1

/-- A positive quotient rounded to so many binary digits, none of them below a lowest place: the
digits as a number, and the place of the last one. -/
def onGrid (digits : Nat) (lowest : Int) (num den : Nat) : Nat × Int :=
  let place := max (leadingBit num den + 1 - digits) lowest
  if 0 ≤ place then (roundQuotient num (den * Nat.pow 2 place.toNat), place)
  else (roundQuotient (num * Nat.pow 2 (-place).toNat) den, place)

/-- The bits of an infinity. -/
def infiniteBits : Nat := 2047 * Nat.pow 2 52

/-- The bits of the double nearest to a positive quotient. -/
def quotientBits (num den : Nat) : Nat :=
  let (significand, place) := onGrid 53 (-1074) num den
  if significand < Nat.pow 2 52 then significand
  else min ((place + 1075).toNat * Nat.pow 2 52 + (significand - Nat.pow 2 52)) infiniteBits

/-- The bits of the double that is the single-precision number nearest to a positive quotient; there
is none from 2 ^ 128 on. -/
def singleBits (num den : Nat) : Nat :=
  let (significand, place) := onGrid 24 (-149) num den
  if 104 < place ∨ (place = 104 ∧ significand = Nat.pow 2 24) then infiniteBits
  else if 0 ≤ place then quotientBits (significand * Nat.pow 2 place.toNat) 1
  else quotientBits significand (Nat.pow 2 (-place).toNat)

/-- The bits of the number nearest to a decimal, by the bits of the one nearest to a quotient.  A
decimal whose leading digit stands at 10 ^ 310 or above is infinite, one whose digits all stand
below 10 ^ -330 is zero. -/
def decimalBits (quotient : Nat → Nat → Nat) (coefficient : Nat) (place : Int) : Nat :=
  let digits : Int := (Nat.toDigits 10 coefficient).length
  if coefficient = 0 ∨ digits + place < -330 then 0
  else if 310 < digits + place then infiniteBits
  else if 0 ≤ place then quotient (coefficient * Nat.pow 10 place.toNat) 1
  else quotient coefficient (Nat.pow 10 (-place).toNat)

/-- The double nearest to a decimal. -/
def nearest (negative : Bool) (coefficient : Nat) (place : Int) : Float :=
  let x := Float.ofBits (UInt64.ofNat (decimalBits quotientBits coefficient place))
  if negative then -x else x

/-- The single-precision number nearest to a decimal. -/
def nearestSingle (negative : Bool) (coefficient : Nat) (place : Int) : Float :=
  let x := Float.ofBits (UInt64.ofNat (decimalBits singleBits coefficient place))
  if negative then -x else x

end MediaTree.Decimal
