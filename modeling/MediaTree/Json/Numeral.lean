/-
**Numerals of a JSON text.**

A number of a text is a whole number when it is written without point and exponent and fits 64
bits; `-0` and everything else is a decimal: a significand of at most 64 bits and a power of ten.
Digits beyond 64 bits are not rounded into the significand: in front of the point they only raise
the power of ten, behind it they are dropped.

A numeral is recognised one character at a time by a `Draft`.  A character either extends the draft
or ends it; a draft that ends too early (`-`, `1.`, `1e`) is no numeral, and neither is one with a
digit after a leading zero.

Main definitions:

* `MediaTree.Json.Numeral` — what a finished numeral denotes;
* `MediaTree.Json.Numeral.Draft` — a numeral being read, with `begin?`, `next`, `finish?`;
* `MediaTree.Json.Numeral.toFloat` — the double a decimal denotes.
-/

set_option autoImplicit false
set_option relaxedAutoImplicit false

namespace MediaTree.Json

/-- A number as it is written: a whole number of 64 bits, or `± significand · 10 ^ exponent`. -/
inductive Numeral where
  /-- A whole number without a minus sign, below `2 ^ 64`. -/
  | natural (n : Nat)
  /-- The whole number `-n` with `1 ≤ n ≤ 2 ^ 63`. -/
  | negative (n : Nat)
  /-- Any other number. -/
  | decimal (negative : Bool) (significand : Nat) (exponent : Int)
deriving DecidableEq, Repr, Inhabited

namespace Numeral

/-! ### Reading a numeral character by character -/

/-- How far a numeral has been read. -/
inductive Stage where
  /-- The minus sign was read. -/
  | sign
  /-- A leading zero was read. -/
  | zero
  /-- Digits in front of the point, all in the significand. -/
  | whole
  /-- Digits in front of the point, the last of them beyond the significand. -/
  | long
  /-- The point was read, and no digit yet. -/
  | point
  /-- Digits behind the point, all in the significand. -/
  | fraction
  /-- Digits behind the point, the last of them dropped. -/
  | full
  /-- The exponent mark was read. -/
  | mark
  /-- The sign of the exponent was read. -/
  | markSign (negative : Bool)
  /-- Digits of the exponent. -/
  | power (negative : Bool) (digits : Nat)
deriving DecidableEq, Repr

/-- A numeral that is being read. -/
structure Draft where
  negative : Bool
  significand : Nat
  /-- The power of ten that the digits read so far stand at. -/
  scale : Int
  stage : Stage
deriving DecidableEq, Repr

/-- The largest significand. -/
def significandLimit : Nat := Nat.pow 2 64 - 1

/-- The value of a decimal digit. -/
def digit? (c : Char) : Option Nat :=
  if '0' ≤ c ∧ c ≤ '9' then some (c.toNat - '0'.toNat) else none

/-- What a character does to a draft. -/
inductive Step where
  /-- The character belongs to the numeral. -/
  | extended (d : Draft)
  /-- The numeral ends in front of the character. -/
  | ended
  /-- The numeral is ill-formed at this character. -/
  | refused

/-- The draft that a first character opens. -/
def begin? (c : Char) : Option Draft :=
  if c = '-' then some ⟨true, 0, 0, .sign⟩
  else if c = '0' then some ⟨false, 0, 0, .zero⟩
  else (digit? c).map fun n => ⟨false, n, 0, .whole⟩

namespace Draft

/-- A point, an exponent mark or the end may follow the digits in front of the point. -/
def afterWhole (d : Draft) (c : Char) : Step :=
  if c = '.' then .extended { d with stage := .point }
  else if c = 'e' ∨ c = 'E' then .extended { d with stage := .mark }
  else .ended

/-- An exponent mark or the end may follow the digits behind the point. -/
def afterFraction (d : Draft) (c : Char) : Step :=
  if c = 'e' ∨ c = 'E' then .extended { d with stage := .mark } else .ended

/-- A digit behind the point: into the significand while it fits, dropped from then on. -/
def fractionDigit (d : Draft) (n : Nat) : Draft :=
  if d.significand * 10 + n ≤ significandLimit then
    { d with significand := d.significand * 10 + n, scale := d.scale - 1, stage := .fraction }
  else { d with stage := .full }

/-- A digit in front of the point: into the significand while it fits, from then on only its place
counts. -/
def wholeDigit (d : Draft) (n : Nat) : Draft :=
  if d.significand * 10 + n ≤ significandLimit then
    { d with significand := d.significand * 10 + n }
  else { d with scale := d.scale + 1, stage := .long }

/-- What the next character does. -/
def next (d : Draft) (c : Char) : Step :=
  match d.stage, digit? c with
  | .sign, some 0 => .extended { d with stage := .zero }
  | .sign, some n => .extended { d with significand := n, stage := .whole }
  | .sign, none => .refused
  | .zero, some _ => .refused
  | .zero, none => d.afterWhole c
  | .whole, some n => .extended (d.wholeDigit n)
  | .whole, none => d.afterWhole c
  | .long, some _ => .extended { d with scale := d.scale + 1 }
  | .long, none => d.afterWhole c
  | .point, some n => .extended (d.fractionDigit n)
  | .point, none => .refused
  | .fraction, some n => .extended (d.fractionDigit n)
  | .fraction, none => d.afterFraction c
  | .full, some _ => .extended d
  | .full, none => d.afterFraction c
  | .mark, some n => .extended { d with stage := .power false n }
  | .mark, none =>
    if c = '+' then .extended { d with stage := .markSign false }
    else if c = '-' then .extended { d with stage := .markSign true }
    else .refused
  | .markSign s, some n => .extended { d with stage := .power s n }
  | .markSign _, none => .refused
  | .power s p, some n => .extended { d with stage := .power s (p * 10 + n) }
  | .power _ _, none => .ended

/-- A whole number, or a decimal where it is `-0` or out of the range of 64 bits. -/
def integer (d : Draft) : Numeral :=
  if d.negative then
    if d.significand = 0 ∨ Nat.pow 2 63 < d.significand then .decimal true d.significand 0
    else .negative d.significand
  else .natural d.significand

/-- The numeral that ends here, if it may end here. -/
def finish? (d : Draft) : Option Numeral :=
  match d.stage with
  | .sign | .point | .mark | .markSign _ => none
  | .zero | .whole => some d.integer
  | .long | .fraction | .full => some (.decimal d.negative d.significand d.scale)
  | .power s p =>
    some (.decimal d.negative d.significand (if s then d.scale - p else d.scale + p))

end Draft

/-! ### The double a decimal denotes -/

/-- The power of ten that is nearest as a double. -/
def tenTo (k : Nat) : Float := Float.ofScientific 1 false k

/-- Takes a value down by a negative power of ten, at most 308 places at a time. -/
def scaleDown (x : Float) (k : Nat) : Float :=
  if k ≤ 308 then x / tenTo k
  else if x == 0 then x
  else scaleDown (x / tenTo 308) (k - 308)
termination_by k

/-- The magnitude `significand · 10 ^ exponent` in double arithmetic; `none` beyond the range. -/
def magnitude? (significand : Nat) (exponent : Int) : Option Float :=
  let x := Float.ofNat significand
  if 0 ≤ exponent then
    if 308 < exponent then (if x == 0 then some x else none)
    else
      let y := x * tenTo exponent.toNat
      if y.isInf then none else some y
  else some (scaleDown x (-exponent).toNat)

/-- The double that a numeral denotes; `none` beyond the range of doubles. -/
def toFloat? : Numeral → Option Float
  | natural n => some (Float.ofNat n)
  | negative n => some (-(Float.ofNat n))
  | decimal s m e => (magnitude? m e).map fun x => if s then -x else x

/-- Whether a numeral denotes a number that a reader can hold. -/
def inRange (n : Numeral) : Bool := n.toFloat?.isSome

end Numeral

end MediaTree.Json
