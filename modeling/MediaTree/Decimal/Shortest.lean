/-
**The fewest digits that read back.**

A finite positive double is `m · 2 ^ q` with `0 < m < 2 ^ 53`.  The reals that round to it form an
interval around it, which owns its ends exactly when `m` is even.  On the grid of decimals with a
fixed last place the double has two neighbours; the first grid, from coarse to fine, on which one of
them lies in the interval gives the shortest decimal, and of two that do the nearer is taken.

Main definitions:

* `MediaTree.Decimal.Dyadic` — a finite magnitude `m · 2 ^ q`, and `ofFloat?`;
* `MediaTree.Decimal.Digits` — a decimal `coefficient · 10 ^ place`;
* `MediaTree.Decimal.shortest` — the shortest decimal that reads back.
-/

set_option autoImplicit false
set_option relaxedAutoImplicit false

namespace MediaTree.Decimal

/-! ### Doubles as integers -/

/-- The magnitude `significand · 2 ^ exponent` of a finite double. -/
structure Dyadic where
  significand : Nat
  exponent : Int
  /-- The next smaller double is only half as far away as the next larger one. -/
  narrowBelow : Bool
deriving DecidableEq, Repr

/-- The sign bit of a double. -/
def isNegative (x : Float) : Bool := x.toBits.toNat / Nat.pow 2 63 == 1

/-- The magnitude of a double, if it is finite. -/
def Dyadic.ofFloat? (x : Float) : Option Dyadic :=
  let bits := x.toBits.toNat
  let field : Nat := bits / Nat.pow 2 52 % Nat.pow 2 11
  let fraction : Nat := bits % Nat.pow 2 52
  if field = 2047 then none
  else if field = 0 then some ⟨fraction, -1074, false⟩
  else some ⟨fraction + Nat.pow 2 52, Int.ofNat field - 1075, fraction = 0 && 1 < field⟩

/-! ### Decimals -/

/-- The decimal `coefficient · 10 ^ place`. -/
structure Digits where
  coefficient : Nat
  place : Int
deriving DecidableEq, Repr

/-- Drops trailing zeros of a coefficient, at most `fuel` of them. -/
def Digits.trim : Nat → Digits → Digits
  | 0, d => d
  | fuel + 1, d =>
    if d.coefficient ≠ 0 ∧ d.coefficient % 10 = 0 then
      Digits.trim fuel ⟨d.coefficient / 10, d.place + 1⟩
    else d

/-- Compares `a · 2 ^ p · 10 ^ r` with `b · 2 ^ p' · 10 ^ r'` by clearing denominators. -/
def scaled (a : Nat) (two ten : Int) (twoMin tenMin : Int) : Nat :=
  a * Nat.pow 2 (two - twoMin).toNat * Nat.pow 10 (ten - tenMin).toNat

/-- The interval of reals that round to a double and the double itself, all multiplied by one common
power of two and of ten, so that the unit of the decimal grid at `place` is the natural number
`unit`. -/
structure Window where
  low : Nat
  value : Nat
  high : Nat
  unit : Nat

/-- The window of a magnitude on the grid at `place`. -/
def Dyadic.window (d : Dyadic) (place : Int) : Window :=
  let two := d.exponent - 2
  let twoMin := min two 0
  let tenMin := min place 0
  ⟨scaled (4 * d.significand - (if d.narrowBelow then 1 else 2)) two 0 twoMin tenMin,
   scaled (4 * d.significand) two 0 twoMin tenMin,
   scaled (4 * d.significand + 2) two 0 twoMin tenMin,
   scaled 1 0 place twoMin tenMin⟩

/-- How a value half-way between two candidates is settled. -/
inductive Tie where
  /-- The candidate with the even last digit. -/
  | even
  /-- The larger candidate. -/
  | up
deriving DecidableEq, Repr

/-- The candidate on the grid at `place` that reads back, if there is one. -/
def Dyadic.candidate? (d : Dyadic) (tie : Tie) (place : Int) : Option Digits :=
  let w := d.window place
  let owned := d.significand % 2 = 0
  let inside := fun n => if owned then w.low ≤ n ∧ n ≤ w.high else w.low < n ∧ n < w.high
  let below := w.value / w.unit
  let above := below + 1
  let lower := below ≠ 0 ∧ inside (below * w.unit)
  let upper := inside (above * w.unit)
  let gapBelow := w.value - below * w.unit
  let gapAbove := above * w.unit - w.value
  if lower ∧ upper then
    let takeLower :=
      gapBelow < gapAbove ∨ (gapBelow = gapAbove ∧ tie = .even ∧ below % 2 = 0)
    some ⟨if takeLower then below else above, place⟩
  else if lower then some ⟨below, place⟩
  else if upper then some ⟨above, place⟩
  else none

/-- The place of the leading digit of a magnitude: the greatest `e` with `10 ^ e` not above it,
searched downwards from `top`. -/
def Dyadic.leadingPlace (d : Dyadic) : Nat → Int → Int
  | 0, top => top
  | fuel + 1, top =>
    let w := d.window top
    if w.unit ≤ w.value then top else d.leadingPlace fuel (top - 1)

/-- Tries the grids from `place` downwards. -/
def Dyadic.search (d : Dyadic) (tie : Tie) : Nat → Int → Digits
  | 0, place => ⟨0, place⟩
  | fuel + 1, place => (d.candidate? tie place).getD (d.search tie fuel (place - 1))

/-- An upper bound for the place of the leading digit: `2 ^ 10 > 10 ^ 3`. -/
def Dyadic.topPlace (d : Dyadic) : Int :=
  let bits : Int := d.exponent + Nat.log2 d.significand + 1
  if 0 ≤ bits then bits * 31 / 100 + 1 else bits * 30 / 100 + 1

/-- The shortest decimal that reads back as the magnitude; zero is `0`. -/
def Dyadic.shortest (d : Dyadic) (tie : Tie) : Digits :=
  if d.significand = 0 then ⟨0, 0⟩
  else
    let lead := d.leadingPlace 40 d.topPlace
    Digits.trim 20 (d.search tie 20 (lead + 1))

/-- The shortest decimal that reads back as the magnitude of a finite double. -/
def shortest? (x : Float) (tie : Tie) : Option Digits :=
  (Dyadic.ofFloat? x).map fun d => d.shortest tie

end MediaTree.Decimal
