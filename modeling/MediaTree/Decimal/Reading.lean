/-
**Numbers in plain text.**

A whole number is a sign and digits, and must fit 64 bits.  A number with a fraction is a sign and
digits with a point among them or at one end, and possibly a power of ten; infinities and the
undefined value are spelled by their names, in any case.  It denotes the nearest double.

Main definitions:

* `MediaTree.Decimal.integer?` — a whole number of 64 bits;
* `MediaTree.Decimal.float?` — a double.
-/

import MediaTree.Decimal.Nearest
import MediaTree.Text.Hex

set_option autoImplicit false
set_option relaxedAutoImplicit false

namespace MediaTree.Decimal

/-! ### Whole numbers -/

/-- The value of a digit in a radix. -/
def digitIn? (radix : Nat) (c : Char) : Option Nat :=
  (Text.Hex.value? c).bind fun n => if n < radix then some n else none

/-- The number that digits spell; there must be one. -/
def natural? (radix : Nat) (cs : List Char) : Option Nat :=
  if cs.isEmpty then none
  else cs.foldl (fun acc c => do pure ((← acc) * radix + (← digitIn? radix c))) (some 0)

/-- The sign in front of a text, and the text behind it. -/
def signed : List Char → Bool × List Char
  | '-' :: cs => (true, cs)
  | '+' :: cs => (false, cs)
  | cs => (false, cs)

/-- A number fits 64 bits with a sign. -/
def fits (n : Int) : Bool := Int64.minValue.toInt ≤ n && n ≤ Int64.maxValue.toInt

/-- A whole number in a radix. -/
def integer? (radix : Nat) (cs : List Char) : Option Int := do
  let (negative, digits) := signed cs
  let n ← natural? radix digits
  let i : Int := if negative then -(n : Int) else n
  if fits i then some i else none

/-! ### Doubles -/

/-- The names of values that no digits spell. -/
def named? (cs : List Char) : Option Float :=
  match String.ofList (cs.map Char.toLower) with
  | "inf" | "infinity" => some (1.0 / 0.0)
  | "nan" => some (0.0 / 0.0)
  | _ => none

/-- The power of ten behind a mark; zero if there is no mark. -/
def exponent? : List Char → Option Int
  | [] => some 0
  | c :: cs =>
    if c = 'e' ∨ c = 'E' then
      let (negative, digits) := signed cs
      (natural? 10 digits).map fun n => if negative then -(n : Int) else n
    else none

/-- Digits with a point among them and possibly a power of ten, as a decimal. -/
def decimal? (cs : List Char) : Option (Nat × Int) := do
  let whole := cs.takeWhile Char.isDigit
  let rest := cs.dropWhile Char.isDigit
  let fraction := match rest with
    | '.' :: tail => tail.takeWhile Char.isDigit
    | _ => []
  let tail := match rest with
    | '.' :: tail => tail.dropWhile Char.isDigit
    | rest => rest
  let coefficient ← natural? 10 (whole ++ fraction)
  let power ← exponent? tail
  pure (coefficient, power - fraction.length)

/-- The double that a text spells. -/
def float? (cs : List Char) : Option Float :=
  let (negative, rest) := signed cs
  match named? rest with
  | some x => some (if negative then -x else x)
  | none => (decimal? rest).map fun (c, p) => nearest negative c p

end MediaTree.Decimal
