/-
**Layouts of a number.**

Which digits a number has is one question, how they are laid out another.  A `Layout` answers the
second one: for which sizes the digits are written with a point among them and not with a power of
ten, whether a whole number keeps `.0`, how a power of ten is written, and what infinities and
undefined values are called.

Main definitions:

* `MediaTree.Decimal.Layout` — the decisions;
* `MediaTree.Decimal.Layout.write` — the text of a double under a layout.
-/

import MediaTree.Decimal.Shortest

set_option autoImplicit false
set_option relaxedAutoImplicit false

namespace MediaTree.Decimal

/-- How a number is laid out. -/
structure Layout where
  /-- The places of a leading digit for which no power of ten is written; all of them if absent. -/
  positional : Option (Int × Int)
  /-- A whole number is written with `.0`. -/
  keepPoint : Bool
  /-- The least number of digits of a power of ten. -/
  powerWidth : Nat
  /-- How a value half-way between two shortest decimals is settled. -/
  tie : Tie
  /-- What an infinity is called. -/
  infinite : String
  /-- What an undefined value is called. -/
  undefined : String
deriving Repr

namespace Layout

/-- So many zeros. -/
def zeros (n : Nat) : List Char := List.replicate n '0'

/-- The digits of a natural number, with zeros in front up to a width. -/
def padded (width n : Nat) : List Char :=
  let ds := Nat.toDigits 10 n
  zeros (width - ds.length) ++ ds

/-- Digits with a point among them; the first digit stands at `lead`. -/
def positionalText (keepPoint : Bool) (digits : List Char) (lead : Int) : List Char :=
  if lead < 0 then '0' :: '.' :: (zeros (-lead - 1).toNat ++ digits)
  else
    let whole := lead.toNat + 1
    if digits.length ≤ whole then
      digits ++ zeros (whole - digits.length) ++ (if keepPoint then ['.', '0'] else [])
    else digits.take whole ++ '.' :: digits.drop whole

/-- Digits with a power of ten; the first digit stands at `lead`. -/
def powerText (width : Nat) (digits : List Char) (lead : Int) : List Char :=
  let mantissa := match digits with
    | [] => []
    | [d] => [d]
    | d :: ds => d :: '.' :: ds
  mantissa ++ 'e' :: (if lead < 0 then '-' else '+') :: padded width lead.natAbs

/-- The text of a decimal. -/
def digitsText (l : Layout) (d : Digits) : List Char :=
  let digits := Nat.toDigits 10 d.coefficient
  let lead := d.place + digits.length - 1
  match l.positional with
  | none => positionalText l.keepPoint digits lead
  | some (first, last) =>
    if first ≤ lead ∧ lead ≤ last then positionalText l.keepPoint digits lead
    else powerText l.powerWidth digits lead

/-- The text of a double. -/
def write (l : Layout) (x : Float) : String :=
  if x.isNaN then l.undefined
  else
    let sign := if isNegative x then "-" else ""
    match shortest? x l.tie with
    | none => sign ++ l.infinite
    | some d => sign ++ String.ofList (l.digitsText d)

end Layout

end MediaTree.Decimal
