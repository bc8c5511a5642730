/-
**Letters beyond ASCII in host names.**

A label of a host name that is not ASCII is written with ASCII characters: first the ASCII
characters of the label, then, for the others in ascending order, the distances from one insertion
to the next, as numbers of varying length whose digits adapt to the distances seen so far.

Main definitions:

* `MediaTree.Url.Bootstring.encode` — a label with ASCII characters only;
* `MediaTree.Url.Bootstring.decode?` — the label that is written so.
-/

set_option autoImplicit false
set_option relaxedAutoImplicit false

namespace MediaTree.Url.Bootstring

/-! ### Digits -/

/-- The character of a digit: `a` to `z`, then `0` to `9`. -/
def digit (d : Nat) : Char := Char.ofNat (if d < 26 then 0x61 + d else 0x30 + (d - 26))

/-- The value of a digit. -/
def value? (c : Char) : Option Nat :=
  if 'a' ≤ c ∧ c ≤ 'z' then some (c.toNat - 'a'.toNat)
  else if '0' ≤ c ∧ c ≤ '9' then some (c.toNat - '0'.toNat + 26)
  else none

/-- The threshold of the digit at a position. -/
def threshold (k bias : Nat) : Nat := if k ≤ bias + 1 then 1 else min 26 (k - bias)

/-- Divides a distance until it is small. -/
def shrink (delta k : Nat) : Nat × Nat :=
  if 455 < delta then shrink (delta / 35) (k + 36) else (delta, k)
termination_by delta
decreasing_by omega

/-- How the digits adapt to a distance. -/
def adapt (delta points : Nat) (first : Bool) : Nat :=
  let d := if first then delta / 700 else delta / 2
  let (d, k) := shrink (d + d / points) 0
  k + 36 * d / (d + 38)

/-! ### Encoding -/

/-- A number of varying length. -/
def number (bias k q : Nat) : List Char :=
  let t := threshold k bias
  if q < t then [digit q]
  else digit (t + (q - t) % (36 - t)) :: number bias (k + 36) ((q - t) / (36 - t))
termination_by q
decreasing_by
  have h1 : 1 ≤ threshold k bias := by unfold threshold; split <;> omega
  exact Nat.lt_of_le_of_lt (Nat.div_le_self _ _) (by omega)

/-- An encoding under way. -/
structure State where
  done : Nat
  delta : Nat
  bias : Nat
  output : List Char

/-- Passes over the label for the characters with code `m`. -/
def pass (basic m : Nat) (s : State) (c : Char) : State :=
  if c.toNat < m then { s with delta := s.delta + 1 }
  else if c.toNat = m then
    { done := s.done + 1, delta := 0,
      bias := adapt s.delta (s.done + 1) (s.done = basic),
      output := s.output ++ number s.bias 36 s.delta }
  else s

/-- The codes beyond ASCII in ascending order, each once. -/
def codes (cs : List Char) : List Nat :=
  ((cs.map Char.toNat).filter (0x80 ≤ ·)).mergeSort.eraseDups

/-- A label with ASCII characters only. -/
def encode (cs : List Char) : List Char :=
  let basic := cs.filter (·.toNat < 0x80)
  let start : State := ⟨basic.length, 0, 72, []⟩
  let (s, _) := (codes cs).foldl (fun (s, n) m =>
    let s := { s with delta := s.delta + (m - n) * (s.done + 1) }
    let s := cs.foldl (pass basic.length m) s
    ({ s with delta := s.delta + 1 }, m + 1)) (start, 0x80)
  basic ++ (if basic.isEmpty then [] else ['-']) ++ s.output

/-! ### Decoding -/

/-- The greatest weight that a digit may have. -/
def maxWeight : Nat := 4294967295

/-- A number of varying length and what stands behind it, from the digit at position `k` on, which
counts `weight` times. -/
def number? (bias : Nat) : Nat → Nat → List Char → Option (Nat × List Char)
  | _, _, [] => none
  | k, weight, c :: cs => do
    let d ← value? c
    let t := threshold k bias
    if d < t then pure (d * weight, cs)
    else
      let next := weight * (36 - t)
      if maxWeight < next then none
      else
        let (n, rest) ← number? bias (k + 36) next cs
        pure (d * weight + n, rest)

/-- Inserts characters into a label as the numbers say: `index` and `code` are where and what comes
next if the distance is zero.  Each number has a digit, so that `fuel` is the number of digits. -/
def insertFrom (fuel index code bias : Nat) (label : List Char) (cs : List Char) :
    Option (List Char) :=
  match fuel, cs with
  | _, [] => some label
  | 0, _ => none
  | fuel + 1, cs => do
    let (distance, rest) ← number? bias 36 1 cs
    let size := label.length + 1
    let place := index + distance
    let code := code + place / size
    if code.isValidChar then
      let at_ := place % size
      insertFrom fuel (at_ + 1) code (adapt distance size (index = 0))
        (label.take at_ ++ Char.ofNat code :: label.drop at_) rest
    else none

/-- The label that is written with ASCII characters only: what stands in front of the last hyphen,
if anything does, and the characters that the digits behind it insert. -/
def decode? (cs : List Char) : Option (List Char) :=
  let digits := (cs.reverse.takeWhile (· != '-')).reverse
  let basic := cs.take (cs.length - digits.length - 1)
  let digits := if basic.isEmpty then cs else digits
  if basic.all (·.toNat < 0x80) then insertFrom digits.length 0 0x80 72 basic digits else none

end MediaTree.Url.Bootstring
