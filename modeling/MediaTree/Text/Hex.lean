/-
**Digits to the base sixteen.**

Main definitions:

* `MediaTree.Text.Hex.lower`, `MediaTree.Text.Hex.upper` — the digit of a number below sixteen;
* `MediaTree.Text.Hex.value?` — the number of a digit, in either case.

Main results:

* `MediaTree.Text.Hex.value?_lower`, `MediaTree.Text.Hex.value?_upper` — digits are read back.
-/

set_option autoImplicit false
set_option relaxedAutoImplicit false

namespace MediaTree.Text.Hex

/-- A digit in lower case. -/
def lower (n : Nat) : Char := Char.ofNat (if n < 10 then '0'.toNat + n else 'a'.toNat + (n - 10))

/-- A digit in upper case. -/
def upper (n : Nat) : Char := Char.ofNat (if n < 10 then '0'.toNat + n else 'A'.toNat + (n - 10))

/-- The number of a digit. -/
def value? (c : Char) : Option Nat :=
  if '0' ≤ c ∧ c ≤ '9' then some (c.toNat - '0'.toNat)
  else if 'a' ≤ c ∧ c ≤ 'f' then some (c.toNat - 'a'.toNat + 10)
  else if 'A' ≤ c ∧ c ≤ 'F' then some (c.toNat - 'A'.toNat + 10)
  else none

theorem value?_lower {n : Nat} (h : n < 16) : value? (lower n) = some n := by
  have : ∀ m ∈ List.range 16, value? (lower m) = some m := by decide
  exact this n (List.mem_range.2 h)

theorem value?_upper {n : Nat} (h : n < 16) : value? (upper n) = some n := by
  have : ∀ m ∈ List.range 16, value? (upper m) = some m := by decide
  exact this n (List.mem_range.2 h)

end MediaTree.Text.Hex
