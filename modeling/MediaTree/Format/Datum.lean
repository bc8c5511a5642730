/-
**Data of a settings file.**

What files of settings hold, whatever their format: scalars, lists and tables.  A table has each key
once; a key that is given again takes the place of the earlier one.

Main definitions:

* `MediaTree.Scalar` — scalars, with their text `Scalar.text?`;
* `MediaTree.Table.get?`, `MediaTree.Table.put` — tables as lists of keys and values;
* `MediaTree.Datum` — the data.

Main results:

* `MediaTree.Table.get?_put_self`, `MediaTree.Table.get?_put_of_ne` — what a key holds after `put`.
-/

import MediaTree.Decimal.Layout

set_option autoImplicit false
set_option relaxedAutoImplicit false

namespace MediaTree

/-! ### Scalars -/

/-- A value without parts. -/
inductive Scalar where
  | null
  | bool (b : Bool)
  | int (n : Int)
  | float (x : Float)
  | text (s : String)
deriving Repr, Inhabited

namespace Scalar

/-- How numbers with a fraction are written back: the fewest digits that read back, never with a
power of ten, and without a point if they are whole. -/
def floatLayout : Decimal.Layout := ⟨none, false, 1, .even, "inf", "NaN"⟩

/-- The name of a truth value. -/
def boolText (b : Bool) : String := if b then "true" else "false"

/-- The text of a scalar, if it has one. -/
def text? : Scalar → Option String
  | null => none
  | bool b => some (boolText b)
  | int n => some (toString n)
  | float x => some (floatLayout.write x)
  | text s => some s

end Scalar

/-! ### Tables -/

namespace Table

variable {α : Type}

/-- What a key holds. -/
def get? (key : String) : List (String × α) → Option α
  | [] => none
  | (k, v) :: ms => if k = key then some v else get? key ms

/-- Gives a key a value, in place of the one it has or behind all others. -/
def put (key : String) (value : α) : List (String × α) → List (String × α)
  | [] => [(key, value)]
  | (k, v) :: ms => if k = key then (k, value) :: ms else (k, v) :: put key value ms

@[simp] theorem get?_put_self (key : String) (value : α) (ms : List (String × α)) :
    get? key (put key value ms) = some value := by
  induction ms with
  | nil => simp [put, get?]
  | cons m ms ih =>
    by_cases h : m.1 = key
    · simp [put, get?, h]
    · simp [put, get?, h, ih]

@[simp] theorem get?_put_of_ne {key other : String} {value : α} {ms : List (String × α)}
    (h : other ≠ key) : get? other (put key value ms) = get? other ms := by
  induction ms with
  | nil => simp [put, get?, Ne.symm h]
  | cons m ms ih =>
    by_cases hk : m.1 = key
    · simp [put, get?, hk, Ne.symm h]
    · simp [put, get?, hk, ih]

end Table

/-! ### Data -/

/-- What a settings file holds. -/
inductive Datum where
  | scalar (s : Scalar)
  | list (elements : List Datum)
  | table (members : List (String × Datum))
deriving Repr, Inhabited

end MediaTree
