/-
**JSON as a format of settings.**

Any JSON value is data.  A whole number that fits 64 bits, with a sign or without, stays whole, any
other one is a number with a fraction; of a key that is given twice the last value counts.

Main definitions:

* `MediaTree.Datum.decode` — the data that a reading spells;
* `MediaTree.JsonText.read?` — the table that a text spells.
-/

import MediaTree.Format.Datum
import MediaTree.Json.Decoder

set_option autoImplicit false
set_option relaxedAutoImplicit false

namespace MediaTree

open Json (Reading Numeral)

namespace Datum

/-- A number. -/
def ofNumeral? (n : Numeral) : Option Datum :=
  match n with
  | .natural k => some (.scalar (.int k))
  | .negative k => some (.scalar (.int (-k)))
  | n => n.toFloat?.map fun x => .scalar (.float x)

mutual

/-- The data that a reading spells, with so many nestings still allowed. -/
def decode? (depth : Nat) : Reading → Option Datum
  | .null => some (.scalar .null)
  | .bool b => some (.scalar (.bool b))
  | .number n => ofNumeral? n
  | .string s => s.map fun s => .scalar (.text s)
  | .array rs => if depth = 0 then none else (decodeElements? (depth - 1) rs).map .list
  | .object ms => if depth = 0 then none else (decodeMembers? (depth - 1) ms []).map .table
  | .broken => none

/-- The data that the elements of an array spell. -/
def decodeElements? (depth : Nat) : List Reading → Option (List Datum)
  | [] => some []
  | r :: rs => do
    let d ← decode? depth r
    let ds ← decodeElements? depth rs
    pure (d :: ds)

/-- The data that the members of an object spell, behind those that stand in front. -/
def decodeMembers? (depth : Nat) :
    List (Reading × Reading) → List (String × Datum) → Option (List (String × Datum))
  | [], acc => some acc
  | (.string (some k), v) :: ms, acc => do
    let d ← decode? depth v
    decodeMembers? depth ms (Table.put k d acc)
  | _, _ => none

end

/-- The members of a table. -/
def members? : Datum → Option (List (String × Datum))
  | table ms => some ms
  | _ => none

end Datum

namespace JsonText

/-- The table that a text spells. -/
def read? (text : String) : Option (List (String × Datum)) := do
  let doc := Json.Document.ofBytes text.toUTF8
  if doc.complete then (← Datum.decode? Json.nestingLimit doc.value).members? else none

end JsonText

end MediaTree
