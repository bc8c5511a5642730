/-
**What can be wrong with a record.**

A text either leaves the grammar of JSON (or the limits of the reader), or it is JSON that does not
spell the record that was asked for.  The second kind names what was found and what was expected.

Main definitions:

* `MediaTree.Json.Found` — what stands where something else was expected;
* `MediaTree.Json.Problem` — why a text spells no record, with `Problem.message`.
-/

import MediaTree.Decimal.Layout
import MediaTree.Json.Reading
import MediaTree.Text.Quoted

set_option autoImplicit false
set_option relaxedAutoImplicit false

namespace MediaTree.Json

/-- How numbers with a fraction or an exponent are named: the fewest digits that read back, with a
point for leading places from -5 to 15 and a signed power of ten otherwise. -/
def floatLayout : Decimal.Layout := ⟨some (-5, 15), true, 1, .even, "inf", "NaN"⟩

/-- What stands where something else was expected. -/
inductive Found where
  | null
  | bool (b : Bool)
  | number (n : Numeral)
  | string (s : String)
  | sequence
  | map
deriving DecidableEq, Repr

/-- The name of what was found. -/
def Found.name : Found → String
  | .null => "null"
  | .bool b => if b then "boolean `true`" else "boolean `false`"
  | .number (.natural n) => "integer `" ++ toString n ++ "`"
  | .number (.negative n) => "integer `-" ++ toString n ++ "`"
  | .number n => "floating point `" ++ floatLayout.write (n.toFloat?.getD 0) ++ "`"
  | .string s => "string " ++ Text.quoted s
  | .sequence => "sequence"
  | .map => "map"

/-- Why a text spells no record. -/
inductive Problem where
  /-- The text is no JSON, or nested too deeply, or holds a number out of range. -/
  | malformed
  /-- A member that must be there is missing. -/
  | missingField (name : String)
  /-- A member stands twice. -/
  | duplicateField (name : String)
  /-- A value of another kind than expected. -/
  | invalidType (found : Found) (expected : String)
  /-- A value of the right kind, but out of its range. -/
  | invalidValue (found : Found) (expected : String)
  /-- A positional record with too few elements. -/
  | invalidLength (length : Nat) (expected : String)
  /-- A name that is none of those allowed. -/
  | unknownVariant (name : String) (allowed : List String)
deriving DecidableEq, Repr

/-- The text of a problem. -/
def Problem.message : Problem → String
  | .malformed => "malformed JSON"
  | .missingField name => "missing field `" ++ name ++ "`"
  | .duplicateField name => "duplicate field `" ++ name ++ "`"
  | .invalidType found expected => "invalid type: " ++ found.name ++ ", expected " ++ expected
  | .invalidValue found expected => "invalid value: " ++ found.name ++ ", expected " ++ expected
  | .invalidLength n expected => "invalid length " ++ toString n ++ ", expected " ++ expected
  | .unknownVariant name allowed =>
    "unknown variant `" ++ name ++ "`, expected one of "
      ++ ", ".intercalate (allowed.map fun a => "`" ++ a ++ "`")

/-- What a reader names when it meets a value that it cannot use; nothing if the value itself is
damaged. -/
def Reading.found? : Reading → Option Found
  | .null => some .null
  | .bool b => some (.bool b)
  | .number n => if n.inRange then some (.number n) else none
  | .string s => s.map .string
  | .array _ => some .sequence
  | .object _ => some .map
  | .broken => none

/-- The complaint about a value of the wrong kind. -/
def Reading.mismatch (r : Reading) (expected : String) : Problem :=
  match r.found? with
  | some f => .invalidType f expected
  | none => .malformed

end MediaTree.Json
