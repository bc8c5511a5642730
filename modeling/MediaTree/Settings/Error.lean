/-
**What can be wrong with settings.**

The file that was named may be missing, be no file, be of no known format, or be damaged; and what
the layers hold at a key may not be what belongs there.

Main definitions:

* `MediaTree.SettingsError` — why there are no settings, with `message`.
-/

import MediaTree.Format.Datum
import MediaTree.Text.Quoted

set_option autoImplicit false
set_option relaxedAutoImplicit false

namespace MediaTree

/-- Why there are no settings. -/
inductive SettingsError where
  /-- Nothing is at the path that was given. -/
  | missing (path : String)
  /-- What is at the path is no file, and no file goes with it. -/
  | noFile (path : String)
  /-- The format of the file is not known. -/
  | unknownFormat (path : String)
  /-- The file does not spell a table in its format. -/
  | malformed (file : String)
  /-- Something else than expected is at a key; the origin is told where it is known. -/
  | mismatch (found expected key : String) (origin : Option String)
deriving DecidableEq, Repr

/-- The text of an error. -/
def SettingsError.message : SettingsError → String
  | missing path => "configuration file " ++ path ++ " not found"
  | noFile path => "configuration file \"" ++ path ++ "\" not found"
  | unknownFormat path =>
    "configuration file \"" ++ path ++ "\" is not of a registered file format"
  | malformed file => "malformed text in " ++ file
  | mismatch found expected key origin =>
    "invalid type: " ++ found ++ ", expected " ++ expected ++ " for key `" ++ key ++ "`"
      ++ (match origin with
        | some o => " in " ++ o
        | none => "")

/-- How numbers with a fraction are named: never with a power of ten, and always with a point. -/
def SettingsError.floatLayout : Decimal.Layout := ⟨none, true, 1, .even, "inf", "NaN"⟩

/-- The name of a scalar that stands where something else was expected. -/
def Scalar.name : Scalar → String
  | null => "unit value"
  | bool b => "boolean `" ++ boolText b ++ "`"
  | int n => "integer `" ++ toString n ++ "`"
  | float x => "floating point `" ++ SettingsError.floatLayout.write x ++ "`"
  | text s => "string " ++ Text.quoted s

end MediaTree
