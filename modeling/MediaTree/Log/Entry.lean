/-
**Log entries.**

What a run has to say besides its result: entries with a severity, the component that speaks, a
message, and further fields with their values.  Entries are values like any other, so that it can be
said which ones a run yields.

Main definitions:

* `MediaTree.Log.Severity` — how severe an entry is;
* `MediaTree.Log.FieldValue` — the value of a field;
* `MediaTree.Log.Entry` — an entry, with `Entry.line`, `Entry.has`.
-/

set_option autoImplicit false
set_option relaxedAutoImplicit false

namespace MediaTree.Log

/-- How severe an entry is, from the most to the least severe. -/
inductive Severity where
  | error
  | warn
  | info
  | debug
  | trace
deriving DecidableEq, Repr, Inhabited

namespace Severity

/-- The written name. -/
def name : Severity → String
  | error => "ERROR"
  | warn => "WARN"
  | info => "INFO"
  | debug => "DEBUG"
  | trace => "TRACE"

/-- The less severe, the greater; zero stands for no entry at all. -/
def rank : Severity → Nat
  | error => 1
  | warn => 2
  | info => 3
  | debug => 4
  | trace => 5

end Severity

/-- The value of a field. -/
inductive FieldValue where
  /-- A text, which is quoted where it is written to be read. -/
  | text (s : String)
  /-- Anything else as it shows. -/
  | shown (s : String)
  | count (n : Nat)
deriving DecidableEq, Repr, Inhabited

/-- An entry of a log. -/
structure Entry where
  severity : Severity
  /-- The component that speaks. -/
  target : String
  message : String
  /-- The further fields by their names. -/
  fields : List (String × FieldValue)
deriving DecidableEq, Repr, Inhabited

/-- Severity and message of an entry. -/
def Entry.line (e : Entry) : String := e.severity.name ++ " " ++ e.message

/-- An entry has a field; the message is one. -/
def Entry.has (e : Entry) (field : String) : Bool :=
  field == "message" || e.fields.any (·.1 == field)

end MediaTree.Log
