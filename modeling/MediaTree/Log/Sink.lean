/-
**Where entries go.**

Entries that pass the filter are written one after the other, to the end of a file or, if no file
is named, to the error output.  A path may lead to an outlet of the process as well.  Entries are
written as JSON, an object on a line, or as text to be read.  The variable `RUST_LOG` overrides the
level of the settings, if it spells a filter.  The level of the settings is looked at first, then the
file is opened; a process has one sink only.

Main definitions:

* `MediaTree.Log.Format` — how entries are written;
* `MediaTree.Log.Target` — where they go: to a file, or to an outlet of the process;
* `MediaTree.Log.Sink`, with `Sink.write` and `Sink.shownOn` — which ones go there, and how;
* `MediaTree.Log.SetupError`, `MediaTree.Log.setUp` — the sink that settings describe.
-/

import MediaTree.Files.Directory
import MediaTree.Json.Printer
import MediaTree.Log.Filter
import MediaTree.Settings.Environment
import MediaTree.Text.Quoted

set_option autoImplicit false
set_option relaxedAutoImplicit false

namespace MediaTree.Log

/-! ### Entries as text -/

/-- The value of a field as JSON. -/
def FieldValue.toJson : FieldValue → Json
  | text s => .string s
  | shown s => .string s
  | count n => .int n

/-- The value of a field as it is read. -/
def FieldValue.plain : FieldValue → String
  | text s => Text.quoted s
  | shown s => s
  | count n => toString n

/-- An entry as JSON; the message is the first of its fields. -/
def Entry.toJson (e : Entry) : Json :=
  .object [("level", .string e.severity.name),
    ("fields", .object (("message", .string e.message) :: e.fields.map fun f => (f.1, f.2.toJson))),
    ("target", .string e.target)]

/-- An entry as it is read: its message, with the further fields behind it. -/
def Entry.plain (e : Entry) : String :=
  ", ".intercalate (e.message :: e.fields.map fun f => f.1 ++ ": " ++ f.2.plain)

/-- How entries are written. -/
inductive Format where
  | json
  /-- Lines to be read. -/
  | pretty
deriving DecidableEq, Repr

/-- The format that settings name; every name but one means lines to be read. -/
def Format.ofName (name : String) : Format := if name = "json" then json else pretty

/-- The text of an entry in a format. -/
def Format.text (f : Format) (e : Entry) : String :=
  match f with
  | json => e.toJson.compact ++ "\n"
  | pretty => "  " ++ e.severity.name ++ " " ++ e.target ++ ": " ++ e.plain ++ "\n\n"

/-! ### Sinks -/

/-- Where entries go. -/
inductive Target where
  | file (path : String)
  | outlet (o : Outlet)
deriving DecidableEq, Repr

/-- Where entries go for which a file is named, or none: then it is the error output. -/
def Target.of (d : Directory) : Option String → Target
  | none => outlet .errors
  | some path =>
    match d.outlet? path with
    | some o => outlet o
    | none => file path

/-- Where entries go, and which. -/
structure Sink where
  filter : Filter
  format : Format
  target : Target
deriving DecidableEq, Repr

namespace Sink

/-- What is written of some entries. -/
def text (s : Sink) (es : List Entry) : String :=
  String.join ((es.filter s.filter.passes).map s.format.text)

/-- The directory after some entries were written. -/
def write (s : Sink) (d : Directory) (es : List Entry) : Directory :=
  match s.target with
  | .outlet _ => d
  | .file path =>
    match d.append path (s.text es) with
    | .ok d' => d'
    | .error _ => d

/-- What some entries show on an outlet. -/
def shownOn (s : Sink) (o : Outlet) (es : List Entry) : String :=
  if s.target = .outlet o then s.text es else ""

end Sink

/-! ### Setting up -/

/-- What settings say about the log. -/
structure Request where
  level : String
  format : String
  file : Option String
deriving DecidableEq, Repr

/-- Why there is no sink. -/
inductive SetupError where
  | unknownLevel (level : String)
  | file (e : FileError)
  /-- The process has a sink already. -/
  | occupied
deriving DecidableEq, Repr

/-- The text of an error. -/
def SetupError.message : SetupError → String
  | unknownLevel level => "Invalid log level: " ++ level
  | file e => e.message
  | occupied => "a global default trace dispatcher has already been set"

/-- The variable that overrides the level. -/
def filterVariable : String := "RUST_LOG"

/-- The filter: that of the variable if it spells one, else that of the level. -/
def filterOf (level : String) (env : Environment) : Filter :=
  match (env.get? filterVariable).bind Filter.ofText? with
  | some f => f
  | none => (Filter.ofText? level).getD Filter.errors

/-- Opens the file that is named, which makes it if it is missing. -/
def openFile (d : Directory) : Option String → Except FileError Directory
  | none => .ok d
  | some path => d.append path ""

/-- Sets the sink up that is asked for: the directory behind that, and the sink or why there is
none. -/
def setUp (occupied : Bool) (d : Directory) (env : Environment) (r : Request) :
    Directory × Except SetupError Sink :=
  match Severity.ofSetting? r.level with
  | none => (d, .error (.unknownLevel r.level))
  | some _ =>
    match openFile d r.file with
    | .error e => (d, .error (.file e))
    | .ok d' =>
      (d', if occupied then .error .occupied
        else .ok ⟨filterOf r.level env, Format.ofName r.format, Target.of d r.file⟩)

end MediaTree.Log
