/-
**Settings files.**

The format of a file is told by its extension.  A path that leads to no file may still have one
that goes with it: the path with the extension of a format behind it.  A byte order mark in front
of a file does not count.

Main definitions:

* `MediaTree.FileFormat` — the formats, with `FileFormat.read?`;
* `MediaTree.Settings.locate` — the file that goes with a path;
* `MediaTree.Settings.fileLayer` — the layer that a file makes.
-/

import MediaTree.Files.Directory
import MediaTree.Format.Ini
import MediaTree.Format.Json5
import MediaTree.Format.JsonText
import MediaTree.Format.Ron
import MediaTree.Format.Toml
import MediaTree.Format.Yaml
import MediaTree.Mime.Basic
import MediaTree.Settings.Error
import MediaTree.Settings.Value

set_option autoImplicit false
set_option relaxedAutoImplicit false

namespace MediaTree

/-- The formats of settings files. -/
inductive FileFormat where
  | toml
  | json
  | yaml
  | ini
  | ron
  | json5
deriving DecidableEq, Repr

namespace FileFormat

/-- The extensions of files, with their formats, in the order in which they are tried. -/
def extensions : List (String × FileFormat) := [
  ("toml", toml), ("json", json), ("yaml", yaml), ("yml", yaml), ("ini", ini), ("ron", ron),
  ("json5", json5)]

/-- The format that goes with an extension, which is in lower case. -/
def ofExtension? (extension : String) : Option FileFormat :=
  (extensions.find? (·.1 == extension)).map (·.2)

/-- The table that a text spells in a format. -/
def read? : FileFormat → String → Option (List (String × Datum))
  | toml => Toml.read?
  | json => JsonText.read?
  | yaml => Yaml.read?
  | ini => Ini.read?
  | ron => Ron.read?
  | json5 => Json5.read?

end FileFormat

namespace Settings

/-- The extension of the file that a path names, empty if it has none. -/
def extensionOf (path : String) : String :=
  String.ofList (((Mime.fileName? path.toList).bind Mime.extension?).getD [])

/-- A path with an extension behind it. -/
def withExtension (path extension : String) : String := Directory.tidy path ++ "." ++ extension

/-- The paths that may lead to the file that goes with a path. -/
def candidates (path : String) : List String :=
  path :: FileFormat.extensions.map fun e => withExtension path e.1

/-- The file that goes with a path, and its format: the file itself, or else the first one among the
path with an extension behind it. -/
def locate (d : Directory) (path : String) : Except SettingsError (String × FileFormat) :=
  match d.find? path with
  | none => .error (.missing path)
  | some (.file _) =>
    match FileFormat.ofExtension? (extensionOf path) with
    | some f => .ok (path, f)
    | none => .error (.unknownFormat path)
  | some _ =>
    match FileFormat.extensions.find? fun e => (d.read? (withExtension path e.1)).isSome with
    | some (e, f) =>
      if (Mime.fileName? path.toList).isSome then .ok (withExtension path e, f)
      else .error (.noFile path)
    | none => .error (.noFile path)

/-- A text without the byte order mark in front of it. -/
def withoutMark (s : String) : String :=
  match s.toList with
  | '\ufeff' :: cs => String.ofList cs
  | _ => s

/-- The layer that the file at a path makes; its values come from the file under its tidy path. -/
def fileLayer (d : Directory) (path : String) :
    Except SettingsError (List (String × Value)) := do
  let (file, format) ← locate d path
  let origin := Directory.tidy file
  match format.read? (withoutMark ((d.read? file).getD "")) with
  | some ms => .ok (Value.ofMembers (some origin) ms)
  | none => .error (.malformed origin)

end Settings

end MediaTree
