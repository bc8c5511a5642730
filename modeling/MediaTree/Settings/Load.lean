/-
**Loading settings.**

Three layers: the defaults, a file if one is named, and on top of it the environment.

Main definitions:

* `MediaTree.Settings.load` — the settings that the layers come to.
-/

import MediaTree.Settings.Conversion
import MediaTree.Settings.Environment
import MediaTree.Settings.File

set_option autoImplicit false
set_option relaxedAutoImplicit false

namespace MediaTree.Settings

/-- The layer of the file, if one is named. -/
def namedLayer (d : Directory) : Option String → Except SettingsError (List (String × Value))
  | some path => fileLayer d path
  | none => .ok []

/-- The tree that the layers of file and environment come to. -/
def layered (file : List (String × Value)) (env : Environment) : Value :=
  (Value.empty.layer file).layer env.layer

/-- The settings that the layers come to. -/
def load (d : Directory) (env : Environment) (path : Option String) :
    Except SettingsError Settings := do
  ofValue (layered (← namedLayer d path) env)

end MediaTree.Settings
