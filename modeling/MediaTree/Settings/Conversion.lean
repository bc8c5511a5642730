/-
**Settings made of layered values.**

Every section is a table with a member for each setting, or a list of settings in their
order.  What is missing has its default.  A setting is a text; any scalar but `null` is turned into
its text, and `null` leaves a setting that may be missing without a value.

Main definitions:

* `MediaTree.Settings.ofSection` — one section;
* `MediaTree.Settings.ofValue` — all settings.
-/

import MediaTree.Settings.Basic
import MediaTree.Settings.Error
import MediaTree.Settings.Value

set_option autoImplicit false
set_option relaxedAutoImplicit false

namespace MediaTree

/-- The text of a value, found at a key. -/
def Value.text (key : String) : Value → Except SettingsError String
  | .scalar origin s =>
    match s.text? with
    | some t => .ok t
    | none => .error (.mismatch s.name "a string" key origin)
  | .list origin _ => .error (.mismatch "sequence" "a string" key origin)
  | .table origin _ => .error (.mismatch "map" "a string" key origin)

/-- A value that says nothing. -/
def Value.isNull : Value → Bool
  | .scalar _ .null => true
  | _ => false

namespace Settings

/-- Gives a setting the value found at a key. -/
def ofEntry (s : Settings) (k : Setting) (key : String) (v : Value) :
    Except SettingsError Settings :=
  if k.isOptional && v.isNull then .ok s else (v.text key).map (s.put k)

/-- Gives settings the values that a table has for them; `home` is the key of the table. -/
def ofMembers (home : String) (ms : List (String × Value)) :
    List Setting → Settings → Except SettingsError Settings
  | [], s => .ok s
  | k :: ks, s => do
    match Table.get? k.key ms with
    | some v => ofMembers home ms ks (← s.ofEntry k (home ++ "." ++ k.key) v)
    | none => ofMembers home ms ks s

/-- Gives settings the elements of a list in order; `home` is the key of the list, `n` are done. -/
def ofElements (home : String) (n : Nat) :
    List Setting → List Value → Settings → Except SettingsError Settings
  | k :: ks, v :: vs, s => do
    let s ← s.ofEntry k (home ++ "[" ++ toString n ++ "]") v
    ofElements home (n + 1) ks vs s
  | _, _, s => .ok s

/-- Gives the settings of a section the values that the section has for them. -/
def ofSection (s : Settings) (c : Section) : Value → Except SettingsError Settings
  | .table _ ms => ofMembers c.key ms c.settings s
  | .list _ vs => ofElements c.key 0 c.settings vs s
  | .scalar _ sc => .error (.mismatch sc.name ("struct " ++ c.record) c.key none)

/-- Gives the settings of some sections the values that a tree has for them. -/
def ofSections (v : Value) : List Section → Settings → Except SettingsError Settings
  | [], s => .ok s
  | c :: cs, s => do
    match v.member? c.key with
    | some w => ofSections v cs (← s.ofSection c w)
    | none => ofSections v cs s

/-- The settings that a tree of values comes to. -/
def ofValue (v : Value) : Except SettingsError Settings := ofSections v Section.all default

end Settings

end MediaTree
