/-
**Settings.**

Eight texts in three sections: how to reach the server and as whom, what the root of the tree is
called, and how the log is kept.  Every setting has a default; only the file of the log may be
missing.  A setting is known by its section and its key, and settings are read and changed one by
one.

Main definitions:

* `MediaTree.Section`, `MediaTree.Setting` — the names;
* `MediaTree.Settings` — the values, with `get`, `put` and `default`;
* `MediaTree.Settings.validate` — whether a session can be opened with them.

Main results:

* `MediaTree.Settings.get_put_self`, `MediaTree.Settings.get_put_of_ne` — a change concerns one
  setting.
-/

set_option autoImplicit false
set_option relaxedAutoImplicit false

namespace MediaTree

/-! ### Names -/

/-- A group of settings. -/
inductive Section where
  /-- The server, and the session on it. -/
  | server
  /-- The tree. -/
  | source
  | logging
deriving DecidableEq, Repr, Inhabited

/-- A single setting. -/
inductive Setting where
  | url
  | token
  | user
  | device
  /-- The title of the root. -/
  | title
  | level
  | format
  /-- The file of the log. -/
  | file
deriving DecidableEq, Repr, Inhabited

namespace Section

/-- All sections, in the order in which they are written. -/
def all : List Section := [server, source, logging]

/-- The key of a section. -/
def key : Section → String
  | server => "server"
  | source => "source"
  | logging => "logging"

/-- What a section is called as a record. -/
def record : Section → String
  | server => "ServerConfig"
  | source => "SourceConfig"
  | logging => "LoggingConfig"

/-- The settings of a section, in the order in which they are written. -/
def settings : Section → List Setting
  | server => [.url, .token, .user, .device]
  | source => [.title]
  | logging => [.level, .format, .file]

end Section

namespace Setting

/-- All settings. -/
def all : List Setting := Section.all.flatMap Section.settings

theorem mem_all (s : Setting) : s ∈ all := by cases s <;> decide

/-- The section that a setting belongs to. -/
def home : Setting → Section
  | url | token | user | device => .server
  | title => .source
  | level | format | file => .logging

theorem mem_settings_iff (s : Setting) (c : Section) : s ∈ c.settings ↔ s.home = c := by
  cases s <;> cases c <;> decide

/-- The key of a setting inside its section. -/
def key : Setting → String
  | url => "url"
  | token => "token"
  | user => "user_id"
  | device => "device_id"
  | title => "name"
  | level => "level"
  | format => "format"
  | file => "file_path"

/-- Section and key. -/
def path (s : Setting) : String := s.home.key ++ "." ++ s.key

/-- A setting that may have no value. -/
def isOptional : Setting → Bool
  | file => true
  | _ => false

end Setting

/-! ### Values -/

/-- The values of all settings. -/
structure Settings where
  url : String
  token : String
  user : String
  device : String
  title : String
  level : String
  format : String
  file : Option String
deriving DecidableEq, Repr, Inhabited

namespace Settings

/-- The values that hold where nothing else is said. -/
def default : Settings where
  url := "http://localhost:8096"
  token := ""
  user := ""
  device := "jellyfin-media-source"
  title := "Jellyfin"
  level := "info"
  format := "pretty"
  file := none

/-- The value of a setting. -/
def get (s : Settings) : Setting → Option String
  | .url => some s.url
  | .token => some s.token
  | .user => some s.user
  | .device => some s.device
  | .title => some s.title
  | .level => some s.level
  | .format => some s.format
  | .file => s.file

/-- Gives a setting a value. -/
def put (s : Settings) (k : Setting) (v : String) : Settings :=
  match k with
  | .url => { s with url := v }
  | .token => { s with token := v }
  | .user => { s with user := v }
  | .device => { s with device := v }
  | .title => { s with title := v }
  | .level => { s with level := v }
  | .format => { s with format := v }
  | .file => { s with file := some v }

@[simp] theorem get_put_self (s : Settings) (k : Setting) (v : String) :
    (s.put k v).get k = some v := by
  cases k <;> rfl

@[simp] theorem get_put_of_ne {s : Settings} {k l : Setting} {v : String} (h : l ≠ k) :
    (s.put k v).get l = s.get l := by
  cases k <;> cases l <;> first | rfl | exact absurd rfl h

/-- Settings are the same if every single one is. -/
theorem ext_get {s t : Settings} (h : ∀ k, s.get k = t.get k) : s = t := by
  cases s
  cases t
  have h₁ := h .url
  have h₂ := h .token
  have h₃ := h .user
  have h₄ := h .device
  have h₅ := h .title
  have h₆ := h .level
  have h₇ := h .format
  have h₈ := h .file
  simp_all [get]

/-! ### Validation -/

/-- The settings that a session needs. -/
def required : List Setting := [.url, .token, .user]

/-- The first setting that a session needs and that is empty. -/
def firstEmpty? (s : Settings) : Option Setting := required.find? fun k => s.get k == some ""

/-- What is said of a setting that is empty and must not be. -/
def emptyMessage (k : Setting) : String := k.path ++ " must not be empty"

/-- Whether all settings that a session needs are there; else what is said of the first that is not.
-/
def validate (s : Settings) : Except String Unit :=
  match s.firstEmpty? with
  | some k => .error (emptyMessage k)
  | none => .ok ()

end Settings

end MediaTree
