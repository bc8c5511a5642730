/-
**The MIME type of an item.**

An item's MIME type is that of the file it is stored in, and this is told by the extension of the
file. Only the first media source counts.  The file is the last component of the path, where
slashes separate and empty components and `.` do not count; `..` is no file.  The extension is what
stands behind the last dot of its name, unless that dot is the first character.  Extensions are
looked up in the table that is in use, up to case.

Main definitions:

* `MediaTree.Mime.fileName?`, `MediaTree.Mime.extension?` — the parts of a path;
* `MediaTree.Mime.ofPath?` — the MIME type of a path;
* `MediaTree.Mime.Unknown`, `MediaTree.Mime.ofItem` — the MIME type of an item, or what it lacks.
-/

import MediaTree.Catalog.Item
import MediaTree.Log.Entry
import MediaTree.Mime.Table
import MediaTree.Text.Blank
import MediaTree.Text.CaseFold

set_option autoImplicit false
set_option relaxedAutoImplicit false

namespace MediaTree.Mime

/-! ### Paths -/

/-- The components of a path: pieces between slashes that are neither empty nor `.`. -/
def components (path : List Char) : List (List Char) :=
  (Text.pieces (· == '/') path).filter fun p => p ≠ [] ∧ p ≠ ['.']

/-- The name of the file at a path. -/
def fileName? (path : List Char) : Option (List Char) :=
  match (components path).getLast? with
  | some name => if name = ['.', '.'] then none else some name
  | none => none

/-- What stands behind the last dot of a name, unless that dot is its first character. -/
def extension? (name : List Char) : Option (List Char) :=
  let behind := (name.reverse.takeWhile (· != '.')).reverse
  let front := name.length - behind.length
  if front ≤ 1 then none else some behind

/-- The MIME type that goes with an extension, up to case. -/
def ofExtension? [Table] (extension : List Char) : Option String :=
  (Text.foldAscii? extension).bind typeOf?

/-- The MIME type of a path. -/
def ofPath? [Table] (path : String) : Option String := do
  let name ← fileName? path.toList
  let extension ← extension? name
  ofExtension? extension

/-- The last part of a path, where both slashes separate; what may be shown of a server's path. -/
def baseName (path : String) : String :=
  String.ofList (path.toList.reverse.takeWhile fun c => c != '/' && c != '\\').reverse

/-! ### Items -/

/-- What an item lacks that has no MIME type. -/
inductive Lack where
  | source
  | path
  /-- No MIME type goes with the file of this name. -/
  | type (name : String)
deriving DecidableEq, Repr

/-- What is said about what an item lacks. -/
def Lack.message : Lack → String
  | source => "Unable to determine mime type for item without media source"
  | path => "Unable to determine mime type for media source without path"
  | type name => "Unable to determine mime type for path " ++ name

/-- An item without a MIME type: which one, and why. -/
structure Unknown where
  id : String
  lack : Lack
deriving DecidableEq, Repr

/-- The log entry about an item without a MIME type. -/
def Unknown.entry (u : Unknown) : Log.Entry :=
  ⟨.debug, "jellyfin_media_source::mime", u.lack.message, [("item_id", .shown u.id)]⟩

section Items

variable [Table]

/-- The MIME type of an item, or why it has none. -/
def ofItem (i : Item) : Except Unknown String :=
  match i.firstSource? with
  | none => .error ⟨i.id, .source⟩
  | some s =>
    match s.path with
    | none => .error ⟨i.id, .path⟩
    | some path =>
      match ofPath? path with
      | some m => .ok m
      | none => .error ⟨i.id, .type (baseName path)⟩

/-- The MIME type of an item, if it has one. -/
def ofItem? (i : Item) : Option String := (ofItem i).toOption

theorem ofItem?_eq_some_iff {i : Item} {t : String} : ofItem? i = some t ↔ ofItem i = .ok t := by
  cases h : ofItem i <;> simp [ofItem?, h, Except.toOption]

theorem ofItem?_eq_none_iff {i : Item} : ofItem? i = none ↔ ∃ u, ofItem i = .error u := by
  cases h : ofItem i <;> simp [ofItem?, h, Except.toOption]

end Items

end MediaTree.Mime
