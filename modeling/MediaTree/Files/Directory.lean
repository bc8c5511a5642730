/-
**Files below a directory.**

A directory as far as it is known: which paths below it are files, with what they hold, which are
directories, and which lead to the outlets of the process, its output and its error output.  A path
is followed component by component, each of them from a directory; `.` stays where it is, `..` goes
back.  A path that ends with a slash means a directory.  Nothing is
known of what lies above, except that it can be entered.  Names and paths have greatest lengths, in
bytes.

Main definitions:

* `MediaTree.Outlet` — what a process writes to besides files;
* `MediaTree.Directory` — the known paths, with `Directory.find?`;
* `MediaTree.Directory.standard` — the usual ways to the outlets;
* `MediaTree.FileError` — why a file cannot be opened;
* `MediaTree.Directory.append` — a file opened and written to at its end.
-/

import MediaTree.Text.Blank

set_option autoImplicit false
set_option relaxedAutoImplicit false

namespace MediaTree

/-- What a process writes to from its start. -/
inductive Outlet where
  | output
  | errors
deriving DecidableEq, Repr, Inhabited

/-- What stands at a path. -/
inductive Directory.Entry where
  | file (content : String)
  | directory
  | outlet (o : Outlet)
deriving DecidableEq, Repr, Inhabited

/-- Files and directories by their paths, component by component. -/
structure Directory where
  entries : List (List String × Directory.Entry)
deriving Repr, Inhabited

/-- Why a file cannot be opened. -/
inductive FileError where
  /-- There is no such file, or no directory that could hold it. -/
  | notFound
  | notDirectory
  | isDirectory
  /-- A name or the whole path is too long. -/
  | tooLong
  /-- The path holds the character that ends paths. -/
  | interrupted
deriving DecidableEq, Repr

/-- The text of an error, with the number it has in the system. -/
def FileError.message : FileError → String
  | notFound => "No such file or directory (os error 2)"
  | notDirectory => "Not a directory (os error 20)"
  | isDirectory => "Is a directory (os error 21)"
  | tooLong => "File name too long (os error 36)"
  | interrupted => "file name contained an unexpected NUL byte"

namespace Directory

/-! ### Paths -/

/-- The components of a path, the empty ones left out. -/
def steps (path : String) : List String :=
  ((Text.pieces (· == '/') path.toList).map String.ofList).filter fun c => c ≠ ""

/-- The components of a path, those that stay where they are left out. -/
def components (path : String) : List String := (steps path).filter fun c => c ≠ "."

/-- A path that starts at the root of all directories. -/
def isAbsolute (path : String) : Bool := path.toList.head? == some '/'

/-- A path that can only mean a directory. -/
def meansDirectory (path : String) : Bool := path.toList.getLast? == some '/'

/-- The greatest length of a component. -/
def nameLimit : Nat := 255

/-- The greatest length of a path. -/
def pathLimit : Nat := 4095

/-- A path without the components that stay where they are. -/
def tidy (path : String) : String :=
  (if isAbsolute path then "/" else "") ++ "/".intercalate (components path)

/-- The paths that lead to a path, the shortest first, and the path itself. -/
def ways (path : String) : List String :=
  let cs := components path
  (List.range cs.length).map fun n =>
    (if isAbsolute path then "/" else "") ++ "/".intercalate (cs.take (n + 1))

/-! ### Places -/

/-- The place that the root of all directories has. -/
def root : List String := ["/"]

/-- Where a path starts. -/
def origin (path : String) : List String := if isAbsolute path then root else []

/-- A place of which it is only known that it is a directory: the root, and those above. -/
def isAbove (place : List String) : Bool := place == root || place.all (· == "..")

/-- One component further. -/
def enter (place : List String) (c : String) : List String :=
  if c = "." then place
  else if c = ".." then
    if place == root then root
    else if isAbove place then place ++ [".."]
    else place.dropLast
  else place ++ [c]

/-! ### Looking up -/

/-- The directory without anything in it. -/
def empty : Directory := ⟨[]⟩

/-- What stands at a place. -/
def at? (d : Directory) (place : List String) : Option Entry :=
  if isAbove place then some .directory
  else (d.entries.find? (·.1 == place)).map (·.2)

/-- Passes if a place is a directory. -/
def checkDirectory (d : Directory) (place : List String) : Except FileError Unit :=
  match d.at? place with
  | none => .error .notFound
  | some .directory => .ok ()
  | some _ => .error .notDirectory

/-- One component from a place, which must be a directory. -/
def step (d : Directory) (here : List String) (c : String) : Except FileError (List String) := do
  d.checkDirectory here
  if nameLimit < c.utf8ByteSize then .error .tooLong else pure (enter here c)

/-- Passes if a path can be followed at all. -/
def checkPath (path : String) : Except FileError Unit :=
  if path.toList.contains '\x00' then .error .interrupted
  else if path = "" then .error .notFound
  else if pathLimit < path.utf8ByteSize then .error .tooLong
  else .ok ()

/-- The place that a path leads to, whether or not something stands there. -/
def placeOf (d : Directory) (path : String) : Except FileError (List String) := do
  checkPath path
  (steps path).foldlM d.step (origin path)

/-- What a path leads to. -/
def find? (d : Directory) (path : String) : Option Entry :=
  match d.placeOf path with
  | .error _ => none
  | .ok place =>
    match d.at? place with
    | some .directory => some .directory
    | found => if meansDirectory path then none else found

/-- The content of the file that a path leads to. -/
def read? (d : Directory) (path : String) : Option String :=
  match d.find? path with
  | some (.file content) => some content
  | _ => none

/-- The outlet that a path leads to. -/
def outlet? (d : Directory) (path : String) : Option Outlet :=
  match d.find? path with
  | some (.outlet o) => some o
  | _ => none

/-! ### Changing -/

/-- Puts an entry at a place. -/
def put (d : Directory) (place : List String) (e : Entry) : Directory :=
  if d.entries.any (·.1 == place) then
    ⟨d.entries.map fun x => if x.1 == place then (place, e) else x⟩
  else ⟨d.entries ++ [(place, e)]⟩

/-- Makes a directory at a place where nothing stands. -/
def make (d : Directory) (place : List String) : Directory :=
  if (d.at? place).isSome then d else d.put place .directory

/-- Adds an entry at a path, with the directories on the way. -/
def add (d : Directory) (path : String) (e : Entry) : Directory :=
  let cs := components path
  let place := cs.foldl enter (origin path)
  let above := (List.range cs.length).map fun n => (cs.take n).foldl enter (origin path)
  (above.foldl make d).put place e

/-- The usual paths of the outlets. -/
def outletPaths : List (String × Outlet) := [
  ("/dev/stdout", .output), ("/dev/fd/1", .output), ("/proc/self/fd/1", .output),
  ("/dev/stderr", .errors), ("/dev/fd/2", .errors), ("/proc/self/fd/2", .errors)]

/-- The directory from which nothing but the outlets can be reached. -/
def standard : Directory := outletPaths.foldl (fun d (path, o) => d.add path (.outlet o)) empty

/-- The directory with these files, and with the outlets; a name without content is a directory. -/
def ofList (files : List (String × Option String)) : Directory :=
  files.foldl (fun d (path, content) =>
    d.add path (match content with
      | some s => .file s
      | none => .directory)) standard

/-- The place at which a file is opened to be written to; it may be made there.  A path that means a
directory is refused as soon as all but its last component was followed. -/
def placeToWrite (d : Directory) (path : String) : Except FileError (List String) := do
  checkPath path
  let here ← (steps path).dropLast.foldlM d.step (origin path)
  d.checkDirectory here
  if meansDirectory path then .error .isDirectory
  else (steps path).getLast?.toList.foldlM d.step here

/-- Opens a file and writes a text at its end; a file that is missing is made.  What is written to an
outlet changes no file. -/
def append (d : Directory) (path text : String) : Except FileError Directory := do
  let place ← d.placeToWrite path
  match d.at? place with
  | some .directory => .error .isDirectory
  | some (.outlet _) => .ok d
  | some (.file content) => .ok (d.put place (.file (content ++ text)))
  | none => .ok (d.put place (.file text))

end Directory

end MediaTree
