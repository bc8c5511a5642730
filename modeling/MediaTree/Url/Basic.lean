/-
**Addresses.**

An address in its normal form: a scheme in lower case, the host and port that are asked (the port
only where it is not the usual one), a path, and what follows behind `?` and `#`.  A path is a list
of segments, or one opaque text where the address names no place to ask.

Main definitions:

* `MediaTree.Url` — an address, with `toString` and `withPairs`;
* `MediaTree.Url.Origin` — who is asked: scheme, host and port.
-/

import MediaTree.Text.Form

set_option autoImplicit false
set_option relaxedAutoImplicit false

namespace MediaTree

/-- The path of an address. -/
inductive Url.Path where
  /-- Segments, each behind a slash. -/
  | segments (ss : List String)
  /-- A text that is no path. -/
  | whole (s : String)
deriving DecidableEq, Repr, Inhabited

/-- An address in normal form. -/
structure Url where
  scheme : String
  /-- Who is asked; nothing if the address names nobody. -/
  host : Option String
  /-- The port, where it is not the usual one of the scheme. -/
  port : Option Nat
  path : Url.Path
  query : Option String
  fragment : Option String
deriving DecidableEq, Repr, Inhabited

namespace Url

/-- Who is asked. -/
structure Origin where
  scheme : String
  host : Option String
  port : Option Nat
deriving DecidableEq, Repr

/-- Who is asked by an address. -/
def origin (u : Url) : Origin := ⟨u.scheme, u.host, u.port⟩

/-- The text of a path. -/
def Path.text : Path → String
  | segments ss => String.join (ss.map fun s => "/" ++ s)
  | whole s => s

/-- A path whose text begins with two slashes would read as a host; where there is none, `/.` stands
in front of it. -/
def pathText (u : Url) : String :=
  match u.host, u.path with
  | none, .segments ("" :: _ :: _) => "/." ++ u.path.text
  | _, p => p.text

/-- What stands in front of the path. -/
def authorityText (u : Url) : String :=
  match u.host with
  | none => ""
  | some h =>
    "//" ++ h ++ (match u.port with
      | none => ""
      | some p => ":" ++ ToString.toString p)

/-- What stands behind the path. -/
def tailText (u : Url) : String :=
  (match u.query with
    | none => ""
    | some q => "?" ++ q) ++
  (match u.fragment with
    | none => ""
    | some f => "#" ++ f)

/-- The text of an address. -/
def toString (u : Url) : String :=
  u.scheme ++ ":" ++ u.authorityText ++ u.pathText ++ u.tailText

/-- The address with pairs behind those it has; a query without any character is dropped. -/
def withPairs (u : Url) (pairs : List (String × String)) : Url :=
  let old := u.query.getD ""
  let new := Text.Form.encodePairs pairs
  let joined := if old.isEmpty then new else if pairs.isEmpty then old else old ++ "&" ++ new
  { u with query := if joined.isEmpty then none else some joined }

end Url

end MediaTree
