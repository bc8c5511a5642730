/-
**Settings from the environment.**

A variable is a setting if its name begins with the prefix, in any case.  What follows is the key;
two underscores stand for a dot.  The text of a variable is a truth value, a number or a text, in
this order of preference.

Main definitions:

* `MediaTree.Environment` — the variables;
* `MediaTree.Environment.key?`, `MediaTree.Environment.scalar` — what a variable means;
* `MediaTree.Environment.layer` — the layer that the variables make.
-/

import MediaTree.Settings.Path

set_option autoImplicit false
set_option relaxedAutoImplicit false

namespace MediaTree

/-- The variables of an environment: names and texts. -/
abbrev Environment := List (String × String)

namespace Environment

/-- The value of a variable. -/
def get? (env : Environment) (name : String) : Option String := Table.get? name env

/-- What the names of settings begin with. -/
def lead : List Char := "jellyfin_".toList

/-- Where the layer comes from. -/
def origin : String := "the environment"

/-- A letter in lower case, as far as it is one of the Latin alphabet then. -/
def lowerChar (c : Char) : Char := if c == '\u212a' then 'k' else c.toLower

/-- Two underscores become a dot. -/
def dotted : List Char → List Char
  | '_' :: '_' :: cs => '.' :: dotted cs
  | c :: cs => c :: dotted cs
  | [] => []

/-- The key of a setting, if a variable is one. -/
def key? (name : String) : Option String :=
  let lower := name.toList.map lowerChar
  if lead.isPrefixOf lower then some (String.ofList (dotted (lower.drop lead.length))) else none

/-- What the text of a variable means. -/
def scalar (s : String) : Scalar :=
  match String.ofList (s.toList.map Char.toLower) with
  | "true" => .bool true
  | "false" => .bool false
  | _ =>
    match Decimal.integer? 10 s.toList with
    | some n => .int n
    | none =>
      match Decimal.float? s.toList with
      | some x => .float x
      | none => .text s

/-- The layer that the variables make. -/
def layer (env : Environment) : List (String × Value) :=
  env.foldl (fun ms (name, s) =>
    match key? name with
    | some k => Table.put k (.scalar (some origin) (scalar s)) ms
    | none => ms) []

end Environment

end MediaTree
