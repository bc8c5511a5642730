/-
**JSON values.**

The values that this library writes.  Members of an object are kept in the order in which they are
written, since the printed text shows it.  All numbers are whole: no record here holds another one.

Main definitions:

* `MediaTree.Json` — the values;
* `MediaTree.Json.optional` — a member that is left out when it has no value;
* `MediaTree.Json.depth` — how deeply arrays and objects are nested.
-/

set_option autoImplicit false
set_option relaxedAutoImplicit false

namespace MediaTree

/-- A JSON value. -/
inductive Json where
  | null
  | bool (b : Bool)
  | int (n : Int)
  | string (s : String)
  | array (elements : List Json)
  | object (members : List (String × Json))
deriving Repr, Inhabited

namespace Json

/-- A member that is left out when it has no value. -/
def optional {α : Type} (name : String) (encode : α → Json) : Option α → List (String × Json)
  | none => []
  | some a => [(name, encode a)]

@[simp] theorem optional_none {α : Type} (name : String) (encode : α → Json) :
    optional name encode none = [] := rfl

@[simp] theorem optional_some {α : Type} (name : String) (encode : α → Json) (a : α) :
    optional name encode (some a) = [(name, encode a)] := rfl

/-- A value that is `null` when it is missing. -/
def nullable {α : Type} (encode : α → Json) : Option α → Json
  | none => .null
  | some a => encode a

mutual

/-- How deeply arrays and objects are nested; zero for a scalar. -/
def depth : Json → Nat
  | .null | .bool _ | .int _ | .string _ => 0
  | .array es => depthElements es + 1
  | .object ms => depthMembers ms + 1

/-- The greatest depth among elements. -/
def depthElements : List Json → Nat
  | [] => 0
  | e :: es => max e.depth (depthElements es)

/-- The greatest depth among the values of members. -/
def depthMembers : List (String × Json) → Nat
  | [] => 0
  | (_, v) :: ms => max v.depth (depthMembers ms)

end

end Json

end MediaTree
