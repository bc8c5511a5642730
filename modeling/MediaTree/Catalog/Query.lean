/-
**Queries for items.**

A query asks for the items below a parent, of given kinds, with optional fields that a server
sends only on demand.  On the wire it is a list of named parameters in a fixed order, each of them
left out when it says nothing.

Main definitions:

* `MediaTree.Query` — a query, with `descendantsOf`, `withKind`, `withField`;
* `MediaTree.Query.params` — its parameters.
-/

import MediaTree.Catalog.Kind

set_option autoImplicit false
set_option relaxedAutoImplicit false

namespace MediaTree

/-- A field of an item that a server sends only on demand. -/
inductive OnDemand where
  | mediaSources
deriving DecidableEq, Repr, Inhabited

/-- The name of a field. -/
def OnDemand.name : OnDemand → String
  | mediaSources => "MediaSources"

/-- A query for items. -/
structure Query where
  parent : Option String
  kinds : List (Named ItemKind)
  recursive : Bool
  fields : List OnDemand
deriving DecidableEq, Repr, Inhabited

namespace Query

/-- The query that asks for nothing in particular. -/
def all : Query := ⟨none, [], false, []⟩

/-- Everything below a parent. -/
def descendantsOf (parent : String) : Query := ⟨some parent, [], true, []⟩

/-- One more kind is asked for. -/
def withKind (q : Query) (k : Named ItemKind) : Query := { q with kinds := q.kinds ++ [k] }

/-- One more field is asked for. -/
def withField (q : Query) (f : OnDemand) : Query := { q with fields := q.fields ++ [f] }

/-- Names joined by commas; no parameter when there is none. -/
def listParam (name : String) (values : List String) : List (String × String) :=
  if values.isEmpty then [] else [(name, ",".intercalate values)]

/-- The parameters of a query, in the order in which they are sent. -/
def params (q : Query) : List (String × String) :=
  (if q.recursive then [("Recursive", "true")] else []) ++
  (q.parent.map fun p => ("ParentId", p)).toList ++
  listParam "IncludeItemTypes" (q.kinds.map Named.word) ++
  listParam "Fields" (q.fields.map OnDemand.name)

end Query

end MediaTree
