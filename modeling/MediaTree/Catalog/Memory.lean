/-
**Catalogs in memory.**

A catalog that is given as data: its folders, further items, and for each parent and kind the items
below.  A single item is looked up by its id among all of these, the last one given counting.  Calls
can be made to fail.

Main definitions:

* `MediaTree.Memory` — the data;
* `MediaTree.Memory.toCatalog` — the catalog it makes.
-/

import MediaTree.Catalog.Call

set_option autoImplicit false
set_option relaxedAutoImplicit false

namespace MediaTree

/-- The items of one kind below one parent. -/
structure Memory.Listing where
  parent : String
  kind : String
  items : List Item
deriving Repr

/-- A catalog given as data. -/
structure Memory where
  base : String
  folders : List Item
  items : List Item
  listings : List Memory.Listing
  /-- How the call for the folders fails, if it does. -/
  foldersFail : Option CatalogError
  /-- How calls for single items fail, by id. -/
  getFails : List (String × CatalogError)
  /-- How queries fail, by the kind asked for. -/
  queryFails : List (String × CatalogError)
deriving Repr

namespace Memory

/-- The catalog without anything. -/
def empty (base : String) : Memory := ⟨base, [], [], [], none, [], []⟩

/-- All items, in the order in which they are given. -/
def allItems (m : Memory) : List Item := m.folders ++ m.items ++ m.listings.flatMap (·.items)

/-- The last item given with an id. -/
def item? (m : Memory) (id : String) : Option Item := m.allItems.reverse.find? (·.id == id)

/-- The kind that a query asks for first. -/
def kindOf (q : Query) : String := (q.kinds.head?.map Named.word).getD ""

/-- The items below a parent, by the kind that a query asks for first. -/
def below (m : Memory) (q : Query) : List Item :=
  match m.listings.reverse.find? fun l => q.parent == some l.parent && l.kind == kindOf q with
  | some l => l.items
  | none => []

/-- A list that counts itself. -/
def counted (items : List Item) : ItemList := ⟨items, UInt64.ofNat items.length⟩

/-- The answer to a call. -/
def answer (m : Memory) : (c : Call) → Except CatalogError c.Answer
  | .folders =>
    match m.foldersFail with
    | some e => .error e
    | none => .ok (counted m.folders)
  | .query q =>
    match m.queryFails.find? (·.1 == kindOf q) with
    | some (_, e) => .error e
    | none => .ok (counted (m.below q))
  | .get id =>
    match m.getFails.find? (·.1 == id) with
    | some (_, e) => .error e
    | none =>
      match m.item? id with
      | some i => .ok i
      | none => .error (.notFound id)

/-- The addresses of a catalog in memory, with ids as they are. -/
def links (m : Memory) : Links where
  base := m.base
  audio id := m.base ++ "/audio/" ++ id
  video id := m.base ++ "/video/" ++ id
  artwork id image width := m.base ++ "/art/" ++ id ++ "/" ++ image ++ "/" ++ toString width

/-- The catalog that the data make: every call is seen, and answered at once. -/
def toCatalog (m : Memory) : Catalog where
  links := m.links
  handle c := ⟨[.called c], m.answer c⟩

end Memory

end MediaTree
