/-
**Items of a catalog.**

The records a server sends, as far as browsing needs them.  Everything a server may leave out is
optional, so that *missing* and *empty* stay apart.

Main definitions:

* `MediaTree.MediaSource` — one stored representation of an item;
* `MediaTree.Item` — an item, with `hasImage` and `firstSource?`;
* `MediaTree.ItemList` — a list of items as a server sends it.
-/

import MediaTree.Catalog.Kind
import MediaTree.Catalog.Tags

set_option autoImplicit false
set_option relaxedAutoImplicit false

namespace MediaTree

/-- One stored representation of an item. -/
structure MediaSource where
  id : Option String
  /-- Where the server keeps it. -/
  path : Option String
  container : Option String
deriving DecidableEq, Repr, Inhabited

/-- An item of a catalog. -/
structure Item where
  id : String
  name : Option String
  kind : Named ItemKind
  collection : Option (Named Collection)
  /-- Its number among its siblings. -/
  index : Option Int64
  medium : Option (Named Medium)
  tags : Option Tags
  sources : Option (List MediaSource)
deriving DecidableEq, Repr, Inhabited

namespace Item

/-- An item of which only id and kind are known. -/
def bare (id : String) (kind : Named ItemKind) : Item :=
  ⟨id, none, kind, none, none, none, none, none⟩

/-- Whether the item has an image of this name. -/
def hasImage (i : Item) (image : String) : Bool := i.tags.any (·.contains image)

/-- The first representation of the item; those behind it never matter. -/
def firstSource? (i : Item) : Option MediaSource := i.sources.bind List.head?

/-- The title of an item, empty when it has no name. -/
def title (i : Item) : String := i.name.getD ""

/-- None of the item's words hides one that has a meaning. -/
structure Faithful (i : Item) : Prop where
  kind : i.kind.Faithful
  collection : ∀ c ∈ i.collection, c.Faithful
  medium : ∀ m ∈ i.medium, m.Faithful

end Item

/-- A list of items as a server sends it. -/
structure ItemList where
  items : List Item
  /-- The number of items in total, as the server counts it. -/
  total : UInt64
deriving DecidableEq, Repr, Inhabited

end MediaTree
