/-
**The order of children.**

Children are ordered by a key that an item may lack: its name, or its number among its
siblings.  Items that have the key come first, in ascending order of it; items that lack it
follow.  Within equal keys, and among items without one, the order of the server stays.

Main definitions:

* `MediaTree.SortKey` — what children are ordered by;
* `MediaTree.SortKey.sort` — the order.
-/

import MediaTree.Catalog.Item

set_option autoImplicit false
set_option relaxedAutoImplicit false

namespace MediaTree

/-- What children are ordered by. -/
inductive SortKey where
  | name
  | index
deriving DecidableEq, Repr, Inhabited

/-- A present value comes in front of a missing one; two present values compare. -/
def missingLast {α : Type} (le : α → α → Bool) : Option α → Option α → Bool
  | some a, some b => le a b
  | some _, none => true
  | none, some _ => false
  | none, none => true

namespace SortKey

/-- Whether an item may stand in front of another one. -/
def le (k : SortKey) (a b : Item) : Bool :=
  match k with
  | name => missingLast (fun x y => decide (x ≤ y)) a.name b.name
  | index => missingLast (fun x y => decide (x.toInt ≤ y.toInt)) a.index b.index

/-- Items in the order of a key. -/
def sort (k : SortKey) (items : List Item) : List Item := items.mergeSort k.le

end SortKey

end MediaTree
