/-
**Building the tree.**

Nodes are made of items.  A container carries title and artwork; a leaf also carries its MIME type,
and an item on a leaf level that has none makes no node.  Libraries are containers without
artwork.  Only the node that is asked for gets children.

Main definitions:

* `MediaTree.Build.container`, `MediaTree.Build.child?` — nodes of items;
* `MediaTree.Build.libraries`, `MediaTree.Build.children` — listings;
* `MediaTree.Build.root`, `MediaTree.Build.node` — nodes with their children.
-/

import MediaTree.Catalog.Call
import MediaTree.Mime.Basic
import MediaTree.Tree.Level

set_option autoImplicit false
set_option relaxedAutoImplicit false

namespace MediaTree.Build

/-! ### Nodes of items -/

/-- The name of the image that nodes show. -/
def primaryImage : String := "Primary"

/-- The width that artwork is scaled to. -/
def artworkWidth : Nat := 500

/-- The address of an item's artwork, if it has any. -/
def thumbnail? (links : Links) (i : Item) : Option String :=
  if i.hasImage primaryImage then some (links.artwork i.id primaryImage artworkWidth) else none

/-- A container made of an item. -/
def container (links : Links) (c : MediaClass) (i : Item) : Node :=
  Node.container (some i.id) c i.title (thumbnail? links i)

/-- A library as a node, without artwork. -/
def libraryNode (i : Item) : Node := Node.container (some i.id) .directory i.title none

/-- The node of an item on a level; on a leaf level an item without a MIME type makes none. -/
def child? [Mime.Table] (links : Links) (l : Level) (i : Item) : Option Node :=
  if l.isLeaf then
    (Mime.ofItem? i).map fun m => Node.playable i.id l.mediaClass m i.title (thumbnail? links i)
  else some (container links l.mediaClass i)

/-- What is logged about an item on a level: on a leaf level, that it has no MIME type. -/
def remark? [Mime.Table] (l : Level) (i : Item) : Option Log.Entry :=
  if l.isLeaf then
    match Mime.ofItem i with
    | .ok _ => none
    | .error u => some u.entry
  else none

/-! ### Listings -/

/-- An entry of the listings' log. -/
def listed (message : String) (fields : List (String × Log.FieldValue)) : Log.Entry :=
  ⟨.debug, "jellyfin_media_source::fetcher", message, fields⟩

/-- A folder that is listed as a library: it collects something with a meaning. -/
def isLibrary (i : Item) : Bool := i.collection.any Named.isKnown

/-- The libraries among the folders. -/
def libraries : Attempt (List Item) := do
  let answer : ItemList ← Attempt.ask .folders
  let found := answer.items.filter isLibrary
  Attempt.log (listed "Fetched supported libraries" [("count", .count found.length)])
  pure found

/-- What is logged about items of a kind below a parent: how many there are. -/
def listedBelow (parent : String) (kind : Named ItemKind) (items : List Item) : Log.Entry :=
  listed "Fetched children"
    [("parent_id", .text parent), ("item_type", .shown kind.word), ("count", .count items.length)]

/-- The items of a kind below a parent, as the server orders them. -/
def itemsBelow (parent : String) (kind : Named ItemKind) : Attempt (List Item) := do
  let answer : ItemList ← Attempt.ask (.query (Query.children parent kind))
  Attempt.log (listedBelow parent kind answer.items)
  pure answer.items

/-- A single item. -/
def item (id : String) : Attempt Item := Attempt.ask (.get id)

/-- Logs entries in order. -/
def logAll : List Log.Entry → Attempt Unit
  | [] => pure ()
  | e :: es => do
    Attempt.log e
    logAll es

section Levels

variable [Mime.Table]

/-- The nodes one level below a parent, in the order of the level. -/
def children (links : Links) (parent : String) (l : Level) : Attempt (List Node) := do
  let items ← itemsBelow parent (.known l.kind)
  let sorted := l.key.sort items
  logAll (sorted.filterMap (remark? l))
  pure (sorted.filterMap (child? links l))

/-! ### Nodes with children -/

/-- The root: all libraries below a title. -/
def root (title : String) : Attempt Node := do
  let ls ← libraries
  pure ((Node.container none .directory title none).withChildren .directory (ls.map libraryNode))

/-- A node with its children of one level. -/
def expand (links : Links) (n : Node) (parent : String) (l : Level) : Attempt Node := do
  let cs ← children links parent l
  pure (n.withChildren l.mediaClass cs)

/-- A library with its children: artists, or albums if there is no artist; movies; or series. -/
def library (links : Links) (i : Item) : Attempt Node :=
  match i.collection with
  | some (.known .music) => do
    let artists ← children links i.id .artists
    if artists.isEmpty then expand links (libraryNode i) i.id .albums
    else pure ((libraryNode i).withChildren Level.artists.mediaClass artists)
  | some (.known .movies) => expand links (libraryNode i) i.id .movies
  | _ => expand links (libraryNode i) i.id .series

/-- An item with its children; items that have none cannot be shown. -/
def node (links : Links) (i : Item) : Attempt Node :=
  match Opening.of i.kind with
  | .library => library links i
  | .level c l => expand links (container links c i) i.id l
  | .closed => throw (.browse (.unsupportedItem i.kind.word))

end Levels

/-! ### Streams -/

/-- The address of an item's stream, by its medium. -/
def stream (links : Links) (i : Item) : Except RequestError String :=
  match i.medium with
  | some (.known .audio) => .ok (links.audio i.id)
  | some (.known .video) => .ok (links.video i.id)
  | some (.other m) => .error (.browse (.unsupportedMedium (some m)))
  | none => .error (.browse (.unsupportedMedium none))

end MediaTree.Build
