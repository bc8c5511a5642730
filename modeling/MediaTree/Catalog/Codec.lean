/-
**Records of the catalog as JSON.**

How items, media sources and item lists are spelled.  A field without a value is left out; the two
fields of an item list are always written, and may be left out but not be `null` where one is read.

Main definitions:

* `MediaTree.MediaSource.toJson`, `MediaTree.MediaSource.decode`;
* `MediaTree.Item.toJson`, `MediaTree.Item.decode`;
* `MediaTree.ItemList.toJson`, `MediaTree.ItemList.decode`.
-/

import MediaTree.Catalog.Item
import MediaTree.Json.Decoder
import MediaTree.Json.Printer

set_option autoImplicit false
set_option relaxedAutoImplicit false

namespace MediaTree

open Json (Decoder Shape Problem)

/-! ### Parts -/

/-- A word of a vocabulary. -/
def Named.toJson {κ : Type} [Vocabulary κ] (n : Named κ) : Json := .string n.word

/-- A word of a vocabulary; every string is one. -/
def Named.decode {κ : Type} [Vocabulary κ] : Decoder (Named κ) :=
  Decoder.map Named.ofWord Decoder.string

/-- Tags as an object, one member for each entry. -/
def Tags.toJson (t : Tags) : Json := .object (t.entries.map fun e => (e.1, .string e.2))

/-- Tags from an object whose values are strings. -/
def Tags.decode : Decoder Tags := Decoder.dictionary Decoder.string Tags.empty Tags.insert

/-! ### Media sources -/

namespace MediaSource

/-- The spelling of a media source. -/
def toJson (s : MediaSource) : Json :=
  .object (
    Json.optional "Id" .string s.id ++
    Json.optional "Path" .string s.path ++
    Json.optional "Container" .string s.container)

/-- A media source being read: for each field whether it was given, and what. -/
structure Draft where
  id : Option (Option String)
  path : Option (Option String)
  container : Option (Option String)

/-- The fields of a media source, none of them required. -/
def fields : List (Json.Field Draft) := [
  ⟨"Id", false, (·.id.isSome), fun d depth r => do
    pure { d with id := some (← Decoder.string.optional depth r) }⟩,
  ⟨"Path", false, (·.path.isSome), fun d depth r => do
    pure { d with path := some (← Decoder.string.optional depth r) }⟩,
  ⟨"Container", false, (·.container.isSome), fun d depth r => do
    pure { d with container := some (← Decoder.string.optional depth r) }⟩]

/-- How a media source is spelled. -/
def shape : Shape Draft MediaSource where
  name := "MediaSource"
  fields := fields
  blank := ⟨none, none, none⟩
  finish d := .ok ⟨d.id.join, d.path.join, d.container.join⟩

/-- Reads a media source. -/
def decode : Decoder MediaSource := shape.decode

end MediaSource

/-! ### Items -/

namespace Item

/-- The spelling of an item. -/
def toJson (i : Item) : Json :=
  .object (
    ("Id", .string i.id) ::
    Json.optional "Name" .string i.name ++
    ("Type", i.kind.toJson) ::
    Json.optional "CollectionType" Named.toJson i.collection ++
    Json.optional "IndexNumber" (fun n => .int n.toInt) i.index ++
    Json.optional "MediaType" Named.toJson i.medium ++
    Json.optional "ImageTags" Tags.toJson i.tags ++
    Json.optional "MediaSources" (fun ss => .array (ss.map MediaSource.toJson)) i.sources)

/-- An item being read: for each field whether it was given, and what. -/
structure Draft where
  id : Option String
  name : Option (Option String)
  kind : Option (Named ItemKind)
  collection : Option (Option (Named Collection))
  index : Option (Option Int64)
  medium : Option (Option (Named Medium))
  tags : Option (Option Tags)
  sources : Option (Option (List MediaSource))

/-- The fields of an item; id and type are required. -/
def fields : List (Json.Field Draft) := [
  ⟨"Id", true, (·.id.isSome), fun d depth r => do
    pure { d with id := some (← Decoder.string depth r) }⟩,
  ⟨"Name", false, (·.name.isSome), fun d depth r => do
    pure { d with name := some (← Decoder.string.optional depth r) }⟩,
  ⟨"Type", true, (·.kind.isSome), fun d depth r => do
    pure { d with kind := some (← Named.decode depth r) }⟩,
  ⟨"CollectionType", false, (·.collection.isSome), fun d depth r => do
    pure { d with collection := some (← Named.decode.optional depth r) }⟩,
  ⟨"IndexNumber", false, (·.index.isSome), fun d depth r => do
    pure { d with index := some (← (Decoder.signed.map Int64.ofInt).optional depth r) }⟩,
  ⟨"MediaType", false, (·.medium.isSome), fun d depth r => do
    pure { d with medium := some (← Named.decode.optional depth r) }⟩,
  ⟨"ImageTags", false, (·.tags.isSome), fun d depth r => do
    pure { d with tags := some (← Tags.decode.optional depth r) }⟩,
  ⟨"MediaSources", false, (·.sources.isSome), fun d depth r => do
    pure { d with sources := some (← MediaSource.decode.list.optional depth r) }⟩]

/-- An item is complete when it has id and type. -/
def Draft.finish (d : Draft) : Except Problem Item :=
  match d.id, d.kind with
  | none, _ => .error (.missingField "Id")
  | some _, none => .error (.missingField "Type")
  | some id, some kind =>
    .ok ⟨id, d.name.join, kind, d.collection.join, d.index.join, d.medium.join, d.tags.join,
      d.sources.join⟩

/-- How an item is spelled. -/
def shape : Shape Draft Item where
  name := "Item"
  fields := fields
  blank := ⟨none, none, none, none, none, none, none, none⟩
  finish := Draft.finish

/-- Reads an item. -/
def decode : Decoder Item := shape.decode

end Item

/-! ### Item lists -/

namespace ItemList

/-- The spelling of an item list. -/
def toJson (l : ItemList) : Json :=
  .object [("Items", .array (l.items.map Item.toJson)), ("TotalRecordCount", .int l.total.toNat)]

/-- An item list being read. -/
structure Draft where
  items : Option (List Item)
  total : Option UInt64

/-- The fields of an item list, none of them required. -/
def fields : List (Json.Field Draft) := [
  ⟨"Items", false, (·.items.isSome), fun d depth r => do
    pure { d with items := some (← Item.decode.list depth r) }⟩,
  ⟨"TotalRecordCount", false, (·.total.isSome), fun d depth r => do
    pure { d with total := some (← Decoder.unsigned.map UInt64.ofNat depth r) }⟩]

/-- How an item list is spelled: without items it is empty, without a total it counts none. -/
def shape : Shape Draft ItemList where
  name := "ItemsResponse"
  fields := fields
  blank := ⟨none, none⟩
  finish d := .ok ⟨d.items.getD [], d.total.getD 0⟩

/-- Reads an item list. -/
def decode : Decoder ItemList := shape.decode

end ItemList

end MediaTree
