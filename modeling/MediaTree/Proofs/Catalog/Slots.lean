/-
**The slots of the catalog's records.**

Each field of a media source, an item and an item list has a place of its own in the draft of the
record, so what is read into one of them never touches another.

Main definitions:

* `MediaTree.MediaSource.slots`, `MediaTree.Item.slots`, `MediaTree.ItemList.slots`.

Main results:

* `MediaTree.MediaSource.slotted`, `MediaTree.Item.slotted`, `MediaTree.ItemList.slotted` — the
  fields of the records are these slots.
-/

import MediaTree.Catalog.Codec
import MediaTree.Proofs.Json.Slots

set_option autoImplicit false
set_option relaxedAutoImplicit false

namespace MediaTree

open Json (Decoder Slot)

/-! ### Media sources -/

namespace MediaSource

def idSlot : Slot Draft :=
  .optional "Id" Draft.id (fun d x => { d with id := some x }) Decoder.string

def pathSlot : Slot Draft :=
  .optional "Path" Draft.path (fun d x => { d with path := some x }) Decoder.string

def containerSlot : Slot Draft :=
  .optional "Container" Draft.container (fun d x => { d with container := some x }) Decoder.string

/-- The slots of a media source. -/
def slots : List (Slot Draft) := [idSlot, pathSlot, containerSlot]

/-- The fields of a media source are its slots. -/
theorem slotted : shape.Slotted slots where
  fields := rfl
  nodup := by decide
  blank := by simp [slots, shape, Slot.optional, idSlot, pathSlot, containerSlot]
  get_put := by simp [slots, Slot.optional, idSlot, pathSlot, containerSlot]
  get_put_of_ne := by simp [slots, Slot.optional, idSlot, pathSlot, containerSlot]

end MediaSource

/-! ### Items -/

namespace Item

def idSlot : Slot Draft where
  Value := String
  name := "Id"
  required := true
  get := Draft.id
  put d x := { d with id := some x }
  decoder := Decoder.string

def nameSlot : Slot Draft :=
  .optional "Name" Draft.name (fun d x => { d with name := some x }) Decoder.string

def kindSlot : Slot Draft where
  Value := Named ItemKind
  name := "Type"
  required := true
  get := Draft.kind
  put d x := { d with kind := some x }
  decoder := Named.decode

def collectionSlot : Slot Draft :=
  .optional "CollectionType" Draft.collection (fun d x => { d with collection := some x })
    Named.decode

def indexSlot : Slot Draft :=
  .optional "IndexNumber" Draft.index (fun d x => { d with index := some x })
    (Decoder.signed.map Int64.ofInt)

def mediumSlot : Slot Draft :=
  .optional "MediaType" Draft.medium (fun d x => { d with medium := some x }) Named.decode

def tagsSlot : Slot Draft :=
  .optional "ImageTags" Draft.tags (fun d x => { d with tags := some x }) Tags.decode

def sourcesSlot : Slot Draft :=
  .optional "MediaSources" Draft.sources (fun d x => { d with sources := some x })
    MediaSource.decode.list

/-- The slots of an item. -/
def slots : List (Slot Draft) :=
  [idSlot, nameSlot, kindSlot, collectionSlot, indexSlot, mediumSlot, tagsSlot, sourcesSlot]

/-- The fields of an item are its slots. -/
theorem slotted : shape.Slotted slots where
  fields := rfl
  nodup := by decide
  blank := by
    simp [slots, shape, Slot.optional, idSlot, nameSlot, kindSlot, collectionSlot, indexSlot,
      mediumSlot, tagsSlot, sourcesSlot]
  get_put := by
    simp [slots, Slot.optional, idSlot, nameSlot, kindSlot, collectionSlot, indexSlot, mediumSlot,
      tagsSlot, sourcesSlot]
  get_put_of_ne := by
    simp [slots, Slot.optional, idSlot, nameSlot, kindSlot, collectionSlot, indexSlot, mediumSlot,
      tagsSlot, sourcesSlot]

end Item

/-! ### Item lists -/

namespace ItemList

def itemsSlot : Slot Draft where
  Value := List Item
  name := "Items"
  required := false
  get := Draft.items
  put d x := { d with items := some x }
  decoder := Item.decode.list

def totalSlot : Slot Draft where
  Value := UInt64
  name := "TotalRecordCount"
  required := false
  get := Draft.total
  put d x := { d with total := some x }
  decoder := Decoder.unsigned.map UInt64.ofNat

/-- The slots of an item list. -/
def slots : List (Slot Draft) := [itemsSlot, totalSlot]

/-- The fields of an item list are its slots. -/
theorem slotted : shape.Slotted slots where
  fields := rfl
  nodup := by decide
  blank := by simp [slots, shape, itemsSlot, totalSlot]
  get_put := by simp [slots, itemsSlot, totalSlot]
  get_put_of_ne := by simp [slots, itemsSlot, totalSlot]

end ItemList

end MediaTree
