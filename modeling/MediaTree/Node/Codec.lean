/-
**Nodes as JSON.**

The identifier is always written, as `null` for the root; the other optional fields are left out
when they have no value.  Reading is by the same shape at every level, and every level of children
takes two of the nestings allowed: one for the list and one for the child.

Main definitions:

* `MediaTree.MediaClass.toJson`, `MediaTree.MediaClass.decode`, `MediaTree.MediaClass.ofReading`;
* `MediaTree.Node.toJson`, `MediaTree.Node.decode`;
* `MediaTree.Playback.toJson`, `MediaTree.Playback.decode`.
-/

import MediaTree.Json.Decoder
import MediaTree.Json.Printer
import MediaTree.Node.Basic

set_option autoImplicit false
set_option relaxedAutoImplicit false

namespace MediaTree

open Json (Decoder Shape Problem Reading)

/-! ### Classes -/

namespace MediaClass

/-- The spelling of a class. -/
def toJson (c : MediaClass) : Json := .string c.name

/-- Reads a class inside a text. -/
def decode : Decoder MediaClass := Decoder.choice ofName? (all.map name)

/-- Reads a class from a value that is complete: a name, or a map with a single entry whose value is
`null`. -/
def ofReading (r : Reading) : Except Problem MediaClass :=
  let named := fun s =>
    match ofName? s with
    | some c => Except.ok c
    | none => .error (Problem.unknownVariant s (all.map name))
  match r with
  | .string (some s) => named s
  | .object [(.string (some s), v)] => do
    let c ← named s
    Decoder.unit 0 v
    pure c
  | .object _ => .error (.invalidValue .map "map with a single key")
  | r => .error (r.mismatch "string or map")

end MediaClass

/-! ### Nodes -/

namespace Node

mutual

/-- The spelling of a node. -/
def toJson : Node → Json
  | mk domain identifier mediaClass contentType title canPlay canExpand thumbnail childrenClass
      children =>
    .object (
      ("domain", .string domain) ::
      ("identifier", Json.nullable .string identifier) ::
      ("media_class", mediaClass.toJson) ::
      (Json.optional "media_content_type" .string contentType ++
      ("title", .string title) ::
      ("can_play", .bool canPlay) ::
      ("can_expand", .bool canExpand) ::
      (Json.optional "thumbnail" .string thumbnail ++
      Json.optional "children_media_class" MediaClass.toJson childrenClass ++
      childrenMember children)))

/-- The member that holds the children. -/
def childrenMember : Option (List Node) → List (String × Json)
  | none => []
  | some cs => [("children", .array (toJsons cs))]

/-- The spellings of nodes. -/
def toJsons : List Node → List Json
  | [] => []
  | n :: ns => n.toJson :: toJsons ns

end

/-- A node being read: for each field whether it was given, and what. -/
structure Draft where
  domain : Option String
  identifier : Option (Option String)
  mediaClass : Option MediaClass
  contentType : Option (Option String)
  title : Option String
  canPlay : Option Bool
  canExpand : Option Bool
  thumbnail : Option (Option String)
  childrenClass : Option (Option MediaClass)
  children : Option (Option (List Node))

/-- The fields of a node; read by position all of them are required. -/
def fields (child : Decoder Node) : List (Json.Field Draft) := [
  ⟨"domain", true, (·.domain.isSome), fun d depth r => do
    pure { d with domain := some (← Decoder.string depth r) }⟩,
  ⟨"identifier", true, (·.identifier.isSome), fun d depth r => do
    pure { d with identifier := some (← Decoder.string.optional depth r) }⟩,
  ⟨"media_class", true, (·.mediaClass.isSome), fun d depth r => do
    pure { d with mediaClass := some (← MediaClass.decode depth r) }⟩,
  ⟨"media_content_type", true, (·.contentType.isSome), fun d depth r => do
    pure { d with contentType := some (← Decoder.string.optional depth r) }⟩,
  ⟨"title", true, (·.title.isSome), fun d depth r => do
    pure { d with title := some (← Decoder.string depth r) }⟩,
  ⟨"can_play", true, (·.canPlay.isSome), fun d depth r => do
    pure { d with canPlay := some (← Decoder.bool depth r) }⟩,
  ⟨"can_expand", true, (·.canExpand.isSome), fun d depth r => do
    pure { d with canExpand := some (← Decoder.bool depth r) }⟩,
  ⟨"thumbnail", true, (·.thumbnail.isSome), fun d depth r => do
    pure { d with thumbnail := some (← Decoder.string.optional depth r) }⟩,
  ⟨"children_media_class", true, (·.childrenClass.isSome), fun d depth r => do
    pure { d with childrenClass := some (← MediaClass.decode.optional depth r) }⟩,
  ⟨"children", true, (·.children.isSome), fun d depth r => do
    pure { d with children := some (← child.list.optional depth r) }⟩]

/-- A node is complete when it has domain, class, title and both flags. -/
def Draft.finish (d : Draft) : Except Problem Node :=
  match d.domain, d.mediaClass, d.title, d.canPlay, d.canExpand with
  | none, _, _, _, _ => .error (.missingField "domain")
  | _, none, _, _, _ => .error (.missingField "media_class")
  | _, _, none, _, _ => .error (.missingField "title")
  | _, _, _, none, _ => .error (.missingField "can_play")
  | _, _, _, _, none => .error (.missingField "can_expand")
  | some domain, some mediaClass, some title, some canPlay, some canExpand =>
    .ok (Node.mk domain d.identifier.join mediaClass d.contentType.join title canPlay canExpand
      d.thumbnail.join d.childrenClass.join d.children.join)

/-- How a node is spelled, given how its children are read. -/
def shape (child : Decoder Node) : Shape Draft Node where
  name := "BrowseMediaSource"
  fields := fields child
  blank := ⟨none, none, none, none, none, none, none, none, none, none⟩
  finish := Draft.finish

/-- Reads a node whose levels of children are at most `levels`; below them nothing is a node. -/
def decodeLevels : Nat → Decoder Node
  | 0 => (shape fun _ _ => .error .malformed).decode
  | levels + 1 => (shape (decodeLevels levels)).decode

/-- Reads a node.  Each level of children takes nestings of its own, so there are no more levels
than nestings allowed. -/
def decode : Decoder Node := fun depth r => decodeLevels depth depth r

end Node

/-! ### Playbacks -/

namespace Playback

/-- The spelling of a playback. -/
def toJson (p : Playback) : Json :=
  .object [("url", .string p.url), ("mime_type", .string p.mimeType)]

/-- A playback being read. -/
structure Draft where
  url : Option String
  mimeType : Option String

/-- The fields of a playback, both required. -/
def fields : List (Json.Field Draft) := [
  ⟨"url", true, (·.url.isSome), fun d depth r => do
    pure { d with url := some (← Decoder.string depth r) }⟩,
  ⟨"mime_type", true, (·.mimeType.isSome), fun d depth r => do
    pure { d with mimeType := some (← Decoder.string depth r) }⟩]

/-- How a playback is spelled. -/
def shape : Shape Draft Playback where
  name := "PlayMedia"
  fields := fields
  blank := ⟨none, none⟩
  finish d :=
    match d.url, d.mimeType with
    | none, _ => .error (.missingField "url")
    | some _, none => .error (.missingField "mime_type")
    | some url, some mimeType => .ok ⟨url, mimeType⟩

/-- Reads a playback. -/
def decode : Decoder Playback := shape.decode

end Playback

end MediaTree
