/-
**Nodes of the media tree.**

What a host is shown: a node is either a *container*, which can be opened, or *playable*.  Only the
node that was asked for carries children; children carry none of their own.  Every node has an
address, made of its domain and its identifier; the root has no identifier.

Main definitions:

* `MediaTree.MediaClass` — what a node stands for, with `isExpandable`;
* `MediaTree.Node` — a node, with `container`, `playable`, `withChildren`, `address`;
* `MediaTree.Playback` — a stream with its MIME type.
-/

set_option autoImplicit false
set_option relaxedAutoImplicit false

namespace MediaTree

/-- What a node stands for. -/
inductive MediaClass where
  | directory
  | artist
  | album
  | track
  | movie
  | tvShow
  | season
  | episode
deriving DecidableEq, Repr, Inhabited

namespace MediaClass

/-- All classes, in the order in which they are listed. -/
def all : List MediaClass := [directory, artist, album, track, movie, tvShow, season, episode]

/-- The written name of a class. -/
def name : MediaClass → String
  | directory => "directory"
  | artist => "artist"
  | album => "album"
  | track => "track"
  | movie => "movie"
  | tvShow => "tv_show"
  | season => "season"
  | episode => "episode"

/-- The class with a written name. -/
def ofName? (s : String) : Option MediaClass := all.find? (·.name == s)

/-- A class is found by its name. -/
@[simp] theorem ofName?_name (c : MediaClass) : ofName? c.name = some c := by
  cases c <;> decide

/-- Nodes of this class can hold children. -/
def isExpandable : MediaClass → Bool
  | track | movie | episode => false
  | _ => true

end MediaClass

/-- A node of the media tree. -/
inductive Node where
  | mk (domain : String) (identifier : Option String) (mediaClass : MediaClass)
    (contentType : Option String) (title : String) (canPlay canExpand : Bool)
    (thumbnail : Option String) (childrenClass : Option MediaClass)
    (children : Option (List Node))
deriving Repr, Inhabited

namespace Node

/-- Whose node it is. -/
def domain : Node → String
  | mk d .. => d

/-- The item it shows; nothing for the root. -/
def identifier : Node → Option String
  | mk _ i .. => i

/-- What it stands for. -/
def mediaClass : Node → MediaClass
  | mk _ _ c .. => c

/-- The MIME type of a playable node. -/
def contentType : Node → Option String
  | mk _ _ _ m .. => m

/-- What it is called. -/
def title : Node → String
  | mk _ _ _ _ t .. => t

/-- Whether it can be played. -/
def canPlay : Node → Bool
  | mk _ _ _ _ _ p .. => p

/-- Whether it can be opened. -/
def canExpand : Node → Bool
  | mk _ _ _ _ _ _ e .. => e

/-- The address of its artwork. -/
def thumbnail : Node → Option String
  | mk _ _ _ _ _ _ _ t .. => t

/-- What its children stand for. -/
def childrenClass : Node → Option MediaClass
  | mk _ _ _ _ _ _ _ _ c _ => c

/-- Its children, if it was the node asked for. -/
def children : Node → Option (List Node)
  | mk _ _ _ _ _ _ _ _ _ cs => cs

/-- The domain of every node made here. -/
def ownDomain : String := "jellyfin"

/-- A node that can be opened. -/
def container (identifier : Option String) (c : MediaClass) (title : String)
    (thumbnail : Option String) : Node :=
  mk ownDomain identifier c none title false true thumbnail none none

/-- A node that can be played. -/
def playable (identifier : String) (c : MediaClass) (contentType : String) (title : String)
    (thumbnail : Option String) : Node :=
  mk ownDomain (some identifier) c (some contentType) title true false thumbnail none none

/-- The node with these children, in place of any others. -/
def withChildren (n : Node) (c : MediaClass) (children : List Node) : Node :=
  mk n.domain n.identifier n.mediaClass n.contentType n.title n.canPlay n.canExpand n.thumbnail
    (some c) (some children)

/-- The node under another domain. -/
def withDomain (n : Node) (domain : String) : Node :=
  mk domain n.identifier n.mediaClass n.contentType n.title n.canPlay n.canExpand n.thumbnail
    n.childrenClass n.children

/-- The node without its children. -/
def withoutChildren (n : Node) : Node :=
  mk n.domain n.identifier n.mediaClass n.contentType n.title n.canPlay n.canExpand n.thumbnail
    none none

/-- Where a host finds the node again. -/
def address (n : Node) : String :=
  match n.identifier with
  | some id => "media-source://" ++ n.domain ++ "/" ++ id
  | none => "media-source://" ++ n.domain

/-- The addresses of a node and of each of its children. -/
def addresses (n : Node) : List String :=
  n.address :: (n.children.getD []).map address

end Node

/-- A stream with its MIME type. -/
structure Playback where
  url : String
  mimeType : String
deriving DecidableEq, Repr, Inhabited

end MediaTree
