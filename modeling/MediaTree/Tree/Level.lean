/-
**Levels of the tree.**

Each kind of item that can be opened has one kind of children: an artist has albums, an album has
tracks, a series has seasons, a season has episodes.  A library has artists, movies or series,
depending on what it collects.  A level says which items a listing asks for, what the nodes made of
them stand for, and how they are ordered.

Main definitions:

* `MediaTree.Level` — a level, and the seven levels there are;
* `MediaTree.Level.query` — the query for a level below a parent;
* `MediaTree.Opening` — what an item of a kind is opened as.
-/

import MediaTree.Catalog.Query
import MediaTree.Node.Basic
import MediaTree.Tree.Sort

set_option autoImplicit false
set_option relaxedAutoImplicit false

namespace MediaTree

/-- The children one level below a parent. -/
inductive Level where
  | artists
  | albums
  | tracks
  | movies
  | series
  | seasons
  | episodes
deriving DecidableEq, Repr, Inhabited

namespace Level

/-- The kind of item that is asked for. -/
def kind : Level → ItemKind
  | artists => .artist
  | albums => .album
  | tracks => .audio
  | movies => .movie
  | series => .series
  | seasons => .season
  | episodes => .episode

/-- What the nodes stand for. -/
def mediaClass : Level → MediaClass
  | artists => .artist
  | albums => .album
  | tracks => .track
  | movies => .movie
  | series => .tvShow
  | seasons => .season
  | episodes => .episode

/-- What the nodes are ordered by. -/
def key : Level → SortKey
  | tracks | seasons | episodes => .index
  | _ => .name

/-- The nodes are leaves. -/
def isLeaf (l : Level) : Bool := l.kind.isPlayable

/-- Leaves are exactly what cannot be opened. -/
theorem isExpandable_mediaClass (l : Level) : l.mediaClass.isExpandable = !l.isLeaf := by
  cases l <;> rfl

end Level

/-- The query for the items of a kind below a parent: all that lie below it, with media sources if
they can be played. -/
def Query.children (parent : String) (kind : Named ItemKind) : Query :=
  let q := (Query.descendantsOf parent).withKind kind
  if kind.isPlayable then q.withField .mediaSources else q

/-- What an item is opened as. -/
inductive Opening where
  /-- A library, whose children depend on what it collects. -/
  | library
  /-- A node of a class, with children of one level. -/
  | level (c : MediaClass) (l : Level)
  /-- It cannot be opened. -/
  | closed
deriving DecidableEq, Repr

/-- What an item of a kind is opened as. -/
def Opening.of : Named ItemKind → Opening
  | .known .library => library
  | .known .artist => level .artist .albums
  | .known .album => level .album .tracks
  | .known .series => level .tvShow .seasons
  | .known .season => level .season .episodes
  | _ => closed

end MediaTree
