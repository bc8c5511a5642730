/-
**The media source.**

A source has a name and a slot for a catalog.  Catalogs are attached and detached; a request works
on the catalog that is attached when it starts, and leaves the source as it is.

Main definitions:

* `MediaTree.browsePlan`, `MediaTree.resolvePlan` — what a request does over given addresses;
* `MediaTree.Source` — a source, with `attach`, `detach`, `url?`, `browse`, `resolve`.
-/

import MediaTree.Tree.Builder

set_option autoImplicit false
set_option relaxedAutoImplicit false

namespace MediaTree

/-! ### Requests -/

/-- An entry of the source's own log. -/
def sourceEntry (severity : Log.Severity) (message : String)
    (fields : List (String × Log.FieldValue)) : Log.Entry :=
  ⟨severity, "jellyfin_media_source::source", message, fields⟩

variable [Mime.Table]

/-- Browses an item, or the root if there is no id or an empty one. -/
def browsePlan (links : Links) (title : String) (id : Option String) : Attempt Node :=
  let id := id.getD ""
  if id = "" then do
    Attempt.log (sourceEntry .debug "Browsing library root" [])
    Build.root title
  else do
    Attempt.log (sourceEntry .debug "Browsing item" [("item_id", .text id)])
    let i ← Build.item id
    Build.node links i

/-- Resolves an item into its stream.  The stream's address is that of the item that was fetched. -/
def resolvePlan (links : Links) (id : String) : Attempt Playback := do
  let i ← Build.item id
  let url ← (Build.stream links i : Except RequestError String)
  match Mime.ofItem i with
  | .ok mimeType =>
    Attempt.log (sourceEntry .debug "Resolved media"
      [("item_id", .text id), ("mime_type", .shown mimeType)])
    pure ⟨url, mimeType⟩
  | .error u =>
    Attempt.log u.entry
    Attempt.log (sourceEntry .warn "Resolve requested for item without a mime type"
      [("item_id", .text id)])
    throw (.unresolvable (.noMimeType id))

/-! ### The source -/

/-- A source: its name, and the catalog that is attached. -/
structure Source where
  name : String
  catalog : Option Catalog

namespace Source

/-- A source without a catalog. -/
def new (name : String) : Source := ⟨name, none⟩

/-- Attaches a catalog in place of any other. -/
def attach (s : Source) (k : Catalog) : Source := { s with catalog := some k }

/-- Detaches the catalog, and yields it. -/
def detach (s : Source) : Source × Option Catalog := ({ s with catalog := none }, s.catalog)

/-- Where the attached catalog is. -/
def url? (s : Source) : Option String := s.catalog.map (·.links.base)

/-- Browses on the attached catalog. -/
def browse (s : Source) (id : Option String) : List Event × Except RequestError Node :=
  match s.catalog with
  | none => ([], .error (.browse .noCatalog))
  | some k => Attempt.run k (browsePlan k.links s.name id)

/-- Resolves on the attached catalog. -/
def resolve (s : Source) (id : String) : List Event × Except RequestError Playback :=
  match s.catalog with
  | none => ([], .error (.unresolvable .noCatalog))
  | some k => Attempt.run k (resolvePlan k.links id)

end Source

end MediaTree
