/-
**What can go wrong.**

A catalog can fail to answer a call, and a request can fail because a call failed, because the item
cannot be shown as a node, or because it cannot be played.  A failed call is passed on as it is.

Main definitions:

* `MediaTree.CatalogError` — why a call was not answered, with `message`;
* `MediaTree.BrowseCause`, `MediaTree.ResolveCause` — why an item cannot be shown or played;
* `MediaTree.RequestError` — why a request failed, with `message`.
-/

import MediaTree.Http.Status

set_option autoImplicit false
set_option relaxedAutoImplicit false

namespace MediaTree

/-- The largest answer that is read: 16 MiB. -/
def maxResponseSize : Nat := 16 * 1024 * 1024

/-- Why a call was not answered. -/
inductive CatalogError where
  /-- The request or its answer did not get through. -/
  | network (detail : String)
  /-- The server answered with a failure. -/
  | http (status : Nat) (url : String)
  | notFound (id : String)
  /-- The answer is not the record it should be. -/
  | parse (detail : String)
  | invalidConfig (detail : String)
  | invalidHeader (detail : String)
  /-- The answer is larger than what is read. -/
  | tooLarge (size : Nat)
deriving DecidableEq, Repr, Inhabited

/-- The text of an error. -/
def CatalogError.message : CatalogError → String
  | network d => "Network error: " ++ d
  | http s u => "HTTP error " ++ Http.Status.text s ++ " for " ++ u
  | notFound i => "Item not found: " ++ i
  | parse d => "Parse error: " ++ d
  | invalidConfig d => "Invalid configuration: " ++ d
  | invalidHeader d => "Invalid header value: " ++ d
  | tooLarge n =>
    "Response too large (" ++ toString n ++ " bytes, max " ++ toString maxResponseSize ++ ")"

/-- What is said when no catalog is attached. -/
def noCatalogText : String := "Jellyfin not initialized"

/-- Why an item cannot be shown as a node. -/
inductive BrowseCause where
  | noCatalog
  /-- Items of this kind have no children. -/
  | unsupportedItem (kind : String)
  /-- Streams of this medium have no address; nothing if the item has no medium. -/
  | unsupportedMedium (medium : Option String)
  /-- A reason in words. -/
  | stated (reason : String)
deriving DecidableEq, Repr, Inhabited

/-- The text of a cause. -/
def BrowseCause.message : BrowseCause → String
  | noCatalog => noCatalogText
  | unsupportedItem k => "Unsupported item type " ++ k
  | unsupportedMedium (some m) => "Unsupported media type " ++ m
  | unsupportedMedium none => "Unsupported media type (none)"
  | stated r => r

/-- Why an item cannot be played. -/
inductive ResolveCause where
  | noCatalog
  /-- The item asked for has no MIME type. -/
  | noMimeType (id : String)
  /-- A reason in words. -/
  | stated (reason : String)
deriving DecidableEq, Repr, Inhabited

/-- The text of a cause. -/
def ResolveCause.message : ResolveCause → String
  | noCatalog => noCatalogText
  | noMimeType id => "Unable to determine mime type for item " ++ id
  | stated r => r

/-- Why a request failed. -/
inductive RequestError where
  | browse (cause : BrowseCause)
  | unresolvable (cause : ResolveCause)
  /-- A call failed. -/
  | catalog (e : CatalogError)
deriving DecidableEq, Repr, Inhabited

/-- The text of an error; that of a failed call is passed on. -/
def RequestError.message : RequestError → String
  | browse c => "Browse error: " ++ c.message
  | unresolvable c => "Unresolvable: " ++ c.message
  | catalog e => e.message

end MediaTree
