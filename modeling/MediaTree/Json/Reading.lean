/-
**What a reader finds in a JSON text.**

The second stage of reading: tokens become a tree.  The tree is built for every text.  Where a text
goes wrong or ends too early the tree holds `broken`, and since nothing behind that place is looked
at, `broken` is the last thing in it.  A consumer that walks the tree from left to right therefore
meets its own complaints (a value of the wrong kind, a missing member) and the damage of the text
in the order in which they stand in the text, and the first one it meets is the first one there is.

The key of a member is a reading too, since a text may put anything where a key belongs; only a
string is a key, and behind anything else the member is broken.

Main definitions:

* `MediaTree.Json.Reading` — the tree;
* `MediaTree.Json.Reading.sound` — nothing in it is broken;
* `MediaTree.Json.Builder` — a tree being built, with `feed` and `finish`;
* `MediaTree.Json.Document` — the tree of a whole text, and whether anything follows it;
* `MediaTree.Json.Document.ofTokens`, `MediaTree.Json.Document.ofBytes` — reading.
-/

import MediaTree.Json.Token

set_option autoImplicit false
set_option relaxedAutoImplicit false

namespace MediaTree.Json

/-- A JSON value as far as the text spells one. -/
inductive Reading where
  | null
  | bool (b : Bool)
  | number (n : Numeral)
  /-- A string; `none` if what it holds is no text. -/
  | string (s : Option String)
  | array (elements : List Reading)
  | object (members : List (Reading × Reading))
  /-- The text ends or goes wrong here. -/
  | broken
deriving Repr, Inhabited

namespace Reading

mutual

/-- Nothing in the value is broken. -/
def sound : Reading → Bool
  | .null | .bool _ | .number _ | .string _ => true
  | .array es => soundElements es
  | .object ms => soundMembers ms
  | .broken => false

/-- Nothing in the elements is broken. -/
def soundElements : List Reading → Bool
  | [] => true
  | r :: rs => r.sound && soundElements rs

/-- Nothing in the members is broken. -/
def soundMembers : List (Reading × Reading) → Bool
  | [] => true
  | (k, v) :: ms => k.sound && v.sound && soundMembers ms

end

end Reading

/-! ### Building the tree -/

/-- An array or object that is still open. -/
inductive Frame where
  /-- An array with its elements so far, last one first. -/
  | array (before : List Reading)
  /-- An object between two members. -/
  | object (before : List (Reading × Reading))
  /-- An object inside a member: the key is known. -/
  | member (before : List (Reading × Reading)) (key : Reading)
deriving Repr

namespace Frame

/-- The value of an open array or object whose next part is `r`, and which breaks off there. -/
def breakOff : Frame → Reading → Reading
  | .array before, r => .array (before.reverse ++ [r])
  | .object before, r => .object (before.reverse ++ [(r, .broken)])
  | .member before key, r => .object (before.reverse ++ [(key, r)])

end Frame

/-- The tree of a whole text. -/
structure Document where
  value : Reading
  /-- Nothing but blanks follows the value. -/
  complete : Bool
deriving Repr

/-- What a builder waits for. -/
inductive Want where
  /-- A value. -/
  | value
  /-- The first element of an array, or its end. -/
  | firstElement
  /-- A comma, or the end of what is open. -/
  | more
  /-- The first key of an object, or its end. -/
  | firstKey
  /-- A key. -/
  | key
  /-- A colon. -/
  | colon
deriving DecidableEq, Repr

/-- A tree being built. -/
inductive Builder where
  /-- Something is still open, innermost first. -/
  | waiting (want : Want) (stack : List Frame)
  /-- The value is complete. -/
  | complete (r : Reading)
  /-- The text went wrong; what it spelled up to there. -/
  | ended (r : Reading)
deriving Repr

namespace Builder

/-- A builder at the start of a text. -/
def start : Builder := .waiting .value []

/-- What the open frames come to if the text goes wrong at `r`. -/
def brokenOff (stack : List Frame) (r : Reading) : Reading :=
  stack.foldl (fun r f => f.breakOff r) r

/-- The text goes wrong at `r`, inside the open frames. -/
def breakOff (stack : List Frame) (r : Reading) : Builder := .ended (brokenOff stack r)

/-- A value is complete: it goes into the innermost open frame. -/
def settle (stack : List Frame) (r : Reading) : Builder :=
  match stack with
  | [] => .complete r
  | .array before :: fs => .waiting .more (.array (r :: before) :: fs)
  | .member before key :: fs => .waiting .more (.object ((key, r) :: before) :: fs)
  | .object before :: fs => .waiting .more (.object ((r, .broken) :: before) :: fs)

/-- What is seen of a value from its first token. -/
def glimpse : Token → Reading
  | .null => .null
  | .bool b => .bool b
  | .number n => .number n
  | .string s => .string s
  | .openArray => .array [.broken]
  | .openObject => .object [(.broken, .broken)]
  | _ => .broken

/-- The innermost open frame ends here. -/
def close (stack : List Frame) (t : Token) : Builder :=
  match t, stack with
  | .closeArray, .array before :: fs => settle fs (.array before.reverse)
  | .closeObject, .object before :: fs => settle fs (.object before.reverse)
  | _, _ => breakOff stack .broken

/-- A value starts here. -/
def begun (stack : List Frame) (t : Token) : Builder :=
  match t with
  | .openArray => .waiting .firstElement (.array [] :: stack)
  | .openObject => .waiting .firstKey (.object [] :: stack)
  | .null => settle stack .null
  | .bool b => settle stack (.bool b)
  | .number n => settle stack (.number n)
  | .string s => settle stack (.string s)
  | _ => breakOff stack .broken

/-- A key stands here. -/
def keyed (stack : List Frame) (t : Token) : Builder :=
  match t, stack with
  | .string s, .object before :: fs => .waiting .colon (.member before (.string s) :: fs)
  | t, stack => breakOff stack (glimpse t)

/-- Something follows a complete value. -/
def follow (stack : List Frame) (t : Token) : Builder :=
  match t, stack with
  | .comma, .array before :: fs => .waiting .value (.array before :: fs)
  | .comma, .object before :: fs => .waiting .key (.object before :: fs)
  | t, stack => close stack t

/-- The next token. -/
def feed (b : Builder) (t : Token) : Builder :=
  match b with
  | .complete r => .ended r
  | .ended r => .ended r
  | .waiting .value stack => begun stack t
  | .waiting .firstElement stack => if t = .closeArray then close stack t else begun stack t
  | .waiting .more stack => follow stack t
  | .waiting .firstKey stack => if t = .closeObject then close stack t else keyed stack t
  | .waiting .key stack => keyed stack t
  | .waiting .colon stack =>
    if t = .colon then .waiting .value stack else breakOff stack .broken

/-- The tree at the end of the text. -/
def finish : Builder → Document
  | .complete r => ⟨r, true⟩
  | .ended r => ⟨r, false⟩
  | .waiting _ stack => ⟨brokenOff stack .broken, false⟩

end Builder

namespace Document

/-- The tree of a text given by its tokens. -/
def ofTokens (tokens : List Token) : Document := (tokens.foldl Builder.feed Builder.start).finish

/-- The tree of a text given by its octets. -/
def ofBytes (bytes : ByteArray) : Document := ofTokens (Token.ofBytes bytes)

end Document

end MediaTree.Json
