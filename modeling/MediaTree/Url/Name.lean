/-
**Host names.**

A host name is a list of labels.  Its characters are first changed into those that they count as,
and composed; then each label is looked at by itself.  A label with the mark of an encoding stands
for what it decodes to, which must be in that form already; a label that is not ASCII gets encoded.
A label does not start with a mark, its joiners mean something, and if any character of the name is
written from right to left, the directions in each label go together.

Main definitions:

* `MediaTree.Url.Name.Label` — a label with its encoding;
* `MediaTree.Url.Name.ascii?` — the normal form of a host name.
-/

import MediaTree.Text.Direction
import MediaTree.Text.Joining
import MediaTree.Url.Bootstring
import MediaTree.Url.Mapping

set_option autoImplicit false
set_option relaxedAutoImplicit false

namespace MediaTree.Url.Name

/-- The parts of a text between separators. -/
def split (sep : Char) (cs : List Char) : List (List Char) := Text.pieces (· == sep) cs

/-! ### Characters -/

/-- Characters that no name holds. -/
def isForbidden (c : Char) : Bool :=
  c.toNat ≤ 0x20 || c.toNat == 0x7f ||
  ['#', '/', ':', '<', '>', '?', '@', '[', '\\', ']', '^', '|', '%'].contains c

/-- Characters of ASCII. -/
def isAscii (c : Char) : Bool := c.toNat < 0x80

/-- A mark, which belongs to the character in front of it. -/
def isMark (c : Char) : Bool :=
  [Text.Category.nonspacing, .spacing, .enclosing].contains (Text.category c)

/-- Characters of ASCII that count as themselves: all but the capital letters. -/
def isSettled (c : Char) : Bool := isAscii c && !('A' ≤ c && c ≤ 'Z')

/-- The characters that a name counts as.  Settled characters need no look into the tables. -/
def folded? (cs : List Char) : Option (List Char) :=
  if cs.all isSettled then some cs else (Mapping.mapped? cs).map Text.composed

/-! ### Labels -/

/-- A label: what it says, and how it is written with ASCII characters only. -/
structure Label where
  chars : List Char
  ascii : List Char

/-- The mark of an encoded label. -/
def mark : List Char := ['x', 'n', '-', '-']

/-- The most characters that are decoded, and that are encoded. -/
def maxDecoded : Nat := 2000

@[inherit_doc maxDecoded] def maxEncoded : Nat := 1000

/-- A label may stand in a name: it starts with no mark, and its joiners mean something. -/
def isSound (cs : List Char) : Bool := !(cs.head?.any isMark) && Text.joinersMean cs

/-- A label behind the mark of an encoding.  It does not end in a hyphen. -/
def decoded? (cs : List Char) : Option Label := do
  let digits := cs.drop mark.length
  if cs.getLast? = some '-' || maxDecoded < digits.length then none
  else
    let chars ← Bootstring.decode? digits
    if folded? chars = some chars ∧ !chars.any isForbidden ∧ isSound chars then
      pure ⟨chars, cs⟩
    else none

/-- A label whose characters are what they count as. -/
def label? (cs : List Char) : Option Label :=
  if mark.isPrefixOf cs then decoded? cs
  else if cs.all isAscii then some ⟨cs, cs⟩
  else if isSound cs && cs.length ≤ maxEncoded then some ⟨cs, mark ++ Bootstring.encode cs⟩
  else none

/-! ### Names -/

/-- The directions in a name go together; no character of ASCII runs to the left. -/
def keepDirections (ls : List Label) : Bool :=
  if ls.any fun l => l.chars.any fun c => !isAscii c && Text.runsLeft c then
    ls.all fun l => l.chars.isEmpty || Text.keepsDirection l.chars
  else true

/-- The normal form of a host name. -/
def ascii? (cs : List Char) : Option (List Char) := do
  let folded ← folded? cs
  if folded.any isForbidden then none
  else
    let ls ← (split '.' folded).mapM label?
    if keepDirections ls then pure (List.intercalate ['.'] (ls.map (·.ascii))) else none

end MediaTree.Url.Name
