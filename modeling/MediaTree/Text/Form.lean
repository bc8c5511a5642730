/-
**Form encoding.**

The pairs behind the question mark of an address are joined by `&`, a name and its value by `=`.
Letters, digits and `*`, `-`, `.`, `_` stand for themselves, a space is written `+`, and every other
octet is escaped, so neither separator ever stands inside a name or a value.

Main definitions:

* `MediaTree.Text.Form.encode`, `MediaTree.Text.Form.encodePairs` — writing;
* `MediaTree.Text.Form.decode?`, `MediaTree.Text.Form.decodePairs?` — reading.
-/

import MediaTree.Text.Percent

set_option autoImplicit false
set_option relaxedAutoImplicit false

namespace MediaTree.Text.Form

/-! ### Writing -/

/-- The characters that stand for themselves. -/
def isPlain (c : Char) : Bool :=
  Percent.isAlphanumeric c || c == '*' || c == '-' || c == '.' || c == '_'

/-- One octet of a name or value. -/
def encodeOctet (b : UInt8) : List Char :=
  if b = 0x20 then ['+'] else Percent.encodeOctet isPlain b

/-- The characters of a name or value. -/
def encodeChars (s : String) : List Char := (octets s).flatMap encodeOctet

/-- A name or value. -/
def encode (s : String) : String := String.ofList (encodeChars s)

/-- A pair. -/
def encodePair (p : String × String) : List Char := encodeChars p.1 ++ '=' :: encodeChars p.2

/-- Pairs in order. -/
def encodePairs (ps : List (String × String)) : String :=
  String.ofList (['&'].intercalate (ps.map encodePair))

/-! ### Reading -/

/-- A plus sign stands for a space. -/
def spaced (cs : List Char) : List Char := cs.map fun c => if c = '+' then ' ' else c

/-- The text of a name or value, if its octets spell one. -/
def decode? (cs : List Char) : Option String := Percent.decodeText? (spaced cs)

/-- The parts between separators; there is one more of them than separators. -/
def splitAll (sep : Char) : List Char → List (List Char)
  | [] => [[]]
  | c :: cs =>
    if c = sep then [] :: splitAll sep cs
    else match splitAll sep cs with
      | [] => [[c]]
      | p :: ps => (c :: p) :: ps

/-- A pair; without `=` the value is empty. -/
def decodePair? (cs : List Char) : Option (String × String) := do
  let name ← decode? (cs.takeWhile (· != '='))
  let value ← decode? ((cs.dropWhile (· != '=')).drop 1)
  pure (name, value)

/-- Pairs in order; a part without any character is no pair. -/
def decodePairs? (s : String) : Option (List (String × String)) :=
  ((splitAll '&' s.toList).filter (!·.isEmpty)).mapM decodePair?

end MediaTree.Text.Form
