/-
**Percent encoding.**

An address has room for few characters.  Every other octet of a text is written as a percent sign
and two digits to the base sixteen.  Which octets stand for themselves depends on the place: in a
path segment the unreserved characters, in a form the ones below.  Decoding does not depend on the
place.

Main definitions:

* `MediaTree.Text.Percent.escape` — one octet as `%XX`;
* `MediaTree.Text.Percent.encode` — a text, given which octets stand for themselves;
* `MediaTree.Text.Percent.segment` — a text as one segment of a path;
* `MediaTree.Text.Percent.decode` — the octets behind an encoded text.
-/

import MediaTree.Text.Hex
import MediaTree.Text.Utf8

set_option autoImplicit false
set_option relaxedAutoImplicit false

namespace MediaTree.Text.Percent

/-! ### Encoding -/

/-- One octet as `%XX`. -/
def escape (b : UInt8) : List Char :=
  ['%', Hex.upper (b.toNat / 16), Hex.upper (b.toNat % 16)]

/-- The character of an octet below 128. -/
def asciiChar (b : UInt8) : Char := Char.ofNat b.toNat

/-- An octet as itself, or escaped. -/
def encodeOctet (plain : Char → Bool) (b : UInt8) : List Char :=
  if b.toNat < 0x80 ∧ plain (asciiChar b) then [asciiChar b] else escape b

/-- A text in which the characters that are `plain` stand for themselves. -/
def encode (plain : Char → Bool) (s : String) : List Char :=
  (octets s).flatMap (encodeOctet plain)

/-- Letters and digits of ASCII. -/
def isAlphanumeric (c : Char) : Bool :=
  ('a' ≤ c && c ≤ 'z') || ('A' ≤ c && c ≤ 'Z') || ('0' ≤ c && c ≤ '9')

/-- The characters that mean themselves everywhere in an address. -/
def isUnreserved (c : Char) : Bool :=
  isAlphanumeric c || c == '-' || c == '.' || c == '_' || c == '~'

/-- A text as one segment of a path. -/
def segment (s : String) : String := String.ofList (encode isUnreserved s)

/-! ### Decoding -/

/-- The octet that two digits spell. -/
def octet? (hi lo : Char) : Option UInt8 :=
  match Hex.value? hi, Hex.value? lo with
  | some h, some l => some (UInt8.ofNat (h * 16 + l))
  | _, _ => none

/-- The octets behind an encoded text; a percent sign without two digits stands for itself. -/
def decode : List Char → List UInt8
  | '%' :: hi :: lo :: rest =>
    match octet? hi lo with
    | some b => b :: decode rest
    | none => String.utf8EncodeChar '%' ++ decode (hi :: lo :: rest)
  | c :: rest => String.utf8EncodeChar c ++ decode rest
  | [] => []

/-- The text behind an encoded text, if its octets spell one. -/
def decodeText? (cs : List Char) : Option String := ofOctets? (decode cs)

end MediaTree.Text.Percent
