/-
**Case folding into ASCII.**

Two texts are equal up to case when they have the same folding.  Where one of them is known to be
ASCII only the characters whose folding is ASCII matter: the ASCII letters, the Kelvin sign, the
long s, the sharp s and the Latin ligatures.  A text with any other character beyond ASCII equals
no ASCII text.

Main definitions:

* `MediaTree.Text.foldAscii?` — the folding of a text, if it is ASCII;
* `MediaTree.Text.lower` — the folding of a text that is ASCII.
-/

set_option autoImplicit false
set_option relaxedAutoImplicit false

namespace MediaTree.Text

/-- The characters beyond ASCII whose folding is ASCII. -/
def foldings : List (Nat × List Char) := [
  (0x00DF, ['s', 's']), (0x017F, ['s']), (0x1E9E, ['s', 's']), (0x212A, ['k']),
  (0xFB00, ['f', 'f']), (0xFB01, ['f', 'i']), (0xFB02, ['f', 'l']), (0xFB03, ['f', 'f', 'i']),
  (0xFB04, ['f', 'f', 'l']), (0xFB05, ['s', 't']), (0xFB06, ['s', 't'])]

/-- The folding of a character, if it is ASCII. -/
def foldAsciiChar? (c : Char) : Option (List Char) :=
  if c.toNat < 0x80 then some [if 'A' ≤ c ∧ c ≤ 'Z' then Char.ofNat (c.toNat + 0x20) else c]
  else (foldings.find? (·.1 == c.toNat)).map (·.2)

/-- The folding of characters, if it is ASCII. -/
def foldAscii? : List Char → Option (List Char)
  | [] => some []
  | c :: cs => do
    let f ← foldAsciiChar? c
    let fs ← foldAscii? cs
    pure (f ++ fs)

/-- A text in lower case, as far as it is ASCII. -/
def lower (cs : List Char) : List Char := cs.map Char.toLower

end MediaTree.Text
