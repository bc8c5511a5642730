/-
**Characters that do not stand for themselves in a quotation.**

A character that prints as nothing one could recognise is *hidden*, and a quotation writes its
number instead: a control or format character, a separator other than the space, a code point
without a public meaning, or one that may be ignored by default.  So is a character that attaches
itself to the one in front of it, which are the nonspacing and enclosing marks and some further
characters of the property `Grapheme_Extend`; the two halfwidth voice marks have that property too,
but a cell of their own, and are not hidden.

Main definitions:

* `MediaTree.Text.isHidden` — whether a character is hidden.
-/

import MediaTree.Text.Category

set_option autoImplicit false
set_option relaxedAutoImplicit false

namespace MediaTree.Text

/-- The characters of the property `Grapheme_Extend` that are of no category of hidden characters,
without the halfwidth voice marks. -/
def extendingRanges : Runs Nat := Runs.ofRanges
  "9be 9d7 b3e b57 bbe bd7 cc0 cc2 cc7-cc8 cca-ccb cd5-cd6 d3e d57 dcf ddf 1715 1734 1b35 1b3b
   1b3d 1b43-1b44 1baa 1bf2-1bf3 302e-302f a953 a9c0 111c0 11235 1133e 1134d 11357 113b8 113c2
   113c5 113c7-113c9 113cf 114b0 114bd 115af 116b6 11930 1193d 11f41 16ff0-16ff1 1d165-1d166
   1d16d-1d172"

/-- The characters of the property `Default_Ignorable_Code_Point` that are of no category of hidden
characters: letters that only fill a place. -/
def fillerRanges : Runs Nat := Runs.ofRanges "115f-1160 3164 ffa0"

/-- Whether a character is written by its number in a quotation. -/
def isHidden (c : Char) : Bool :=
  if c.toNat < 0x80 then c.toNat < 0x20 || c.toNat == 0x7f
  else match category c with
    | .control | .separator | .unassigned | .nonspacing | .enclosing => true
    | .letter | .spacing => fillerRanges.covers c || extendingRanges.covers c
    | _ => false

end MediaTree.Text
