/-
**Blanks and pieces.**

Which characters are white space, and how a text falls into pieces at separators.

Main definitions:

* `MediaTree.Text.isBlank` — white space;
* `MediaTree.Text.trim` — a text without the blanks at its ends;
* `MediaTree.Text.pieces` — the pieces between separators.

Main results:

* `MediaTree.Text.pieces_ne_nil` — every text has a piece.
-/

set_option autoImplicit false
set_option relaxedAutoImplicit false

namespace MediaTree.Text

/-! ### White space -/

/-- The white space characters outside ASCII. -/
def wideBlanks : List Char := [
  '\u0085', '\u00a0', '\u1680', '\u2000', '\u2001', '\u2002', '\u2003', '\u2004', '\u2005',
  '\u2006', '\u2007', '\u2008', '\u2009', '\u200a', '\u2028', '\u2029', '\u202f', '\u205f',
  '\u3000']

/-- White space: the blank, the characters from tab to carriage return, and those outside ASCII. -/
def isBlank (c : Char) : Bool :=
  c == ' ' || (0x09 ≤ c.toNat && c.toNat ≤ 0x0d) || wideBlanks.contains c

/-- A text without the blanks at its end. -/
def trimEnd (s : List Char) : List Char := (s.reverse.dropWhile isBlank).reverse

/-- A text without the blanks at its ends. -/
def trim (s : List Char) : List Char := trimEnd (s.dropWhile isBlank)

/-! ### Pieces -/

/-- The pieces of a text between separators. -/
def pieces (sep : Char → Bool) : List Char → List (List Char)
  | [] => [[]]
  | c :: cs =>
    if sep c then [] :: pieces sep cs
    else match pieces sep cs with
      | [] => [[c]]
      | p :: ps => (c :: p) :: ps

theorem pieces_ne_nil (sep : Char → Bool) (s : List Char) : pieces sep s ≠ [] := by
  cases s with
  | nil => simp [pieces]
  | cons c cs =>
    unfold pieces
    split
    · simp
    · split <;> simp

end MediaTree.Text
