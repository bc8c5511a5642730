/-
**Reading from the front.**

A reader takes what it needs from the front of a text and leaves the rest, or fails.  Readers are
combined in order; where one of several has to apply, the next character decides.

Main definitions:

* `MediaTree.Text.Scan` — readers, with `next`, `peek?`, `exactly`, `takeWhile`;
* `MediaTree.Text.Scan.codePoint` — a character given by its number;
* `MediaTree.Text.Scan.whole?` — what a reader makes of a whole text.
-/

import MediaTree.Text.Hex

set_option autoImplicit false
set_option relaxedAutoImplicit false

namespace MediaTree.Text

/-- A reader: what it makes of the front of a text, and the rest. -/
abbrev Scan (α : Type) := StateT (List Char) Option α

namespace Scan

/-- Nothing can be made of the text. -/
def refuse {α : Type} : Scan α := fun _ => none

/-- The next character. -/
def next : Scan Char
  | [] => none
  | c :: cs => some (c, cs)

/-- The next character, which stays where it is. -/
def peek? : Scan (Option Char) := fun cs => some (cs.head?, cs)

/-- All that is left, which stays where it is. -/
def rest : Scan (List Char) := fun cs => some (cs, cs)

/-- So many characters, or as many as are left. -/
def take (n : Nat) : Scan (List Char) := fun cs => some (cs.take n, cs.drop n)

/-- Nothing is left. -/
def atEnd : Scan Bool := fun cs => some (cs.isEmpty, cs)

/-- The text goes on with these characters, which stay where they are. -/
def ahead (w : List Char) : Scan Bool := fun cs => some (w.isPrefixOf cs, cs)

/-- So many characters are passed over. -/
def skip (n : Nat) : Scan Unit := fun cs => some ((), cs.drop n)

/-- These characters stand here. -/
def exactly (w : List Char) : Scan Unit := fun cs =>
  if w.isPrefixOf cs then some ((), cs.drop w.length) else none

/-- All characters of a kind that stand here. -/
def takeWhile (p : Char → Bool) : Scan (List Char) := fun cs =>
  some (cs.takeWhile p, cs.dropWhile p)

/-- At least one character of a kind. -/
def takeSome (p : Char → Bool) : Scan (List Char) := do
  let cs ← takeWhile p
  if cs.isEmpty then refuse else pure cs

/-- Characters of a kind are passed over. -/
def skipWhile (p : Char → Bool) : Scan Unit := do
  let _ ← takeWhile p

/-- A yes or no that must be yes. -/
def require (b : Bool) : Scan Unit := if b then pure () else refuse

/-- A value that must be there. -/
def some? {α : Type} : Option α → Scan α
  | some a => pure a
  | none => refuse

/-- The number that hexadecimal digits spell; there must be one. -/
def hexNumber? (cs : List Char) : Option Nat :=
  if cs.isEmpty then none
  else cs.foldl (fun acc c => do pure ((← acc) * 16 + (← Hex.value? c))) (some 0)

/-- The character with a number. -/
def character (n : Nat) : Scan Char := if n.isValidChar then pure (Char.ofNat n) else refuse

/-- A character given by so many hexadecimal digits. -/
def codePoint (digits : Nat) : Scan Char := do
  let cs ← take digits
  require (cs.length == digits)
  character (← some? (hexNumber? cs))

/-- What a reader makes of a whole text; nothing may be left. -/
def whole? {α : Type} (s : Scan α) (text : List Char) : Option α :=
  match s text with
  | some (a, []) => some a
  | _ => none

end Scan

end MediaTree.Text
