/-
**Quotations.**

A text that is quoted in a message stands between double quotes.  A quote and a backslash are
written with a backslash in front, the four common control characters by their letters, every
other hidden character by its number, as in `\u{7f}`; all else stands for itself.

Main definitions:

* `MediaTree.Text.quotedChar` — how one character is written;
* `MediaTree.Text.quoted` — the quotation of a text.
-/

import MediaTree.Text.Hidden

set_option autoImplicit false
set_option relaxedAutoImplicit false

namespace MediaTree.Text

/-- The digits of a number to the base sixteen, in lower case. -/
def hexText (n : Nat) : List Char := Nat.toDigits 16 n

/-- How a character is written in a quotation. -/
def quotedChar (c : Char) : List Char :=
  match c with
  | '\x00' => ['\\', '0']
  | '\t' => ['\\', 't']
  | '\n' => ['\\', 'n']
  | '\r' => ['\\', 'r']
  | '"' => ['\\', '"']
  | '\\' => ['\\', '\\']
  | c => if isHidden c then ['\\', 'u', '\x7b'] ++ hexText c.toNat ++ ['\x7d'] else [c]

/-- The quotation of a text. -/
def quoted (s : String) : String :=
  String.ofList ('"' :: s.toList.flatMap quotedChar ++ ['"'])

end MediaTree.Text
