/-
**Printing JSON.**

Two layouts of one grammar: *compact*, without any blank, and *pretty*, with every element and
member on a line of its own, two spaces of indentation for each level and a space behind a
colon.  Empty arrays and objects are closed at once in both.  A string escapes the quote, the
backslash and the control characters, and nothing else.

Main definitions:

* `MediaTree.Json.escapeChar`, `MediaTree.Json.quote` — strings;
* `MediaTree.Json.compact` — the compact text;
* `MediaTree.Json.pretty` — the pretty text.
-/

import MediaTree.Json.Basic
import MediaTree.Text.Hex

set_option autoImplicit false
set_option relaxedAutoImplicit false

namespace MediaTree.Json

/-! ### Strings -/

/-- How a character is written inside a string. -/
def escapeChar (c : Char) : List Char :=
  if c = '"' then ['\\', '"']
  else if c = '\\' then ['\\', '\\']
  else if c = '\x08' then ['\\', 'b']
  else if c = '\t' then ['\\', 't']
  else if c = '\n' then ['\\', 'n']
  else if c = '\x0c' then ['\\', 'f']
  else if c = '\r' then ['\\', 'r']
  else if c.toNat < 0x20 then
    ['\\', 'u', '0', '0', Text.Hex.lower (c.toNat / 16), Text.Hex.lower (c.toNat % 16)]
  else [c]

/-- A string with its quotes. -/
def quote (s : String) : List Char := '"' :: s.toList.flatMap escapeChar ++ ['"']

/-- A whole number in decimal digits. -/
def intText (n : Int) : List Char :=
  if n < 0 then '-' :: Nat.toDigits 10 n.natAbs else Nat.toDigits 10 n.natAbs

/-- The names of the scalars without content. -/
def boolText (b : Bool) : List Char :=
  if b then ['t', 'r', 'u', 'e'] else ['f', 'a', 'l', 's', 'e']

/-! ### The two layouts -/

/-- What a layout writes besides the values themselves. -/
structure Style where
  /-- Behind an opening bracket, and in front of an element, on a nesting level. -/
  lead : Nat → List Char
  /-- Behind a colon. -/
  gap : List Char

/-- No blank anywhere. -/
def Style.compact : Style := ⟨fun _ => [], []⟩

/-- A line for each part, two spaces for each level. -/
def Style.pretty : Style := ⟨fun level => '\n' :: List.replicate (2 * level) ' ', [' ']⟩

mutual

/-- The text of a value that stands on a nesting level. -/
def render (st : Style) (level : Nat) : Json → List Char
  | .null => ['n', 'u', 'l', 'l']
  | .bool b => boolText b
  | .int n => intText n
  | .string s => quote s
  | .array [] => ['[', ']']
  | .array (e :: es) =>
    '[' :: st.lead (level + 1) ++ render st (level + 1) e ++ renderElements st (level + 1) es
      ++ st.lead level ++ [']']
  | .object [] => ['\x7b', '\x7d']
  | .object ((k, v) :: ms) =>
    '\x7b' :: st.lead (level + 1) ++ quote k ++ ':' :: st.gap ++ render st (level + 1) v
      ++ renderMembers st (level + 1) ms ++ st.lead level ++ ['\x7d']

/-- The text of the elements behind the first. -/
def renderElements (st : Style) (level : Nat) : List Json → List Char
  | [] => []
  | e :: es => ',' :: st.lead level ++ render st level e ++ renderElements st level es

/-- The text of the members behind the first. -/
def renderMembers (st : Style) (level : Nat) : List (String × Json) → List Char
  | [] => []
  | (k, v) :: ms =>
    ',' :: st.lead level ++ quote k ++ ':' :: st.gap ++ render st level v
      ++ renderMembers st level ms

end

/-- The compact text of a value. -/
def compact (j : Json) : String := String.ofList (j.render Style.compact 0)

/-- The pretty text of a value. -/
def pretty (j : Json) : String := String.ofList (j.render Style.pretty 0)

end MediaTree.Json
