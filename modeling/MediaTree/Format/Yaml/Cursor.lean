/-
**Walking through a text of lines.**

What a character of YAML means depends on where it stands: in which line and column, and whether
anything but blanks stands in front of it.  A cursor knows this, and a walk moves it on.  The end of
the text reads as the character NUL, and so does that character itself.

Main definitions:

* `MediaTree.Yaml.Cursor` — a place in a text;
* `MediaTree.Yaml.Walk` — what moves a cursor, with `place`, `here`, `pass`, `passBlank`,
  `passBreak`;
* `MediaTree.Yaml.Walk.gap` — blanks and a comment up to the end of a line.
-/

import MediaTree.Text.Scan

set_option autoImplicit false
set_option relaxedAutoImplicit false

namespace MediaTree.Yaml

/-! ### Characters -/

/-- The end of the text. -/
def isEnd (c : Char) : Bool := c == '\x00'

/-- Space and tab. -/
def isSpace (c : Char) : Bool := c == ' ' || c == '\t'

/-- The end of a line. -/
def isBreak (c : Char) : Bool := c == '\n' || c == '\r'

/-- The end of a line or of the text. -/
def isLineOver (c : Char) : Bool := isBreak c || isEnd c

/-- What parts words: blanks and the ends of lines and of the text. -/
def isGap (c : Char) : Bool := isSpace c || isLineOver c

/-- Commas and brackets, which end words in flow style. -/
def isFlowMark (c : Char) : Bool := [',', '[', ']', '\x7b', '\x7d'].contains c

/-- Characters of names: letters and digits of ASCII, underscore and hyphen. -/
def isNameChar (c : Char) : Bool := c.isAlphanum || c == '_' || c == '-'

/-! ### Cursors -/

/-- A place in a text. -/
structure Cursor where
  /-- What stands here and behind. -/
  rest : List Char
  /-- How many characters stand in front. -/
  position : Nat
  line : Nat
  column : Nat
  /-- Only blanks stand in front on the line. -/
  fresh : Bool

namespace Cursor

/-- The start of a text. -/
def start (cs : List Char) : Cursor := ⟨cs, 0, 0, 0, true⟩

/-- The character so many places on. -/
def look (k : Cursor) (n : Nat) : Char := k.rest.getD n '\x00'

/-- A mark of three equal characters stands alone here. -/
def isMark (k : Cursor) (c : Char) : Bool :=
  k.look 0 == c && k.look 1 == c && k.look 2 == c && isGap (k.look 3)

/-- A mark between documents stands here, at the start of a line. -/
def atDocumentMark (k : Cursor) : Bool := k.column == 0 && (k.isMark '-' || k.isMark '.')

end Cursor

/-! ### Walks -/

/-- What moves a cursor on, or finds that the text is damaged. -/
abbrev Walk (α : Type) := StateT Cursor Option α

namespace Walk

/-- The text is damaged. -/
def refuse {α : Type} : Walk α := fun _ => none

/-- A yes or no that must be yes. -/
def require (b : Bool) : Walk Unit := if b then pure () else refuse

/-- Where the cursor stands. -/
def place : Walk Cursor := get

/-- The character at the cursor. -/
def here : Walk Char := do pure ((← get).look 0)

/-- The character behind the one at the cursor. -/
def second : Walk Char := do pure ((← get).look 1)

/-- Moves over a blank. -/
def passBlank : Walk Unit := modify fun k =>
  { k with rest := k.rest.drop 1, position := k.position + 1, column := k.column + 1 }

/-- Moves over a character of a word. -/
def pass : Walk Unit := modify fun k =>
  { k with
    rest := k.rest.drop 1, position := k.position + 1, column := k.column + 1, fresh := false }

/-- Moves over the end of a line. -/
def passBreak : Walk Unit := modify fun k =>
  let n := if k.look 0 == '\r' && k.look 1 == '\n' then 2 else 1
  { rest := k.rest.drop n, position := k.position + n, line := k.line + 1, column := 0,
    fresh := true }

/-- Moves over so many characters of words. -/
def passMany : Nat → Walk Unit
  | 0 => pure ()
  | n + 1 => do
    pass
    passMany n

/-- Moves over all characters of a kind, none of which ends a line, and gives them. -/
def takeWhile (p : Char → Bool) : Walk (List Char) := do
  let cs := (← get).rest.takeWhile p
  passMany cs.length
  pure cs

/-- Moves over a comment. -/
def passComment : Walk Unit := do
  let _ ← takeWhile fun c => !isLineOver c

/-- Which blanks were found. -/
structure Blanks where
  tab : Bool
  space : Bool

/-- Moves over blanks and a comment, given which blanks were found so far and a number that the
characters do not exceed. -/
def gapFrom (tabs : Bool) : Nat → Blanks → Walk Blanks
  | 0, b => pure b
  | fuel + 1, b => do
    let c ← here
    if c == ' ' then
      passBlank
      gapFrom tabs fuel { b with space := true }
    else if c == '\t' && tabs then
      passBlank
      gapFrom tabs fuel { b with tab := true }
    else if c == '#' then
      require (b.tab || b.space)
      passComment
      pure b
    else pure b

/-- Moves over blanks and a comment up to the end of the line; tabs count as blanks or not.  A
comment must have a blank in front. -/
def gap (tabs : Bool) : Walk Blanks := do gapFrom tabs ((← get).rest.length + 1) ⟨false, false⟩

/-- A character by so many hexadecimal digits. -/
def codePoint (digits : Nat) : Walk Char := do
  let cs := (← get).rest.take digits
  require (cs.length == digits)
  match Text.Scan.hexNumber? cs with
  | none => refuse
  | some n =>
    require n.isValidChar
    passMany digits
    pure (Char.ofNat n)

end Walk

end MediaTree.Yaml
