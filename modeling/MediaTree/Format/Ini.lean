/-
**INI.**

Sections with keys and values, all of them texts.  A key and its value are parted by `=` or `:`; a
value ends with its line, and may begin with quoted parts.  A backslash escapes a character or
joins two lines.  A comment starts a line, and so does a section.  On a line that is indented, all
up to the next `=` or `:` is a key, whatever it looks like and wherever that mark stands; without
such a mark it is passed over.  A section that is given again takes the place of the earlier one;
keys in front of all sections stand at the top.

Main definitions:

* `MediaTree.Ini.text?`, `MediaTree.Ini.value` — texts and values;
* `MediaTree.Ini.Entry`, `MediaTree.Ini.entries` — the lines of a text;
* `MediaTree.Ini.read?` — the table that a text spells.
-/

import MediaTree.Decimal.Reading
import MediaTree.Format.Datum
import MediaTree.Text.Blank
import MediaTree.Text.Scan

set_option autoImplicit false
set_option relaxedAutoImplicit false

namespace MediaTree.Ini

open Text (Scan)

/-! ### Texts -/

/-- Where a text ends, besides the end of the file. -/
structure Stop where
  /-- The characters that end it. -/
  marks : List Char
  /-- The end of the file ends it too. -/
  atEnd : Bool

/-- What stands behind a backslash. -/
inductive Escape where
  /-- A character. -/
  | char (c : Char)
  /-- Two lines are joined. -/
  | join
  /-- No character has this number. -/
  | fault

/-- The character that a number stands for, written with four characters: hexadecimal digits, the
first of which may be a plus sign. -/
def numbered? (cs : List Char) : Option Char := do
  let n ← Scan.hexNumber? (if cs.head? == some '+' then cs.drop 1 else cs)
  if cs.length == 4 && n.isValidChar then some (Char.ofNat n) else none

/-- The four characters of a number, or those up to a backslash that joins no lines. -/
def numberText : Nat → Scan (List Char)
  | 0 => pure []
  | n + 1 => do
    match (← Scan.take 1) with
    | ['\\'] =>
      let c ← Scan.take 1
      if c == ['\n'] then pure ('\\' :: (← numberText n)) else pure ['\\']
    | cs => pure (cs ++ (← numberText n))

/-- What stands behind a backslash that this character follows. -/
def escaped (c : Char) : Scan Escape := do
  match c with
  | '\n' => pure .join
  | '0' => pure (.char '\x00')
  | 'a' => pure (.char '\x07')
  | 'b' => pure (.char '\x08')
  | 't' => pure (.char '\t')
  | 'r' => pure (.char '\r')
  | 'n' => pure (.char '\n')
  | 'x' =>
    match numbered? (← numberText 4) with
    | some c => pure (.char c)
    | none => pure .fault
  | c => pure (.char c)

/-- A text up to its end, which stays where it is; nothing if it has no end or holds a fault, behind
which the reader then stands. -/
def text? (stop : Stop) : Nat → List Char → Scan (Option (List Char))
  | 0, _ => Scan.refuse
  | fuel + 1, acc => do
    match ← Scan.peek? with
    | none => pure (if stop.atEnd then some acc.reverse else none)
    | some c =>
      if stop.marks.contains c then pure (some acc.reverse)
      else
        Scan.skip 1
        if c != '\\' then text? stop fuel (c :: acc)
        else match ← Scan.peek? with
          | none => text? stop fuel ('\\' :: acc)
          | some d => do
            Scan.skip 1
            match ← escaped d with
            | .char e => text? stop fuel (e :: acc)
            | .join => text? stop fuel acc
            | .fault => pure none

/-- A text up to its end, which must be sound. -/
def text (stop : Stop) (fuel : Nat) : Scan (List Char) := do Scan.some? (← text? stop fuel [])

/-! ### Values -/

/-- Blanks that end no line. -/
def isSpace (c : Char) : Bool := Text.isBlank c && c != '\n' && c != '\r'

/-- A value: quoted parts, and what follows them on the line.  Blanks around it do not count, those
between a quoted part and what follows do. -/
def value (whole : Nat) : Nat → List Char → Bool → Scan String
  | 0, _, _ => Scan.refuse
  | fuel + 1, acc, quoted => do
    match ← Scan.peek? with
    | none => pure (String.ofList acc)
    | some c =>
      if c == '"' || c == '\'' then
        Scan.skip 1
        let part ← text ⟨[c], false⟩ whole
        Scan.skip 1
        value whole fuel (acc ++ part) true
      else
        let rest ← text ⟨['\n', '\r'], true⟩ whole
        pure (String.ofList (acc ++ if quoted then Text.trimEnd rest else Text.trim rest))

/-! ### Lines -/

/-- What a line says. -/
inductive Entry where
  | opening (name : String)
  | pair (key value : String)
deriving DecidableEq, Repr

/-- Space and tab. -/
def isIndent (c : Char) : Bool := c == ' ' || c == '\t'

/-- Spaces, tabs and line ends are passed over up to an indentation: a space or tab at the start of
a line, as told by `fresh`, or right behind a line end.  The answer is whether a line starts there.
-/
def gap : Bool → Scan Bool
  | fresh, [] => some (fresh, [])
  | fresh, c :: cs =>
    if isIndent c then if fresh then some (true, c :: cs) else gap false cs
    else if c == '\n' || c == '\r' then
      if cs.head?.any isIndent then some (c == '\n', cs) else gap (c == '\n') cs
    else some (fresh, c :: cs)
termination_by _ cs => cs.length

/-- Where a key ends. -/
def keyStop : Stop := ⟨['=', ':'], false⟩

/-- The key that a text spells, if any. -/
def keyOf? (cs : List Char) : Option String :=
  match Text.trim cs with
  | [] => none
  | k => some (String.ofList k)

/-- What the lines say, in order; `fresh` at the start of a line. -/
def entries (whole : Nat) : Nat → Bool → Option String → List Entry → Scan (List Entry)
  | 0, _, _, _ => Scan.refuse
  | fuel + 1, fresh, key, acc => do
    let fresh ← gap fresh
    match ← Scan.rest with
    | [] => pure acc.reverse
    | c :: cs =>
      if c == ';' || c == '#' then
        Scan.require fresh
        Scan.skipWhile (· != '\n')
        Scan.skip 1
        entries whole fuel true key acc
      else if c == '[' then
        Scan.skip 1
        let name ← text ⟨[']'], false⟩ whole
        Scan.skip 1
        entries whole fuel false key (.opening (String.ofList (Text.trim name)) :: acc)
      else if c == '=' || c == ':' then
        match key with
        | none => Scan.refuse
        | some k => do
          Scan.skip 1
          Scan.skipWhile isSpace
          let v ← value whole whole [] false
          entries whole fuel false none (.pair k v :: acc)
      else if isIndent c then
        match ← text? keyStop whole [] with
        | some k => entries whole fuel false (keyOf? k) acc
        | none =>
          let passed := cs.take (cs.length - (← Scan.rest).length)
          entries whole fuel (passed.getLast? == some '\n') key acc
      else
        let k ← text keyStop whole
        entries whole fuel false (keyOf? k) acc

/-! ### Tables -/

/-- A document so far: its members, and the section that pairs go to. -/
structure Draft where
  members : List (String × Datum)
  current : Option (String × List (String × Datum))

/-- The members, the current section included. -/
def Draft.close (d : Draft) : List (String × Datum) :=
  match d.current with
  | none => d.members
  | some (name, ms) => Table.put name (.table ms) d.members

/-- What a line does to a document. -/
def Draft.add (d : Draft) : Entry → Draft
  | .opening name => ⟨d.close, some (name, [])⟩
  | .pair k v =>
    let v : Datum := .scalar (.text v)
    match d.current with
    | none => ⟨Table.put k v d.members, none⟩
    | some (name, ms) => ⟨d.members, some (name, Table.put k v ms)⟩

/-- The table that a text spells. -/
def read? (text : String) : Option (List (String × Datum)) := do
  let cs := text.toList
  let fuel := 2 * cs.length + 2
  let es ← (entries fuel fuel true none []).whole? cs
  pure (es.foldl Draft.add ⟨[], none⟩).close

end MediaTree.Ini
