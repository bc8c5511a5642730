/-
**JSON5.**

JSON with comments, with names as keys, with strings in either kind of quotes, with numbers that may
be hexadecimal, signed, infinite or undefined, and with a comma behind the last entry.  A whole
number must fit 64 bits with a sign, a hexadecimal one 32 bits without; a number with a fraction or
an exponent must not be out of range.

Main definitions:

* `MediaTree.Json5.name`, `MediaTree.Json5.string` — keys and texts;
* `MediaTree.Json5.ofWord?`, `MediaTree.Json5.value` — values;
* `MediaTree.Json5.read?` — the table that a text spells.
-/

import MediaTree.Decimal.Reading
import MediaTree.Format.Datum
import MediaTree.Text.Identifier
import MediaTree.Text.Scan

set_option autoImplicit false
set_option relaxedAutoImplicit false

namespace MediaTree.Json5

open Text (Scan)

/-! ### Blanks and comments -/

/-- The end of a line. -/
def isBreak (c : Char) : Bool := c == '\n' || c == '\r' || c == '\u2028' || c == '\u2029'

/-- Characters between two parts of a text: the blanks of ASCII, the separators of Unicode, and the
byte order mark. -/
def isBlank (c : Char) : Bool :=
  c == '\t' || c == '\x0b' || c == '\x0c' || c == '\ufeff' || isBreak c
    || Text.category c = .separator

/-- The rest of a comment that goes up to its closing mark. -/
def longComment : Nat → Scan Unit
  | 0 => Scan.refuse
  | fuel + 1 => do
    if ← Scan.ahead ['*', '/'] then Scan.skip 2
    else
      let _ ← Scan.next
      longComment fuel

/-- Blanks and comments. -/
def gap (whole : Nat) : Nat → Scan Unit
  | 0 => Scan.refuse
  | fuel + 1 => do
    Scan.skipWhile isBlank
    if ← Scan.ahead ['/', '/'] then
      Scan.skipWhile fun c => !isBreak c
      gap whole fuel
    else if ← Scan.ahead ['/', '*'] then
      Scan.skip 2
      longComment whole
      gap whole fuel

/-! ### Strings and names -/

/-- A unit of sixteen bits, by four hexadecimal digits. -/
def unit : Scan Nat := do
  let cs ← Scan.take 4
  Scan.require (cs.length == 4)
  Scan.some? (Scan.hexNumber? cs)

/-- A character given by one unit, or by the two halves of a pair of which each stands behind its
own mark. -/
def paired : Scan Char := do
  let high ← unit
  if 0xd800 ≤ high && high < 0xdc00 then
    Scan.exactly ['\\', 'u']
    let low ← unit
    Scan.require (0xdc00 ≤ low && low < 0xe000)
    Scan.character (0x10000 + (high - 0xd800) * 0x400 + (low - 0xdc00))
  else Scan.character high

/-- What stands behind a backslash; nothing if two lines are joined. -/
def escaped : Scan (Option Char) := do
  match ← Scan.next with
  | 'b' => pure (some '\x08')
  | 'f' => pure (some '\x0c')
  | 'n' => pure (some '\n')
  | 'r' => pure (some '\r')
  | 't' => pure (some '\t')
  | 'v' => pure (some '\x0b')
  | '0' => do
    Scan.require (!(← Scan.peek?).any Char.isDigit)
    pure (some '\x00')
  | 'x' => do pure (some (← Scan.codePoint 2))
  | 'u' => do pure (some (← paired))
  | '\r' => do
    if ← Scan.ahead ['\n'] then Scan.skip 1
    pure none
  | c => if isBreak c then pure none else if c.isDigit then Scan.refuse else pure (some c)

/-- The rest of a string up to its quote; a line ends in it only behind a backslash. -/
def string (quote : Char) : Nat → List Char → Scan String
  | 0, _ => Scan.refuse
  | fuel + 1, acc => do
    let c ← Scan.next
    if c == quote then pure (String.ofList acc.reverse)
    else if c == '\\' then
      match ← escaped with
      | some d => string quote fuel (d :: acc)
      | none => string quote fuel acc
    else if isBreak c then Scan.refuse
    else string quote fuel (c :: acc)

/-- A name may start with this character. -/
def startsName (c : Char) : Bool := c == '$' || c == '_' || Text.category c = .letter

/-- A name may go on with this character. -/
def continuesName (c : Char) : Bool :=
  startsName c || c == '\u200c' || c == '\u200d' || Text.isDiacritic c
    || Text.category c = .digit || Text.category c = .connector

/-- The rest of a name; any character may be given by its number. -/
def nameRest : Nat → List Char → Scan String
  | 0, _ => Scan.refuse
  | fuel + 1, acc => do
    if ← Scan.ahead ['\\', 'u'] then
      Scan.skip 2
      let c ← paired
      nameRest fuel (c :: acc)
    else match ← Scan.peek? with
      | some c =>
        if if acc.isEmpty then startsName c else continuesName c then
          Scan.skip 1
          nameRest fuel (c :: acc)
        else pure (String.ofList acc.reverse)
      | none => pure (String.ofList acc.reverse)

/-- A name of at least one character. -/
def name (fuel : Nat) : Scan String := do
  let s ← nameRest fuel []
  Scan.require (s ≠ "")
  pure s

/-! ### Words -/

/-- Characters of names of values and of numbers. -/
def isWordChar (c : Char) : Bool := c.isAlphanum || c == '+' || c == '-' || c == '.'

/-- The value of a hexadecimal number. -/
def hexadecimal? (cs : List Char) : Option Scalar := do
  let n ← Decimal.natural? 16 cs
  if n < Nat.pow 2 32 then some (.int n) else none

/-- A number without sign has no zero in front of another digit, and digits in front of the point or
behind it. -/
def isPlainNumber (cs : List Char) : Bool :=
  match cs with
  | '0' :: d :: _ => !d.isDigit
  | c :: _ => c.isDigit || c == '.'
  | [] => false

/-- The value of a decimal number, of which `rest` is the part behind the sign. -/
def decimal? (cs rest : List Char) : Option Scalar :=
  if !isPlainNumber rest then none
  else if rest.all Char.isDigit then (Decimal.integer? 10 cs).map .int
  else do
    let x ← Decimal.float? cs
    if x.isFinite then some (.float x) else none

/-- What a word means as a value.  Only a minus sign may stand in front of the names of values, and
no sign in front of a hexadecimal number. -/
def ofWord? (cs : List Char) : Option Scalar :=
  match cs with
  | '0' :: 'x' :: ds | '0' :: 'X' :: ds => hexadecimal? ds
  | _ =>
    match String.ofList cs with
    | "null" => some .null
    | "true" => some (.bool true)
    | "false" => some (.bool false)
    | "Infinity" => some (.float (1.0 / 0.0))
    | "-Infinity" => some (.float (-1.0 / 0.0))
    | "NaN" | "-NaN" => some (.float (0.0 / 0.0))
    | _ => decimal? cs (Decimal.signed cs).2

/-! ### Values -/

/-- A key: a string, or a name. -/
def key (whole : Nat) : Scan String := do
  match ← Scan.peek? with
  | some '"' => do
    Scan.skip 1
    string '"' whole []
  | some '\'' => do
    Scan.skip 1
    string '\'' whole []
  | _ => name whole

mutual

/-- A value. -/
def value (whole : Nat) : Nat → Scan Datum
  | 0 => Scan.refuse
  | fuel + 1 => do
    match ← Scan.peek? with
    | some '[' => do
      Scan.skip 1
      elements whole fuel []
    | some '\x7b' => do
      Scan.skip 1
      members whole fuel []
    | some '"' => do pure (.scalar (.text (← key whole)))
    | some '\'' => do pure (.scalar (.text (← key whole)))
    | _ => do pure (.scalar (← Scan.some? (ofWord? (← Scan.takeSome isWordChar))))

/-- The rest of a list. -/
def elements (whole : Nat) : Nat → List Datum → Scan Datum
  | 0, _ => Scan.refuse
  | fuel + 1, acc => do
    gap whole whole
    if ← Scan.ahead [']'] then
      Scan.skip 1
      pure (.list acc.reverse)
    else
      let v ← value whole fuel
      gap whole whole
      if ← Scan.ahead [','] then
        Scan.skip 1
        elements whole fuel (v :: acc)
      else
        Scan.exactly [']']
        pure (.list (v :: acc).reverse)

/-- The rest of a table. -/
def members (whole : Nat) : Nat → List (String × Datum) → Scan Datum
  | 0, _ => Scan.refuse
  | fuel + 1, ms => do
    gap whole whole
    if ← Scan.ahead ['\x7d'] then
      Scan.skip 1
      pure (.table ms)
    else
      let k ← key whole
      gap whole whole
      Scan.exactly [':']
      gap whole whole
      let v ← value whole fuel
      gap whole whole
      let ms := Table.put k v ms
      if ← Scan.ahead [','] then
        Scan.skip 1
        members whole fuel ms
      else
        Scan.exactly ['\x7d']
        pure (.table ms)

end

/-- A value with blanks around it. -/
def document (whole : Nat) : Scan Datum := do
  gap whole whole
  let d ← value whole whole
  gap whole whole
  pure d

/-- The table that a text spells. -/
def read? (text : String) : Option (List (String × Datum)) := do
  let cs := text.toList
  match ← (document (2 * cs.length + 2)).whole? cs with
  | .table ms => some ms
  | _ => none

end MediaTree.Json5
