/-
**Scalars of TOML.**

Strings come in four kinds: with escapes or literally, on one line or on several.  Every other
scalar is a word: a truth value, a number, or a point in time.  Digits may be grouped by single
underscores that stand between digits.  Points in time are kept as texts of one spelling.

Main definitions:

* `MediaTree.Toml.string` — strings;
* `MediaTree.Toml.word` — the other scalars.
-/

import MediaTree.Decimal.Reading
import MediaTree.Format.Datum
import MediaTree.Text.Blank
import MediaTree.Text.Hex
import MediaTree.Text.Scan

set_option autoImplicit false
set_option relaxedAutoImplicit false

namespace MediaTree.Toml

open Text (Scan)

/-! ### Characters -/

/-- Characters that may stand in a comment or a literal string: no controls but the tab. -/
def isPrintable (c : Char) : Bool := c == '\t' || (0x20 ≤ c.toNat && c.toNat != 0x7f)

/-- Space and tab. -/
def isSpace (c : Char) : Bool := c == ' ' || c == '\t'

/-- The end of a line: a line feed, with or without a carriage return in front of it. -/
def newline : Scan Unit := do
  if ← Scan.ahead ['\r', '\n'] then Scan.skip 2 else Scan.exactly ['\n']

/-- Whether a line ends here. -/
def atNewline : Scan Bool := do
  if ← Scan.ahead ['\n'] then pure true else Scan.ahead ['\r', '\n']

/-! ### Strings -/

/-- What stands behind a backslash. -/
def escaped : Scan Char := do
  match ← Scan.next with
  | 'b' => pure '\x08'
  | 't' => pure '\t'
  | 'n' => pure '\n'
  | 'f' => pure '\x0c'
  | 'r' => pure '\r'
  | 'e' => pure '\x1b'
  | '"' => pure '"'
  | '\\' => pure '\\'
  | 'x' => Scan.codePoint 2
  | 'u' => Scan.codePoint 4
  | 'U' => Scan.codePoint 8
  | _ => Scan.refuse

/-- The rest of a string with escapes on one line; `acc` holds what was read, last one first. -/
def basicRest : Nat → List Char → Scan String
  | 0, _ => Scan.refuse
  | fuel + 1, acc => do
    match ← Scan.next with
    | '"' => pure (String.ofList acc.reverse)
    | '\\' => do
      let c ← escaped
      basicRest fuel (c :: acc)
    | c => if isPrintable c then basicRest fuel (c :: acc) else Scan.refuse

/-- The rest of a literal string on one line. -/
def literalRest : Scan String := do
  let cs ← Scan.takeWhile fun c => c != '\'' && isPrintable c
  Scan.exactly ['\'']
  pure (String.ofList cs)

/-- The end of a string on several lines: up to two more quotes belong to the string. -/
def closing (quote : Char) : Scan (List Char) := do
  let quotes ← Scan.takeWhile (· == quote)
  Scan.require (quotes.length ≤ 5)
  pure (quotes.drop 3)

/-- A backslash at the end of a line takes all blanks behind it away. -/
def lineJoin : Scan Bool := fun cs =>
  let rest := cs.dropWhile isSpace
  if ['\n'].isPrefixOf rest || ['\r', '\n'].isPrefixOf rest then
    some (true, rest.dropWhile fun c => isSpace c || c == '\n' || c == '\r')
  else some (false, cs)

/-- The rest of a string on several lines, with or without escapes. -/
def linesRest (quote : Char) (escapes : Bool) : Nat → List Char → Scan String
  | 0, _ => Scan.refuse
  | fuel + 1, acc => do
    if ← Scan.ahead [quote, quote, quote] then
      let more ← closing quote
      pure (String.ofList (acc.reverse ++ more))
    else if ← Scan.ahead ['\r', '\n'] then
      Scan.skip 2
      linesRest quote escapes fuel ('\n' :: '\r' :: acc)
    else if ← Scan.ahead ['\n'] then
      Scan.skip 1
      linesRest quote escapes fuel ('\n' :: acc)
    else
      let c ← Scan.next
      if escapes && c == '\\' then
        if ← lineJoin then linesRest quote escapes fuel acc
        else
          let d ← escaped
          linesRest quote escapes fuel (d :: acc)
      else if isPrintable c then linesRest quote escapes fuel (c :: acc)
      else Scan.refuse

/-- The inside of a string on several lines; a line end right behind the quotes does not count. -/
def lines (fuel : Nat) (quote : Char) (escapes : Bool) : Scan String := do
  if ← atNewline then newline
  linesRest quote escapes fuel []

/-- A string on one line, as it may also stand for a key. -/
def shortString (fuel : Nat) : Scan String := do
  match ← Scan.next with
  | '"' => basicRest fuel []
  | '\'' => literalRest
  | _ => Scan.refuse

/-- A string of any kind. -/
def string (fuel : Nat) : Scan String := do
  if ← Scan.ahead ['"', '"', '"'] then
    Scan.skip 3
    lines fuel '"' true
  else if ← Scan.ahead ['\'', '\'', '\''] then
    Scan.skip 3
    lines fuel '\'' false
  else shortString fuel

/-! ### Numbers -/

/-- Digits without the underscores that group them; these stand between digits only. -/
def grouped? (isDigit : Char → Bool) (cs : List Char) : Option (List Char) :=
  let groups := Text.pieces (· == '_') cs
  if groups.all fun g => !g.isEmpty && g.all isDigit then some groups.flatten else none

/-- Digits in front of a point: no zero leads unless it is the only one. -/
def whole? (cs : List Char) : Option (List Char) := do
  let digits ← grouped? Char.isDigit cs
  match digits with
  | '0' :: _ :: _ => none
  | ds => some ds

/-- The digit test of a radix. -/
def isDigitIn (radix : Nat) (c : Char) : Bool := (Decimal.digitIn? radix c).isSome

/-- A whole number. -/
def integer? (cs : List Char) : Option Int :=
  let inRadix := fun (radix : Nat) (ds : List Char) => do
    let digits ← grouped? (isDigitIn radix) ds
    Decimal.integer? radix digits
  match cs with
  | '0' :: 'x' :: ds => inRadix 16 ds
  | '0' :: 'o' :: ds => inRadix 8 ds
  | '0' :: 'b' :: ds => inRadix 2 ds
  | '-' :: ds => do Decimal.integer? 10 ('-' :: (← whole? ds))
  | '+' :: ds => do Decimal.integer? 10 (← whole? ds)
  | ds => do Decimal.integer? 10 (← whole? ds)

/-- The value of an infinity or of the undefined number, by name. -/
def special? : List Char → Option Float
  | ['i', 'n', 'f'] => some (1.0 / 0.0)
  | ['n', 'a', 'n'] => some (0.0 / 0.0)
  | _ => none

/-- The power of ten behind a mark, without groups. -/
def power? (cs : List Char) : Option (List Char) :=
  match cs with
  | '-' :: ds => (grouped? Char.isDigit ds).map ('-' :: ·)
  | '+' :: ds => grouped? Char.isDigit ds
  | ds => grouped? Char.isDigit ds

/-- The digits of a number with a fraction or an exponent, without groups; one of them must be
there. -/
def floatDigits? (cs : List Char) : Option (List Char) := do
  let isMark := fun c => c == 'e' || c == 'E'
  let front := cs.takeWhile fun c => !isMark c
  let power ← match cs.dropWhile fun c => !isMark c with
    | [] => some []
    | _ :: ds => (power? ds).map ('e' :: ·)
  match front.takeWhile (· != '.'), front.dropWhile (· != '.') with
  | w, [] => do if power.isEmpty then none else pure ((← whole? w) ++ power)
  | w, _ :: f => do pure ((← whole? w) ++ '.' :: (← grouped? Char.isDigit f) ++ power)

/-- A number with a fraction or an exponent; it must not be out of range. -/
def float? (cs : List Char) : Option Float := do
  let (negative, rest) := Decimal.signed cs
  let x ← match special? rest with
    | some x => some x
    | none => do
      let x ← Decimal.float? (← floatDigits? rest)
      if x.isInf then none else some x
  pure (if negative then -x else x)

/-! ### Points in time -/

/-- A number of so many digits within bounds, at the front of a text. -/
def field? (digits low high : Nat) (cs : List Char) : Option (List Char) := do
  let ds := cs.take digits
  let n ← if ds.length = digits ∧ ds.all Char.isDigit then Decimal.natural? 10 ds else none
  if low ≤ n ∧ n ≤ high then some (cs.drop digits) else none

/-- A character at the front of a text. -/
def mark? (c : Char) : List Char → Option (List Char)
  | d :: cs => if c = d then some cs else none
  | [] => none

/-- The days of a month. -/
def daysIn (year month : Nat) : Nat :=
  if month = 2 then
    if year % 4 = 0 ∧ (year % 100 ≠ 0 ∨ year % 400 = 0) then 29 else 28
  else if month = 4 ∨ month = 6 ∨ month = 9 ∨ month = 11 then 30 else 31

/-- A date at the front of a text: what follows it. -/
def date? (cs : List Char) : Option (List Char) := do
  let rest ← field? 4 0 9999 cs >>= mark? '-' >>= field? 2 1 12 >>= mark? '-'
  let year ← Decimal.natural? 10 (cs.take 4)
  let month ← Decimal.natural? 10 ((cs.drop 5).take 2)
  field? 2 1 (daysIn year month) rest

/-- The fraction of a second in its spelling: at most nine digits, none of them a zero at the end
unless it is the only one. -/
def fractionText (digits : List Char) : List Char :=
  match ((digits.take 9).reverse.dropWhile (· == '0')).reverse with
  | [] => ['.', '0']
  | ds => '.' :: ds

/-- A time of day at the front of a text: its spelling, and what follows it.  Seconds may be left
out, and with them their fraction. -/
def time? (cs : List Char) : Option (List Char × List Char) := do
  let rest ← field? 2 0 23 cs >>= mark? ':' >>= field? 2 0 59
  match rest with
  | ':' :: _ =>
    match ← mark? ':' rest >>= field? 2 0 60 with
    | '.' :: more =>
      let digits := more.takeWhile Char.isDigit
      if digits.isEmpty then none
      else some (cs.take 8 ++ fractionText digits, more.dropWhile Char.isDigit)
    | rest => some (cs.take 8, rest)
  | rest => some (cs.take 5, rest)

/-- The offset from universal time, which ends the text; none is negative and zero. -/
def offset? : List Char → Option (List Char)
  | [] => some []
  | ['Z'] | ['z'] => some ['Z']
  | c :: cs => do
    if c = '+' ∨ c = '-' then
      let rest ← field? 2 0 23 cs >>= mark? ':' >>= field? 2 0 59
      if !rest.isEmpty then none
      else if cs = ['0', '0', ':', '0', '0'] then some ('+' :: cs)
      else some (c :: cs)
    else none

/-- A point in time in its one spelling. -/
def moment? (cs : List Char) : Option (List Char) :=
  match date? cs with
  | some [] => some cs
  | some (c :: rest) =>
    if c = 'T' ∨ c = 't' ∨ c = ' ' then do
      let (t, more) ← time? rest
      pure (cs.take 10 ++ 'T' :: t ++ (← offset? more))
    else none
  | none => do
    let (t, more) ← time? cs
    if more.isEmpty then some t else none

/-! ### Words -/

/-- The characters that words are made of. -/
def isWordChar (c : Char) : Bool :=
  c.isAlphanum || c == '+' || c == '-' || c == '_' || c == '.' || c == ':'

/-- What a word means. -/
def ofWord? (cs : List Char) : Option Scalar :=
  match cs with
  | ['t', 'r', 'u', 'e'] => some (.bool true)
  | ['f', 'a', 'l', 's', 'e'] => some (.bool false)
  | cs =>
    match integer? cs with
    | some n => some (.int n)
    | none =>
      match float? cs with
      | some x => some (.float x)
      | none => (moment? cs).map fun t => .text (String.ofList t)

/-- A scalar other than a string.  A date may be joined to a time by a single blank. -/
def word : Scan Scalar := do
  let w ← Scan.takeSome isWordChar
  let joined ← fun (cs : List Char) =>
    match date? w, cs with
    | some [], ' ' :: d :: rest =>
      if d.isDigit then
        some (w ++ ' ' :: (d :: rest).takeWhile isWordChar, (d :: rest).dropWhile isWordChar)
      else some (w, cs)
    | _, _ => some (w, cs)
  Scan.some? (ofWord? joined)

end MediaTree.Toml
