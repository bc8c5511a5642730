/-
**Scalars of RON.**

Names may be of any script; a name behind `r#` may also hold points and signs.  Texts have escapes
or, behind `r` and hash marks, none; a text of octets stands behind `b`.  Numbers are whole, in one
of four radixes, or have a fraction or an exponent; their digits may be grouped by underscores, and
a suffix may say how wide they are.  A whole number that fits no width is read as one with a
fraction.

Main definitions:

* `MediaTree.Ron.gap` — what may stand between two parts;
* `MediaTree.Ron.name?` — names;
* `MediaTree.Ron.text`, `MediaTree.Ron.octetText`, `MediaTree.Ron.character` — texts;
* `MediaTree.Ron.number?` — numbers.
-/

import MediaTree.Decimal.Reading
import MediaTree.Format.Datum
import MediaTree.Text.Identifier
import MediaTree.Text.Scan
import MediaTree.Text.Utf8

set_option autoImplicit false
set_option relaxedAutoImplicit false

namespace MediaTree.Ron

open Text (Scan)

/-! ### Blanks and comments -/

/-- White space: the blanks of ASCII, two marks of direction, and three ends of lines. -/
def isBlank (c : Char) : Bool :=
  c == ' ' || (0x09 ≤ c.toNat && c.toNat ≤ 0x0d)
    || ['\u0085', '\u200e', '\u200f', '\u2028', '\u2029'].contains c

/-- The rest of a comment between marks, which may hold further ones. -/
def longComment : Nat → Nat → Scan Unit
  | 0, _ => Scan.refuse
  | fuel + 1, depth => do
    if ← Scan.ahead ['*', '/'] then
      Scan.skip 2
      if depth = 0 then pure () else longComment fuel (depth - 1)
    else if ← Scan.ahead ['/', '*'] then
      Scan.skip 2
      longComment fuel (depth + 1)
    else
      let _ ← Scan.next
      longComment fuel depth

/-- Blanks and comments. -/
def gap (whole : Nat) : Nat → Scan Unit
  | 0 => Scan.refuse
  | fuel + 1 => do
    Scan.skipWhile isBlank
    if ← Scan.ahead ['/', '/'] then
      Scan.skipWhile (· != '\n')
      gap whole fuel
    else if ← Scan.ahead ['/', '*'] then
      Scan.skip 2
      longComment whole 0
      gap whole fuel

/-! ### Names -/

/-- A name may start with this character. -/
def startsName (c : Char) : Bool := c == '_' || Text.startsIdentifier c

/-- A name behind `r#` may hold this character. -/
def isRawNameChar (c : Char) : Bool :=
  Text.continuesIdentifier c || c == '.' || c == '+' || c == '-'

/-- The openings of texts that look like names. -/
def textOpenings : List (List Char) := [
  ['b', '"'], ['b', '\''], ['b', 'r', '#'], ['b', 'r', '"'], ['r', '"'], ['r', '#', '"'],
  ['r', '#', '#']]

/-- A name. -/
structure Name where
  /-- It stands behind `r#`, and so means nothing but itself. -/
  raw : Bool
  text : String

/-- The name that stands here, if any. -/
def name? : Scan (Option Name) := fun cs =>
  if textOpenings.any fun o => o.isPrefixOf cs then some (none, cs)
  else match cs with
    | 'r' :: '#' :: rest =>
      match rest.takeWhile isRawNameChar with
      | [] => some (none, cs)
      | n => some (some ⟨true, String.ofList n⟩, rest.dropWhile isRawNameChar)
    | c :: rest =>
      if startsName c then
        some (some ⟨false, String.ofList (c :: rest.takeWhile Text.continuesIdentifier)⟩,
          rest.dropWhile Text.continuesIdentifier)
      else some (none, cs)
    | [] => some (none, [])

/-- A name, which must stand here. -/
def name : Scan Name := do Scan.some? (← name?)

/-! ### Escapes -/

/-- Which texts escapes stand in. -/
inductive Content where
  /-- A text of characters. -/
  | text
  /-- A single character. -/
  | character
  /-- Octets. -/
  | octets
deriving DecidableEq, Repr

/-- An octet, by two hexadecimal digits. -/
def octet : Scan UInt8 := do
  let cs ← Scan.take 2
  Scan.require (cs.length == 2)
  pure (UInt8.ofNat (← Scan.some? (Scan.hexNumber? cs)))

/-- The octets of a character of which some are known; each further one is escaped by itself. -/
def furtherOctets : Nat → List UInt8 → Scan (List UInt8)
  | 0, _ => Scan.refuse
  | fuel + 1, bs => do
    if (Text.ofOctets? bs).isSome then pure bs
    else
      Scan.exactly ['\\', 'x']
      let b ← octet
      furtherOctets fuel (bs ++ [b])

/-- The number of a character between braces, by one to six hexadecimal digits. -/
def numbered : Scan Char := do
  Scan.exactly ['\x7b']
  let cs ← Scan.takeWhile (· != '\x7d')
  Scan.require (cs.length ≤ 6)
  Scan.exactly ['\x7d']
  Scan.character (← Scan.some? (Scan.hexNumber? cs))

/-- What stands behind a backslash, as octets. -/
def escaped (content : Content) : Scan (List UInt8) := do
  match ← Scan.next with
  | 'n' => pure [0x0a]
  | 'r' => pure [0x0d]
  | 't' => pure [0x09]
  | '0' => pure [0x00]
  | '\\' => pure [0x5c]
  | '\'' => pure [0x27]
  | '"' => pure [0x22]
  | 'x' => do
    let b ← octet
    match content with
    | .octets => pure [b]
    | .character => do
      Scan.require (b.toNat < 0x80)
      pure [b]
    | .text => furtherOctets 4 [b]
  | 'u' => do pure (String.utf8EncodeChar (← numbered))
  | _ => Scan.refuse

/-! ### Texts -/

/-- The rest of a text with escapes, as octets. -/
def quotedOctets (content : Content) : Nat → List UInt8 → Scan (List UInt8)
  | 0, _ => Scan.refuse
  | fuel + 1, acc => do
    match ← Scan.next with
    | '"' => pure acc
    | '\\' => do
      let bs ← escaped content
      quotedOctets content fuel (acc ++ bs)
    | c => quotedOctets content fuel (acc ++ String.utf8EncodeChar c)

/-- The rest of a text without escapes, up to the closing mark. -/
def rawRest (mark : List Char) : Nat → List Char → Scan String
  | 0, _ => Scan.refuse
  | fuel + 1, acc => do
    if ← Scan.ahead mark then
      Scan.skip mark.length
      pure (String.ofList acc.reverse)
    else
      let c ← Scan.next
      rawRest mark fuel (c :: acc)

/-- A text without escapes, behind its `r`. -/
def rawText (fuel : Nat) : Scan String := do
  let marks ← Scan.takeWhile (· == '#')
  Scan.exactly ['"']
  rawRest ('"' :: marks) fuel []

/-- A text. -/
def text (fuel : Nat) : Scan String := do
  if ← Scan.ahead ['r'] then
    Scan.skip 1
    rawText fuel
  else
    Scan.exactly ['"']
    Scan.some? (Text.ofOctets? (← quotedOctets .text fuel []))

/-- A text of octets. -/
def octetText (fuel : Nat) : Scan (List UInt8) := do
  Scan.exactly ['b']
  if ← Scan.ahead ['r'] then
    Scan.skip 1
    pure (Text.octets (← rawText fuel))
  else
    Scan.exactly ['"']
    quotedOctets .octets fuel []

/-- A single character between quotes, as a text. -/
def character : Scan String := do
  Scan.exactly ['\'']
  let bs ← match ← Scan.next with
    | '\\' => escaped .character
    | c => pure (String.utf8EncodeChar c)
  Scan.exactly ['\'']
  Scan.some? (Text.ofOctets? bs)

/-- A single octet between quotes, as a number. -/
def octetNumber : Scan Int := do
  Scan.exactly ['b', '\'']
  let b ← match ← Scan.next with
    | '\\' => do
      Scan.require (!(← Scan.ahead ['u']))
      escaped .octets
    | c => do
      Scan.require (c.toNat < 0x80)
      pure (String.utf8EncodeChar c)
  Scan.exactly ['\'']
  pure (b.headD 0).toNat

/-! ### Numbers -/

/-- Characters of numbers and their suffixes. -/
def isNumberChar (c : Char) : Bool :=
  c.isAlphanum || c == '_' || c == '+' || c == '-' || c == '.'

/-- Characters of whole numbers in any radix. -/
def isDigitChar (c : Char) : Bool := c == '_' || (Text.Hex.value? c).isSome

/-- The least and the greatest number of a width. -/
def bounds? (suffix : List Char) (negative : Bool) : Option (Int × Int) :=
  let signed := fun (bits : Nat) =>
    let half : Int := Nat.pow 2 (bits - 1)
    some (-half, half - 1)
  let plain := fun (bits : Nat) =>
    let all : Int := Nat.pow 2 bits
    some (0, all - 1)
  match String.ofList suffix with
  | "" => if negative then signed 64 else plain 64
  | "i8" => signed 8
  | "i16" => signed 16
  | "i32" => signed 32
  | "i64" => signed 64
  | "u8" => plain 8
  | "u16" => plain 16
  | "u32" => plain 32
  | "u64" => plain 64
  | _ => none

/-- The radix that a text starts with, and the text behind its mark. -/
def radixOf : List Char → Nat × List Char
  | '0' :: 'b' :: cs => (2, cs)
  | '0' :: 'o' :: cs => (8, cs)
  | '0' :: 'x' :: cs => (16, cs)
  | cs => (10, cs)

/-- A whole number. -/
def integer? (cs : List Char) : Option Int := do
  let (negative, rest) := Decimal.signed cs
  let (radix, rest) := radixOf rest
  let digits := rest.takeWhile isDigitChar
  if digits.head? == some '_' then none
  else
    let n ← Decimal.natural? radix (digits.filter (· != '_'))
    let i : Int := if negative then -n else n
    let (least, greatest) ← bounds? (rest.dropWhile isDigitChar) negative
    if least ≤ i ∧ i ≤ greatest then some i else none

/-- Characters of numbers with a fraction. -/
def isFractionChar (c : Char) : Bool :=
  c.isDigit || c == 'e' || c == 'E' || c == '.' || c == '+' || c == '-' || c == '_'

/-- A number without the underscores that group its digits; they stand behind a digit or the mark of
an exponent, as told by `allowed`. -/
def ungrouped? : Bool → List Char → Option (List Char)
  | _, [] => some []
  | allowed, c :: cs =>
    if c == '_' then if allowed then ungrouped? allowed cs else none
    else
      let allowed := if c == '.' then false else allowed || c.isDigit || c == 'e' || c == 'E'
      (ungrouped? allowed cs).map (c :: ·)

/-- An infinity or the undefined number, by name. -/
def special? (name : String) : Option Float :=
  if ["inf", "inff32", "inff64"].contains name then some (1.0 / 0.0)
  else if ["NaN", "NaNf32", "NaNf64"].contains name then some (0.0 / 0.0)
  else none

/-- A number with a fraction, or one that is infinite or undefined behind its sign. -/
def fraction? (cs : List Char) : Option Float := do
  let (negative, rest) := Decimal.signed cs
  match special? (String.ofList rest) with
  | some x => some (if negative then -x else x)
  | none =>
    let digits ← ungrouped? false (cs.takeWhile isFractionChar)
    let (negative, plain) := Decimal.signed digits
    let (coefficient, place) ← Decimal.decimal? plain
    match cs.dropWhile isFractionChar with
    | [] | ['f', '6', '4'] => some (Decimal.nearest negative coefficient place)
    | ['f', '3', '2'] => some (Decimal.nearestSingle negative coefficient place)
    | _ => none

/-- The number that a text spells. -/
def number? (cs : List Char) : Option Scalar :=
  match integer? cs with
  | some n => some (.int n)
  | none => (fraction? cs).map .float

end MediaTree.Ron
