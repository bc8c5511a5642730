/-
**Tokens of a JSON text.**

The first stage of reading: octets become tokens, and blanks, escapes and the spelling of numbers
disappear.  A scanner is a state and a function that takes it one character further, so scanning is
one fold over the characters.  Where the text leaves the grammar of tokens the scanner stops: the
last token is then `damage`, and nothing behind it is looked at.

A string is kept even if what it holds is no text (octets that are not UTF-8, a surrogate without
its partner), because a string that is only skipped may hold that; its token then carries `none`.
Raw control characters and ill-formed escapes are damage everywhere.

Main definitions:

* `MediaTree.Json.Token` — the tokens;
* `MediaTree.Json.Scanner` — the state of a scanner, with `feed` and `finish`;
* `MediaTree.Json.Token.ofUnits`, `MediaTree.Json.Token.ofBytes` — the tokens of a text.
-/

import MediaTree.Json.Numeral
import MediaTree.Text.Hex
import MediaTree.Text.Utf8

set_option autoImplicit false
set_option relaxedAutoImplicit false

namespace MediaTree.Json

/-- The tokens of a JSON text. -/
inductive Token where
  | openArray
  | closeArray
  | openObject
  | closeObject
  | comma
  | colon
  | null
  | bool (b : Bool)
  | number (n : Numeral)
  /-- A string; `none` if what stands between the quotes is no text. -/
  | string (s : Option String)
  /-- The text leaves the grammar here. -/
  | damage
deriving DecidableEq, Repr

/-! ### The inside of a string -/

/-- What a string holds so far. -/
structure Quotation where
  /-- The characters, last one first. -/
  chars : List Char
  /-- A leading surrogate that waits for its partner. -/
  leading : Option Nat
  /-- Whether everything so far was text. -/
  sound : Bool
deriving DecidableEq, Repr

namespace Quotation

/-- The empty string. -/
def empty : Quotation := ⟨[], none, true⟩

/-- A character is added; a leading surrogate in front of it stays alone. -/
def addChar (q : Quotation) (c : Char) : Quotation :=
  ⟨c :: q.chars, none, q.sound && q.leading.isNone⟩

/-- Something that is no text is added. -/
def spoil (q : Quotation) : Quotation := { q with leading := none, sound := false }

/-- Whether a 16-bit unit is a leading surrogate. -/
def isLeading (n : Nat) : Bool := 0xD800 ≤ n && n ≤ 0xDBFF

/-- Whether a 16-bit unit is a trailing surrogate. -/
def isTrailing (n : Nat) : Bool := 0xDC00 ≤ n && n ≤ 0xDFFF

/-- The character of a surrogate pair. -/
def pairChar (hi lo : Nat) : Char := Char.ofNat (0x10000 + (hi - 0xD800) * 0x400 + (lo - 0xDC00))

/-- A unit written as `\uXXXX` is added: a character, or one half of a surrogate pair. -/
def addUnit (q : Quotation) (n : Nat) : Quotation :=
  match q.leading with
  | some hi => if isTrailing n then ⟨pairChar hi n :: q.chars, none, q.sound⟩ else q.spoil
  | none =>
    if isLeading n then { q with leading := some n }
    else if isTrailing n then q.spoil
    else q.addChar (Char.ofNat n)

/-- The text of a finished string. -/
def text? (q : Quotation) : Option String :=
  if q.sound && q.leading.isNone then some (String.ofList q.chars.reverse) else none

end Quotation

/-- Where inside a string the scanner is. -/
inductive Inside where
  /-- Between characters. -/
  | plain
  /-- Behind a backslash. -/
  | escape
  /-- Inside `\uXXXX`: so many digits to come, and the value of those read. -/
  | hex (left : Nat) (value : Nat)
deriving DecidableEq, Repr

/-- The character that a backslash and `c` stand for, `\u` apart. -/
def unescape? (c : Char) : Option Char :=
  match c with
  | '"' => some '"'
  | '\\' => some '\\'
  | '/' => some '/'
  | 'b' => some '\x08'
  | 'f' => some '\x0c'
  | 'n' => some '\n'
  | 'r' => some '\r'
  | 't' => some '\t'
  | _ => none

/-! ### The scanner -/

/-- What the scanner is in the middle of. -/
inductive Scanner.State where
  /-- Between tokens. -/
  | between
  /-- In a literal name: the letters to come, and the token it will be. -/
  | word (left : List Char) (token : Token)
  /-- In a numeral. -/
  | numeral (draft : Numeral.Draft)
  /-- In a string. -/
  | quoted (q : Quotation) (place : Inside)
  /-- Behind damage. -/
  | stopped
deriving DecidableEq, Repr

/-- A scanner: its state, and the tokens found, last one first. -/
structure Scanner where
  state : Scanner.State
  found : List Token
deriving DecidableEq, Repr

namespace Scanner

/-- A scanner at the start of a text. -/
def start : Scanner := ⟨.between, []⟩

/-- A token is complete. -/
def emit (s : Scanner) (t : Token) : Scanner := ⟨.between, t :: s.found⟩

/-- The scanner changes its state and finds nothing. -/
def goto (s : Scanner) (st : State) : Scanner := ⟨st, s.found⟩

/-- The text is damaged here. -/
def stop (s : Scanner) : Scanner := ⟨.stopped, .damage :: s.found⟩

/-- Space, tab, line feed and carriage return are blank, and nothing else. -/
def isBlank (c : Char) : Bool := c == ' ' || c == '\t' || c == '\n' || c == '\r'

/-- A character between two tokens. -/
def between (s : Scanner) (c : Char) : Scanner :=
  if isBlank c then s.goto .between
  else match c with
    | '[' => s.emit .openArray
    | ']' => s.emit .closeArray
    | '{' => s.emit .openObject
    | '}' => s.emit .closeObject
    | ',' => s.emit .comma
    | ':' => s.emit .colon
    | '"' => s.goto (.quoted .empty .plain)
    | 'n' => s.goto (.word ['u', 'l', 'l'] .null)
    | 't' => s.goto (.word ['r', 'u', 'e'] (.bool true))
    | 'f' => s.goto (.word ['a', 'l', 's', 'e'] (.bool false))
    | c =>
      match Numeral.begin? c with
      | some d => s.goto (.numeral d)
      | none => s.stop

/-- A character inside a string. -/
def inside (s : Scanner) (q : Quotation) (place : Inside) (c : Char) : Scanner :=
  match place with
  | .plain =>
    if c = '"' then s.emit (.string q.text?)
    else if c = '\\' then s.goto (.quoted q .escape)
    else if c.toNat < 0x20 then s.stop
    else s.goto (.quoted (q.addChar c) .plain)
  | .escape =>
    if c = 'u' then s.goto (.quoted q (.hex 4 0))
    else match unescape? c with
      | some d => s.goto (.quoted (q.addChar d) .plain)
      | none => s.stop
  | .hex left value =>
    match Text.Hex.value? c with
    | none => s.stop
    | some n =>
      if left ≤ 1 then s.goto (.quoted (q.addUnit (value * 16 + n)) .plain)
      else s.goto (.quoted q (.hex (left - 1) (value * 16 + n)))

/-- The numeral ends here, or the text is damaged here. -/
def endNumeral (s : Scanner) (d : Numeral.Draft) : Scanner :=
  match d.finish? with
  | some n => s.emit (.number n)
  | none => s.stop

/-- The next character of the text. -/
def feedChar (s : Scanner) (c : Char) : Scanner :=
  match s.state with
  | .between => s.between c
  | .word [] t => (s.emit t).between c
  | .word [x] t => if c = x then s.emit t else s.stop
  | .word (x :: xs) t => if c = x then s.goto (.word xs t) else s.stop
  | .numeral d =>
    match d.next c with
    | .extended d' => s.goto (.numeral d')
    | .refused => s.stop
    | .ended =>
      match d.finish? with
      | some n => (s.emit (.number n)).between c
      | none => s.stop
  | .quoted q place => s.inside q place c
  | .stopped => s

/-- An octet that belongs to no character: harmless inside a string, damage elsewhere. -/
def feedDamage (s : Scanner) : Scanner :=
  match s.state with
  | .quoted q .plain => s.goto (.quoted q.spoil .plain)
  | .stopped => s
  | .numeral d =>
    match d.finish? with
    | some n => (s.emit (.number n)).stop
    | none => s.stop
  | _ => s.stop

/-- The next unit of the text. -/
def feed (s : Scanner) : Option Char → Scanner
  | some c => s.feedChar c
  | none => s.feedDamage

/-- All tokens found, in order; a token that is still open is damage, a numeral apart. -/
def finish (s : Scanner) : List Token :=
  match s.state with
  | .between | .stopped => s.found.reverse
  | .numeral d => (s.endNumeral d).found.reverse
  | .word _ _ | .quoted _ _ => s.stop.found.reverse

end Scanner

namespace Token

/-- The tokens of a text. -/
def ofUnits (us : List (Option Char)) : List Token := (us.foldl Scanner.feed Scanner.start).finish

/-- The tokens of a text given as octets. -/
def ofBytes (bytes : ByteArray) : List Token := ofUnits (Text.units bytes)

end Token

end MediaTree.Json
