/-
**Styles of scalars in YAML.**

A scalar is a text, and may be written in four ways: plain, between single quotes, between double
quotes, or as a block of lines that are kept or folded.  The line ends inside plain and quoted
scalars are folded: one is a blank, and of more the first one is dropped.  What belongs to a scalar
also depends on how far its lines are indented.

Main definitions:

* `MediaTree.Yaml.Fold` — what stands between two parts of a scalar;
* `MediaTree.Yaml.plain` — plain scalars;
* `MediaTree.Yaml.quoted` — quoted scalars;
* `MediaTree.Yaml.block` — blocks of lines.
-/

import MediaTree.Format.Yaml.Cursor

set_option autoImplicit false
set_option relaxedAutoImplicit false

namespace MediaTree.Yaml

open Walk (here second pass passBlank passBreak passMany require refuse)

/-! ### Between two parts -/

/-- What stands between two parts of a scalar. -/
structure Fold where
  /-- The blanks, last one first, as long as no line ends. -/
  blanks : List Char
  /-- A line ends that is folded. -/
  first : Bool
  /-- How many further lines end. -/
  more : Nat

namespace Fold

/-- Nothing. -/
def none : Fold := ⟨[], false, 0⟩

/-- What the line ends come to. -/
def breaks (f : Fold) : List Char :=
  if f.first && f.more == 0 then [' '] else List.replicate f.more '\n'

/-- What all of it comes to, last character first, if it ends on a line of its own or not. -/
def text (f : Fold) (broken : Bool) : List Char := if broken then f.breaks else f.blanks

end Fold

/-! ### Plain scalars -/

/-- The character may be part of a plain scalar, given the one behind it. -/
def isPlainChar (inFlow : Bool) (c d : Char) : Bool :=
  if c == ':' then !(isGap d || (inFlow && isFlowMark d))
  else !(isGap c || (inFlow && isFlowMark c))

/-- The characters of a word of a plain scalar. -/
def plainWord (inFlow : Bool) : List Char → List Char
  | [] => []
  | c :: cs => if isPlainChar inFlow c (cs.headD '\x00') then c :: plainWord inFlow cs else []

/-- Blanks and line ends behind a word of a plain scalar.  A tab does not indent: if one stands
where the scalar would not go on, the line must be empty. -/
def plainGap (indent : Int) : Nat → Fold → Walk Fold
  | 0, _ => refuse
  | fuel + 1, f => do
    let k ← get
    let c := k.look 0
    if isSpace c then
      if !k.fresh then
        passBlank
        plainGap indent fuel { f with blanks := c :: f.blanks }
      else if c == '\t' && (k.column : Int) < indent then
        let _ ← Walk.gap true
        require (isLineOver (← here))
        plainGap indent fuel f
      else
        passBlank
        plainGap indent fuel f
    else if isBreak c then
      passBreak
      plainGap indent fuel
        (if k.fresh then { f with more := f.more + 1 } else ⟨[], true, f.more⟩)
    else pure f

/-- The rest of a plain scalar, of which the characters so far are given, last one first.  Outside
flow style each of its lines is indented by `indent` at least. -/
def plainRest (indent : Int) (inFlow : Bool) : Nat → List Char → Fold → Walk (List Char)
  | 0, _, _ => refuse
  | fuel + 1, acc, f => do
    let k ← get
    let c := k.look 0
    if k.atDocumentMark || c == '#' then pure acc
    else if inFlow && c == '-' && isFlowMark (k.look 1) then refuse
    else
      let word := plainWord inFlow k.rest
      let acc := if word.isEmpty then acc else word.reverse ++ (f.text k.fresh ++ acc)
      let f := if word.isEmpty then f else Fold.none
      passMany word.length
      let c ← here
      if !(isSpace c || isBreak c) then pure acc
      else
        let f ← plainGap indent (k.rest.length + 1) f
        if !inFlow && ((← get).column : Int) < indent then pure acc
        else plainRest indent inFlow fuel acc f

/-- A plain scalar inside something that is indented by `parent`. -/
def plain (parent : Int) (inFlow : Bool) : Walk String := do
  let k ← get
  require (!(inFlow && (k.column : Int) < parent + 1))
  let cs ← plainRest (parent + 1) inFlow (k.rest.length + 2) [] Fold.none
  pure (String.ofList cs.reverse)

/-! ### Quoted scalars -/

/-- What stands behind a backslash. -/
def escaped : Walk Char := do
  let c ← here
  pass
  match c with
  | '0' => pure '\x00'
  | 'a' => pure '\x07'
  | 'b' => pure '\x08'
  | 't' => pure '\t'
  | '\t' => pure '\t'
  | 'n' => pure '\n'
  | 'v' => pure '\x0b'
  | 'f' => pure '\x0c'
  | 'r' => pure '\r'
  | 'e' => pure '\x1b'
  | ' ' => pure ' '
  | '"' => pure '"'
  | '/' => pure '/'
  | '\\' => pure '\\'
  | 'N' => pure '\u0085'
  | '_' => pure '\u00a0'
  | 'L' => pure '\u2028'
  | 'P' => pure '\u2029'
  | 'x' => Walk.codePoint 2
  | 'u' => Walk.codePoint 4
  | 'U' => Walk.codePoint 8
  | _ => refuse

/-- A word of a quoted scalar behind what is there, last character first, and whether a backslash
joins its line to the next one. -/
def quotedWord (quote : Char) : Nat → List Char → Walk (List Char × Bool)
  | 0, _ => refuse
  | fuel + 1, acc => do
    let c ← here
    let d ← second
    if isGap c then pure (acc, false)
    else if c == '\'' && d == '\'' && quote == '\'' then
      passMany 2
      quotedWord quote fuel ('\'' :: acc)
    else if c == quote then pure (acc, false)
    else if c == '\\' && quote == '"' then
      pass
      if isBreak d then
        passBreak
        pure (acc, true)
      else
        let e ← escaped
        quotedWord quote fuel (e :: acc)
    else
      pass
      quotedWord quote fuel (c :: acc)

/-- Blanks and line ends behind a word of a quoted scalar, and whether a line ended. -/
def quotedGap (indent : Int) : Nat → Bool → Fold → Walk (Bool × Fold)
  | 0, _, _ => refuse
  | fuel + 1, broken, f => do
    let k ← get
    let c := k.look 0
    if isSpace c then
      require (!(broken && c == '\t' && (k.column : Int) < indent))
      passBlank
      quotedGap indent fuel broken (if broken then f else { f with blanks := c :: f.blanks })
    else if isBreak c then
      passBreak
      quotedGap indent fuel true
        (if broken then { f with more := f.more + 1 } else ⟨[], true, f.more⟩)
    else pure (broken, f)

/-- The rest of a quoted scalar up to its quote, of which the characters so far are given, last one
first.  Each of its lines is indented by `indent` at least. -/
def quotedRest (quote : Char) (indent : Int) : Nat → List Char → Walk (List Char)
  | 0, _ => refuse
  | fuel + 1, acc => do
    let k ← get
    require (!(k.atDocumentMark || isEnd (k.look 0) || (k.column : Int) < indent))
    let (acc, joined) ← quotedWord quote (k.rest.length + 1) acc
    if (← here) == quote then pure acc
    else
      let (broken, f) ← quotedGap indent (k.rest.length + 1) joined Fold.none
      quotedRest quote indent fuel (f.text broken ++ acc)

/-- A quoted scalar.  Nothing may follow it on its line but what can follow a value, or the colon of
a key, which outside flow style must stand on the line where the scalar starts. -/
def quoted (indent : Int) (inFlow : Bool) : Walk String := do
  let k ← get
  let quote := k.look 0
  pass
  let cs ← quotedRest quote indent (k.rest.length + 1) []
  pass
  let _ ← Walk.gap true
  let after ← get
  let c := after.look 0
  require (isLineOver c || (inFlow && [',', '\x7d', ']', ':'].contains c)
    || (c == ':' && k.line == after.line))
  pure (String.ofList cs.reverse)

/-! ### Blocks of lines -/

/-- What happens to the line ends behind a block. -/
inductive Chomp where
  | strip
  | clip
  | keep
deriving DecidableEq, Repr

/-- What the header of a block says: the end of it, and how much further it is indented, if that is
given. -/
structure Header where
  chomp : Chomp
  further : Option Nat

/-- The sign of a header, if one stands here. -/
def headerSign : Walk (Option Chomp) := do
  match ← here with
  | '+' => do
    pass
    pure (some .keep)
  | '-' => do
    pass
    pure (some .strip)
  | _ => pure none

/-- The digit of a header, if one stands here; it must not be zero. -/
def headerDigit : Walk (Option Nat) := do
  let c ← here
  if c.isDigit then
    require (c != '0')
    pass
    pure (some (c.toNat - '0'.toNat))
  else pure none

/-- A header: a sign and a digit in either order. -/
def header : Walk Header := do
  match ← headerSign with
  | some s => do pure ⟨s, ← headerDigit⟩
  | none => do
    let d ← headerDigit
    let s ← if d.isSome then headerSign else pure none
    pure ⟨s.getD .clip, d⟩

/-- The indentation and the empty lines in front of the next line of a block: their number. -/
def blockGap (indent : Nat) : Nat → Nat → Walk Nat
  | 0, _ => refuse
  | fuel + 1, more => do
    let k ← get
    if k.look 0 == ' ' && k.column < indent then
      passBlank
      blockGap indent fuel more
    else if isBreak (k.look 0) then
      passBreak
      blockGap indent fuel (more + 1)
    else pure more

/-- The same in front of the first line of a block whose indentation is not given: the greatest
indentation of all these lines, and the number of the empty ones. -/
def firstGap : Nat → Nat → Nat → Walk (Nat × Nat)
  | 0, _, _ => refuse
  | fuel + 1, indent, more => do
    let k ← get
    if k.look 0 == ' ' then
      passBlank
      firstGap fuel indent more
    else if isBreak (k.look 0) then
      passBreak
      firstGap fuel (max indent k.column) (more + 1)
    else pure (max indent k.column, more)

/-- A block so far: its characters, last one first, whether a line end stands behind them, how many
empty lines follow, and whether its last line starts with a blank. -/
structure Lines where
  text : List Char
  ended : Bool
  more : Nat
  indented : Bool

/-- What stands in front of a line of a block that starts with this character.  In a folded block a
line end between two lines that start with no blank is a blank, or is dropped in front of empty
lines. -/
def Lines.between (folded : Bool) (l : Lines) (c : Char) : List Char :=
  let empty := List.replicate l.more '\n'
  if folded && l.ended && !l.indented && !isSpace c then
    if l.more == 0 then [' '] else empty
  else empty ++ (if l.ended then ['\n'] else [])

/-- The lines of a block, indented by `indent`. -/
def blockLines (folded : Bool) (indent : Nat) : Nat → Lines → Walk Lines
  | 0, _ => refuse
  | fuel + 1, l => do
    let k ← get
    let c := k.look 0
    if k.column != indent || isEnd c || (indent == 0 && k.isMark '.') then pure l
    else
      let line ← Walk.takeWhile fun c => !isLineOver c
      let text := line.reverse ++ (l.between folded c ++ l.text)
      if isEnd (← here) then pure ⟨text, false, 0, isSpace c⟩
      else
        passBreak
        let more ← blockGap indent (k.rest.length + 1) 0
        blockLines folded indent fuel ⟨text, true, more, isSpace c⟩

/-- The text of a block that ends at this cursor. -/
def Lines.close (l : Lines) (chomp : Chomp) (indent : Nat) (k : Cursor) : List Char :=
  match chomp with
  | .strip => l.text
  | _ =>
    let last := if isEnd (k.look 0) && max indent 1 ≤ k.column then ['\n'] else []
    let empty := if chomp = .keep then List.replicate l.more '\n' else []
    empty ++ last ++ (if l.ended then ['\n'] else []) ++ l.text

/-- The text of a block without lines: whether a line end stands behind the header on a line of its
own, and how many empty lines follow. -/
def emptyBlock (chomp : Chomp) (ended : Bool) (more : Nat) : List Char :=
  match chomp, ended with
  | .strip, _ => []
  | _, false => []
  | .keep, true => List.replicate (max more 1) '\n'
  | .clip, true => ['\n']

/-- A block of lines, from its first character on, inside something that is indented by `parent`. -/
def block (parent : Int) : Walk String := do
  let start ← get
  let size := start.rest.length + 1
  pass
  let h ← header
  let _ ← Walk.gap true
  require (isLineOver (← here))
  let ended := isBreak (← here)
  if ended then passBreak
  require ((← here) != '\t')
  let (indent, more) ← match h.further with
    | some n => do
      let indent := if 0 ≤ parent then parent.toNat + n else n
      let more ← blockGap indent size 0
      pure (indent, more)
    | none => do
      let (indent, more) ← firstGap size 0 0
      pure (max (max indent (parent + 1).toNat) (if 0 < parent then 1 else 0), more)
  let k ← get
  if isEnd (k.look 0) then pure (String.ofList (emptyBlock h.chomp ended more))
  else
    require (!(k.column < indent && parent < (k.column : Int)))
    let l ← blockLines (start.look 0 == '>') indent size ⟨[], false, more, false⟩
    pure (String.ofList (l.close h.chomp indent (← get)).reverse)

end MediaTree.Yaml
