/-
**Cutting a text into tokens.**

In block style the column of a token tells which lists and tables go on.  A table is only found out
at the colon behind its first key: so a place where a key may start is kept in mind, and the tokens
that open the table and the key are put in there once the colon comes.  A key stands on one line and
is short; where only a key can stand, its colon must come.  In flow style a list may have a key with
its value for an element, which is a table of its own.

Main definitions:

* `MediaTree.Yaml.Lexer` — what is known on the way through a text;
* `MediaTree.Yaml.Lexing` — what a token does to it;
* `MediaTree.Yaml.Lexing.step` — one token;
* `MediaTree.Yaml.tokens?` — the tokens of a text.
-/

import MediaTree.Format.Yaml.Style
import MediaTree.Format.Yaml.Token

set_option autoImplicit false
set_option relaxedAutoImplicit false

namespace MediaTree.Yaml

open Walk (place here pass passBlank passBreak passMany require refuse)

/-! ### What is known on the way -/

/-- A place where a key may have started. -/
structure Candidate where
  isOpen : Bool
  /-- Nothing but a key can stand there. -/
  required : Bool
  /-- How many tokens stand in front. -/
  index : Nat
  position : Nat
  line : Nat
  column : Nat

/-- What is indented further than its surroundings. -/
structure Indent where
  /-- The column of the surroundings. -/
  outer : Int
  /-- It is a list or a table, and not only room for a value. -/
  isBlock : Bool

/-- What is known on the way through a text. -/
structure Lexer where
  tokens : Array Token
  /-- The column in which the innermost list or table stands. -/
  indent : Int
  /-- What is indented, innermost first. -/
  indents : List Indent
  /-- A candidate for each level of flow style and one outside, innermost first. -/
  candidates : List Candidate
  /-- How many brackets of flow style are open. -/
  depth : Nat
  /-- A key may start here. -/
  keyAllowed : Bool
  /-- Where a colon needs no blank behind it. -/
  adjacent : Nat
  /-- A table of flow style was opened by its bracket or a question mark. -/
  inTable : Bool
  /-- For each list of flow style, innermost first: it is inside a table without brackets. -/
  bare : List Bool

/-- No candidate. -/
def Candidate.none : Candidate := ⟨false, false, 0, 0, 0, 0⟩

/-- The start of a text. -/
def Lexer.start : Lexer := ⟨#[], -1, [], [Candidate.none], 0, true, 0, false, []⟩

/-- What a token does to what is known and to the place in the text. -/
abbrev Lexing (α : Type) := StateT Lexer Walk α

namespace Lexing

/-- Puts a token behind the others. -/
def push (t : Token) : Lexing Unit := modify fun s => { s with tokens := s.tokens.push t }

/-- Puts a token in front of those from `index` on. -/
def insert (index : Nat) (t : Token) : Lexing Unit :=
  modify fun s => { s with tokens := s.tokens.insertIdxIfInBounds index t }

/-- From now on a key may start or not. -/
def allowKey (b : Bool) : Lexing Unit := modify fun s => { s with keyAllowed := b }

/-! ### Candidates -/

/-- What is known about the innermost candidate is settled. -/
def settle : Lexing Unit := modify fun s =>
  match s.candidates with
  | [] => s
  | c :: cs => { s with candidates := { c with isOpen := false } :: cs }

/-- The innermost candidate is no key; if it had to be one, the text is damaged. -/
def dropCandidate : Lexing Unit := do
  let s ← get
  require (!s.candidates.head?.any fun c => c.isOpen && c.required)
  settle

/-- A key may start here, if one is allowed. -/
def saveCandidate : Lexing Unit := do
  let s ← get
  if s.keyAllowed then
    dropCandidate
    let k ← place
    let required := s.depth == 0 && s.indent == k.column && (s.indents.head?.any (·.isBlock))
    let c : Candidate := ⟨true, required, s.tokens.size, k.position, k.line, k.column⟩
    modify fun s => { s with candidates := c :: s.candidates.drop 1 }

/-- Outside flow style a key stands on one line and has no more than 1024 characters. -/
def dropStale : Lexing Unit := do
  let s ← get
  let k ← place
  let isStale (c : Candidate) : Bool :=
    c.isOpen && s.depth == 0 && (c.line < k.line || c.position + 1024 < k.position)
  require (!s.candidates.any fun c => isStale c && c.required)
  set { s with
    candidates := s.candidates.map fun c => if isStale c then { c with isOpen := false } else c }

/-! ### Indentation -/

/-- Closes what is indented further than a column. -/
def closeBeyond (column : Int) : List Indent → Lexer → Lexer
  | [], s => s
  | i :: is, s =>
    if column < s.indent then
      closeBeyond column is
        { s with
          indent := i.outer, indents := is
          tokens := if i.isBlock then s.tokens.push .blockEnd else s.tokens }
    else s

/-- Outside flow style, what is indented further than a column ends. -/
def unroll (column : Int) : Lexing Unit := modify fun s =>
  if s.depth == 0 then closeBeyond column s.indents s else s

/-- Room for a value ends. -/
def leaveRoom (s : Lexer) : Lexer :=
  match s.indents with
  | ⟨outer, false⟩ :: is => { s with indent := outer, indents := is }
  | _ => s

/-- Outside flow style, what follows may stand anywhere behind the column of the list or table. -/
def makeRoom : Lexing Unit := modify fun s =>
  if s.depth == 0 && s.indents.head?.any (·.isBlock) then
    { s with indent := s.indent + 1, indents := ⟨s.indent, false⟩ :: s.indents }
  else s

/-- Outside flow style, a list or table stands in a column, which is new if the column is further
right than before; then its token comes in front of those from `index` on. -/
def rollTo (column index : Nat) (t : Token) : Lexing Unit := modify fun s =>
  if s.depth == 0 then
    let s := if s.indent ≤ (column : Int) then leaveRoom s else s
    if s.indent < (column : Int) then
      { s with
        indent := column, indents := ⟨s.indent, true⟩ :: s.indents
        tokens := s.tokens.insertIdxIfInBounds index t }
    else s
  else s

/-! ### Between tokens -/

/-- Moves over blanks, line ends and comments; the number is not exceeded by the characters.  A tab
does not indent: where one stands in front of the column of a list or table, the line is empty. -/
def skipFrom : Nat → Lexing Unit
  | 0 => refuse
  | fuel + 1 => do
    let s ← get
    let k ← place
    let c := k.look 0
    if c == '\t' && !s.indents.isEmpty && k.fresh && (k.column : Int) < s.indent then
      let _ ← Walk.gap true
      require (isLineOver (← here))
      skipFrom fuel
    else if isSpace c then
      passBlank
      skipFrom fuel
    else if isBreak c then
      passBreak
      if s.depth == 0 then allowKey true
      skipFrom fuel
    else if c == '#' then
      Walk.passComment
      skipFrom fuel
    else pure ()

/-- Moves over blanks, line ends and comments. -/
def skip : Lexing Unit := do skipFrom ((← place).rest.length + 1)

/-! ### Marks of flow style -/

/-- A table without brackets ends. -/
def endBare : Lexing Unit := do
  let s ← get
  match s.bare with
  | true :: bs =>
    set { s with inTable := false, bare := false :: bs }
    push .flowTableEnd
  | _ => pure ()

/-- The bracket that opens a list or a table. -/
def openFlow (isTable : Bool) : Lexing Unit := do
  saveCandidate
  makeRoom
  let s ← get
  require (s.depth < 255)
  set { s with
    depth := s.depth + 1, candidates := Candidate.none :: s.candidates, keyAllowed := true
    inTable := s.inTable || isTable
    bare := if isTable then s.bare else false :: s.bare }
  pass
  let _ ← Walk.gap true
  push (if isTable then .flowTableStart else .flowListStart)

/-- The bracket that closes a list or a table. -/
def closeFlow (isTable : Bool) : Lexing Unit := do
  dropCandidate
  modify fun s =>
    if s.depth == 0 then s
    else { s with depth := s.depth - 1, candidates := s.candidates.drop 1 }
  allowKey false
  if !isTable then
    endBare
    modify fun s => { s with bare := s.bare.drop 1 }
  pass
  let _ ← Walk.gap true
  let k ← place
  modify fun s => if s.depth == 0 then s else { s with adjacent := k.position }
  push (if isTable then .flowTableEnd else .flowListEnd)

/-- A comma. -/
def comma : Lexing Unit := do
  dropCandidate
  allowKey true
  endBare
  pass
  let _ ← Walk.gap true
  push .comma

/-! ### Elements, keys and values -/

/-- A gap stands behind the character at the cursor. -/
def gapBehind : Walk Bool := do pure (isGap (← Walk.second))

/-- The dash of an element. -/
def entry : Lexing Unit := do
  let s ← get
  require (s.depth == 0 && s.keyAllowed)
  let column := (← place).column
  pass
  rollTo column s.tokens.size .listStart
  let blanks ← Walk.gap true
  require (!(blanks.tab && (← here) == '-' && (← gapBehind)))
  let _ ← Walk.gap false
  let c ← here
  if isBreak c || isFlowMark c then makeRoom
  dropCandidate
  allowKey true
  push .entry

/-- What stands behind the question mark of a key: at least one blank or line end, and comments. -/
def keyGap (inFlow : Bool) : Nat → Bool → Lexing Unit
  | 0, _ => refuse
  | fuel + 1, found => do
    let c ← here
    if c == ' ' then
      passBlank
      keyGap inFlow fuel true
    else if isBreak c then
      passBreak
      if !inFlow then allowKey true
      keyGap inFlow fuel true
    else if c == '#' then
      Walk.passComment
      keyGap inFlow fuel found
    else require (found && c != '\t')

/-- The question mark of a key. -/
def key : Lexing Unit := do
  let s ← get
  let k ← place
  let inFlow := s.depth != 0
  if inFlow then set { s with inTable := true }
  else
    require s.keyAllowed
    rollTo k.column s.tokens.size .tableStart
  dropCandidate
  allowKey (!inFlow)
  pass
  keyGap inFlow (k.rest.length + 1) false
  push .key

/-- The colon behind a key that started at a candidate. -/
def valueOf (c : Candidate) (isBare : Bool) (line : Nat) : Lexing Unit := do
  insert c.index .key
  if isBare then
    require (line ≤ c.line)
    insert c.index .flowTableStart
  rollTo c.column c.index .tableStart
  makeRoom
  settle
  allowKey false

/-- The colon behind a key with a question mark, or behind none. -/
def valueAlone (isBare : Bool) (column : Nat) : Lexing Unit := do
  if isBare then push .flowTableStart
  let s ← get
  if s.depth == 0 then
    require s.keyAllowed
    rollTo column s.tokens.size .tableStart
  makeRoom
  allowKey (s.depth == 0)

/-- The colon in front of a value. -/
def value : Lexing Unit := do
  let s ← get
  let k ← place
  let isBare := !s.bare.isEmpty && !s.inTable
  if isBare then set { s with bare := true :: s.bare.drop 1 }
  pass
  if (← here) == '\t' then
    let blanks ← Walk.gap true
    let c ← here
    require (blanks.space || !(c == '-' || isNameChar c))
  match s.candidates with
  | [] => refuse
  | c :: _ => if c.isOpen then valueOf c isBare k.line else valueAlone isBare k.column
  push .value

/-- The colon in front of a value in flow style, with no blank behind it. -/
def valueInFlow : Lexing Unit := do
  let s ← get
  let k ← place
  let d := k.look 1
  require (k.position == s.adjacent || !(d == '[' || d == '\x7b'))
  value

/-! ### Nodes -/

/-- What can start a key and cannot stand behind another. -/
def word (w : Walk Token) : Lexing Unit := do
  saveCandidate
  allowKey false
  let t ← w
  push t

/-- A quoted scalar. -/
def quotedScalar : Lexing Unit := do
  saveCandidate
  allowKey false
  let s ← get
  let text ← quoted s.indent (s.depth != 0)
  skip
  let k ← place
  modify fun s => { s with adjacent := k.position }
  push (.scalar false text)

/-- A block of lines. -/
def blockScalar : Lexing Unit := do
  saveCandidate
  allowKey true
  modify leaveRoom
  let text ← block (← get).indent
  push (.scalar false text)

/-- A plain scalar. -/
def plainScalar : Lexing Unit := do
  saveCandidate
  allowKey false
  modify leaveRoom
  let s ← get
  let text ← plain s.indent (s.depth != 0)
  if (← place).fresh then allowKey true
  push (.scalar true text)

/-! ### Documents -/

/-- All lists and tables of block style end. -/
def closeAll : Lexing Unit := do
  unroll (-1)
  dropCandidate
  allowKey false

/-- The end of the text. -/
def finish : Lexing Unit := do
  let s ← get
  require (!s.candidates.any fun c => c.isOpen && c.required)
  let closed := s.candidates.map fun c => { c with isOpen := false }
  set { s with candidates := closed }
  closeAll
  push .textEnd

/-- A mark in front of a document or behind it. -/
def documentMark (t : Token) : Lexing Unit := do
  closeAll
  passMany 3
  push t

/-- The mark behind a document, which ends its line. -/
def documentEnd : Lexing Unit := do
  documentMark .documentEnd
  let _ ← Walk.gap true
  require (isLineOver (← here))

/-- A line in front of a document. -/
def documentLine : Lexing Unit := do
  closeAll
  push (← directive)

/-! ### The whole text -/

/-- The token that starts at the cursor, inside a line. -/
def token : Lexing Unit := do
  let s ← get
  let k ← place
  let c := k.look 0
  let d := k.look 1
  let inFlow := s.depth != 0
  require (s.indent ≤ k.column)
  match c with
  | '[' => openFlow false
  | '\x7b' => openFlow true
  | ']' => closeFlow false
  | '\x7d' => closeFlow true
  | ',' => comma
  | '-' => if isGap d then entry else plainScalar
  | '?' => if isGap d then key else plainScalar
  | ':' =>
    if isGap d then value
    else if inFlow && (isFlowMark d || k.position == s.adjacent) then valueInFlow
    else plainScalar
  | '*' => word do pure (.reference (← label))
  | '&' => word do pure (.anchor (← label))
  | '!' => word (tag inFlow)
  | '|' => if inFlow then plainScalar else blockScalar
  | '>' => if inFlow then plainScalar else blockScalar
  | '\'' => quotedScalar
  | '"' => quotedScalar
  | '%' => refuse
  | '@' => refuse
  | '\x60' => refuse
  | _ => plainScalar

/-- The next token, and those that it implies. -/
def step : Lexing Unit := do
  skip
  dropStale
  let k ← place
  unroll k.column
  if isEnd (k.look 0) then finish
  else if k.column == 0 && k.look 0 == '%' then documentLine
  else if k.column == 0 && k.isMark '-' then documentMark .documentStart
  else if k.column == 0 && k.isMark '.' then documentEnd
  else token

/-- Tokens up to the end; each but the last one has a character. -/
def run : Nat → Lexing Unit
  | 0 => refuse
  | fuel + 1 => do
    step
    if (← get).tokens.back? != some .textEnd then run fuel

end Lexing

/-- The tokens of a text. -/
def tokens? (cs : List Char) : Option (List Token) := do
  let ((_, s), _) ← Lexing.run (cs.length + 1) Lexer.start (Cursor.start cs)
  pure s.tokens.toList

end MediaTree.Yaml
