/-
**Tokens of YAML.**

A text is cut into tokens before its values are read: the marks of lists and tables, of which those
of block style follow from the indentation, the names that nodes get and are referred to by, tags,
scalars, and what stands between documents.  A tag is a handle and a name behind it; a line in front
of a document may say what a handle stands for.

Main definitions:

* `MediaTree.Yaml.Token` — tokens;
* `MediaTree.Yaml.label` — the name of an anchor or a reference;
* `MediaTree.Yaml.tag` — tags;
* `MediaTree.Yaml.directive` — lines in front of a document.
-/

import MediaTree.Format.Yaml.Cursor

set_option autoImplicit false
set_option relaxedAutoImplicit false

namespace MediaTree.Yaml

open Walk (here second pass passMany require refuse)

/-! ### Tokens -/

/-- What a text is cut into. -/
inductive Token where
  /-- A line that gives the version. -/
  | version
  /-- A line that says what a handle stands for. -/
  | handle (name meaning : String)
  | documentStart
  | documentEnd
  /-- A list in block style starts. -/
  | listStart
  /-- A table in block style starts. -/
  | tableStart
  /-- A list or table in block style ends. -/
  | blockEnd
  | flowListStart
  | flowListEnd
  | flowTableStart
  | flowTableEnd
  /-- An element of a list in block style follows. -/
  | entry
  /-- The comma of flow style. -/
  | comma
  | key
  | value
  /-- A node with this name stands here once more. -/
  | reference (name : String)
  /-- The node that follows gets a name. -/
  | anchor (name : String)
  | tag (handle name : String)
  | scalar (isPlain : Bool) (text : String)
  | textEnd
deriving DecidableEq, Repr, Inhabited

/-! ### Names -/

/-- The name behind the mark of an anchor or a reference. -/
def label : Walk String := do
  pass
  let cs ← Walk.takeWhile fun c => !(isGap c || isFlowMark c || c == '\uFEFF')
  require (!cs.isEmpty)
  pure (String.ofList cs)

/-! ### Tags -/

/-- Characters of addresses. -/
def isUriChar (c : Char) : Bool :=
  c.isAlphanum || c == '-' || "#;/?:@&=+$,_.!~*'()[]%".toList.contains c

/-- Characters of tags that are not spelled out. -/
def isTagChar (c : Char) : Bool := isUriChar c && !isFlowMark c && c != '!'

/-- An octet behind a percent sign. -/
def octet : Walk Nat := do
  require ((← here) == '%')
  pass
  pure (← Walk.codePoint 2).toNat

/-- A character given by its octets; two octets are the halves of its number. -/
def octets : Walk Char := do
  let high ← octet
  if high < 128 then pure (Char.ofNat high)
  else
    require (192 ≤ high && high < 224)
    let low ← octet
    require (128 ≤ low && low < 192)
    let n := high * 256 + low
    require n.isValidChar
    pure (Char.ofNat n)

/-- The characters of a tag behind those that are given, last one first. -/
def tagChars (p : Char → Bool) : Nat → List Char → Walk (List Char)
  | 0, _ => refuse
  | fuel + 1, acc => do
    let c ← here
    if !p c then pure acc.reverse
    else if c == '%' then
      let d ← octets
      tagChars p fuel (d :: acc)
    else
      pass
      tagChars p fuel (c :: acc)

/-- The characters of a kind that stand here. -/
def tagText (p : Char → Bool) : Walk (List Char) := do
  tagChars p ((← Walk.place).rest.length + 1) []

/-- Exclamation mark, letters, and a further exclamation mark if one stands here. -/
def tagHandle : Walk (List Char) := do
  require ((← here) == '!')
  pass
  let cs ← Walk.takeWhile isNameChar
  if (← here) == '!' then
    pass
    pure ('!' :: cs ++ ['!'])
  else pure ('!' :: cs)

/-- The handle and the name of a tag: spelled out, behind a handle of its own, behind the common
handle, or a lone mark. -/
def tagParts : Walk (String × String) := do
  if (← second) == '<' then
    passMany 2
    let cs ← tagText isUriChar
    require ((← here) == '>')
    pass
    pure ("", String.ofList cs)
  else
    let handle ← tagHandle
    let cs ← tagText isTagChar
    if 2 ≤ handle.length && handle.getLast? == some '!' then
      require (!cs.isEmpty)
      pure (String.ofList handle, String.ofList cs)
    else
      let name := handle.drop 1 ++ cs
      pure (if name.isEmpty then ("", "!") else ("!", String.ofList name))

/-- A tag; outside flow style a gap follows it. -/
def tag (inFlow : Bool) : Walk Token := do
  let (handle, name) ← tagParts
  let c ← here
  require (isGap c || (inFlow && isFlowMark c))
  pure (.tag handle name)

/-! ### Lines in front of a document -/

/-- A number of a version, of nine digits at most. -/
def versionNumber : Walk Unit := do
  let ds ← Walk.takeWhile Char.isDigit
  require (0 < ds.length && ds.length ≤ 9)

/-- What a line says about a handle. -/
def handleMeaning : Walk Token := do
  let _ ← Walk.takeWhile isSpace
  let handle ← tagHandle
  require (handle.getLast? == some '!')
  let _ ← Walk.takeWhile isSpace
  let c ← here
  require (c == '!' || isTagChar c)
  let first ← if c == '%' then octets else do
    pass
    pure c
  let rest ← tagText isUriChar
  require (isGap (← here))
  pure (.handle (String.ofList handle) (String.ofList (first :: rest)))

/-- A line in front of a document, from its percent sign on.  One of an unknown kind says that the
empty handle stands for nothing. -/
def directive : Walk Token := do
  pass
  let name ← Walk.takeWhile isNameChar
  require (!name.isEmpty && isGap (← here))
  let t ← match String.ofList name with
    | "YAML" => do
      let _ ← Walk.takeWhile isSpace
      versionNumber
      require ((← here) == '.')
      pass
      versionNumber
      pure .version
    | "TAG" => handleMeaning
    | _ => do
      Walk.passComment
      pure (.handle "" "")
  let _ ← Walk.gap true
  require (isLineOver (← here))
  Walk.passBreak
  pure t

end MediaTree.Yaml
