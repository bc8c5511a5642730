/-
**Patterns for the values of fields.**

A pattern is a regular expression over the characters of a value.  Whether a text is one is all that
matters here, since no entry is inside a span whose fields could match.  Repetitions have something
to repeat, groups and classes are closed, ranges ascend, and an escaped character is a mark or one
of a few letters.  Classes that are named by a property of characters, and names of characters in
braces, are no part of a pattern.

Main definitions:

* `MediaTree.Log.Pattern.Atom` — what one character or escape stands for;
* `MediaTree.Log.Pattern.characterClass` — a class in brackets;
* `MediaTree.Log.isPattern` — a text is a pattern.
-/

import MediaTree.Text.Identifier
import MediaTree.Text.Scan

set_option autoImplicit false
set_option relaxedAutoImplicit false

namespace MediaTree.Log

namespace Pattern

open Text (Scan)

/-! ### Atoms -/

/-- What one character or escape stands for. -/
inductive Atom where
  | literal (c : Char)
  /-- A place: the start or the end of the text. -/
  | anchor
deriving DecidableEq, Repr

/-- A character that is a mark, and so stands for itself behind a backslash. -/
def isMark (c : Char) : Bool := c.toNat < 128 && !c.isAlphanum && c != '<' && c != '>'

/-- What stands behind a backslash. -/
def escape : Scan Atom := do
  match ← Scan.next with
  | 'x' => do pure (.literal (← Scan.codePoint 2))
  | 'u' => do pure (.literal (← Scan.codePoint 4))
  | 'U' => do pure (.literal (← Scan.codePoint 8))
  | 'a' => pure (.literal '\x07')
  | 'f' => pure (.literal '\x0c')
  | 'n' => pure (.literal '\n')
  | 'r' => pure (.literal '\r')
  | 't' => pure (.literal '\t')
  | 'v' => pure (.literal '\x0b')
  | 'A' => pure .anchor
  | 'z' => pure .anchor
  | c => if isMark c then pure (.literal c) else Scan.refuse

/-! ### Classes -/

/-- The names of classes of ASCII characters. -/
def classNames : List String := [
  "alnum", "alpha", "ascii", "blank", "cntrl", "digit", "graph", "lower", "print", "punct", "space",
  "upper", "word", "xdigit"]

/-- The start of a class: it may be negated, and hyphens and a closing bracket at its very start are
members. -/
def classStart : Scan Unit := do
  if ← Scan.ahead ['^'] then Scan.skip 1
  let hyphens ← Scan.takeWhile (· == '-')
  if hyphens.isEmpty && (← Scan.ahead [']']) then Scan.skip 1

/-- A class of ASCII characters by its name, if one stands here behind a bracket. -/
def namedClass : Scan Bool := fun cs =>
  match cs with
  | ':' :: ds =>
    let ds := if ds.head? == some '^' then ds.drop 1 else ds
    let name := ds.takeWhile (· != ':')
    let rest := ds.drop name.length
    if classNames.contains (String.ofList name) && [':', ']'].isPrefixOf rest then
      some (true, rest.drop 2)
    else some (false, cs)
  | _ => some (false, cs)

/-- A member of a class that starts with this character. -/
def member (c : Char) : Scan Char := do
  if c == '\\' then
    match ← escape with
    | .literal d => pure d
    | .anchor => Scan.refuse
  else pure c

/-- A member of a class, or a range of them. -/
def range (c : Char) : Scan Unit := do
  let first ← member c
  let cs ← Scan.rest
  let isRange := match cs with
    | '-' :: d :: _ => d != ']' && d != '-'
    | _ => false
  if isRange then
    Scan.skip 1
    let last ← member (← Scan.next)
    Scan.require (first ≤ last)

/-- The rest of a class, inside so many further ones. -/
def classRest : Nat → Nat → Scan Unit
  | 0, _ => Scan.refuse
  | fuel + 1, depth => do
    let operator := [['&', '&'], ['-', '-'], ['~', '~']].any (·.isPrefixOf (← Scan.rest))
    let c ← Scan.next
    if c == '[' then
      if ← namedClass then classRest fuel depth
      else
        classStart
        classRest fuel (depth + 1)
    else if c == ']' then
      if depth = 0 then pure () else classRest fuel (depth - 1)
    else if operator then
      Scan.skip 1
      classRest fuel depth
    else
      range c
      classRest fuel depth

/-- A class, behind its opening bracket. -/
def characterClass : Scan Unit := do
  classStart
  classRest ((← Scan.rest).length + 1) 0

/-! ### Groups -/

/-- The name of a group and what closes it; no name comes twice. -/
def groupName (seen : List String) : Scan String := do
  let name ← Scan.takeWhile (· != '>')
  Scan.exactly ['>']
  Scan.require (name.head?.any fun c => c == '_' || Text.category c = .letter)
  Scan.require (name.all fun c => ['_', '.', '[', ']'].contains c || Text.isAlphanumeric c)
  let name := String.ofList name
  Scan.require (!seen.contains name)
  pure name

/-- The letters of options that a group may set; case is never disregarded. -/
def optionLetters : List Char := ['m', 's', 'U', 'u', 'R', 'x']

/-- Options are letters that do not repeat, and some of them may be negated behind one hyphen. -/
def areOptions (cs : List Char) : Bool :=
  let letters := cs.filter (· != '-')
  letters.all optionLetters.contains && letters.Nodup
    && (cs.filter (· == '-')).length ≤ 1 && cs.getLast? != some '-'

/-- How a group starts, behind its parenthesis: its name if it has a new one, and whether it goes
on; options alone make no group. -/
def groupStart (seen : List String) : Scan (Option String × Bool) := fun cs =>
  match cs with
  | '?' :: 'P' :: '<' :: rest =>
    (groupName seen rest).map fun (name, more) => ((some name, true), more)
  | '?' :: '<' :: rest =>
    (groupName seen rest).map fun (name, more) => ((some name, true), more)
  | '?' :: rest =>
    let options := rest.takeWhile fun c => c != ':' && c != ')'
    match rest.drop options.length with
    | ':' :: more => if areOptions options then some ((none, true), more) else none
    | ')' :: more =>
      if areOptions options && !options.isEmpty then some ((none, false), more) else none
    | _ => none
  | _ => some ((none, true), cs)

/-! ### Patterns -/

/-- The rest of a pattern inside so many groups, given the names of groups so far and whether
something to repeat stands in front. -/
def rest : Nat → Nat → List String → Bool → Scan Unit
  | 0, _, _, _ => Scan.refuse
  | fuel + 1, depth, seen, repeatable => do
    if ← Scan.atEnd then Scan.require (depth == 0)
    else
      match ← Scan.next with
      | '(' => do
        let (name, isGroup) ← groupStart seen
        rest fuel (if isGroup then depth + 1 else depth) (name.toList ++ seen) false
      | ')' => do
        Scan.require (depth != 0)
        rest fuel (depth - 1) seen true
      | '|' => rest fuel depth seen false
      | '*' => do
        Scan.require repeatable
        rest fuel depth seen true
      | '+' => do
        Scan.require repeatable
        rest fuel depth seen true
      | '?' => do
        Scan.require repeatable
        rest fuel depth seen true
      | '\x7b' => Scan.refuse
      | '[' => do
        characterClass
        rest fuel depth seen true
      | '\\' => do
        let _ ← escape
        rest fuel depth seen true
      | _ => rest fuel depth seen true

end Pattern

/-- A text is a pattern. -/
def isPattern (cs : List Char) : Bool :=
  (Pattern.rest (cs.length + 1) 0 [] false cs).isSome

end MediaTree.Log
