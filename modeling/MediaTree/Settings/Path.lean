/-
**Paths of settings.**

The top-level keys of a layer are paths: names joined by dots, and places in lists between
brackets.  A key that is no path is a name as it stands.

Main definitions:

* `MediaTree.Path` — paths, read by `Path.ofText`;
* `MediaTree.Value.assign`, `MediaTree.Value.layer` — a layer put on top of others.
-/

import MediaTree.Decimal.Reading
import MediaTree.Settings.Value
import MediaTree.Text.Scan

set_option autoImplicit false
set_option relaxedAutoImplicit false

namespace MediaTree

open Text (Scan)

/-- A path: a name, and the steps from there. -/
structure Path where
  root : String
  steps : List Step
deriving DecidableEq, Repr

namespace Path

/-- The characters of names. -/
def isNameChar (c : Char) : Bool := c.isAlphanum || c == '_' || c == '-'

/-- A name. -/
def name : Scan String := do pure (String.ofList (← Scan.takeSome isNameChar))

/-- Blanks that may surround a place. -/
def isSpace (c : Char) : Bool := c == ' ' || c == '\t'

/-- A step. -/
def step : Scan Step := do
  match ← Scan.next with
  | '.' => do pure (.key (← name))
  | '[' => do
    Scan.skipWhile isSpace
    let negative ← Scan.ahead ['-']
    if negative then Scan.skip 1
    let n ← Scan.some? (Decimal.natural? 10 (← Scan.takeSome Char.isDigit))
    let i : Int := if negative then -n else n
    Scan.require (Decimal.fits i)
    Scan.skipWhile isSpace
    Scan.exactly [']']
    pure (.index i)
  | _ => Scan.refuse

/-- All steps that are left. -/
def stepsRest : Nat → List Step → Scan (List Step)
  | 0, _ => Scan.refuse
  | fuel + 1, acc => do
    if ← Scan.atEnd then pure acc.reverse
    else
      let s ← step
      stepsRest fuel (s :: acc)

/-- The path that a text spells. -/
def ofText? (s : String) : Option Path :=
  Scan.whole? (do
    let root ← name
    let steps ← stepsRest (s.toList.length + 1) []
    pure ⟨root, steps⟩) s.toList

/-- The path that a key means. -/
def ofText (s : String) : Path := (ofText? s).getD ⟨s, []⟩

/-- All steps, the name in front included. -/
def allSteps (p : Path) : List Step := .key p.root :: p.steps

end Path

namespace Value

/-- Puts a value at the path that a key means. -/
def assign (v : Value) (key : String) (new : Value) : Value :=
  place new (Path.ofText key).allSteps v

/-- Puts a layer on top of what is there. -/
def layer (v : Value) (ms : List (String × Value)) : Value :=
  ms.foldl (fun v m => v.assign m.1 m.2) v

end Value

end MediaTree
