/-
**Which entries are logged.**

A filter is a list of directives.  A directive sets how severe an entry must be, for all components
or for those whose name begins with a target, and for all entries or for those with a field.  The
directive with the longest target decides; of two with one target the one that asks for a field,
or for the field whose name comes last; and of two that ask for the same the later one.  A word
that is no level names a target, of which everything is logged.

In a text, directives are parted by commas.  A directive may also ask for a span, or for the value
of a field of a span; no entry here is inside one, so that such a directive applies to none.

Main definitions:

* `MediaTree.Log.Threshold` — how severe an entry must be;
* `MediaTree.Log.Scope` — which entries of its target a directive is about;
* `MediaTree.Log.Directive`, `MediaTree.Log.Directive.ofText?`;
* `MediaTree.Log.Filter`, `MediaTree.Log.Filter.ofText?`, `MediaTree.Log.Filter.passes`.
-/

import MediaTree.Decimal.Reading
import MediaTree.Log.Entry
import MediaTree.Log.Pattern
import MediaTree.Text.Blank

set_option autoImplicit false
set_option relaxedAutoImplicit false

namespace MediaTree.Log

/-! ### Levels -/

/-- How severe an entry must be to be logged; nothing is, if there is no such severity. -/
abbrev Threshold := Option Severity

/-- An entry of a severity is logged. -/
def Threshold.admits (t : Threshold) (s : Severity) : Bool := t.any fun u => s.rank ≤ u.rank

/-- The level that a word names, in any case. -/
def Severity.ofWord? (word : String) : Option Severity :=
  match String.ofList (word.toList.map Char.toLower) with
  | "error" => some error
  | "warn" => some warn
  | "info" => some info
  | "debug" => some debug
  | "trace" => some trace
  | _ => none

/-- The level that settings name; they may spell a warning out. -/
def Severity.ofSetting? (word : String) : Option Severity :=
  if String.ofList (word.toList.map Char.toLower) = "warning" then some warn else ofWord? word

/-- The threshold that a number stands for. -/
def Threshold.ofNat? : Nat → Option Threshold
  | 0 => some none
  | 1 => some (some .error)
  | 2 => some (some .warn)
  | 3 => some (some .info)
  | 4 => some (some .debug)
  | 5 => some (some .trace)
  | _ => none

/-- A number without a minus sign. -/
def number? (cs : List Char) : Option Nat :=
  match cs with
  | '+' :: ds => Decimal.natural? 10 ds
  | ds => Decimal.natural? 10 ds

/-- The threshold that a text names: a level, `off`, or a number. -/
def Threshold.ofText? (cs : List Char) : Option Threshold :=
  match (number? cs).bind ofNat? with
  | some t => some t
  | none =>
    if String.ofList (cs.map Char.toLower) = "off" then some none
    else (Severity.ofWord? (String.ofList cs)).map some

/-! ### Directives -/

/-- Which entries of its target a directive is about. -/
inductive Scope where
  | all
  /-- Those with a field. -/
  | having (field : String)
  /-- Those inside a span. -/
  | inside
deriving DecidableEq, Repr

/-- A directive. -/
structure Directive where
  /-- What the names of components begin with; all components if absent. -/
  target : Option String
  scope : Scope
  threshold : Threshold
deriving DecidableEq, Repr

namespace Directive

/-- How far a directive was read; positions are those where a part starts. -/
inductive Stage where
  | start
  | word (start : Nat)
  | span (start : Nat)
  | field (start : Nat)
  | fields
  | scope
  | level (start : Nat)
deriving DecidableEq, Repr

/-- A directive being read. -/
structure Draft where
  stage : Stage
  target : Option String
  scope : Scope
deriving DecidableEq, Repr

/-- The characters that a directive may start with: letters, numbers and a few marks. -/
def isFirst (c : Char) : Bool := c == '-' || c == ':' || c == '_' || Text.isAlphanumeric c

/-- The part of a text between two positions. -/
def part (text : List Char) (a b : Nat) : List Char := (text.take b).drop a

/-- What a directive is about that asks for a field, and for its value if an equals sign follows the
name.  The value is a number or a pattern, up to a further equals sign. -/
def fieldScope? (field : List Char) : Option Scope :=
  let name := field.takeWhile (· != '=')
  match field.drop name.length with
  | [] => if name.isEmpty then none else some (.having (String.ofList name))
  | _ :: rest =>
    let value := rest.takeWhile (· != '=')
    if (Decimal.float? value).isSome || isPattern value then some .inside else none

/-- The next character, at a position. -/
def Draft.next (text : List Char) (d : Draft) (i : Nat) (c : Char) : Option Draft :=
  match d.stage with
  | .start =>
    if c = '[' then some { d with stage := .span (i + 1) }
    else if isFirst c then some { d with stage := .word i }
    else none
  | .word a =>
    if c = '=' then
      some { d with stage := .level (i + 1), target := some (String.ofList (part text a i)) }
    else if c = '[' then
      some ⟨.span (i + 1), some (String.ofList (part text a i)), .all⟩
    else some d
  | .span a =>
    if c = ']' then some { d with stage := .scope, scope := .inside }
    else if c = '\x7b' then
      some { d with stage := .field (i + 1), scope := if part text a i = [] then .all else .inside }
    else some d
  | .field a =>
    if c = '\x7d' then
      (fieldScope? (part text a i)).map fun s =>
        { d with stage := .fields, scope := if d.scope = .all then s else .inside }
    else some d
  | .fields => if c = ']' then some { d with stage := .scope } else none
  | .scope => if c = '=' then some { d with stage := .level (i + 1) } else none
  | .level _ => some d

/-- All characters from a position on. -/
def Draft.run (text : List Char) : Draft → Nat → List Char → Option Draft
  | d, _, [] => some d
  | d, i, c :: cs => do
    let d ← d.next text i c
    d.run text (i + 1) cs

/-- The directive that ends here. -/
def Draft.finish (text : List Char) (d : Draft) : Option Directive :=
  match d.stage with
  | .word a =>
    match Threshold.ofText? (text.drop a) with
    | some t => some ⟨none, d.scope, t⟩
    | none => some ⟨some (String.ofList (text.drop a)), d.scope, some .trace⟩
  | .level a =>
    match text.drop a with
    | [] => some ⟨d.target, d.scope, some .trace⟩
    | cs => (Threshold.ofText? cs).map fun t => ⟨d.target, d.scope, t⟩
  | .scope => some ⟨d.target, d.scope, some .trace⟩
  | _ => none

/-- The directive that a text spells.  Blanks at its ends are passed over where the text is looked
through, but positions are counted in the text with them. -/
def ofText? (text : List Char) : Option Directive := do
  let d ← Draft.run text ⟨.start, none, .all⟩ 0 (Text.trim text)
  d.finish text

/-- The directive applies to an entry. -/
def appliesTo (d : Directive) (e : Entry) : Bool :=
  (d.target.all fun t => t.toList.isPrefixOf e.target.toList) &&
    match d.scope with
    | .all => true
    | .having field => e.has field
    | .inside => false

/-- How specific a directive is: the length of its target, and the field it asks for. -/
def weight (d : Directive) : Nat × String :=
  let length := match d.target with
    | some t => t.utf8ByteSize + 1
    | none => 0
  match d.scope with
  | .having field => (length, field)
  | _ => (length, "")

/-- A directive is no more specific than another one. -/
def yieldsTo (d e : Directive) : Bool :=
  d.weight.1 < e.weight.1 || (d.weight.1 == e.weight.1 && !(e.weight.2 < d.weight.2))

end Directive

/-! ### Filters -/

/-- A list of directives. -/
abbrev Filter := List Directive

namespace Filter

/-- Errors of all components. -/
def errors : Filter := [⟨none, .all, some .error⟩]

/-- The filter that a text spells; without any directive it lets errors pass. -/
def ofText? (text : String) : Option Filter := do
  let parts := (Text.pieces (· == ',') text.toList).filter fun p => !p.isEmpty
  let directives ← parts.mapM Directive.ofText?
  pure (if directives.isEmpty then errors else directives)

/-- The directive that decides about an entry. -/
def deciding? (f : Filter) (e : Entry) : Option Directive :=
  f.foldl (fun best d =>
    if d.appliesTo e && best.all fun (b : Directive) => b.yieldsTo d then some d else best) none

/-- An entry passes the filter. -/
def passes (f : Filter) (e : Entry) : Bool :=
  (f.deciding? e).any fun d => d.threshold.admits e.severity

end Filter

end MediaTree.Log
