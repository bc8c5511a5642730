/-
**RON.**

Records between parentheses, with or without a name in front; lists, tables and tuples; texts and
numbers; a value that may be missing.  A name that stands alone is a value without content.  Lines
in front of the value may switch on ways of reading, none of which matters here, or say what the
value is.

Main definitions:

* `MediaTree.Ron.attributes` — the lines in front of a value;
* `MediaTree.Ron.value`, `MediaTree.Ron.elements`, `MediaTree.Ron.members` — values;
* `MediaTree.Ron.read?` — the table that a text spells.
-/

import MediaTree.Format.Ron.Scalar

set_option autoImplicit false
set_option relaxedAutoImplicit false

namespace MediaTree.Ron

open Text (Scan)

/-! ### Attributes -/

/-- The ways of reading that an attribute may switch on. -/
def extensions : List String :=
  ["unwrap_newtypes", "implicit_some", "unwrap_variant_newtypes", "explicit_struct_names"]

/-- The rest of a list of extensions; there must be one. -/
def extensionsRest (whole : Nat) : Nat → Scan Unit
  | 0 => Scan.refuse
  | fuel + 1 => do
    Scan.require (extensions.contains (← name).text)
    gap whole whole
    if ← Scan.ahead [','] then
      Scan.skip 1
      gap whole whole
      if !(← Scan.ahead [')']) then extensionsRest whole fuel

/-- An attribute, behind its hash mark. -/
def singleAttribute (whole : Nat) : Scan Unit := do
  gap whole whole
  Scan.exactly ['!']
  gap whole whole
  Scan.exactly ['[']
  gap whole whole
  match (← name).text with
  | "enable" => do
    gap whole whole
    Scan.exactly ['(']
    gap whole whole
    extensionsRest whole whole
    Scan.exactly [')']
  | "type" | "schema" => do
    gap whole whole
    Scan.exactly ['=']
    gap whole whole
    let _ ← text whole
  | _ => Scan.refuse
  gap whole whole
  Scan.exactly [']']

/-- The attributes in front of a value, and the blanks around them. -/
def attributes (whole : Nat) : Nat → Scan Unit
  | 0 => Scan.refuse
  | fuel + 1 => do
    gap whole whole
    if ← Scan.ahead ['#'] then
      Scan.skip 1
      singleAttribute whole
      attributes whole fuel

/-! ### Values -/

/-- What a name means that stands alone. -/
def ofName (n : Name) : Scalar :=
  if n.raw then .null
  else match n.text with
    | "true" => .bool true
    | "false" => .bool false
    | s => match special? s with
      | some x => .float x
      | none => .null

/-- A name that means a value, and so has no parentheses behind it. -/
def isValueName (n : Name) : Bool :=
  !n.raw && (["true", "false", "None"].contains n.text || (special? n.text).isSome)

/-- A field of a record stands here: a name and a colon. -/
def startsField (whole : Nat) (cs : List Char) : Bool :=
  let field : Scan Bool := do
    let n ← name?
    gap whole whole
    let colon ← Scan.ahead [':']
    pure (n.isSome && colon)
  match field cs with
  | some (b, _) => b
  | none => false

mutual

/-- A value, nested at most so deeply. -/
def value (whole : Nat) : Nat → Nat → Scan Datum
  | 0, _ => Scan.refuse
  | fuel + 1, depth => do
    match ← name? with
    | some n =>
      if isValueName n then pure (.scalar (ofName n))
      else if !n.raw && n.text == "Some" then present whole fuel depth
      else
        gap whole whole
        if ← Scan.ahead ['('] then group whole fuel depth else pure (.scalar .null)
    | none =>
      match ← Scan.rest with
      | '(' :: ')' :: _ => do
        Scan.skip 2
        pure (.scalar .null)
      | '(' :: _ => group whole fuel depth
      | '[' :: _ => do
        Scan.require (0 < depth)
        Scan.skip 1
        elements whole fuel (depth - 1) ']' []
      | '\x7b' :: _ => do
        Scan.require (0 < depth)
        Scan.skip 1
        members whole fuel (depth - 1) '\x7d' []
      | '"' :: _ | 'r' :: _ => do pure (.scalar (.text (← text whole)))
      | '\'' :: _ => do pure (.scalar (.text (← character)))
      | 'b' :: '\'' :: _ => do pure (.scalar (.int (← octetNumber)))
      | 'b' :: _ => do
        let bs ← octetText whole
        pure (.list (bs.map fun b => .scalar (.int b.toNat)))
      | _ => do pure (.scalar (← Scan.some? (number? (← Scan.takeSome isNumberChar))))

/-- A value that may be missing and is there, behind its name. -/
def present (whole : Nat) : Nat → Nat → Scan Datum
  | 0, _ => Scan.refuse
  | fuel + 1, depth => do
    gap whole whole
    Scan.exactly ['(']
    Scan.require (0 < depth)
    gap whole whole
    let v ← value whole fuel (depth - 1)
    gap whole whole
    if ← Scan.ahead [','] then
      Scan.skip 1
      gap whole whole
    Scan.exactly [')']
    pure v

/-- What parentheses hold: a record or a tuple. -/
def group (whole : Nat) : Nat → Nat → Scan Datum
  | 0, _ => Scan.refuse
  | fuel + 1, depth => do
    Scan.exactly ['(']
    Scan.require (0 < depth)
    gap whole whole
    if startsField whole (← Scan.rest) then members whole fuel (depth - 1) ')' []
    else elements whole fuel (depth - 1) ')' []

/-- The rest of a list or tuple. -/
def elements (whole : Nat) : Nat → Nat → Char → List Datum → Scan Datum
  | 0, _, _, _ => Scan.refuse
  | fuel + 1, depth, close, acc => do
    gap whole whole
    if ← Scan.ahead [close] then
      Scan.skip 1
      pure (.list acc.reverse)
    else
      let v ← value whole fuel depth
      gap whole whole
      if ← Scan.ahead [','] then
        Scan.skip 1
        elements whole fuel depth close (v :: acc)
      else
        Scan.exactly [close]
        pure (.list (v :: acc).reverse)

/-- The rest of a table or record.  A record names its fields, a table has texts for keys. -/
def members (whole : Nat) : Nat → Nat → Char → List (String × Datum) → Scan Datum
  | 0, _, _, _ => Scan.refuse
  | fuel + 1, depth, close, ms => do
    gap whole whole
    if ← Scan.ahead [close] then
      Scan.skip 1
      pure (.table ms)
    else
      let k ← if close == ')' then do pure (← name).text
        else match ← value whole fuel depth with
          | .scalar (.text s) => pure s
          | _ => Scan.refuse
      gap whole whole
      Scan.exactly [':']
      gap whole whole
      let v ← value whole fuel depth
      gap whole whole
      let ms := Table.put k v ms
      if ← Scan.ahead [','] then
        Scan.skip 1
        members whole fuel depth close ms
      else
        Scan.exactly [close]
        pure (.table ms)

end

/-- How deeply values may be nested. -/
def nestingLimit : Nat := 128

/-- A value with its attributes in front and blanks around it. -/
def document (whole : Nat) : Scan Datum := do
  attributes whole whole
  let d ← value whole whole nestingLimit
  gap whole whole
  pure d

/-- The table that a text spells. -/
def read? (source : String) : Option (List (String × Datum)) := do
  let cs := source.toList
  match ← (document (2 * cs.length + 2)).whole? cs with
  | .table ms => some ms
  | _ => none

end MediaTree.Ron
