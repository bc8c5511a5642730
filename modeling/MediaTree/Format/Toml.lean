/-
**TOML.**

A text of lines.  A header names the table that the assignments behind it go to; a doubled header
adds one more table to a list of tables.  The key of an assignment may be a path.  No key is given
twice, and a table is opened by a header only once; how a table came about decides what may still
be added to it.

Main definitions:

* `MediaTree.Toml.Node`, `MediaTree.Toml.Opened` — tables under construction;
* `MediaTree.Toml.assign`, `MediaTree.Toml.openTable`, `MediaTree.Toml.addTable` — what lines do;
* `MediaTree.Toml.read?` — the table that a text spells.
-/

import MediaTree.Format.Toml.Scalar

set_option autoImplicit false
set_option relaxedAutoImplicit false

namespace MediaTree.Toml

open Text (Scan)

/-! ### Tables under construction -/

/-- How a table came about. -/
inductive Opened where
  /-- On the way to a table that a header names. -/
  | implied
  /-- By a header of its own. -/
  | header
  /-- On the way to a key that an assignment names. -/
  | dotted
deriving DecidableEq, Repr

/-- A part of the document under construction. -/
inductive Node where
  /-- A finished value. -/
  | value (d : Datum)
  /-- A table to which something may be added. -/
  | table (o : Opened) (members : List (String × Node))
  /-- A list of tables, last one first. -/
  | tables (reversed : List (List (String × Node)))
deriving Inhabited

/-- The members of a table under construction. -/
abbrev Members := List (String × Node)

/-- Changes the table at the end of a path; tables on the way that are missing are made.  An
assignment does not reach into a table that has a header of its own.  A list of tables stands for
its last one. -/
def atPath (assigned : Bool) (f : Opened → Members → Option Members) :
    List String → Opened → Members → Option Members
  | [], o, ms => f o ms
  | key :: rest, _, ms =>
    match Table.get? key ms with
    | none => do
      let o := if assigned then Opened.dotted else .implied
      pure (Table.put key (.table o (← atPath assigned f rest o [])) ms)
    | some (.table o inner) =>
      if assigned && o == .header then none
      else do pure (Table.put key (.table o (← atPath assigned f rest o inner)) ms)
    | some (.tables (last :: before)) => do
      pure (Table.put key (.tables ((← atPath assigned f rest .header last) :: before)) ms)
    | _ => none

/-- Assigns a value to a key inside a table.  A key behind others goes to a table that assignments
have made. -/
def assign (path : List String) (d : Datum) (o : Opened) (ms : Members) : Option Members := do
  let key ← path.getLast?
  let way := path.dropLast
  atPath true (fun o inner =>
    if (!way.isEmpty && o != .dotted) || (Table.get? key inner).isSome then none
    else some (inner ++ [(key, .value d)])) way o ms

/-- Opens the table that a header names. -/
def openTable (path : List String) (ms : Members) : Option Members := do
  let key ← path.getLast?
  atPath false (fun _ inner =>
    match Table.get? key inner with
    | none => some (Table.put key (.table .header []) inner)
    | some (.table .implied deeper) => some (Table.put key (.table .header deeper) inner)
    | _ => none) path.dropLast .header ms

/-- Adds one more table to the list of tables that a doubled header names. -/
def addTable (path : List String) (ms : Members) : Option Members := do
  let key ← path.getLast?
  atPath false (fun _ inner =>
    match Table.get? key inner with
    | none => some (Table.put key (.tables [[]]) inner)
    | some (.tables ts) => some (Table.put key (.tables ([] :: ts)) inner)
    | _ => none) path.dropLast .header ms

mutual

/-- The finished value of a part. -/
def Node.finish : Node → Datum
  | .value d => d
  | .table _ ms => .table (finishMembers ms)
  | .tables ts => .list (finishTables ts [])

/-- The finished members of a table. -/
def finishMembers : List (String × Node) → List (String × Datum)
  | [] => []
  | (k, n) :: ms => (k, n.finish) :: finishMembers ms

/-- The finished tables of a list, in order. -/
def finishTables : List (List (String × Node)) → List Datum → List Datum
  | [], acc => acc
  | ms :: ts, acc => finishTables ts (.table (finishMembers ms) :: acc)

end

/-! ### Keys -/

/-- The characters of a bare key. -/
def isKeyChar (c : Char) : Bool := c.isAlphanum || c == '_' || c == '-'

/-- A key: bare, or a string on one line. -/
def simpleKey (fuel : Nat) : Scan String := do
  match ← Scan.peek? with
  | some '"' => shortString fuel
  | some '\'' => shortString fuel
  | _ => do pure (String.ofList (← Scan.takeSome isKeyChar))

/-- Keys joined by dots, with blanks around them. -/
def keyPath (whole : Nat) : Nat → List String → Scan (List String)
  | 0, _ => Scan.refuse
  | fuel + 1, acc => do
    Scan.skipWhile isSpace
    let k ← simpleKey whole
    Scan.skipWhile isSpace
    if ← Scan.ahead ['.'] then
      Scan.skip 1
      keyPath whole fuel (k :: acc)
    else pure (k :: acc).reverse

/-! ### Values -/

/-- A comment, if one stands here. -/
def comment : Scan Unit := do
  if ← Scan.ahead ['#'] then Scan.skipWhile isPrintable

/-- Blanks, line ends and comments. -/
def gap : Nat → Scan Unit
  | 0 => Scan.refuse
  | fuel + 1 => do
    Scan.skipWhile isSpace
    comment
    if ← atNewline then
      newline
      gap fuel

mutual

/-- A value. -/
def value (whole : Nat) : Nat → Scan Datum
  | 0 => Scan.refuse
  | fuel + 1 => do
    match ← Scan.peek? with
    | some '"' => do pure (.scalar (.text (← string whole)))
    | some '\'' => do pure (.scalar (.text (← string whole)))
    | some '[' => do
      Scan.skip 1
      elements whole fuel []
    | some '\x7b' => do
      Scan.skip 1
      pairs whole fuel []
    | _ => do pure (.scalar (← word))

/-- The rest of a list. -/
def elements (whole : Nat) : Nat → List Datum → Scan Datum
  | 0, _ => Scan.refuse
  | fuel + 1, acc => do
    gap whole
    if ← Scan.ahead [']'] then
      Scan.skip 1
      pure (.list acc.reverse)
    else
      let v ← value whole fuel
      gap whole
      if ← Scan.ahead [','] then
        Scan.skip 1
        elements whole fuel (v :: acc)
      else
        Scan.exactly [']']
        pure (.list (v :: acc).reverse)

/-- The rest of a table between braces. -/
def pairs (whole : Nat) : Nat → Members → Scan Datum
  | 0, _ => Scan.refuse
  | fuel + 1, ms => do
    gap whole
    if ← Scan.ahead ['\x7d'] then
      Scan.skip 1
      pure (.table (finishMembers ms))
    else
      let path ← keyPath whole whole []
      gap whole
      Scan.exactly ['=']
      gap whole
      let v ← value whole fuel
      gap whole
      let ms ← Scan.some? (assign path v .header ms)
      if ← Scan.ahead [','] then
        Scan.skip 1
        pairs whole fuel ms
      else
        Scan.exactly ['\x7d']
        pure (.table (finishMembers ms))

end

/-! ### Lines -/

/-- A document so far: its members, and the table that assignments go to. -/
structure Draft where
  members : Members
  current : List String

/-- An assignment at the front of a line. -/
def assignment (whole : Nat) (d : Draft) : Scan Draft := do
  let path ← keyPath whole whole []
  Scan.exactly ['=']
  Scan.skipWhile isSpace
  let v ← value whole whole
  let ms ← Scan.some? (atPath false (assign path v) d.current .header d.members)
  pure { d with members := ms }

/-- A header at the front of a line. -/
def header (whole : Nat) (d : Draft) : Scan Draft := do
  if ← Scan.ahead ['[', '['] then
    Scan.skip 2
    let path ← keyPath whole whole []
    Scan.exactly [']', ']']
    pure ⟨← Scan.some? (addTable path d.members), path⟩
  else
    Scan.exactly ['[']
    let path ← keyPath whole whole []
    Scan.exactly [']']
    pure ⟨← Scan.some? (openTable path d.members), path⟩

/-- A line without its end. -/
def line (whole : Nat) (d : Draft) : Scan Draft := do
  Scan.skipWhile isSpace
  let blank ← do
    if ← Scan.atEnd then pure true
    else if ← atNewline then pure true
    else Scan.ahead ['#']
  let d ← if blank then pure d
    else if ← Scan.ahead ['['] then header whole d
    else assignment whole d
  Scan.skipWhile isSpace
  comment
  pure d

/-- All lines. -/
def document (whole : Nat) : Nat → Draft → Scan Draft
  | 0, _ => Scan.refuse
  | fuel + 1, d => do
    let d ← line whole d
    if ← Scan.atEnd then pure d
    else
      newline
      document whole fuel d

/-- The table that a text spells; a byte order mark in front of it does not count. -/
def read? (text : String) : Option (List (String × Datum)) :=
  let cs := match text.toList with
    | '\ufeff' :: cs => cs
    | cs => cs
  let fuel := 2 * cs.length + 2
  ((document fuel fuel ⟨[], []⟩).whole? cs).map fun d => finishMembers d.members

end MediaTree.Toml
