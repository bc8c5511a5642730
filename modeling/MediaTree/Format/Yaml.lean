/-
**YAML.**

A text of tokens holds at most one document, which is a node; a text without one is an empty table.
Lists and tables are in block style, in flow style, or, as the value of a key, entries in the column
of the key.  Where no node stands there is null.  A node may have a name by which it comes again
further on, and the last node that got a name has it.

Main definitions:

* `MediaTree.Yaml.Reader` — what is left of the tokens, and which names are known;
* `MediaTree.Yaml.node` — nodes;
* `MediaTree.Yaml.document` — the only document of a text;
* `MediaTree.Yaml.read?` — the table that a text spells.
-/

import MediaTree.Format.Yaml.Lexer
import MediaTree.Format.Yaml.Node

set_option autoImplicit false
set_option relaxedAutoImplicit false

namespace MediaTree.Yaml

/-! ### Readers -/

/-- What is left of the tokens, and what was said in front. -/
structure Reader where
  rest : List Token
  /-- What handles of tags stand for. -/
  handles : List (String × String)
  /-- Which node a name belongs to; nodes with names are counted. -/
  names : List (String × Nat)
  /-- The nodes with names that are complete, by their numbers. -/
  nodes : List (Nat × Node)

/-- What takes tokens, or finds that they do not fit together. -/
abbrev Reading (α : Type) := StateT Reader Option α

namespace Reading

/-- The tokens do not fit together. -/
def refuse {α : Type} : Reading α := fun _ => none

/-- A yes or no that must be yes. -/
def require (b : Bool) : Reading Unit := if b then pure () else refuse

/-- The next token, which stays where it is. -/
def peek : Reading Token := do pure ((← get).rest.headD .textEnd)

/-- Takes the next token. -/
def skip : Reading Unit := modify fun r => { r with rest := r.rest.drop 1 }

/-- The next token is one of these. -/
def ahead (ts : List Token) : Reading Bool := do pure (ts.contains (← peek))

/-- Takes the next token if it is this one. -/
def skipIf (t : Token) : Reading Bool := do
  if (← peek) == t then
    skip
    pure true
  else pure false

end Reading

open Reading (refuse require peek skip ahead skipIf)

/-! ### What belongs to a node -/

/-- What stands in front of a node: the number that goes with its name, and its tag. -/
structure Properties where
  number : Option Nat
  tag : Option (String × String)

/-- What a handle stands for; one of its own must have been declared. -/
def handle (name : String) : Reading String := do
  match Table.get? name (← get).handles with
  | some meaning => pure meaning
  | none =>
    if name == "!!" then pure Node.common
    else
      require (name.length < 2)
      pure name

/-- A tag, if one stands here. -/
def tag? : Reading (Option (String × String)) := do
  match ← peek with
  | .tag h name => do
    skip
    let meaning ← handle h
    pure (some (meaning, name))
  | _ => pure none

/-- A name for the node that follows, if one stands here. -/
def anchor? : Reading (Option Nat) := do
  match ← peek with
  | .anchor name => do
    skip
    let r ← get
    let n := r.names.length
    set { r with names := (name, n) :: r.names }
    pure (some n)
  | _ => pure none

/-- What stands in front of a node, in either order. -/
def properties : Reading Properties := do
  match ← anchor? with
  | some n => do pure ⟨some n, ← tag?⟩
  | none => do
    let t ← tag?
    let n ← if t.isSome then anchor? else pure none
    pure ⟨n, t⟩

/-- The node with a name; it means nothing as long as it is not complete. -/
def referent (name : String) : Reading Node := do
  let r ← get
  match Table.get? name r.names with
  | none => refuse
  | some n => pure ((r.nodes.lookup n).getD .void)

/-- A plain scalar, by its tag if it has one. -/
def plainNode (p : Properties) (s : String) : Node :=
  match p.tag with
  | some (handle, name) => Node.ofTagged handle name s
  | none => Node.ofPlain s

/-! ### Nodes -/

/-- What ends an entry of a list in block style. -/
def entryEnds : List Token := [.entry, .blockEnd]

/-- What ends a key or a value of a table in block style. -/
def memberEnds : List Token := [.key, .value, .blockEnd]

/-- What ends an element of a list in flow style. -/
def elementEnds : List Token := [.comma, .flowListEnd]

/-- What ends a member of a table in flow style. -/
def flowMemberEnds : List Token := [.comma, .flowTableEnd]

mutual

/-- A node; in block style it may be any, elsewhere only one of flow style, and where `isMember`
holds it may be a list whose entries stand in the column of the key. -/
def node : Nat → Bool → Bool → Reading Node
  | 0, _, _ => refuse
  | fuel + 1, inBlock, isMember => do
    match ← peek with
    | .reference name => do
      skip
      referent name
    | _ => do
      let p ← properties
      let n ← content fuel inBlock isMember p
      match p.number with
      | some k => modify fun r => { r with nodes := (k, n) :: r.nodes }
      | none => pure ()
      pure n

/-- A node behind its name and its tag; one that has either may be empty. -/
def content : Nat → Bool → Bool → Properties → Reading Node
  | 0, _, _, _ => refuse
  | fuel + 1, inBlock, isMember, p => do
    let t ← peek
    match t with
    | .scalar isPlain s => do
      skip
      pure (if isPlain then plainNode p s else .text s)
    | .flowListStart => do
      skip
      flowList fuel true []
    | .flowTableStart => do
      skip
      flowTable fuel true []
    | _ =>
      if isMember && t == .entry then entries fuel []
      else if inBlock && t == .listStart then
        skip
        blockList fuel []
      else if inBlock && t == .tableStart then
        skip
        blockTable fuel []
      else
        require (p.number.isSome || p.tag.isSome)
        pure (plainNode p "")

/-- A node, or null if one of these tokens stands here. -/
def nodeOrNull : Nat → Bool → Bool → List Token → Reading Node
  | 0, _, _, _ => refuse
  | fuel + 1, inBlock, isMember, ends => do
    if ← ahead ends then pure .null else node fuel inBlock isMember

/-- The rest of a list whose entries stand in the column of the key it belongs to. -/
def entries : Nat → List Node → Reading Node
  | 0, _ => refuse
  | fuel + 1, acc => do
    if ← skipIf .entry then
      let n ← nodeOrNull fuel true false (.entry :: memberEnds)
      entries fuel (n :: acc)
    else pure (.list acc.reverse)

/-- The rest of a list in block style. -/
def blockList : Nat → List Node → Reading Node
  | 0, _ => refuse
  | fuel + 1, acc => do
    if ← skipIf .blockEnd then pure (.list acc.reverse)
    else
      require (← skipIf .entry)
      let n ← nodeOrNull fuel true false entryEnds
      blockList fuel (n :: acc)

/-- The rest of a table in block style, from keys and values so far, last one first. -/
def blockTable : Nat → List Node → Reading Node
  | 0, _ => refuse
  | fuel + 1, acc => do
    if ← skipIf .blockEnd then
      match Node.members? acc.reverse with
      | some ms => pure (.table ms)
      | none => refuse
    else
      let k ← if ← skipIf .key then nodeOrNull fuel true true memberEnds
        else do
          require ((← peek) == .value)
          pure .null
      let v ← if ← skipIf .value then nodeOrNull fuel true true memberEnds
        else pure .null
      blockTable fuel (v :: k :: acc)

/-- The rest of a list in flow style, of which the first element is to come or not. -/
def flowList : Nat → Bool → List Node → Reading Node
  | 0, _, _ => refuse
  | fuel + 1, isFirst, acc => do
    if ← skipIf .flowListEnd then pure (.list acc.reverse)
    else
      if !isFirst then require (← skipIf .comma)
      if ← skipIf .flowListEnd then pure (.list acc.reverse)
      else
        let n ← if ← skipIf .key then pair fuel else node fuel false false
        flowList fuel false (n :: acc)

/-- A key with its value as an element of a list in flow style.  What ends an empty key is taken. -/
def pair : Nat → Reading Node
  | 0 => refuse
  | fuel + 1 => do
    let k ← if ← ahead (.value :: elementEnds) then do
        skip
        pure .null
      else node fuel false false
    let v ← if ← skipIf .value then nodeOrNull fuel false false elementEnds else pure .null
    match Node.members? [k, v] with
    | some ms => pure (.table ms)
    | none => refuse

/-- The rest of a table in flow style, of which the first member is to come or not, from keys and
values so far, last one first. -/
def flowTable : Nat → Bool → List Node → Reading Node
  | 0, _, _ => refuse
  | fuel + 1, isFirst, acc => do
    let isOver ← ahead [.flowTableEnd]
    if !isOver && !isFirst then require (← skipIf .comma)
    if ← skipIf .flowTableEnd then
      match Node.members? acc.reverse with
      | some ms => pure (.table ms)
      | none => refuse
    else if ← skipIf .key then
      let k ← nodeOrNull fuel false false (.value :: flowMemberEnds)
      let v ← flowValue fuel
      flowTable fuel false (v :: k :: acc)
    else if ← ahead [.value] then
      let v ← flowValue fuel
      flowTable fuel false (v :: .null :: acc)
    else
      let k ← node fuel false false
      flowTable fuel false (.null :: k :: acc)

/-- The value of a member in flow style, from its colon on, or null. -/
def flowValue : Nat → Reading Node
  | 0 => refuse
  | fuel + 1 => do
    if ← skipIf .value then nodeOrNull fuel false false flowMemberEnds else pure .null

end

/-! ### Documents -/

/-- Marks behind documents. -/
def closings : Nat → Reading Unit
  | 0 => pure ()
  | fuel + 1 => do
    if ← skipIf .documentEnd then closings fuel

/-- The lines in front of a document.  The version is given once; of handles only what the last line
says counts. -/
def headLines : Nat → Bool → Reading Unit
  | 0, _ => refuse
  | fuel + 1, versioned => do
    match ← peek with
    | .version => do
      require (!versioned)
      skip
      modify fun r => { r with handles := [] }
      headLines fuel true
    | .handle name meaning => do
      skip
      modify fun r => { r with handles := [(name, meaning)] }
      headLines fuel versioned
    | _ => pure ()

/-- The only document of a text. -/
def document (size : Nat) : Reading Node := do
  closings size
  match ← peek with
  | .textEnd => pure (.table [])
  | t => do
    headLines size false
    let isMarked ← skipIf .documentStart
    let hasLines := match t with
      | .version => true
      | .handle _ _ => true
      | _ => false
    require (isMarked || !hasLines)
    let isEmpty := match ← peek with
      | .version => true
      | .handle _ _ => true
      | .documentStart => true
      | .documentEnd => true
      | .textEnd => true
      | _ => false
    let n ← if isMarked && isEmpty then pure .null else node (4 * size) true false
    closings size
    require ((← peek) == .textEnd)
    pure n

/-- The table that a text spells. -/
def read? (text : String) : Option (List (String × Datum)) := do
  let ts ← tokens? text.toList
  let (n, _) ← document (ts.length + 1) ⟨ts, [], [], []⟩
  match ← n.datum? with
  | .table ms => some ms
  | _ => none

end MediaTree.Yaml
