/-
**Layered values.**

What the layers of settings come to before anything is made of them: a tree of tables, in which
every scalar and every list remembers where it comes from.  A value is put at a path.  Tables on the
way are made where they are missing or where something else stands; a table that is put does not
replace another one, its members are put one by one; everything else replaces what is there.

Main definitions:

* `MediaTree.Value` — the values, with `Value.ofDatum`;
* `MediaTree.Value.merged` — a value put where another one may stand;
* `MediaTree.Step`, `MediaTree.Value.place` — values put at paths.
-/

import MediaTree.Format.Datum

set_option autoImplicit false
set_option relaxedAutoImplicit false

namespace MediaTree

/-- A value with the names of the layers that it comes from. -/
inductive Value where
  | scalar (origin : Option String) (s : Scalar)
  | list (origin : Option String) (elements : List Value)
  | table (origin : Option String) (members : List (String × Value))
deriving Repr, Inhabited

namespace Value

/-! ### Values of one layer -/

mutual

/-- A datum of one layer. -/
def ofDatum (origin : Option String) : Datum → Value
  | .scalar s => .scalar origin s
  | .list ds => .list origin (ofElements origin ds)
  | .table ms => .table origin (ofMembers origin ms)

/-- The elements of a list of one layer. -/
def ofElements (origin : Option String) : List Datum → List Value
  | [] => []
  | d :: ds => ofDatum origin d :: ofElements origin ds

/-- The members of a table of one layer. -/
def ofMembers (origin : Option String) : List (String × Datum) → List (String × Value)
  | [] => []
  | (k, d) :: ms => (k, ofDatum origin d) :: ofMembers origin ms

end

/-! ### Views -/

/-- The table without members; what is put together from layers has no origin. -/
def empty : Value := .table none []

/-- The value that is not there yet. -/
def missing : Value := .scalar none .null

/-- A value as a table; what is no table gives way to an empty one. -/
def asTable : Value → Option String × List (String × Value)
  | .table origin ms => (origin, ms)
  | _ => (none, [])

/-- A value as a list; what is no list gives way to an empty one. -/
def asList : Value → Option String × List Value
  | .list origin vs => (origin, vs)
  | _ => (none, [])

/-- What a table holds at a key. -/
def member? (key : String) (v : Value) : Option Value := Table.get? key v.asTable.2

/-- Gives a member to a table, made of the one that is there. -/
def alter (key : String) (f : Option Value → Value) (v : Value) : Value :=
  let (origin, ms) := v.asTable
  .table origin (Table.put key (f (Table.get? key ms)) ms)

@[simp] theorem member?_alter_self (key : String) (f : Option Value → Value) (v : Value) :
    (v.alter key f).member? key = some (f (v.member? key)) := by
  simp [alter, member?, asTable]

@[simp] theorem member?_alter_of_ne {key other : String} {f : Option Value → Value} {v : Value}
    (h : other ≠ key) : (v.alter key f).member? other = v.member? other := by
  simp [alter, member?, asTable, h]

/-! ### Putting values -/

mutual

/-- A value put where another one may stand. -/
def merged (old : Option Value) : Value → Value
  | .table _ ms => mergeMembers (old.getD empty) ms
  | v => v

/-- Members put into a table one by one. -/
def mergeMembers (target : Value) : List (String × Value) → Value
  | [] => target
  | (k, v) :: ms => mergeMembers (target.alter k fun old => merged old v) ms

end

end Value

/-- A step of a path below its first key. -/
inductive Step where
  | key (name : String)
  /-- A place in a list; from the end if it is negative. -/
  | index (i : Int)
deriving DecidableEq, Repr

namespace Value

/-- So many elements that are missing. -/
def gaps (n : Nat) : List Value := List.replicate n missing

/-- A list in which the element that an index means is changed.  A negative index counts from the
end.  A list that is too short is filled up first: at its end, or for a negative index in front, so
that the index means the first element. -/
def setAt (vs : List Value) (i : Int) (f : Value → Value) : List Value :=
  let n := i.natAbs
  if 0 ≤ i then (vs ++ gaps (n + 1 - vs.length)).modify n f
  else (gaps (n - vs.length) ++ vs).modify (vs.length - n) f

/-- Puts a value at the end of a path. -/
def place (new : Value) : List Step → Value → Value
  | [], _ => new
  | [.key name], v => v.alter name fun old => merged old new
  | .key name :: rest, v => v.alter name fun old => place new rest (old.getD missing)
  | .index i :: rest, v =>
    let (origin, vs) := v.asList
    .list origin (setAt vs i (place new rest))

end Value

end MediaTree
