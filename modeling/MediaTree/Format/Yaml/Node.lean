/-
**Nodes of YAML.**

A node is a scalar, a list, or a table whose keys are nodes themselves.  What a plain scalar means
follows from its characters, or from its tag if that is one of the common ones.  A scalar that does
not fit its tag means nothing, and so does a node that refers to what it is part of.

Main definitions:

* `MediaTree.Yaml.Node` — nodes, with `Node.same`;
* `MediaTree.Yaml.Node.ofPlain`, `MediaTree.Yaml.Node.ofTagged` — what plain scalars mean;
* `MediaTree.Yaml.Node.members?` — a table from its keys and values in turn;
* `MediaTree.Yaml.Node.datum?` — the data that a node holds.
-/

import MediaTree.Decimal.Reading
import MediaTree.Format.Datum

set_option autoImplicit false
set_option relaxedAutoImplicit false

namespace MediaTree.Yaml

/-! ### Nodes -/

/-- What a text consists of. -/
inductive Node where
  /-- A node without a meaning. -/
  | void
  | null
  | bool (b : Bool)
  | int (n : Int)
  /-- A number with a fraction, as it is written. -/
  | real (s : String)
  | text (s : String)
  | list (elements : List Node)
  | table (members : List (Node × Node))
deriving Repr, Inhabited

namespace Node

mutual

/-- Two nodes are the same: lists and tables in their order, numbers with a fraction as they are
written. -/
def same : Node → Node → Bool
  | void, void => true
  | null, null => true
  | bool b, bool c => b == c
  | int m, int n => m == n
  | real s, real t => s == t
  | text s, text t => s == t
  | list ns, list ms => sameElements ns ms
  | table ns, table ms => sameMembers ns ms
  | _, _ => false

/-- Two lists of nodes are the same. -/
def sameElements : List Node → List Node → Bool
  | [], [] => true
  | n :: ns, m :: ms => same n m && sameElements ns ms
  | _, _ => false

/-- Two lists of keys and values are the same. -/
def sameMembers : List (Node × Node) → List (Node × Node) → Bool
  | [], [] => true
  | (k, v) :: ns, (l, w) :: ms => same k l && same v w && sameMembers ns ms
  | _, _ => false

end

/-- A node without a meaning. -/
def isVoid : Node → Bool
  | void => true
  | _ => false

/-! ### Plain scalars -/

/-- The ways to write an infinity or the undefined number, which no decimal spells. -/
def unspelled : List String := [
  ".inf", ".Inf", ".INF", "+.inf", "+.Inf", "+.INF", "-.inf", "-.Inf", "-.INF",
  ".nan", ".NaN", ".NAN"]

/-- A whole number, possibly marked as hexadecimal, octal or positive. -/
def integer? (cs : List Char) : Option Int :=
  let marked := match cs with
    | '0' :: 'x' :: ds => Decimal.integer? 16 ds
    | '0' :: 'o' :: ds => Decimal.integer? 8 ds
    | '+' :: ds => Decimal.integer? 10 ds
    | _ => none
  match marked with
  | some n => some n
  | none => Decimal.integer? 10 cs

/-- A number with a fraction or without, or one that no decimal spells. -/
def isReal (s : String) : Bool :=
  unspelled.contains s
    || (s.toList.any Char.isDigit && (Decimal.float? s.toList).isSome)

/-- What a plain scalar without a tag means. -/
def ofPlain (s : String) : Node :=
  match s with
  | "" | "~" | "null" => null
  | "true" | "True" | "TRUE" => bool true
  | "false" | "False" | "FALSE" => bool false
  | _ =>
    match integer? s.toList with
    | some n => int n
    | none => if isReal s then real s else text s

/-- What the common handle stands for. -/
def common : String := "tag:yaml.org,2002:"

/-- What a plain scalar with a tag means. -/
def ofTagged (handle name s : String) : Node :=
  if handle != common then text s
  else match name with
    | "bool" => match s with
      | "true" => bool true
      | "false" => bool false
      | _ => void
    | "int" => match Decimal.integer? 10 s.toList with
      | some n => int n
      | none => void
    | "float" => if isReal s then real s else void
    | "null" => match s with
      | "~" | "null" => null
      | _ => void
    | _ => text s

/-! ### Tables -/

/-- Members from keys and values in turn, behind those that are there and a key without its value.
A void node is no key and is passed over; no key may come twice; a key without a value is
dropped. -/
def membersFrom (acc : List (Node × Node)) : Option Node → List Node → Option (List (Node × Node))
  | _, [] => some acc.reverse
  | none, n :: ns => membersFrom acc (if n.isVoid then none else some n) ns
  | some k, n :: ns =>
    if acc.any fun m => same m.1 k then none else membersFrom ((k, n) :: acc) none ns

/-- Members from keys and values in turn. -/
def members? (ns : List Node) : Option (List (Node × Node)) := membersFrom [] none ns

/-! ### Data -/

/-- The text of a key, which is no list, table or null. -/
def keyText? : Node → Option String
  | bool b => some (Scalar.boolText b)
  | int n => some (toString n)
  | real s => some s
  | text s => some s
  | _ => none

mutual

/-- The data that a node holds; infinities and the undefined number are none. -/
def datum? : Node → Option Datum
  | void => some (.scalar .null)
  | null => some (.scalar .null)
  | bool b => some (.scalar (.bool b))
  | int n => some (.scalar (.int n))
  | real s => (Decimal.float? s.toList).map fun x => .scalar (.float x)
  | text s => some (.scalar (.text s))
  | list ns => (elements? ns).map .list
  | table ms => (entries? [] ms).map .table

/-- The data of the elements of a list. -/
def elements? : List Node → Option (List Datum)
  | [] => some []
  | n :: ns => do
    let d ← datum? n
    pure (d :: (← elements? ns))

/-- The data of the members of a table, behind those that are there. -/
def entries? (acc : List (String × Datum)) : List (Node × Node) → Option (List (String × Datum))
  | [] => some acc
  | (k, v) :: ms => do
    let key ← keyText? k
    let d ← datum? v
    entries? (Table.put key d acc) ms

end

end Node

end MediaTree.Yaml
