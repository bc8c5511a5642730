/-
**Hosts.**

The host of an address is a name or a number.  A name is written in lower case, percent escapes
undone, letters beyond ASCII encoded.  A host whose last label is numeric must be an address of four
octets, in any of the old spellings (fewer parts, octal, hexadecimal); one between brackets must be
an address of eight 16-bit groups, whose longest run of zero groups is left out.

Main definitions:

* `MediaTree.Url.Host.ofFour?` — addresses of four octets;
* `MediaTree.Url.Host.ofEight?` — addresses of eight groups;
* `MediaTree.Url.Host.normal?` — the normal form of a host.
-/

import MediaTree.Text.Percent
import MediaTree.Url.Name

set_option autoImplicit false
set_option relaxedAutoImplicit false

namespace MediaTree.Url.Host

open Name (split)

/-- The number of digits to a base. -/
def number? (base : Nat) (cs : List Char) : Option Nat :=
  cs.foldl (fun acc c => do
    let n ← acc
    let d ← Text.Hex.value? c
    if d < base then pure (n * base + d) else none) (some 0)

/-! ### Four octets -/

/-- A part of a numeric host: decimal, octal behind a zero, hexadecimal behind `0x`. -/
def part? (cs : List Char) : Option Nat :=
  match cs with
  | [] => none
  | '0' :: 'x' :: rest | '0' :: 'X' :: rest => number? 16 rest
  | '0' :: d :: rest => number? 8 (d :: rest)
  | cs => number? 10 cs

/-- The labels of a host, one empty label at the end dropped. -/
def labels (cs : List Char) : List (List Char) :=
  let ls := split '.' cs
  if ls.length > 1 ∧ ls.getLast? = some [] then ls.dropLast else ls

/-- Whether the last label makes the host numeric. -/
def isNumeric (cs : List Char) : Bool :=
  match (labels cs).getLast? with
  | none => false
  | some l =>
    (!l.isEmpty && l.all Char.isDigit) ||
    (match l with
      | '0' :: 'x' :: rest | '0' :: 'X' :: rest => rest.all fun c => (Text.Hex.value? c).isSome
      | _ => false)

/-- All parts but the last are octets, the last one fills what is left. -/
def combine? : Nat → List Nat → Option Nat
  | _, [] => none
  | room, [n] => if n < Nat.pow 256 room then some n else none
  | room, n :: ns => do
    if n < 256 then
      let rest ← combine? (room - 1) ns
      pure (n * Nat.pow 256 (room - 1) + rest)
    else none

/-- Four octets in decimal, joined by points. -/
def fourText (n : Nat) : String :=
  ".".intercalate
    ([n / Nat.pow 256 3 % 256, n / Nat.pow 256 2 % 256, n / 256 % 256, n % 256].map
      ToString.toString)

/-- The normal form of a numeric host. -/
def ofFour? (cs : List Char) : Option String := do
  let parts ← (labels cs).mapM part?
  if parts.length > 4 then none else (combine? 4 parts).map fourText

/-! ### Eight groups -/

/-- The groups of one side of `::`, each of one to four digits. -/
def groups? (cs : List Char) : Option (List Nat) :=
  if cs.isEmpty then some []
  else (split ':' cs).mapM fun g =>
    if g.isEmpty ∨ g.length > 4 then none else number? 16 g

/-- An octet of four, without zeros in front. -/
def plainOctet? (cs : List Char) : Option Nat := do
  if cs.isEmpty ∨ !cs.all Char.isDigit ∨ (cs.length > 1 ∧ cs.head? = some '0') then none
  else
    let n ← number? 10 cs
    if n < 256 then some n else none

/-- Groups whose last part may be four octets, which make two groups. -/
def groupsWithOctets? (cs : List Char) : Option (List Nat) :=
  let parts := split ':' cs
  match parts.getLast? with
  | none => none
  | some last =>
    if last.contains '.' then do
      let octets ← (split '.' last).mapM plainOctet?
      match octets with
      | [a, b, c, d] =>
        let front := parts.dropLast
        let gs ← groups? (List.intercalate [':'] front)
        some (gs ++ [a * 256 + b, c * 256 + d])
      | _ => none
    else groups? cs

/-- Splits at the first `::`. -/
def splitGap : List Char → Option (List Char × List Char)
  | ':' :: ':' :: rest => some ([], rest)
  | c :: rest => (splitGap rest).map fun (a, b) => (c :: a, b)
  | [] => none

/-- Eight groups from their text. -/
def eight? (cs : List Char) : Option (List Nat) :=
  match splitGap cs with
  | none => do
    let gs ← groupsWithOctets? cs
    if gs.length = 8 then some gs else none
  | some (front, back) => do
    let a ← groups? front
    let b ← if back.isEmpty then some [] else groupsWithOctets? back
    if a.length + b.length < 8 then
      some (a ++ List.replicate (8 - a.length - b.length) 0 ++ b)
    else none

/-- How many zeros lead a list. -/
def zeroRun (gs : List Nat) : Nat := (gs.takeWhile (· == 0)).length

/-- Start and length of the first longest run of at least two zeros. -/
def longestGap (gs : List Nat) : Option (Nat × Nat) :=
  (List.range gs.length).foldl (fun best i =>
    let n := zeroRun (gs.drop i)
    match best with
    | some (_, m) => if n > m then some (i, n) else best
    | none => if n ≥ 2 then some (i, n) else none) none

/-- Groups in hexadecimal, joined by colons. -/
def groupsText (gs : List Nat) : String :=
  ":".intercalate (gs.map fun g => String.ofList (Nat.toDigits 16 g))

/-- Eight groups between brackets, the longest run of zeros left out. -/
def eightText (gs : List Nat) : String :=
  match longestGap gs with
  | none => "[" ++ groupsText gs ++ "]"
  | some (i, n) => "[" ++ groupsText (gs.take i) ++ "::" ++ groupsText (gs.drop (i + n)) ++ "]"

/-- The normal form of a host between brackets. -/
def ofEight? (cs : List Char) : Option String := (eight? cs).map eightText

/-! ### Hosts -/

/-- The normal form of the host of an address that is sent somewhere. -/
def normal? (cs : List Char) : Option String :=
  match cs with
  | '[' :: rest =>
    if rest.getLast? = some ']' then ofEight? rest.dropLast else none
  | cs => do
    let name ← Text.Percent.decodeText? cs
    let ascii ← Name.ascii? name.toList
    if ascii.isEmpty then none
    else if isNumeric ascii then ofFour? ascii
    else some (String.ofList ascii)

/-- Characters that no host of an address of another kind holds. -/
def isOpaqueForbidden (c : Char) : Bool :=
  c == '\x00' || c == ' ' || (' ' < c && c != '\x7f' && c != '%' && Name.isForbidden c)

/-- The host of an address of another kind: kept as it is, other characters escaped. -/
def opaqueHost? (cs : List Char) : Option String :=
  match cs with
  | '[' :: rest =>
    if rest.getLast? = some ']' then ofEight? rest.dropLast else none
  | cs =>
    if cs.any isOpaqueForbidden then none
    else some (String.ofList
      (Text.Percent.encode (fun c => 0x20 < c.toNat && c.toNat < 0x7f) (String.ofList cs)))

end MediaTree.Url.Host
