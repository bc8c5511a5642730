/-
**Tables over all characters.**

A property of characters is a function of their code points that is constant on long runs.  A table
holds where each run starts and what value its characters have; the run of a character is found by
bisection.  Tables are written as texts: either run after run, a letter for the value and the number
of characters, or range after range, its first and last code point in hexadecimal and a value.

Main definitions:

* `MediaTree.Text.Runs`, `MediaTree.Text.Runs.at?` — tables and their values;
* `MediaTree.Text.Runs.ofCounts` — a table from letters and counts, as in `X32B1G15`;
* `MediaTree.Text.Runs.ofRanges` — a table from ranges, as in `300-314:230 315:232`.
-/

import MediaTree.Text.Blank
import MediaTree.Text.Hex

set_option autoImplicit false
set_option relaxedAutoImplicit false

namespace MediaTree.Text

/-- A table: the first code point of each run, in ascending order, with the value of the run. -/
structure Runs (α : Type) where
  entries : Array (Nat × α)

namespace Runs

variable {α : Type}

/-! ### Values -/

/-- The value of the last run that starts at a code point or in front of it, among those from index
`low` on and in front of index `high`. -/
def search (entries : Array (Nat × α)) (n low high : Nat) : Option α :=
  if low < high then
    let middle := (low + high) / 2
    match entries[middle]? with
    | none => none
    | some (first, value) =>
      if n < first then search entries n low middle
      else (search entries n (middle + 1) high).orElse fun _ => some value
  else none
termination_by high - low

/-- The value of a character; there is none in front of the first run. -/
def at? (r : Runs α) (c : Char) : Option α := search r.entries c.toNat 0 r.entries.size

/-- A character has a value. -/
def has [BEq α] (r : Runs α) (value : α) (c : Char) : Bool := r.at? c == some value

/-! ### Letters and counts -/

/-- A table under construction: what is done, where the run starts that is being read, its letter
and its count as far as they are known. -/
structure Draft (α : Type) where
  entries : Array (Nat × α)
  start : Nat
  letter : Option Char
  count : Nat

/-- The run that is being read ends. -/
def Draft.close (value : Char → α) (d : Draft α) : Draft α :=
  match d.letter with
  | none => d
  | some l => ⟨d.entries.push (d.start, value l), d.start + d.count, none, 0⟩

/-- The next character of the text: a digit of the count, or the letter of the next run. -/
def Draft.next (value : Char → α) (d : Draft α) (c : Char) : Draft α :=
  if c.isDigit then { d with count := d.count * 10 + (c.toNat - '0'.toNat) }
  else if isBlank c then d
  else { d.close value with letter := some c }

/-- The table of a text of letters and counts, given what the letters stand for; the first run
starts at the first code point.  Blanks and line ends between runs do not count. -/
def ofCounts (value : Char → α) (text : String) : Runs α :=
  ⟨((text.toList.foldl (Draft.next value) ⟨#[], 0, none, 0⟩).close value).entries⟩

/-! ### Ranges -/

/-- The number of hexadecimal digits. -/
def hexNumber (cs : List Char) : Nat := cs.foldl (fun n c => n * 16 + (Hex.value? c).getD 0) 0

/-- The number of decimal digits. -/
def decimalNumber (cs : List Char) : Nat := cs.foldl (fun n c => n * 10 + (Hex.value? c).getD 0) 0

/-- The words of a text, parted by blanks and line ends. -/
def words (text : String) : List (List Char) :=
  (pieces isBlank text.toList).filter fun w => !w.isEmpty

/-- The entries of a range: where it starts, and where the characters without a value go on. -/
def rangeEntries (cs : List Char) : List (Nat × Nat) :=
  let bounds := pieces (· == '-') (cs.takeWhile (· != ':'))
  let value := match cs.dropWhile (· != ':') with
    | [] => 1
    | _ :: ds => decimalNumber ds
  let first := hexNumber (bounds.headD [])
  let last := hexNumber (bounds.getLastD [])
  [(first, value), (last + 1, 0)]

/-- The table of a text of ranges in ascending order.  A range without a value has
the value one, and characters outside all ranges have the value zero. -/
def ofRanges (text : String) : Runs Nat :=
  ⟨(((words text).flatMap rangeEntries).cons (0, 0)).toArray⟩

/-- A character stands in one of the ranges. -/
def covers (r : Runs Nat) (c : Char) : Bool := (r.at? c).any (· != 0)

end Runs

end MediaTree.Text
