/-
**Decoding records.**

A decoder looks at a reading and yields a value or the first problem.  It carries the number of
arrays and objects that may still be nested inside each other: the reader of a text allows 127 of
them, where it decodes.  A value that is skipped is only checked for soundness.

A record is described by a `Shape`: its name and its fields in order.  It may be spelled as an
object, whose members come in any order, unknown ones being skipped and known ones being refused a
second time, or by position as an array, where fields at the end may be left out if they have a
default.

Main definitions:

* `MediaTree.Json.Decoder` — decoders, with the ones for scalars, lists and string maps;
* `MediaTree.Json.Field`, `MediaTree.Json.Shape` — records and their decoder `Shape.decode`;
* `MediaTree.Json.Document.decode`, `MediaTree.Json.decodeBytes` — decoding a whole text.
-/

import MediaTree.Json.Problem

set_option autoImplicit false
set_option relaxedAutoImplicit false

namespace MediaTree.Json

/-- A decoder: it gets the number of nestings still allowed and a reading. -/
abbrev Decoder (α : Type) := Nat → Reading → Except Problem α

/-- How many arrays and objects a text may nest where it is decoded. -/
def nestingLimit : Nat := 127

namespace Decoder

/-! ### Scalars -/

/-- A string. -/
def string : Decoder String := fun _ r =>
  match r with
  | .string (some s) => .ok s
  | r => .error (r.mismatch "a string")

/-- A truth value. -/
def bool : Decoder Bool := fun _ r =>
  match r with
  | .bool b => .ok b
  | r => .error (r.mismatch "a boolean")

/-- A whole number of 64 bits with a sign. -/
def signed : Decoder Int := fun _ r =>
  match r with
  | .number (.natural n) =>
    if n < Nat.pow 2 63 then .ok n else .error (.invalidValue (.number (.natural n)) "i64")
  | .number (.negative n) => .ok (-n)
  | r => .error (r.mismatch "i64")

/-- A whole number of 64 bits without a sign. -/
def unsigned : Decoder Nat := fun _ r =>
  match r with
  | .number (.natural n) => .ok n
  | .number (.negative n) => .error (.invalidValue (.number (.negative n)) "u64")
  | r => .error (r.mismatch "u64")

/-- Nothing at all, spelled `null`. -/
def unit : Decoder Unit := fun _ r =>
  match r with
  | .null => .ok ()
  | r => .error (r.mismatch "unit")

/-! ### Combinations -/

/-- A value that may be `null`. -/
def optional {α : Type} (d : Decoder α) : Decoder (Option α) := fun depth r =>
  match r with
  | .null => .ok none
  | r => (d depth r).map some

/-- A decoded value is converted. -/
def map {α β : Type} (f : α → β) (d : Decoder α) : Decoder β := fun depth r => (d depth r).map f

/-- All elements in order, up to the first problem. -/
def elements {α : Type} (f : Reading → Except Problem α) : List Reading → Except Problem (List α)
  | [] => .ok []
  | r :: rs => do
    let a ← f r
    let as ← elements f rs
    pure (a :: as)

/-- An array of values. -/
def list {α : Type} (d : Decoder α) : Decoder (List α) := fun depth r =>
  match depth, r with
  | 0, .array _ => .error .malformed
  | depth + 1, .array rs => elements (d depth) rs
  | _, r => .error (r.mismatch "a sequence")

/-- The text of a key; anything but a string that is text is damage. -/
def key : Reading → Except Problem String
  | .string (some s) => .ok s
  | _ => .error .malformed

/-- All members in order, each put into `acc` behind those in front of it. -/
def entries {α σ : Type} (d : Reading → Except Problem α) (put : σ → String → α → σ) :
    σ → List (Reading × Reading) → Except Problem σ
  | acc, [] => .ok acc
  | acc, (k, v) :: ms => do
    let name ← key k
    let value ← d v
    entries d put (put acc name value) ms

/-- An object whose keys are free. -/
def dictionary {α σ : Type} (d : Decoder α) (empty : σ) (put : σ → String → α → σ) :
    Decoder σ := fun depth r =>
  match depth, r with
  | 0, .object _ => .error .malformed
  | depth + 1, .object ms => entries (d depth) put empty ms
  | _, r => .error (r.mismatch "a map")

/-- One of a few names: a string, or an object with one member whose value is `null`. -/
def choice {α : Type} (ofName? : String → Option α) (names : List String) : Decoder α :=
  fun depth r =>
    let named := fun s =>
      match ofName? s with
      | some a => Except.ok a
      | none => .error (Problem.unknownVariant s names)
    match depth, r with
    | _, .string (some s) => named s
    | depth + 1, .object ((k, v) :: rest) => do
      let name ← match k with
        | .string (some s) => pure s
        | k => throw (k.mismatch "variant identifier")
      let a ← named name
      unit depth v
      if rest.isEmpty then pure a else throw .malformed
    | _, _ => .error .malformed

end Decoder

/-! ### Records -/

/-- A field of a record that is collected in a draft of type `δ`. -/
structure Field (δ : Type) where
  name : String
  /-- The positional spelling must give it. -/
  required : Bool
  /-- Whether the draft has it already. -/
  filled : δ → Bool
  /-- Decodes it into the draft. -/
  read : δ → Decoder δ

/-- A record: its fields, the empty draft, and what a complete draft comes to. -/
structure Shape (δ α : Type) where
  name : String
  fields : List (Field δ)
  blank : δ
  finish : δ → Except Problem α

namespace Shape

variable {δ α : Type}

/-- Members in the order of the text. -/
def members (s : Shape δ α) (depth : Nat) :
    δ → List (Reading × Reading) → Except Problem δ
  | draft, [] => .ok draft
  | draft, (k, v) :: ms => do
    let name ← Decoder.key k
    match s.fields.find? (·.name == name) with
    | some f =>
      if f.filled draft then throw (.duplicateField f.name)
      else
        let draft ← f.read draft depth v
        members s depth draft ms
    | none => if v.sound then members s depth draft ms else throw .malformed

/-- Elements by position; `index` fields are done. -/
def elements (s : Shape δ α) (depth : Nat) (index : Nat) :
    List (Field δ) → δ → List Reading → Except Problem δ
  | [], draft, [] => .ok draft
  | [], _, _ :: _ => .error .malformed
  | f :: fs, draft, [] =>
    if f.required then
      .error (.invalidLength index
        ("struct " ++ s.name ++ " with " ++ toString s.fields.length ++ " elements"))
    else elements s depth (index + 1) fs draft []
  | f :: fs, draft, r :: rs => do
    let draft ← f.read draft depth r
    elements s depth (index + 1) fs draft rs

/-- The decoder of a record. -/
def decode (s : Shape δ α) : Decoder α := fun depth r =>
  match depth, r with
  | 0, .array _ | 0, .object _ => .error .malformed
  | depth + 1, .array rs => s.elements depth 0 s.fields s.blank rs >>= s.finish
  | depth + 1, .object ms => s.members depth s.blank ms >>= s.finish
  | _, r => .error (r.mismatch ("struct " ++ s.name))

end Shape

/-! ### Whole texts -/

/-- Decodes a whole text: nothing may follow the value. -/
def Document.decode {α : Type} (d : Decoder α) (doc : Document) : Except Problem α := do
  let a ← d nestingLimit doc.value
  if doc.complete then pure a else throw .malformed

/-- Decodes a text given as octets. -/
def decodeBytes {α : Type} (d : Decoder α) (bytes : ByteArray) : Except Problem α :=
  (Document.ofBytes bytes).decode d

end MediaTree.Json
