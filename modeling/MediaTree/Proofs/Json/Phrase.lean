/-
**Texts of a value.**

One value has many texts.  Blanks may stand around every sign, a character of a string may be
written raw, by a short escape or by the units of its code, and a numeral may carry a fraction and a
power of ten.  A *phrase* is one such text, with every choice that was made in writing it; it knows
the characters it is written with and the value that it says.

Main definitions:

* `MediaTree.Json.Piece` — one step of a string, with `Piece.said?` for what a string says;
* `MediaTree.Json.NumeralText` — a numeral as it is written;
* `MediaTree.Json.Phrase` — a text of a value, with `chars` and `reading`;
* `MediaTree.Json.Padded.bytes` — a whole text as octets.

Main results:

* `MediaTree.Json.Piece.text?_escaped` — every string can be written by escapes alone;
* `MediaTree.Json.Numeral.draft?_chars` — every numeral of the grammar stands for a number;
* `MediaTree.Json.Phrase.sound_reading` — what a phrase says is never broken.
-/

import MediaTree.Json.Printer
import MediaTree.Json.Reading

set_option autoImplicit false
set_option relaxedAutoImplicit false

namespace MediaTree.Json

/-! ### Blanks -/

/-- A character that may stand between two signs. -/
inductive Blank where
  | space
  | tab
  | lineFeed
  | carriageReturn
deriving DecidableEq, Repr

/-- The character itself. -/
def Blank.char : Blank → Char
  | space => ' '
  | tab => '\t'
  | lineFeed => '\n'
  | carriageReturn => '\r'

/-- Something with blanks in front of it and behind it. -/
structure Padded (α : Type) where
  front : List Blank
  content : α
  back : List Blank

/-- Without blanks around it. -/
def Padded.bare {α : Type} (a : α) : Padded α := ⟨[], a, []⟩

/-! ### Strings -/

/-- The characters that have an escape of one letter. -/
inductive Escape where
  | quote
  | backslash
  | slash
  | backspace
  | formFeed
  | lineFeed
  | carriageReturn
  | tab
deriving DecidableEq, Repr

namespace Escape

/-- The letter behind the backslash. -/
def letter : Escape → Char
  | quote => '"'
  | backslash => '\\'
  | slash => '/'
  | backspace => 'b'
  | formFeed => 'f'
  | lineFeed => 'n'
  | carriageReturn => 'r'
  | tab => 't'

/-- The character that is meant. -/
def char : Escape → Char
  | quote => '"'
  | backslash => '\\'
  | slash => '/'
  | backspace => '\x08'
  | formFeed => '\x0c'
  | lineFeed => '\n'
  | carriageReturn => '\r'
  | tab => '\t'

end Escape

/-- A digit to the base sixteen, in either case. -/
structure HexDigit where
  value : Fin 16
  upper : Bool
deriving DecidableEq, Repr

/-- The character of a digit. -/
def HexDigit.char (d : HexDigit) : Char :=
  if d.upper then Text.Hex.upper d.value else Text.Hex.lower d.value

/-- A character that may stand in a string as it is. -/
def Raw (c : Char) : Prop := c ≠ '"' ∧ c ≠ '\\' ∧ 0x20 ≤ c.toNat

instance (c : Char) : Decidable (Raw c) := inferInstanceAs (Decidable (_ ∧ _ ∧ _))

/-- One step of a string: a character, or a 16-bit unit of one. -/
inductive Piece where
  | raw (c : Char) (h : Raw c)
  | escape (e : Escape)
  /-- A unit, written as `\uXXXX`. -/
  | unit (a b c d : HexDigit)

namespace Piece

/-- How a step is written. -/
def chars : Piece → List Char
  | raw c _ => [c]
  | escape e => ['\\', e.letter]
  | unit a b c d => ['\\', 'u', a.char, b.char, c.char, d.char]

/-- The number of a unit. -/
def number (a b c d : HexDigit) : Nat :=
  ((a.value * 16 + b.value) * 16 + c.value) * 16 + d.value

/-- What a string says: its characters, unless half a surrogate pair stands in it alone. -/
def said? : List Piece → Option (List Char)
  | [] => some []
  | raw c _ :: ps => (said? ps).map (c :: ·)
  | escape e :: ps => (said? ps).map (e.char :: ·)
  | unit a b c d :: ps =>
    if Quotation.isLeading (number a b c d) then
      match ps with
      | unit a' b' c' d' :: ps =>
        if Quotation.isTrailing (number a' b' c' d') then
          (said? ps).map (Quotation.pairChar (number a b c d) (number a' b' c' d') :: ·)
        else none
      | _ => none
    else if Quotation.isTrailing (number a b c d) then none
    else (said? ps).map (Char.ofNat (number a b c d) :: ·)

/-- What a string says, as a text. -/
def text? (ps : List Piece) : Option String := (said? ps).map String.ofList

/-- The last digit of a number, in lower case. -/
def lastDigit (n : Nat) : HexDigit := ⟨Fin.ofNat 16 n, false⟩

/-- The escape of a 16-bit unit. -/
def ofUnit (n : Nat) : Piece :=
  unit (lastDigit (n / 0x1000)) (lastDigit (n / 0x100)) (lastDigit (n / 0x10)) (lastDigit n)

/-- The units of a character: one, or a surrogate pair. -/
def units (c : Char) : List Piece :=
  if c.toNat < 0x10000 then [ofUnit c.toNat]
  else
    [ofUnit (0xD800 + (c.toNat - 0x10000) / 0x400), ofUnit (0xDC00 + (c.toNat - 0x10000) % 0x400)]

/-- A character as it is, or by its units where it may not stand so. -/
def plain (c : Char) : List Piece := if h : Raw c then [raw c h] else units c

theorem number_lastDigit {n : Nat} (h : n < 0x10000) :
    number (lastDigit (n / 0x1000)) (lastDigit (n / 0x100)) (lastDigit (n / 0x10)) (lastDigit n) =
      n := by
  simp only [number, lastDigit, Fin.ofNat]
  omega

/-- The units of a character say the character. -/
theorem said?_units (c : Char) (ps : List Piece) :
    said? (units c ++ ps) = (said? ps).map (c :: ·) := by
  have hvalid : c.toNat < 0xD800 ∨ 0xDFFF < c.toNat ∧ c.toNat < 0x110000 := c.valid
  unfold units
  split
  · rename_i hlt
    have hlead : Quotation.isLeading c.toNat = false := by
      simp [Quotation.isLeading]
      omega
    have htrail : Quotation.isTrailing c.toNat = false := by
      simp [Quotation.isTrailing]
      omega
    rw [ofUnit, List.cons_append, List.nil_append, said?.eq_def]
    simp only [number_lastDigit hlt, hlead, htrail, Char.ofNat_toNat, Bool.false_eq_true, if_false]
  · rename_i hge
    -- the two halves carry the ten upper and the ten lower bits of the code
    have hhi : number _ _ _ _ = _ :=
      number_lastDigit (n := 0xD800 + (c.toNat - 0x10000) / 0x400) (by omega)
    have hlo : number _ _ _ _ = _ :=
      number_lastDigit (n := 0xDC00 + (c.toNat - 0x10000) % 0x400) (by omega)
    have hlead : Quotation.isLeading (0xD800 + (c.toNat - 0x10000) / 0x400) = true := by
      simp [Quotation.isLeading]
      omega
    have htrail : Quotation.isTrailing (0xDC00 + (c.toNat - 0x10000) % 0x400) = true := by
      simp [Quotation.isTrailing]
      omega
    have hpair : Quotation.pairChar (0xD800 + (c.toNat - 0x10000) / 0x400)
        (0xDC00 + (c.toNat - 0x10000) % 0x400) = c := by
      have hcode : 0x10000 + (0xD800 + (c.toNat - 0x10000) / 0x400 - 0xD800) * 0x400 +
          (0xDC00 + (c.toNat - 0x10000) % 0x400 - 0xDC00) = c.toNat := by omega
      rw [Quotation.pairChar, hcode, Char.ofNat_toNat]
    rw [ofUnit, ofUnit, List.cons_append, List.cons_append, List.nil_append, said?]
    simp only [hhi, hlo, hlead, htrail, hpair, if_true]

/-- A character that stands as it may says itself. -/
theorem said?_plain (c : Char) (ps : List Piece) :
    said? (plain c ++ ps) = (said? ps).map (c :: ·) := by
  unfold plain
  split
  · rfl
  · exact said?_units c ps

/-- A string that is written character by character says its characters. -/
theorem said?_flatMap {f : Char → List Piece}
    (hf : ∀ c ps, said? (f c ++ ps) = (said? ps).map (c :: ·)) (cs : List Char) :
    said? (cs.flatMap f) = some cs := by
  induction cs with
  | nil => rfl
  | cons c cs ih => rw [List.flatMap_cons, hf, ih, Option.map_some]

/-- A string in which every character is escaped. -/
def escaped (s : String) : List Piece := s.toList.flatMap units

/-- A string as it is, as far as its characters allow. -/
def plainly (s : String) : List Piece := s.toList.flatMap plain

/-- **Every string can be written by escapes alone.** -/
@[simp] theorem text?_escaped (s : String) : text? (escaped s) = some s := by
  rw [text?, escaped, said?_flatMap said?_units, Option.map_some, String.ofList_toList]

@[simp] theorem text?_plainly (s : String) : text? (plainly s) = some s := by
  rw [text?, plainly, said?_flatMap said?_plain, Option.map_some, String.ofList_toList]

end Piece

/-- A string with its quotes. -/
def quoted (ps : List Piece) : List Char := '"' :: ps.flatMap Piece.chars ++ ['"']

/-! ### Numerals -/

/-- Decimal digits as characters. -/
def digits (ds : List (Fin 10)) : List Char := ds.map fun d : Fin 10 => Nat.digitChar d

/-- The power of ten behind a numeral. -/
structure PowerText where
  /-- The mark is `E` and not `e`. -/
  upper : Bool
  /-- The sign, if one is written: whether it is a minus sign. -/
  sign : Option Bool
  first : Fin 10
  rest : List (Fin 10)

/-- How a power of ten is written. -/
def PowerText.chars (p : PowerText) : List Char :=
  (if p.upper then 'E' else 'e') :: (p.sign.map fun minus => if minus then '-' else '+').toList ++
    digits (p.first :: p.rest)

/-- A numeral as it is written. -/
structure NumeralText where
  negative : Bool
  first : Fin 10
  rest : List (Fin 10)
  /-- A zero in front stands alone. -/
  leading : first = 0 → rest = []
  /-- The digits behind the point. -/
  fraction : Option (Fin 10 × List (Fin 10))
  power : Option PowerText

namespace Numeral

/-- The numeral of a whole number. -/
def ofInt (n : Int) : Numeral :=
  if n < 0 then .negative n.natAbs else .natural n.natAbs

/-- The draft that all of the characters extend. -/
def Draft.read? (d : Draft) : List Char → Option Draft
  | [] => some d
  | c :: cs =>
    match d.next c with
    | .extended d => d.read? cs
    | _ => none

/-- The draft of all the characters. -/
def draft? : List Char → Option Draft
  | [] => none
  | c :: cs => (begin? c).bind (·.read? cs)

end Numeral

namespace NumeralText

/-- How the sign and the digits in front of the point are written. -/
def wholeChars (t : NumeralText) : List Char :=
  (if t.negative then ['-'] else []) ++ digits (t.first :: t.rest)

/-- How the point and the digits behind it are written. -/
def fractionChars (t : NumeralText) : List Char :=
  (t.fraction.map fun f => '.' :: digits (f.1 :: f.2)).getD []

/-- How a numeral is written. -/
def chars (t : NumeralText) : List Char :=
  t.wholeChars ++ t.fractionChars ++ (t.power.map PowerText.chars).getD []

/-- The number that is said; every numeral says one, by `finish?_draft`. -/
def numeral (t : NumeralText) : Numeral :=
  ((Numeral.draft? t.chars).bind (·.finish?)).getD default

end NumeralText

namespace Numeral

theorem digit?_digitChar (n : Fin 10) : digit? (Nat.digitChar n) = some n.val := by
  revert n
  decide

namespace Draft

theorem read?_append (d : Draft) (cs ds : List Char) :
    d.read? (cs ++ ds) = (d.read? cs).bind (·.read? ds) := by
  induction cs generalizing d with
  | nil => rfl
  | cons c cs ih =>
      rw [List.cons_append, read?, read?]
      split
      · exact ih _
      · rfl

/-- Digits extend a draft as long as each of them keeps the stage among those that a digit
extends. -/
theorem read?_digits {P : Stage → Prop}
    (hP : ∀ d : Draft, P d.stage → ∀ n : Fin 10,
      ∃ d', d.next (Nat.digitChar n) = .extended d' ∧ P d'.stage)
    (ds : List (Fin 10)) {d : Draft} (hd : P d.stage) :
    ∃ d', d.read? (digits ds) = some d' ∧ P d'.stage := by
  induction ds generalizing d with
  | nil => exact ⟨d, rfl, hd⟩
  | cons n ds ih =>
      obtain ⟨d₁, hnext, hd₁⟩ := hP d hd n
      obtain ⟨d₂, hread, hd₂⟩ := ih hd₁
      refine ⟨d₂, ?_, hd₂⟩
      rw [digits, List.map_cons, read?, hnext]
      exact hread

/-- The stages in front of the point that a digit extends. -/
def InWhole (st : Stage) : Prop := st = .whole ∨ st = .long

/-- The stages behind the point and a digit. -/
def InFraction (st : Stage) : Prop := st = .fraction ∨ st = .full

/-- The stages behind a digit of the power of ten. -/
def InPower (st : Stage) : Prop := ∃ s p, st = .power s p

theorem next_inWhole (d : Draft) (h : InWhole d.stage) (n : Fin 10) :
    ∃ d', d.next (Nat.digitChar n) = .extended d' ∧ InWhole d'.stage := by
  rcases h with h | h
  · refine ⟨d.wholeDigit n, by simp [next, h, digit?_digitChar], ?_⟩
    unfold wholeDigit
    split
    · exact .inl h
    · exact .inr rfl
  · exact ⟨{ d with scale := d.scale + 1 }, by simp [next, h, digit?_digitChar], .inr h⟩

theorem next_inFraction (d : Draft) (h : InFraction d.stage) (n : Fin 10) :
    ∃ d', d.next (Nat.digitChar n) = .extended d' ∧ InFraction d'.stage := by
  rcases h with h | h
  · refine ⟨d.fractionDigit n, by simp [next, h, digit?_digitChar], ?_⟩
    unfold fractionDigit
    split
    · exact .inl rfl
    · exact .inr rfl
  · exact ⟨d, by simp only [next, h, digit?_digitChar], .inr h⟩

theorem next_inPower (d : Draft) (h : InPower d.stage) (n : Fin 10) :
    ∃ d', d.next (Nat.digitChar n) = .extended d' ∧ InPower d'.stage := by
  obtain ⟨s, p, h⟩ := h
  exact ⟨{ d with stage := .power s (p * 10 + n) }, by simp [next, h, digit?_digitChar],
    s, p * 10 + n, rfl⟩

end Draft

/-- The draft of a first digit. -/
def firstDraft (negative : Bool) (n : Fin 10) : Draft :=
  ⟨negative, n, 0, if n = 0 then .zero else .whole⟩

theorem begin?_digitChar (n : Fin 10) : begin? (Nat.digitChar n) = some (firstDraft false n) := by
  revert n
  decide

theorem next_sign (n : Fin 10) :
    Draft.next ⟨true, 0, 0, .sign⟩ (Nat.digitChar n) = .extended (firstDraft true n) := by
  match n with
  | 0 => rfl
  | ⟨n + 1, h⟩ =>
      have hdigit : digit? (Nat.digitChar (n + 1)) = some (n + 1) := digit?_digitChar ⟨n + 1, h⟩
      simp [Draft.next, hdigit, firstDraft, Fin.ext_iff]

/-- Behind the first digit the draft is the same with a sign and without one. -/
theorem draft?_first (negative : Bool) (n : Fin 10) (cs : List Char) :
    draft? ((if negative then ['-'] else []) ++ Nat.digitChar n :: cs) =
      (firstDraft negative n).read? cs := by
  cases negative with
  | false => simp [draft?, begin?_digitChar]
  | true =>
      have hminus : begin? '-' = some ⟨true, 0, 0, .sign⟩ := rfl
      simp [draft?, hminus, Draft.read?, next_sign]

/-- The digits in front of the point leave a draft that may end. -/
theorem draft?_whole (t : NumeralText) (cs : List Char) :
    ∃ d : Draft, draft? (t.wholeChars ++ cs) = d.read? cs ∧
      (d.stage = .zero ∨ Draft.InWhole d.stage) := by
  have hfirst := draft?_first t.negative t.first (digits t.rest ++ cs)
  by_cases hzero : t.first = 0
  · refine ⟨firstDraft t.negative t.first, ?_, .inl (if_pos hzero)⟩
    simpa [NumeralText.wholeChars, digits, t.leading hzero] using hfirst
  · obtain ⟨d, hread, hd⟩ := Draft.read?_digits Draft.next_inWhole t.rest
      (d := firstDraft t.negative t.first) (.inl (if_neg hzero))
    refine ⟨d, ?_, .inr hd⟩
    rw [Draft.read?_append, hread] at hfirst
    simpa [NumeralText.wholeChars, digits] using hfirst

/-- The digits behind the point leave a draft that may end, if there are any. -/
theorem read?_fraction (t : NumeralText) {d : Draft}
    (hd : d.stage = .zero ∨ Draft.InWhole d.stage) :
    ∃ d', d.read? t.fractionChars = some d' ∧
      (d'.stage = .zero ∨ Draft.InWhole d'.stage ∨ Draft.InFraction d'.stage) := by
  unfold NumeralText.fractionChars
  cases t.fraction with
  | none => exact ⟨d, rfl, hd.imp_right .inl⟩
  | some f =>
      have hpoint : d.next '.' = .extended { d with stage := .point } := by
        have hdigit : digit? '.' = none := rfl
        rcases hd with hd | hd | hd <;> simp [Draft.next, hd, hdigit, Draft.afterWhole]
      have hfirst : Draft.next { d with stage := .point } (Nat.digitChar f.1) =
          .extended (Draft.fractionDigit { d with stage := .point } f.1) := by
        simp [Draft.next, digit?_digitChar]
      have hstage :
          Draft.InFraction (Draft.fractionDigit { d with stage := .point } f.1).stage := by
        unfold Draft.fractionDigit
        split
        · exact .inl rfl
        · exact .inr rfl
      obtain ⟨d', hread, hd'⟩ := Draft.read?_digits Draft.next_inFraction f.2 hstage
      refine ⟨d', ?_, .inr (.inr hd')⟩
      simp only [Option.map_some, Option.getD_some, Draft.read?, digits, List.map_cons, hpoint,
        hfirst]
      exact hread

/-- The power of ten leaves a draft that ends, if there is one. -/
theorem read?_power (t : NumeralText) {d : Draft}
    (hd : d.stage = .zero ∨ Draft.InWhole d.stage ∨ Draft.InFraction d.stage) :
    ∃ d', d.read? ((t.power.map PowerText.chars).getD []) = some d' ∧ d'.finish?.isSome := by
  cases t.power with
  | none =>
      refine ⟨d, rfl, ?_⟩
      rcases hd with hd | (hd | hd) | hd | hd <;> simp [Draft.finish?, hd]
  | some p =>
      have hmark : d.next (if p.upper then 'E' else 'e') = .extended { d with stage := .mark } := by
        have he : digit? 'e' = none := rfl
        have hE : digit? 'E' = none := rfl
        cases p.upper <;> rcases hd with hd | (hd | hd) | hd | hd <;>
          simp [Draft.next, hd, he, hE, Draft.afterWhole, Draft.afterFraction]
      -- with or without a sign, the first digit opens the power
      have hfirst : ∃ s, Draft.read? { d with stage := .mark }
          ((p.sign.map fun minus => if minus then '-' else '+').toList ++
            digits (p.first :: p.rest)) =
          Draft.read? { d with stage := .power s p.first } (digits p.rest) := by
        have hplus : digit? '+' = none := rfl
        have hminus : digit? '-' = none := rfl
        rcases p.sign with - | - | -
        · exact ⟨false, by simp [Draft.read?, Draft.next, digits, digit?_digitChar]⟩
        · exact ⟨false, by simp [Draft.read?, Draft.next, digits, hplus, digit?_digitChar]⟩
        · exact ⟨true, by simp [Draft.read?, Draft.next, digits, hminus, digit?_digitChar]⟩
      obtain ⟨s, hfirst⟩ := hfirst
      obtain ⟨d', hread, s', n, hd'⟩ := Draft.read?_digits Draft.next_inPower p.rest
        (d := { d with stage := .power s p.first }) ⟨s, p.first, rfl⟩
      refine ⟨d', ?_, by simp [Draft.finish?, hd']⟩
      rw [Option.map_some, Option.getD_some, PowerText.chars, List.cons_append, Draft.read?, hmark]
      exact hfirst.trans hread

/-- **Every numeral of the grammar says a number.** -/
theorem draft?_chars (t : NumeralText) :
    ∃ d : Draft, draft? t.chars = some d ∧ d.finish? = some t.numeral := by
  obtain ⟨d₁, hwhole, hd₁⟩ :=
    draft?_whole t (t.fractionChars ++ (t.power.map PowerText.chars).getD [])
  obtain ⟨d₂, hfraction, hd₂⟩ := read?_fraction t hd₁
  obtain ⟨d, hpower, hd⟩ := read?_power t hd₂
  have hread : draft? t.chars = some d := by
    rw [NumeralText.chars, List.append_assoc, hwhole, Draft.read?_append, hfraction]
    exact hpower
  obtain ⟨n, hn⟩ := Option.isSome_iff_exists.1 hd
  exact ⟨d, hread, by simp [NumeralText.numeral, hread, hn]⟩

end Numeral

/-! ### Phrases -/

/-- A text of a value, without the blanks around it. -/
inductive Phrase where
  | null
  | bool (b : Bool)
  | number (t : NumeralText)
  | string (ps : List Piece)
  | emptyArray (gap : List Blank)
  | array (first : Padded Phrase) (rest : List (Padded Phrase))
  | emptyObject (gap : List Blank)
  | object (key : Padded (List Piece)) (value : Padded Phrase)
    (rest : List (Padded (List Piece) × Padded Phrase))

/-- Blanks as characters. -/
def blanks (bs : List Blank) : List Char := bs.map Blank.char

@[simp] theorem blanks_nil : blanks [] = [] := rfl

namespace Phrase

/-- A key with its blanks and the colon. -/
def keyChars (k : Padded (List Piece)) : List Char :=
  blanks k.front ++ quoted k.content ++ blanks k.back ++ [':']

mutual

/-- How a value is written. -/
def chars : Phrase → List Char
  | null => ['n', 'u', 'l', 'l']
  | bool b => boolText b
  | number t => t.chars
  | string ps => quoted ps
  | emptyArray gap => '[' :: blanks gap ++ [']']
  | array ⟨f, v, b⟩ es => '[' :: blanks f ++ v.chars ++ blanks b ++ elementChars es ++ [']']
  | emptyObject gap => '\x7b' :: blanks gap ++ ['\x7d']
  | object k ⟨f, v, b⟩ ms =>
    '\x7b' :: keyChars k ++ blanks f ++ v.chars ++ blanks b ++ memberChars ms ++ ['\x7d']

/-- How the elements behind the first are written. -/
def elementChars : List (Padded Phrase) → List Char
  | [] => []
  | ⟨f, v, b⟩ :: es => ',' :: blanks f ++ v.chars ++ blanks b ++ elementChars es

/-- How the members behind the first are written. -/
def memberChars : List (Padded (List Piece) × Padded Phrase) → List Char
  | [] => []
  | (k, ⟨f, v, b⟩) :: ms =>
    ',' :: keyChars k ++ blanks f ++ v.chars ++ blanks b ++ memberChars ms

end

mutual

/-- What a text says. -/
def reading : Phrase → Reading
  | null => .null
  | bool b => .bool b
  | number t => .number t.numeral
  | string ps => .string (Piece.text? ps)
  | emptyArray _ => .array []
  | array ⟨_, v, _⟩ es => .array (v.reading :: elementReadings es)
  | emptyObject _ => .object []
  | object k ⟨_, v, _⟩ ms =>
    .object ((.string (Piece.text? k.content), v.reading) :: memberReadings ms)

/-- What the elements behind the first say. -/
def elementReadings : List (Padded Phrase) → List Reading
  | [] => []
  | ⟨_, v, _⟩ :: es => v.reading :: elementReadings es

/-- What the members behind the first say. -/
def memberReadings : List (Padded (List Piece) × Padded Phrase) → List (Reading × Reading)
  | [] => []
  | (k, ⟨_, v, _⟩) :: ms =>
    (.string (Piece.text? k.content), v.reading) :: memberReadings ms

end

end Phrase

namespace Phrase

mutual

/-- **What a text says is never broken.** -/
theorem sound_reading : ∀ p : Phrase, p.reading.sound = true
  | null | bool _ | number _ | string _ => rfl
  | emptyArray _ => rfl
  | array ⟨_, v, _⟩ es => by
      simp [reading, Reading.sound, Reading.soundElements, sound_reading v,
        sound_elementReadings es]
  | emptyObject _ => rfl
  | object k ⟨_, v, _⟩ ms => by
      simp [reading, Reading.sound, Reading.soundMembers, sound_reading v,
        sound_memberReadings ms]

/-- No element is broken. -/
theorem sound_elementReadings : ∀ es : List (Padded Phrase),
    Reading.soundElements (elementReadings es) = true
  | [] => rfl
  | ⟨_, v, _⟩ :: es => by
      simp [elementReadings, Reading.soundElements, sound_reading v, sound_elementReadings es]

/-- No member is broken. -/
theorem sound_memberReadings : ∀ ms : List (Padded (List Piece) × Padded Phrase),
    Reading.soundMembers (memberReadings ms) = true
  | [] => rfl
  | (k, ⟨_, v, _⟩) :: ms => by
      simp [memberReadings, Reading.soundMembers, Reading.sound, sound_reading v,
        sound_memberReadings ms]

end

end Phrase

/-- A whole text as octets. -/
def Padded.bytes (p : Padded Phrase) : ByteArray :=
  (String.ofList (blanks p.front ++ p.content.chars ++ blanks p.back)).toUTF8

end MediaTree.Json
