/-
**Printed values.**

A printed value is one of the texts of the value, in either layout: a layout only chooses the
blanks, and a string is printed with the escapes that it cannot do without.  So what is printed is
read as the value it was printed from, and reading says the same thing for both layouts.

Main definitions:

* `MediaTree.Json.Fits` — all numbers of a value have 64 bits;
* `MediaTree.Json.reading` — a value as a reader finds it;
* `MediaTree.Json.Style.IsBlank` — a layout adds blanks only.

Main results:

* `MediaTree.Json.exists_phrase` — a printed value is a text of that value;
* `MediaTree.Json.Document.ofBytes_render` — **a printed value is read as itself**;
* `MediaTree.Json.decodeBytes_render` — a decoder gets the value that was printed.
-/

import MediaTree.Proofs.Json.Tree

set_option autoImplicit false
set_option relaxedAutoImplicit false

namespace MediaTree.Json

/-! ### Values as they are read -/

mutual

/-- All numbers in a value have 64 bits, with or without a sign. -/
def Fits : Json → Prop
  | .null | .bool _ | .string _ => True
  | .int n => -0x8000000000000000 ≤ n ∧ n < 0x10000000000000000
  | .array es => FitElements es
  | .object ms => FitMembers ms

/-- All numbers in elements have 64 bits. -/
def FitElements : List Json → Prop
  | [] => True
  | e :: es => e.Fits ∧ FitElements es

/-- All numbers in members have 64 bits. -/
def FitMembers : List (String × Json) → Prop
  | [] => True
  | (_, v) :: ms => v.Fits ∧ FitMembers ms

end

@[simp] theorem fitElements_iff (es : List Json) : FitElements es ↔ ∀ e ∈ es, e.Fits := by
  induction es with
  | nil => simp [FitElements]
  | cons e es ih => simp [FitElements, ih]

@[simp] theorem fitMembers_iff (ms : List (String × Json)) :
    FitMembers ms ↔ ∀ m ∈ ms, m.2.Fits := by
  induction ms with
  | nil => simp [FitMembers]
  | cons m ms ih => simp [FitMembers, ih]

theorem fits_of_mem_optional {α : Type} {name : String} {enc : α → Json} {o : Option α}
    (h : ∀ a ∈ o, (enc a).Fits) {m : String × Json} (hm : m ∈ Json.optional name enc o) :
    m.2.Fits := by
  cases o with
  | none => simp at hm
  | some a =>
      rw [List.mem_singleton.1 hm]
      exact h a rfl

mutual

/-- A value as a reader finds it. -/
def reading : Json → Reading
  | .null => .null
  | .bool b => .bool b
  | .int n => .number (.ofInt n)
  | .string s => .string (some s)
  | .array es => .array (elementReadings es)
  | .object ms => .object (memberReadings ms)

/-- Elements as a reader finds them. -/
def elementReadings : List Json → List Reading
  | [] => []
  | e :: es => e.reading :: elementReadings es

/-- Members as a reader finds them. -/
def memberReadings : List (String × Json) → List (Reading × Reading)
  | [] => []
  | (k, v) :: ms => (.string (some k), v.reading) :: memberReadings ms

end

@[simp] theorem elementReadings_eq_map (es : List Json) : elementReadings es = es.map reading := by
  induction es with
  | nil => rfl
  | cons e es ih => rw [elementReadings, ih, List.map_cons]

/-- A member as a reader finds it. -/
def memberReading (m : String × Json) : Reading × Reading := (.string (some m.1), m.2.reading)

@[simp] theorem memberReadings_eq_map (ms : List (String × Json)) :
    memberReadings ms = ms.map memberReading := by
  induction ms with
  | nil => rfl
  | cons m ms ih => rw [memberReadings, ih, List.map_cons, memberReading]

/-! ### Strings and numbers -/

/-- A character is printed as one step of a string. -/
theorem exists_piece (c : Char) :
    ∃ p : Piece, p.chars = escapeChar c ∧
      ∀ ps, Piece.said? (p :: ps) = (Piece.said? ps).map (c :: ·) := by
  unfold escapeChar
  repeat' split
  · subst c
    exact ⟨.escape .quote, rfl, fun _ => rfl⟩
  · subst c
    exact ⟨.escape .backslash, rfl, fun _ => rfl⟩
  · subst c
    exact ⟨.escape .backspace, rfl, fun _ => rfl⟩
  · subst c
    exact ⟨.escape .tab, rfl, fun _ => rfl⟩
  · subst c
    exact ⟨.escape .lineFeed, rfl, fun _ => rfl⟩
  · subst c
    exact ⟨.escape .formFeed, rfl, fun _ => rfl⟩
  · subst c
    exact ⟨.escape .carriageReturn, rfl, fun _ => rfl⟩
  · rename_i hlt
    -- a control character is printed by its only unit
    have hunit : Piece.units c = [Piece.ofUnit c.toNat] := if_pos (by omega)
    have hdigit (n : Nat) : (Piece.lastDigit n).char = Text.Hex.lower (n % 16) := rfl
    refine ⟨.ofUnit c.toNat, ?_, fun ps => ?_⟩
    · have hzero : Text.Hex.lower 0 = '0' := by decide
      rw [Piece.ofUnit, Piece.chars, hdigit, hdigit, hdigit, hdigit,
        show c.toNat / 0x1000 % 16 = 0 by omega, show c.toNat / 0x100 % 16 = 0 by omega,
        show c.toNat / 0x10 % 16 = c.toNat / 16 by omega, hzero]
    · have hsaid := Piece.said?_units c ps
      rwa [hunit] at hsaid
  · rename_i hquote hback _ _ _ _ _ hge
    exact ⟨.raw c ⟨hquote, hback, by omega⟩, rfl, fun _ => rfl⟩

/-- A string is printed as one of its texts. -/
theorem exists_pieces (s : String) :
    ∃ ps : List Piece, quoted ps = quote s ∧ Piece.text? ps = some s := by
  have hchars (cs : List Char) : ∃ ps : List Piece,
      ps.flatMap Piece.chars = cs.flatMap escapeChar ∧ Piece.said? ps = some cs := by
    induction cs with
    | nil => exact ⟨[], rfl, rfl⟩
    | cons c cs ih =>
        obtain ⟨p, hp, hsaid⟩ := exists_piece c
        obtain ⟨ps, hps, hcs⟩ := ih
        exact ⟨p :: ps, by rw [List.flatMap_cons, List.flatMap_cons, hp, hps],
          by rw [hsaid, hcs, Option.map_some]⟩
  obtain ⟨ps, hps, hsaid⟩ := hchars s.toList
  exact ⟨ps, by rw [quoted, hps, quote],
    by rw [Piece.text?, hsaid, Option.map_some, String.ofList_toList]⟩

/-- The digits of a number make it again, as long as it has 64 bits. -/
theorem exists_digits {n : Nat} (hpos : 0 < n) (hn : n < 0x10000000000000000) :
    ∃ (first : Fin 10) (rest : List (Fin 10)), first ≠ 0 ∧
      Nat.toDigits 10 n = digits (first :: rest) ∧
      ∀ negative, (Numeral.firstDraft negative first).read? (digits rest) =
        some ⟨negative, n, 0, .whole⟩ := by
  induction n using Nat.strongRecOn with
  | ind n ih =>
      rcases Nat.lt_or_ge n 10 with hlt | hge
      · have hne : (⟨n, hlt⟩ : Fin 10) ≠ 0 := by
          rw [ne_eq, Fin.ext_iff]
          exact Nat.ne_of_gt hpos
        refine ⟨⟨n, hlt⟩, [], hne, Nat.toDigits_of_lt_base hlt, fun negative => ?_⟩
        simp [Numeral.firstDraft, hne, digits, Numeral.Draft.read?]
      -- all digits but the last have made their number already
      · obtain ⟨first, rest, hne, hfront, hread⟩ := ih (n / 10) (by omega) (by omega) (by omega)
        have hdigit : Numeral.digit? (Nat.digitChar (n % 10)) = some (n % 10) :=
          Numeral.digit?_digitChar ⟨n % 10, by omega⟩
        have hvalue : n / 10 * 10 + n % 10 = n := by omega
        have hlimit : n ≤ Numeral.significandLimit := by
          have hl : Numeral.significandLimit = 0xffffffffffffffff := by decide
          omega
        refine ⟨first, rest ++ [⟨n % 10, by omega⟩], hne, ?_, fun negative => ?_⟩
        · rw [Nat.toDigits_of_base_le (by omega) hge, hfront]
          simp [digits]
        · have happend : digits (rest ++ [⟨n % 10, by omega⟩]) =
              digits rest ++ [Nat.digitChar (n % 10)] := by
            simp [digits]
          rw [happend, Numeral.Draft.read?_append, hread]
          simp [Numeral.Draft.read?, Numeral.Draft.next, hdigit, Numeral.Draft.wholeDigit, hvalue,
            hlimit]

/-- Digits with a sign or without one are one of the numerals. -/
theorem exists_signed (negative : Bool) {n : Nat} (hpos : 0 < n) (hn : n < 0x10000000000000000) :
    ∃ t : NumeralText, t.chars = (if negative then ['-'] else []) ++ Nat.toDigits 10 n ∧
      t.numeral = Numeral.Draft.integer ⟨negative, n, 0, .whole⟩ := by
  obtain ⟨first, rest, hne, hdigits, hread⟩ := exists_digits hpos hn
  let t : NumeralText := ⟨negative, first, rest, fun h => absurd h hne, none, none⟩
  have hchars : t.chars = (if negative then ['-'] else []) ++ digits (first :: rest) := by
    simp [t, NumeralText.chars, NumeralText.wholeChars, NumeralText.fractionChars]
  have hdraft : Numeral.draft? t.chars = some ⟨negative, n, 0, .whole⟩ := by
    rw [hchars, digits, List.map_cons, Numeral.draft?_first]
    exact hread negative
  exact ⟨t, by rw [hchars, hdigits], by rw [NumeralText.numeral, hdraft]; rfl⟩

/-- A whole number of 64 bits is printed as one of its texts. -/
theorem exists_numeralText {n : Int} (hn : -0x8000000000000000 ≤ n ∧ n < 0x10000000000000000) :
    ∃ t : NumeralText, t.chars = intText n ∧ t.numeral = .ofInt n := by
  rcases Int.lt_trichotomy n 0 with hneg | rfl | hpos
  · obtain ⟨t, hchars, ht⟩ := exists_signed true (show 0 < n.natAbs by omega) (by omega)
    refine ⟨t, by simpa [intText, hneg] using hchars, ?_⟩
    have hp : Nat.pow 2 63 = 9223372036854775808 := by decide
    simp only [ht, Numeral.ofInt, hneg, Numeral.Draft.integer, if_true]
    rw [if_neg (by omega)]
  · exact ⟨⟨false, 0, [], fun _ => rfl, none, none⟩, rfl, rfl⟩
  · obtain ⟨t, hchars, ht⟩ := exists_signed false (show 0 < n.natAbs by omega) (by omega)
    have hneg : ¬ n < 0 := by omega
    refine ⟨t, by simpa [intText, hneg] using hchars, ?_⟩
    rw [ht, Numeral.ofInt, if_neg hneg]
    rfl

/-! ### Layouts -/

/-- A layout writes nothing but blanks besides the values. -/
structure Style.IsBlank (st : Style) : Prop where
  lead : ∀ n, ∀ c ∈ st.lead n, Scanner.isBlank c = true
  gap : ∀ c ∈ st.gap, Scanner.isBlank c = true

theorem Style.isBlank_compact : Style.compact.IsBlank where
  lead _ _ h := nomatch h
  gap _ h := nomatch h

theorem Style.isBlank_pretty : Style.pretty.IsBlank where
  lead n c h := by
    rcases List.mem_cons.1 h with rfl | h
    · rfl
    · rw [List.eq_of_mem_replicate h]
      rfl
  gap c h := by
    rw [List.mem_singleton.1 h]
    rfl

/-- Blank characters are blanks. -/
theorem exists_blanks {cs : List Char} (h : ∀ c ∈ cs, Scanner.isBlank c = true) :
    ∃ bs : List Blank, blanks bs = cs := by
  induction cs with
  | nil => exact ⟨[], rfl⟩
  | cons c cs ih =>
      obtain ⟨bs, hbs⟩ := ih fun d hd => h d (by simp [hd])
      have hc : ∃ b : Blank, b.char = c := by
        have hblank := h c (by simp)
        simp only [Scanner.isBlank, Bool.or_eq_true, beq_iff_eq] at hblank
        rcases hblank with ((rfl | rfl) | rfl) | rfl
        · exact ⟨.space, rfl⟩
        · exact ⟨.tab, rfl⟩
        · exact ⟨.lineFeed, rfl⟩
        · exact ⟨.carriageReturn, rfl⟩
      obtain ⟨b, hb⟩ := hc
      exact ⟨b :: bs, by rw [← hb, ← hbs, blanks, List.map_cons, blanks]⟩

variable {st : Style}

mutual

/-- **A printed value is a text of that value**, in either layout. -/
theorem exists_phrase (hst : st.IsBlank) : ∀ (j : Json) (level : Nat), j.Fits →
    ∃ p : Phrase, p.chars = j.render st level ∧ p.reading = j.reading
  | .null, _, _ => ⟨.null, rfl, rfl⟩
  | .bool b, _, _ => ⟨.bool b, rfl, rfl⟩
  | .int n, _, h => by
      obtain ⟨t, hchars, ht⟩ := exists_numeralText (n := n) (by simpa [Fits] using h)
      exact ⟨.number t, hchars, by rw [Phrase.reading, ht, reading]⟩
  | .string s, _, _ => by
      obtain ⟨ps, hchars, hs⟩ := exists_pieces s
      exact ⟨.string ps, hchars, by rw [Phrase.reading, hs, reading]⟩
  | .array [], _, _ => ⟨.emptyArray [], rfl, rfl⟩
  | .array (e :: es), level, h => by
      obtain ⟨front, hfront⟩ := exists_blanks (hst.lead (level + 1))
      obtain ⟨last, hlast⟩ := exists_blanks (hst.lead level)
      obtain ⟨p, hp, he⟩ := exists_phrase hst e (level + 1) h.1
      obtain ⟨back, ps, hps, hes⟩ := exists_elements hst es (level + 1) last h.2
      refine ⟨.array ⟨front, p, back⟩ ps, ?_, ?_⟩
      · have hend := congrArg (· ++ [']']) hps
        simp only [List.append_assoc, hlast] at hend
        simp only [Phrase.chars, render, hfront, hp, List.append_assoc, List.cons_append, hend]
      · simp [Phrase.reading, reading, elementReadings, he, hes]
  | .object [], _, _ => ⟨.emptyObject [], rfl, rfl⟩
  | .object ((k, v) :: ms), level, h => by
      obtain ⟨front, hfront⟩ := exists_blanks (hst.lead (level + 1))
      obtain ⟨gap, hgap⟩ := exists_blanks hst.gap
      obtain ⟨last, hlast⟩ := exists_blanks (hst.lead level)
      obtain ⟨ks, hks, hk⟩ := exists_pieces k
      obtain ⟨p, hp, hv⟩ := exists_phrase hst v (level + 1) h.1
      obtain ⟨back, ps, hps, hms⟩ := exists_members hst ms (level + 1) last h.2
      refine ⟨.object ⟨front, ks, []⟩ ⟨gap, p, back⟩ ps, ?_, ?_⟩
      · have hend := congrArg (· ++ ['\x7d']) hps
        simp only [List.append_assoc, hlast] at hend
        simp only [Phrase.chars, Phrase.keyChars, render, hfront, hgap, hks, hp, blanks_nil,
          List.nil_append, List.append_assoc, List.cons_append, hend]
      · simp [Phrase.reading, reading, Json.memberReading, hk, hv, hms]

/-- Printed elements behind a first one are texts of them; the blanks behind the last of them are
those in front of the bracket. -/
theorem exists_elements (hst : st.IsBlank) : ∀ (es : List Json) (level : Nat) (last : List Blank),
    FitElements es → ∃ (back : List Blank) (ps : List (Padded Phrase)),
      blanks back ++ Phrase.elementChars ps = renderElements st level es ++ blanks last ∧
      Phrase.elementReadings ps = elementReadings es
  | [], _, last, _ => ⟨last, [], by simp [Phrase.elementChars, renderElements], rfl⟩
  | e :: es, level, last, h => by
      obtain ⟨front, hfront⟩ := exists_blanks (hst.lead level)
      obtain ⟨p, hp, he⟩ := exists_phrase hst e level h.1
      obtain ⟨back, ps, hps, hes⟩ := exists_elements hst es level last h.2
      refine ⟨[], ⟨front, p, back⟩ :: ps, ?_, ?_⟩
      · simp only [Phrase.elementChars, renderElements, hfront, hp, hps, blanks_nil,
          List.nil_append, List.append_assoc, List.cons_append]
      · simp [Phrase.elementReadings, elementReadings, he, hes]

/-- Printed members behind a first one are texts of them. -/
theorem exists_members (hst : st.IsBlank) : ∀ (ms : List (String × Json)) (level : Nat)
    (last : List Blank), FitMembers ms →
    ∃ (back : List Blank) (ps : List (Padded (List Piece) × Padded Phrase)),
      blanks back ++ Phrase.memberChars ps = renderMembers st level ms ++ blanks last ∧
      Phrase.memberReadings ps = memberReadings ms
  | [], _, last, _ => ⟨last, [], by simp [Phrase.memberChars, renderMembers], rfl⟩
  | (k, v) :: ms, level, last, h => by
      obtain ⟨front, hfront⟩ := exists_blanks (hst.lead level)
      obtain ⟨gap, hgap⟩ := exists_blanks hst.gap
      obtain ⟨ks, hks, hk⟩ := exists_pieces k
      obtain ⟨p, hp, hv⟩ := exists_phrase hst v level h.1
      obtain ⟨back, ps, hps, hms⟩ := exists_members hst ms level last h.2
      refine ⟨[], (⟨front, ks, []⟩, ⟨gap, p, back⟩) :: ps, ?_, ?_⟩
      · simp only [Phrase.memberChars, Phrase.keyChars, renderMembers, hfront, hgap, hks, hp, hps,
          blanks_nil, List.nil_append, List.append_assoc, List.cons_append]
      · simp [Phrase.memberReadings, Json.memberReading, hk, hv, hms]

end

/-- **A printed value is read as itself**, with nothing behind it. -/
theorem Document.ofBytes_render {st : Style} (hst : st.IsBlank) {j : Json} (hj : j.Fits)
    (level : Nat) :
    Document.ofBytes (String.ofList (j.render st level)).toUTF8 = ⟨j.reading, true⟩ := by
  obtain ⟨p, hp, hreading⟩ := exists_phrase hst j level hj
  have hbytes : (String.ofList (j.render st level)).toUTF8 = (Padded.bare p).bytes := by
    rw [Padded.bytes, Padded.bare, blanks_nil, List.nil_append, List.append_nil, hp]
  rw [hbytes, Document.ofBytes_bytes, Padded.bare, hreading]

/-- A decoder that makes a value of what is read makes it of what was printed. -/
theorem decodeBytes_render {α : Type} {d : Decoder α} {st : Style} (hst : st.IsBlank) {j : Json}
    (hj : j.Fits) (level : Nat) {a : α} (h : d nestingLimit j.reading = .ok a) :
    decodeBytes d (String.ofList (j.render st level)).toUTF8 = .ok a := by
  rw [decodeBytes, Document.ofBytes_render hst hj, Document.decode, h]
  rfl

end MediaTree.Json
