/-
**Scanning a text.**

Whatever choices were made in writing a text, it is scanned into the tokens that it is made of:
blanks vanish, escapes are undone, and digits make the number again.  A numeral is the one token
that its last character does not end, so a scanner behind a value is *settled*: it stands between
tokens, or in a numeral that could end here, and the next bracket, comma or blank makes no
difference between the two.

Main definitions:

* `MediaTree.Json.Phrase.tokens` — the tokens of a text;
* `MediaTree.Json.Scanner.Settled` — a scanner behind a complete value.

Main results:

* `MediaTree.Json.Scanner.scan_quoted` — a string is scanned into what it says;
* `MediaTree.Json.Scanner.scan_numeral` — a numeral is scanned into its number;
* `MediaTree.Json.Token.ofBytes_bytes` — **a text is scanned into its tokens**.
-/

import MediaTree.Proofs.Json.Phrase
import MediaTree.Proofs.Text.Encoding

set_option autoImplicit false
set_option relaxedAutoImplicit false

namespace MediaTree.Json

/-! ### The tokens of a text -/

namespace Phrase

mutual

/-- The tokens that a text is made of. -/
def tokens : Phrase → List Token
  | null => [.null]
  | bool b => [.bool b]
  | number t => [.number t.numeral]
  | string ps => [.string (Piece.text? ps)]
  | emptyArray _ => [.openArray, .closeArray]
  | array ⟨_, v, _⟩ es => .openArray :: v.tokens ++ elementTokens es ++ [.closeArray]
  | emptyObject _ => [.openObject, .closeObject]
  | object k ⟨_, v, _⟩ ms =>
    .openObject :: .string (Piece.text? k.content) :: .colon :: v.tokens ++ memberTokens ms ++
      [.closeObject]

/-- The tokens of the elements behind the first. -/
def elementTokens : List (Padded Phrase) → List Token
  | [] => []
  | ⟨_, v, _⟩ :: es => .comma :: v.tokens ++ elementTokens es

/-- The tokens of the members behind the first. -/
def memberTokens : List (Padded (List Piece) × Padded Phrase) → List Token
  | [] => []
  | (k, ⟨_, v, _⟩) :: ms =>
    .comma :: .string (Piece.text? k.content) :: .colon :: v.tokens ++ memberTokens ms

end

end Phrase

namespace Scanner

/-- Scans characters. -/
def scan (s : Scanner) (cs : List Char) : Scanner := cs.foldl feedChar s

@[simp] theorem scan_nil (s : Scanner) : s.scan [] = s := rfl

@[simp] theorem scan_cons (s : Scanner) (c : Char) (cs : List Char) :
    s.scan (c :: cs) = (s.feedChar c).scan cs := rfl

@[simp] theorem scan_append (s : Scanner) (cs ds : List Char) :
    s.scan (cs ++ ds) = (s.scan cs).scan ds :=
  List.foldl_append

/-! ### Blanks and signs -/

/-- Blanks between tokens leave nothing. -/
theorem scan_blanks {cs : List Char} (h : ∀ c ∈ cs, isBlank c = true) (ts : List Token) :
    scan ⟨.between, ts⟩ cs = ⟨.between, ts⟩ := by
  induction cs with
  | nil => rfl
  | cons c cs ih =>
      have hc : feedChar ⟨.between, ts⟩ c = ⟨.between, ts⟩ := by
        simp [feedChar, between, h c (by simp), goto]
      rw [scan_cons, hc]
      exact ih fun d hd => h d (by simp [hd])

/-- Behind a complete value: between tokens, or in a numeral that may end here. -/
inductive Settled : Scanner → List Token → Prop where
  | between (ts : List Token) : Settled ⟨.between, ts⟩ ts
  | numeral (d : Numeral.Draft) (n : Numeral) (ts : List Token) (hd : d.finish? = some n) :
    Settled ⟨.numeral d, ts⟩ (.number n :: ts)

/-- A character that no numeral goes on with. -/
def isBreak (c : Char) : Bool :=
  Numeral.digit? c = none ∧ c ≠ '.' ∧ c ≠ 'e' ∧ c ≠ 'E'

/-- A blank is a break. -/
theorem isBreak_of_isBlank {c : Char} (h : isBlank c = true) : isBreak c = true := by
  simp only [isBlank, Bool.or_eq_true, beq_iff_eq] at h
  rcases h with ((rfl | rfl) | rfl) | rfl <;> decide

/-- A break ends a numeral that may end. -/
theorem next_isBreak {d : Numeral.Draft} (hd : d.finish?.isSome) {c : Char}
    (hc : isBreak c = true) : d.next c = .ended := by
  simp only [isBreak, ne_eq, decide_eq_true_eq] at hc
  obtain ⟨hdigit, hpoint, he, hE⟩ := hc
  unfold Numeral.Draft.finish? at hd
  unfold Numeral.Draft.next
  split at hd <;> rename_i hstage <;>
    simp_all [Numeral.Draft.afterWhole, Numeral.Draft.afterFraction]

/-- A break makes no difference between two settled scanners. -/
theorem Settled.feedChar {s : Scanner} {ts : List Token} (hs : s.Settled ts) {c : Char}
    (hc : isBreak c = true) : s.feedChar c = Scanner.between ⟨.between, ts⟩ c := by
  cases hs with
  | between => rfl
  | numeral d n ts hd =>
      -- a numeral is told to end only by what follows it
      have hnext : d.next c = .ended := next_isBreak (by rw [hd, Option.isSome_some]) hc
      simp [Scanner.feedChar, hnext, hd, emit]

/-- Blanks behind a value make no difference, if a break follows. -/
theorem Settled.scan_blanks {s : Scanner} {ts : List Token} (hs : s.Settled ts) {cs : List Char}
    (h : ∀ c ∈ cs, isBlank c = true) : (s.scan cs).Settled ts := by
  cases cs with
  | nil => exact hs
  | cons c cs =>
      have hc := h c (by simp)
      rw [scan_cons, hs.feedChar (isBreak_of_isBlank hc)]
      have hbetween : Scanner.between ⟨.between, ts⟩ c = ⟨.between, ts⟩ := by
        simp [Scanner.between, hc, goto]
      rw [hbetween, Scanner.scan_blanks fun d hd => h d (by simp [hd])]
      exact .between ts

/-- At the end of the text all tokens are found. -/
theorem Settled.finish {s : Scanner} {ts : List Token} (hs : s.Settled ts) :
    s.finish = ts.reverse := by
  cases hs with
  | between => rfl
  | numeral d n ts hd => simp [Scanner.finish, endNumeral, hd, emit]

theorem isBlank_blanks (bs : List Blank) : ∀ c ∈ blanks bs, isBlank c = true := by
  intro c hc
  obtain ⟨b, -, rfl⟩ := List.mem_map.1 hc
  cases b <;> rfl

/-! ### Strings -/

end Scanner

theorem HexDigit.value?_char (d : HexDigit) : Text.Hex.value? d.char = some d.value.val := by
  unfold HexDigit.char
  split
  · exact Text.Hex.value?_upper d.value.isLt
  · exact Text.Hex.value?_lower d.value.isLt

/-- A string with one more step. -/
def Quotation.add (q : Quotation) : Piece → Quotation
  | .raw c _ => q.addChar c
  | .escape e => q.addChar e.char
  | .unit a b c d => q.addUnit (Piece.number a b c d)

/-- What was no text once is no text in the end. -/
theorem Quotation.text?_of_not_sound {q : Quotation} (hq : q.sound = false) (ps : List Piece) :
    (ps.foldl add q).text? = none := by
  induction ps generalizing q with
  | nil => simp [text?, hq]
  | cons p ps ih =>
      refine ih ?_
      cases p with
      | raw c => simp [add, addChar, hq]
      | escape e => simp [add, addChar, hq]
      | unit a b c d =>
          rw [add, addUnit]
          split <;> repeat' split
          all_goals simp [spoil, addChar, hq]

/-- Steps add what they say. -/
theorem Quotation.text?_foldl (ps : List Piece) (acc : List Char) :
    (ps.foldl add ⟨acc, none, true⟩).text? =
      (Piece.said? ps).map fun cs => String.ofList (acc.reverse ++ cs) := by
  -- a character that is said goes behind those that were said
  have hbehind (c : Char) (o : Option (List Char)) (acc : List Char) :
      (o.map fun cs => String.ofList ((c :: acc).reverse ++ cs)) =
        (o.map (c :: ·)).map fun cs => String.ofList (acc.reverse ++ cs) := by
    cases o <;> simp
  fun_induction Piece.said? ps generalizing acc with
  | case1 => simp [text?]
  | case2 c _ ps ih => exact (ih (c :: acc)).trans (hbehind c _ acc)
  | case3 e ps ih => exact (ih (e.char :: acc)).trans (hbehind e.char _ acc)
  | case4 a b c d hlead a' b' c' d' ps htrail ih =>
      rw [← hbehind, ← ih]
      simp [add, addUnit, hlead, htrail]
  | case5 a b c d hlead a' b' c' d' ps htrail =>
      rw [List.foldl_cons, List.foldl_cons, text?_of_not_sound]
      · rfl
      · simp [add, addUnit, hlead, htrail, spoil]
  | case6 a b c d ps hlead hnext =>
      cases ps with
      | nil => simp [add, addUnit, hlead, text?]
      | cons p ps =>
          -- the step behind a leading surrogate is not its partner
          rw [List.foldl_cons, List.foldl_cons, text?_of_not_sound]
          · rfl
          · cases p with
            | raw c => simp [add, addUnit, hlead, addChar]
            | escape e => simp [add, addUnit, hlead, addChar]
            | unit a' b' c' d' => exact absurd rfl (hnext a' b' c' d' ps)
  | case7 a b c d ps hlead htrail =>
      rw [List.foldl_cons, text?_of_not_sound]
      · rfl
      · simp [add, addUnit, hlead, htrail, spoil]
  | case8 a b c d ps hlead htrail ih =>
      rw [← hbehind, ← ih]
      simp [add, addUnit, hlead, htrail, addChar]

namespace Scanner

/-- A step of a string is added to what it holds. -/
theorem scan_piece (q : Quotation) (ts : List Token) (p : Piece) :
    scan ⟨.quoted q .plain, ts⟩ p.chars = ⟨.quoted (q.add p) .plain, ts⟩ := by
  cases p with
  | raw c h =>
      obtain ⟨hquote, hback, hge⟩ := h
      simp [Piece.chars, feedChar, inside, goto, hquote, hback, Nat.not_lt.2 hge, Quotation.add]
  | escape e => cases e <;> rfl
  | unit a b c d =>
      have hopen : scan ⟨.quoted q .plain, ts⟩ ['\\', 'u'] = ⟨.quoted q (.hex 4 0), ts⟩ := rfl
      rw [Piece.chars, scan_cons, scan_cons, ← scan_nil (feedChar _ 'u'), ← scan_cons, ← scan_cons,
        hopen]
      simp [feedChar, inside, goto, HexDigit.value?_char, Quotation.add, Piece.number]

theorem scan_pieces (ps : List Piece) (q : Quotation) (ts : List Token) :
    scan ⟨.quoted q .plain, ts⟩ (ps.flatMap Piece.chars) =
      ⟨.quoted (ps.foldl Quotation.add q) .plain, ts⟩ := by
  induction ps generalizing q with
  | nil => rfl
  | cons p ps ih => rw [List.flatMap_cons, scan_append, scan_piece, ih, List.foldl_cons]

/-- **A string is scanned into what it says.** -/
theorem scan_quoted (ps : List Piece) (ts : List Token) :
    scan ⟨.between, ts⟩ (quoted ps) = ⟨.between, .string (Piece.text? ps) :: ts⟩ := by
  have hopen : feedChar ⟨.between, ts⟩ '"' = ⟨.quoted .empty .plain, ts⟩ := rfl
  have htext : (ps.foldl Quotation.add .empty).text? = Piece.text? ps := Quotation.text?_foldl ps []
  rw [quoted, List.cons_append, scan_cons, scan_append, hopen, scan_pieces]
  simp [feedChar, inside, emit, htext]

/-! ### Numerals -/

/-- A character that opens a numeral is no sign of the grammar. -/
theorem feedChar_begin {c : Char} {d : Numeral.Draft} (h : Numeral.begin? c = some d)
    (ts : List Token) : feedChar ⟨.between, ts⟩ c = ⟨.numeral d, ts⟩ := by
  have hblank : isBlank c = false := by
    refine Bool.eq_false_iff.2 fun hb => ?_
    simp only [isBlank, Bool.or_eq_true, beq_iff_eq] at hb
    rcases hb with ((rfl | rfl) | rfl) | rfl <;> cases h
  simp only [feedChar, between, hblank, Bool.false_eq_true, if_false]
  split
  case h_11 => simp only [h, goto]
  all_goals cases h

theorem scan_read? {d d' : Numeral.Draft} {cs : List Char} (h : d.read? cs = some d')
    (ts : List Token) : scan ⟨.numeral d, ts⟩ cs = ⟨.numeral d', ts⟩ := by
  induction cs generalizing d with
  | nil =>
      cases h
      rfl
  | cons c cs ih =>
      rw [Numeral.Draft.read?] at h
      split at h
      · rename_i d₁ hnext
        have hc : feedChar ⟨.numeral d, ts⟩ c = ⟨.numeral d₁, ts⟩ := by simp [feedChar, hnext, goto]
        rw [scan_cons, hc, ih h]
      · cases h

/-- **A numeral is scanned into its number.** -/
theorem scan_numeral (t : NumeralText) (ts : List Token) :
    (scan ⟨.between, ts⟩ t.chars).Settled (.number t.numeral :: ts) := by
  obtain ⟨d, hread, hfinish⟩ := Numeral.draft?_chars t
  have hscan : scan ⟨.between, ts⟩ t.chars = ⟨.numeral d, ts⟩ := by
    generalize t.chars = cs at hread ⊢
    cases cs with
    | nil => cases hread
    | cons c cs =>
        obtain ⟨d₁, hbegin, hrest⟩ := Option.bind_eq_some_iff.1 hread
        rw [scan_cons, feedChar_begin hbegin, scan_read? hrest]
  rw [hscan]
  exact .numeral d t.numeral ts hfinish

/-! ### Values -/

/-- Behind a complete value a sign of the grammar is found. -/
theorem Settled.feed_sign {s : Scanner} {ts : List Token} (hs : s.Settled ts) {c : Char} {t : Token}
    (hbreak : isBreak c = true) (hc : Scanner.between ⟨.between, ts⟩ c = ⟨.between, t :: ts⟩) :
    s.feedChar c = ⟨.between, t :: ts⟩ :=
  (hs.feedChar hbreak).trans hc

/-- A key with its blanks and its colon is found. -/
theorem scan_key (k : Padded (List Piece)) (ts : List Token) :
    scan ⟨.between, ts⟩ (Phrase.keyChars k) =
      ⟨.between, .colon :: .string (Piece.text? k.content) :: ts⟩ := by
  rw [Phrase.keyChars, scan_append, scan_append, scan_append, scan_blanks (isBlank_blanks k.front),
    scan_quoted, scan_blanks (isBlank_blanks k.back)]
  rfl

/-- The blanks around a value make no difference. -/
theorem scan_padded {v : Phrase} {ts : List Token}
    (hv : (scan ⟨.between, ts⟩ v.chars).Settled (v.tokens.reverse ++ ts))
    (front back : List Blank) :
    (((scan ⟨.between, ts⟩ (blanks front)).scan v.chars).scan (blanks back)).Settled
      (v.tokens.reverse ++ ts) := by
  rw [scan_blanks (isBlank_blanks front)]
  exact hv.scan_blanks (isBlank_blanks back)

mutual

/-- A value is scanned into its tokens. -/
theorem scan_chars : ∀ (p : Phrase) (ts : List Token),
    (scan ⟨.between, ts⟩ p.chars).Settled (p.tokens.reverse ++ ts)
  | .null, ts => .between (.null :: ts)
  | .bool true, ts => .between (.bool true :: ts)
  | .bool false, ts => .between (.bool false :: ts)
  | .number t, ts => scan_numeral t ts
  | .string ps, ts => by
      rw [Phrase.chars, scan_quoted]
      exact .between _
  | .emptyArray gap, ts => by
      have hopen : feedChar ⟨.between, ts⟩ '[' = ⟨.between, .openArray :: ts⟩ := rfl
      rw [Phrase.chars, List.cons_append, scan_cons, hopen, scan_append,
        scan_blanks (isBlank_blanks gap)]
      exact .between _
  | .array ⟨front, v, back⟩ es, ts => by
      have hopen : feedChar ⟨.between, ts⟩ '[' = ⟨.between, .openArray :: ts⟩ := rfl
      have hv := scan_padded (scan_chars v (.openArray :: ts)) front back
      -- behind the first element the scanner may still be inside a numeral
      have hes := scan_elementChars es hv
      have hclose := hes.feed_sign (c := ']') rfl rfl
      simp only [Phrase.chars, List.cons_append, scan_cons, scan_append, hopen, hclose, scan_nil]
      simpa [Phrase.tokens] using Settled.between _
  | .emptyObject gap, ts => by
      have hopen : feedChar ⟨.between, ts⟩ '\x7b' = ⟨.between, .openObject :: ts⟩ := rfl
      rw [Phrase.chars, List.cons_append, scan_cons, hopen, scan_append,
        scan_blanks (isBlank_blanks gap)]
      exact .between _
  | .object k ⟨front, v, back⟩ ms, ts => by
      have hopen : feedChar ⟨.between, ts⟩ '\x7b' = ⟨.between, .openObject :: ts⟩ := rfl
      have hkey := scan_key k (.openObject :: ts)
      have hv := scan_padded
        (scan_chars v (.colon :: .string (Piece.text? k.content) :: .openObject :: ts)) front back
      have hms := scan_memberChars ms hv
      have hclose := hms.feed_sign (c := '\x7d') rfl rfl
      simp only [Phrase.chars, List.cons_append, scan_cons, scan_append, hopen, hkey, hclose,
        scan_nil]
      simpa [Phrase.tokens] using Settled.between _

/-- Elements behind a first one are scanned into their tokens. -/
theorem scan_elementChars : ∀ (es : List (Padded Phrase)) {s : Scanner} {ts : List Token},
    s.Settled ts →
    (s.scan (Phrase.elementChars es)).Settled ((Phrase.elementTokens es).reverse ++ ts)
  | [], _, _, hs => hs
  | ⟨front, v, back⟩ :: es, s, ts, hs => by
      have hcomma := hs.feed_sign (c := ',') rfl rfl
      have hv := scan_padded (scan_chars v (.comma :: ts)) front back
      have hes := scan_elementChars es hv
      simp only [Phrase.elementChars, List.cons_append, scan_cons, scan_append, hcomma]
      simpa [Phrase.elementTokens] using hes

/-- Members behind a first one are scanned into their tokens. -/
theorem scan_memberChars : ∀ (ms : List (Padded (List Piece) × Padded Phrase)) {s : Scanner}
    {ts : List Token}, s.Settled ts →
    (s.scan (Phrase.memberChars ms)).Settled ((Phrase.memberTokens ms).reverse ++ ts)
  | [], _, _, hs => hs
  | (k, ⟨front, v, back⟩) :: ms, s, ts, hs => by
      have hcomma := hs.feed_sign (c := ',') rfl rfl
      have hkey := scan_key k (.comma :: ts)
      have hv := scan_padded
        (scan_chars v (.colon :: .string (Piece.text? k.content) :: .comma :: ts)) front back
      have hms := scan_memberChars ms hv
      simp only [Phrase.memberChars, List.cons_append, scan_cons, scan_append, hcomma, hkey]
      simpa [Phrase.memberTokens] using hms

end

end Scanner

/-- **A text is scanned into its tokens**, whatever choices were made in writing it. -/
theorem Token.ofBytes_bytes (p : Padded Phrase) : Token.ofBytes p.bytes = p.content.tokens := by
  have h := (Scanner.scan_padded (Scanner.scan_chars p.content []) p.front p.back).finish
  rw [Token.ofBytes, Token.ofUnits, Padded.bytes, Text.units_toUTF8, String.toList_ofList,
    List.foldl_map]
  refine Eq.trans ?_ (h.trans (by simp))
  simp only [← Scanner.scan_append]
  rfl

end MediaTree.Json
