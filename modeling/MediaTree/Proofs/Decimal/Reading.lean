/-
**Which texts are numbers.**

A number, whole or not, is made of letters, digits, signs and points; the letters are those of a
power of ten and of the names of infinities and undefined values.  A text with any other character
is no number, and neither is one that begins with a letter that no such name begins with.

Main definitions:

* `MediaTree.Decimal.isNumeral` — the characters that numbers are made of.

Main results:

* `MediaTree.Decimal.isNumeral_of_integer?`, `MediaTree.Decimal.isNumeral_of_float?` — numbers are
  made of these characters;
* `MediaTree.Decimal.not_number_of_head` — what does not begin as a number is none.
-/

import MediaTree.Decimal.Reading

set_option autoImplicit false
set_option relaxedAutoImplicit false

namespace MediaTree.Decimal

/-! ### Characters of numbers -/

/-- The characters that numbers are made of. -/
def isNumeral (c : Char) : Bool := c.isAlphanum || c == '+' || c == '-' || c == '.'

theorem isNumeral_of_isAlphanum {c : Char} (h : c.isAlphanum = true) : isNumeral c = true := by
  simp [isNumeral, h]

theorem isNumeral_of_isDigit {c : Char} (h : c.isDigit = true) : isNumeral c = true :=
  isNumeral_of_isAlphanum (by simp [Char.isAlphanum, h])

/-- A letter or digit was one before it was put in lower case. -/
theorem isAlphanum_of_toLower {c : Char} (h : c.toLower.isAlphanum = true) :
    c.isAlphanum = true := by
  unfold Char.toLower at h
  split at h
  · rename_i hc
    have hupper : c.isUpper = true := decide_eq_true hc
    show (c.isUpper || c.isLower || c.isDigit) = true
    rw [hupper]
    rfl
  · exact h

/-- A text is made of letters and digits if it is in lower case. -/
theorem isAlphanum_of_lowered {cs : List Char} {w : String}
    (h : String.ofList (cs.map Char.toLower) = w) (hw : w.toList.all Char.isAlphanum = true) :
    ∀ c ∈ cs, c.isAlphanum = true := by
  intro c hc
  refine isAlphanum_of_toLower (List.all_eq_true.1 hw _ ?_)
  rw [← h, String.toList_ofList]
  exact List.mem_map_of_mem hc

/-- What a sign is put in front of. -/
theorem isNumeral_of_signed {cs : List Char} (h : ∀ c ∈ (signed cs).2, isNumeral c = true) :
    ∀ c ∈ cs, isNumeral c = true := by
  unfold signed at h
  split at h
  · exact List.forall_mem_cons.2 ⟨rfl, h⟩
  · exact List.forall_mem_cons.2 ⟨rfl, h⟩
  · exact h

theorem isDigit_of_digitIn? {c : Char} {n : Nat} (h : digitIn? 10 c = some n) :
    c.isDigit = true := by
  obtain ⟨m, hm, hlt⟩ := Option.bind_eq_some_iff.1 h
  unfold Text.Hex.value? at hm
  split at hm
  · rename_i hc
    simp only [Char.isDigit, Bool.and_eq_true, decide_eq_true_eq]
    exact hc
  · -- the other digits are too large
    have hlarge : 10 ≤ m := by
      split at hm
      · have := Option.some_inj.1 hm
        omega
      · split at hm
        · have := Option.some_inj.1 hm
          omega
        · cases hm
    rw [if_neg (by omega)] at hlt
    cases hlt

/-- What is read digit by digit is made of digits. -/
theorem isDigit_of_foldl {cs : List Char} {acc : Option Nat} {n : Nat}
    (h : cs.foldl (fun acc c => do pure ((← acc) * 10 + (← digitIn? 10 c))) acc = some n) :
    acc.isSome ∧ ∀ c ∈ cs, c.isDigit = true := by
  induction cs generalizing acc with
  | nil => simp [show acc = some n from h]
  | cons c cs ih =>
      obtain ⟨hstep, hcs⟩ := ih h
      obtain ⟨m, hm⟩ := Option.isSome_iff_exists.1 hstep
      obtain ⟨a, ha, hm⟩ := Option.bind_eq_some_iff.1 hm
      obtain ⟨d, hd, -⟩ := Option.bind_eq_some_iff.1 hm
      refine ⟨by rw [ha]; rfl, ?_⟩
      rw [List.forall_mem_cons]
      exact ⟨isDigit_of_digitIn? hd, hcs⟩

/-- A number is made of digits. -/
theorem isDigit_of_natural? {cs : List Char} {n : Nat} (h : natural? 10 cs = some n) :
    ∀ c ∈ cs, c.isDigit = true := by
  unfold natural? at h
  split at h
  · cases h
  · exact (isDigit_of_foldl h).2

theorem isNumeral_of_integer? {cs : List Char} {n : Int} (h : integer? 10 cs = some n) :
    ∀ c ∈ cs, isNumeral c = true := by
  unfold integer? at h
  cases hn : natural? 10 (signed cs).2 with
  | none => simp [hn] at h
  | some n =>
      exact isNumeral_of_signed fun c hc => isNumeral_of_isDigit (isDigit_of_natural? hn c hc)

theorem isNumeral_of_exponent? {cs : List Char} {p : Int} (h : exponent? cs = some p) :
    ∀ c ∈ cs, isNumeral c = true := by
  cases cs with
  | nil => simp
  | cons c cs =>
      simp only [exponent?] at h
      split at h
      · rename_i hmark
        obtain ⟨i, hi, -⟩ := Option.map_eq_some_iff.1 h
        obtain ⟨n, hn, -⟩ := Option.bind_eq_some_iff.1 hi
        have hpower := isNumeral_of_signed fun c hc =>
          isNumeral_of_isDigit (isDigit_of_natural? hn c hc)
        refine List.forall_mem_cons.2 ⟨?_, hpower⟩
        rcases hmark with rfl | rfl <;> rfl
      · cases h

/-- A text is made of the characters of numbers if what is behind its digits is. -/
theorem isNumeral_of_dropWhile {cs : List Char}
    (h : ∀ c ∈ cs.dropWhile Char.isDigit, isNumeral c = true) : ∀ c ∈ cs, isNumeral c = true := by
  intro c hc
  rw [← List.takeWhile_append_dropWhile (p := Char.isDigit) (l := cs)] at hc
  rcases List.mem_append.1 hc with hc | hc
  · exact isNumeral_of_isDigit (List.all_eq_true.1 List.all_takeWhile c hc)
  · exact h c hc

theorem isNumeral_of_decimal? {cs : List Char} {d : Nat × Int} (h : decimal? cs = some d) :
    ∀ c ∈ cs, isNumeral c = true := by
  obtain ⟨n, hn, h⟩ := Option.bind_eq_some_iff.1 h
  obtain ⟨p, hp, h⟩ := Option.bind_eq_some_iff.1 h
  refine isNumeral_of_dropWhile ?_
  split at hp
  · rename_i tail hpoint
    rw [hpoint]
    exact List.forall_mem_cons.2 ⟨rfl, isNumeral_of_dropWhile (isNumeral_of_exponent? hp)⟩
  · exact isNumeral_of_exponent? hp

theorem isNumeral_of_float? {cs : List Char} {x : Float} (h : float? cs = some x) :
    ∀ c ∈ cs, isNumeral c = true := by
  unfold float? at h
  refine isNumeral_of_signed fun c hc => ?_
  cases hx : named? (signed cs).2 with
  | some y =>
      unfold named? at hx
      split at hx
      · rename_i hw
        exact isNumeral_of_isAlphanum (isAlphanum_of_lowered hw (by decide) c hc)
      · rename_i hw
        exact isNumeral_of_isAlphanum (isAlphanum_of_lowered hw (by decide) c hc)
      · rename_i hw
        exact isNumeral_of_isAlphanum (isAlphanum_of_lowered hw (by decide) c hc)
      · cases hx
  | none =>
      simp only [hx] at h
      obtain ⟨d, hd, -⟩ := Option.map_eq_some_iff.1 h
      exact isNumeral_of_decimal? hd c hc

/-! ### Texts that are no numbers -/

/-- A character that lower case turns into another one is that one or its upper case. -/
theorem eq_of_toLower {c d : Char} (h : c.toLower = d) : c = d ∨ c.val = d.val - 32 := by
  unfold Char.toLower at h
  split at h
  · right
    rw [← h]
    exact (UInt32.add_sub_cancel _ _).symm
  · exact .inl h

theorem head_of_toLower {c : Char} (h : c.toLower = 't' ∨ c.toLower = 'f') :
    c ∈ ['t', 'T', 'f', 'F'] := by
  rcases h with h | h
  · rcases eq_of_toLower h with rfl | h
    · decide
    · rw [show c = 'T' from Char.ext h]
      decide
  · rcases eq_of_toLower h with rfl | h
    · decide
    · rw [show c = 'F' from Char.ext h]
      decide

/-- What begins with one of these letters is no number, unless it is a name. -/
theorem not_number_of_head {c : Char} (h : c ∈ ['t', 'T', 'f', 'F']) (cs : List Char) :
    integer? 10 (c :: cs) = none ∧
      (named? (c :: cs) = none → float? (c :: cs) = none) := by
  have hsigned : signed (c :: cs) = (false, c :: cs) := by
    simp only [List.mem_cons, List.not_mem_nil, or_false] at h
    rcases h with rfl | rfl | rfl | rfl <;> rfl
  have hdecimal : decimal? (c :: cs) = none := by
    simp only [List.mem_cons, List.not_mem_nil, or_false] at h
    rcases h with rfl | rfl | rfl | rfl <;> rfl
  have hnatural : natural? 10 (c :: cs) = none := by
    cases hn : natural? 10 (c :: cs) with
    | none => rfl
    | some n =>
        have hdigit := isDigit_of_natural? hn c List.mem_cons_self
        have hletter : ['t', 'T', 'f', 'F'].all (! Char.isDigit ·) = true := by decide
        have hno := List.all_eq_true.1 hletter c h
        simp [hdigit] at hno
  constructor
  · simp [integer?, hsigned, hnatural]
  · intro hnamed
    simp [float?, hsigned, hnamed, hdecimal]

end MediaTree.Decimal
