/-
**Case.**

What a text folds to is told character by character: an ASCII character folds to its lower case, and
beyond ASCII a short list tells which characters fold into it.  Lower case changes letters only, so
that the marks which part the pieces of a path stay where they are.

Main definitions:

* `MediaTree.Text.FoldsTo` — a text folds to an ASCII text.

Main results:

* `MediaTree.Text.foldAscii?_eq_some_iff` — **what a text folds to**;
* `MediaTree.Text.foldsTo_of_ascii` — what is ASCII folds to its lower case;
* `MediaTree.Text.foldAscii?_lower` — folding does not see the case of ASCII letters;
* `MediaTree.Text.toLower_eq_mark_iff`, `MediaTree.Text.lower_eq_marks_iff` — marks have no case.
-/

import MediaTree.Text.CaseFold

set_option autoImplicit false
set_option relaxedAutoImplicit false

namespace MediaTree

/-! ### Folding -/

namespace Text

/-- What holds of the first characters, one by one, holds of ASCII. -/
theorem forall_ascii {P : Char → Prop} (h : ∀ n < 0x80, P (Char.ofNat n)) {c : Char}
    (hc : c.toNat < 0x80) : P c := by
  have hc := h c.toNat hc
  rwa [Char.ofNat_toNat] at hc

/-- A text folds to an ASCII text: its ASCII characters are taken in lower case, and of the others
only those may stand in it whose folding is ASCII. -/
inductive FoldsTo : List Char → List Char → Prop
  | nil : FoldsTo [] []
  | ascii {c : Char} {cs fs : List Char} (hc : c.toNat < 0x80) (h : FoldsTo cs fs) :
    FoldsTo (c :: cs) (c.toLower :: fs)
  | wide {c : Char} {f cs fs : List Char} (hc : (c.toNat, f) ∈ foldings) (h : FoldsTo cs fs) :
    FoldsTo (c :: cs) (f ++ fs)

/-- An ASCII character folds to its lower case. -/
theorem foldAsciiChar?_of_lt {c : Char} (h : c.toNat < 0x80) :
    foldAsciiChar? c = some [c.toLower] :=
  forall_ascii (P := fun c => foldAsciiChar? c = some [c.toLower]) (by decide +kernel) h

/-- **What a character folds to**: beyond ASCII it is told by the list of foldings, in which no
character stands twice. -/
theorem foldAsciiChar?_eq_some_iff {c : Char} {f : List Char} :
    foldAsciiChar? c = some f ↔
      (c.toNat < 0x80 ∧ f = [c.toLower]) ∨ (c.toNat, f) ∈ foldings := by
  have hwide : ∀ x ∈ foldings, ¬ x.1 < 0x80 ∧ foldings.find? (·.1 == x.1) = some x := by decide
  by_cases hc : c.toNat < 0x80
  · rw [foldAsciiChar?_of_lt hc]
    constructor
    · intro h
      exact .inl ⟨hc, (Option.some.inj h).symm⟩
    · rintro (⟨-, rfl⟩ | hf)
      · rfl
      · exact absurd hc (hwide _ hf).1
  · rw [foldAsciiChar?, if_neg hc]
    constructor
    · intro h
      obtain ⟨⟨n, g⟩, hfind, rfl⟩ := Option.map_eq_some_iff.1 h
      obtain rfl : n = c.toNat := by simpa using List.find?_some hfind
      exact .inr (List.mem_of_find?_eq_some hfind)
    · rintro (⟨hlt, -⟩ | hf)
      · exact absurd hlt hc
      · rw [(hwide _ hf).2]
        rfl

/-- **What a text folds to.** -/
theorem foldAscii?_eq_some_iff {cs fs : List Char} :
    foldAscii? cs = some fs ↔ FoldsTo cs fs := by
  constructor
  · intro h
    induction cs generalizing fs with
    | nil =>
        cases h
        exact .nil
    | cons c cs ih =>
        obtain ⟨f, hf, hrest⟩ := Option.bind_eq_some_iff.1 h
        obtain ⟨gs, hgs, hpure⟩ := Option.bind_eq_some_iff.1 hrest
        cases hpure
        rcases foldAsciiChar?_eq_some_iff.1 hf with ⟨hc, rfl⟩ | hc
        · exact .ascii hc (ih hgs)
        · exact .wide hc (ih hgs)
  · intro h
    induction h with
    | nil => rfl
    | ascii hc _ ih =>
        rw [foldAscii?, foldAsciiChar?_eq_some_iff.2 (.inl ⟨hc, rfl⟩), ih]
        rfl
    | wide hc _ ih =>
        rw [foldAscii?, foldAsciiChar?_eq_some_iff.2 (.inr hc), ih]
        rfl

/-- What is ASCII folds to its lower case. -/
theorem foldsTo_of_ascii {cs : List Char} (h : ∀ c ∈ cs, c.toNat < 0x80) {fs : List Char} :
    FoldsTo cs fs ↔ fs = lower cs := by
  have hfold : foldAscii? cs = some (lower cs) := by
    induction cs with
    | nil => rfl
    | cons c cs ih =>
        rw [foldAscii?, foldAsciiChar?_of_lt (h c List.mem_cons_self),
          ih fun d hd => h d (List.mem_cons_of_mem c hd)]
        rfl
  rw [← foldAscii?_eq_some_iff, hfold, Option.some.injEq, eq_comm]

/-! ### Lower case -/

/-- Only ASCII characters have a lower case. -/
theorem ascii_or_toLower_eq (c : Char) : c.toNat < 0x80 ∨ c.toLower = c := by
  unfold Char.toLower
  split
  · rename_i hc
    have hle : c.toNat ≤ 'Z'.toNat := UInt32.le_iff_toNat_le.1 hc.2
    exact .inl (Nat.lt_of_le_of_lt hle (by decide))
  · exact .inr rfl

/-- The marks of a path are no letters: no other character becomes one of them. -/
theorem toLower_eq_mark_iff {c d : Char} (hd : d ∈ ['.', '/', '\\']) : c.toLower = d ↔ c = d := by
  rcases ascii_or_toLower_eq c with hc | hc
  · simp only [List.mem_cons, List.not_mem_nil, or_false] at hd
    rcases hd with rfl | rfl | rfl
    · exact forall_ascii (P := fun c => c.toLower = '.' ↔ c = '.') (by decide +kernel) hc
    · exact forall_ascii (P := fun c => c.toLower = '/' ↔ c = '/') (by decide +kernel) hc
    · exact forall_ascii (P := fun c => c.toLower = '\\' ↔ c = '\\') (by decide +kernel) hc
  · rw [hc]

theorem foldAsciiChar?_toLower (c : Char) : foldAsciiChar? c.toLower = foldAsciiChar? c := by
  rcases ascii_or_toLower_eq c with hc | hc
  · exact forall_ascii (P := fun c => foldAsciiChar? c.toLower = foldAsciiChar? c)
      (by decide +kernel) hc
  · rw [hc]

/-- Folding does not see the case of ASCII letters. -/
theorem foldAscii?_lower (cs : List Char) : foldAscii? (lower cs) = foldAscii? cs := by
  induction cs with
  | nil => rfl
  | cons c cs ih =>
      show foldAscii? (c.toLower :: lower cs) = _
      rw [foldAscii?, foldAscii?, foldAsciiChar?_toLower, ih]

/-- A text in lower case consists of certain marks only if the text does. -/
theorem lower_eq_marks_iff (ds : List Char) (hds : ∀ d ∈ ds, d ∈ ['.', '/', '\\'])
    (cs : List Char) : lower cs = ds ↔ cs = ds := by
  induction ds generalizing cs with
  | nil => exact List.map_eq_nil_iff
  | cons d ds ih =>
      cases cs with
      | nil => simp [lower]
      | cons c cs =>
          have hd := toLower_eq_mark_iff (c := c) (hds d List.mem_cons_self)
          have hrest := ih (fun d' hd' => hds d' (List.mem_cons_of_mem d hd')) cs
          show c.toLower :: lower cs = d :: ds ↔ _
          rw [List.cons_eq_cons, List.cons_eq_cons, hd, hrest]

/-- A mark stands in a text in lower case only if it stands in the text. -/
theorem mark_mem_lower {d : Char} (hd : d ∈ ['.', '/', '\\']) {cs : List Char}
    (h : d ∈ lower cs) : d ∈ cs := by
  obtain ⟨c, hc, hlower⟩ := List.mem_map.1 h
  rwa [(toLower_eq_mark_iff hd).1 hlower] at hc

end Text

end MediaTree
