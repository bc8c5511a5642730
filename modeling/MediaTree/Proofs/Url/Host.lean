/-
**What hosts are made of.**

The normal form of a host is not empty and holds no character that ends a host in an address, and
no blank: numeric hosts consist of digits and points or of digits and colons between brackets, and
a name is refused if it holds any of those characters; letters beyond ASCII become letters, digits
and hyphens.

Main definitions:

* `MediaTree.Url.isHostChar` — characters that may stand in a host.

Main results:

* `MediaTree.Url.Bootstring.mem_encode` — the characters of an encoded label;
* `MediaTree.Url.Name.isHostChar_of_ascii?` — the characters of a name;
* `MediaTree.Url.Host.solid_of_normal?` — **the normal form of a host holds host characters only,
  and at least one**.
-/

import MediaTree.Url.Parser

set_option autoImplicit false
set_option relaxedAutoImplicit false

namespace MediaTree.Url

/-- A character that neither ends a host in an address nor is a blank. -/
def isHostChar (c : Char) : Bool := 0x20 < c.toNat && !(['/', '\\', '?', '#', '@'].contains c)

theorem isHostChar_of_not_isForbidden {c : Char} (h : Name.isForbidden c = false) :
    isHostChar c = true := by
  simp only [Name.isForbidden, Bool.or_eq_false_iff, decide_eq_false_iff_not, Nat.not_le,
    List.contains_cons, beq_eq_false_iff_ne] at h
  simp only [isHostChar, List.contains_cons, Bool.and_eq_true, decide_eq_true_eq]
  obtain ⟨⟨hgap, -⟩, hhash, hslash, -, -, -, hquestion, hat, -, hback, -⟩ := h
  simp [hgap, hslash, hback, hquestion, hhash, hat]

theorem isHostChar_digitChar {d : Nat} (h : d < 16) : isHostChar d.digitChar = true := by
  have hall : ∀ n ∈ List.range 16, isHostChar n.digitChar = true := by decide
  exact hall d (List.mem_range.2 h)

/-- Digits may stand in a host. -/
theorem isHostChar_of_mem_toDigits {base n : Nat} (hbase : 1 < base) (hle : base ≤ 16) {c : Char}
    (h : c ∈ Nat.toDigits base n) : isHostChar c = true := by
  induction n using Nat.strongRecOn with
  | ind n ih =>
      rcases Nat.lt_or_ge n base with hlt | hge
      · rw [Nat.toDigits_of_lt_base hlt, List.mem_singleton] at h
        rw [h]
        exact isHostChar_digitChar (by omega)
      · rw [Nat.toDigits_of_base_le hbase hge, List.mem_append, List.mem_singleton] at h
        rcases h with h | rfl
        · exact ih (n / base) (Nat.div_lt_self (by omega) hbase) h
        · have hmod := Nat.mod_lt n (show 0 < base by omega)
          exact isHostChar_digitChar (by omega)

/-- Parts with a separator between them hold characters of the parts and of the separator. -/
theorem mem_of_mem_intercalate {α : Type} {sep : List α} {parts : List (List α)} {a : α}
    (h : a ∈ sep.intercalate parts) : a ∈ sep ∨ ∃ p ∈ parts, a ∈ p := by
  induction parts with
  | nil => cases h
  | cons p ps ih =>
      cases ps with
      | nil => exact .inr ⟨p, by simp, by simpa using h⟩
      | cons q qs =>
          rw [List.intercalate_cons_cons, List.mem_append, List.mem_append] at h
          rcases h with (h | h) | h
          · exact .inr ⟨p, by simp, h⟩
          · exact .inl h
          · rcases ih h with h | ⟨r, hr, ha⟩
            · exact .inl h
            · exact .inr ⟨r, by simp [hr], ha⟩

/-! ### Encoded labels -/

namespace Bootstring

theorem isHostChar_digit {d : Nat} (h : d < 36) : isHostChar (digit d) = true := by
  have hall : ∀ n ∈ List.range 36, isHostChar (digit n) = true := by decide
  exact hall d (List.mem_range.2 h)

theorem threshold_bounds (k bias : Nat) : 1 ≤ threshold k bias ∧ threshold k bias ≤ 26 := by
  unfold threshold
  split <;> omega

/-- A number is written with digits. -/
theorem isHostChar_of_mem_number {bias k q : Nat} {c : Char} (h : c ∈ number bias k q) :
    isHostChar c = true := by
  induction q using Nat.strongRecOn generalizing k with
  | ind q ih =>
      have hbounds := threshold_bounds k bias
      rw [number] at h
      split at h
      · rw [List.mem_singleton.1 h]
        exact isHostChar_digit (by omega)
      · rcases List.mem_cons.1 h with rfl | h
        · have hmod := Nat.mod_lt (q - threshold k bias) (show 0 < 36 - threshold k bias by omega)
          exact isHostChar_digit (by omega)
        · have hdiv := Nat.div_le_self (q - threshold k bias) (36 - threshold k bias)
          exact ih _ (by omega) h

/-- What an encoding has written so far are digits. -/
def State.Digital (s : State) : Prop := ∀ c ∈ s.output, isHostChar c = true

theorem digital_pass {basic m : Nat} {s : State} (hs : s.Digital) (c : Char) :
    (pass basic m s c).Digital := by
  unfold pass
  split
  · exact hs
  · split
    · intro d hd
      rcases List.mem_append.1 hd with hd | hd
      · exact hs d hd
      · exact isHostChar_of_mem_number hd
    · exact hs

theorem digital_foldl_pass {basic m : Nat} (cs : List Char) {s : State} (hs : s.Digital) :
    (cs.foldl (pass basic m) s).Digital := by
  induction cs generalizing s with
  | nil => exact hs
  | cons c cs ih => exact ih (digital_pass hs c)

/-- An encoded label holds characters of the label and digits. -/
theorem mem_encode {cs : List Char} {c : Char} (h : c ∈ encode cs) :
    c ∈ cs ∨ isHostChar c = true := by
  -- the induction is on the code points that are still to be written
  have hfold (ms : List Nat) (start : State × Nat) (hs : start.1.Digital) :
      (ms.foldl (fun p m =>
        let s := { p.1 with delta := p.1.delta + (m - p.2) * (p.1.done + 1) }
        let s := cs.foldl (pass (cs.filter (·.toNat < 0x80)).length m) s
        ({ s with delta := s.delta + 1 }, m + 1)) start).1.Digital := by
    induction ms generalizing start with
    | nil => exact hs
    | cons m ms ih => exact ih _ (digital_foldl_pass cs hs)
  unfold encode at h
  simp only [List.mem_append] at h
  rcases h with (h | h) | h
  · exact .inl (List.mem_filter.1 h).1
  · split at h
    · cases h
    · rw [List.mem_singleton.1 h]
      exact .inr (by decide)
  · refine .inr (hfold (codes cs) _ ?_ c h)
    intro d hd
    cases hd

end Bootstring

/-! ### Names -/

namespace Name

/-- The pieces of a text hold characters of the text. -/
theorem mem_of_mem_split {sep : Char} {cs p : List Char} (hp : p ∈ split sep cs) {c : Char}
    (hc : c ∈ p) : c ∈ cs := by
  unfold split at hp
  induction cs generalizing p with
  | nil =>
      rw [Text.pieces, List.mem_singleton] at hp
      rw [hp] at hc
      cases hc
  | cons d cs ih =>
      rw [Text.pieces] at hp
      split at hp
      · rcases List.mem_cons.1 hp with rfl | hp
        · cases hc
        · exact List.mem_cons_of_mem d (ih hp hc)
      · cases hpieces : Text.pieces (· == sep) cs with
        | nil => exact absurd hpieces (Text.pieces_ne_nil _ cs)
        | cons q qs =>
            rw [hpieces] at hp ih
            rcases List.mem_cons.1 hp with rfl | hp
            · rcases List.mem_cons.1 hc with rfl | hc
              · exact List.mem_cons_self
              · exact List.mem_cons_of_mem d (ih List.mem_cons_self hc)
            · exact List.mem_cons_of_mem d (ih (List.mem_cons_of_mem q hp) hc)

/-- What is written of a label are its characters, or characters of hosts. -/
theorem mem_of_label? {cs : List Char} {l : Label} (h : label? cs = some l) {c : Char}
    (hc : c ∈ l.ascii) : c ∈ cs ∨ isHostChar c = true := by
  unfold label? at h
  split at h
  -- a label with a mark is kept, once it is known to be an encoding
  · have hl : l.ascii = cs := by
      unfold decoded? at h
      dsimp only at h
      split at h
      · cases h
      · simp only [Option.bind_eq_bind, Option.bind_eq_some_iff] at h
        obtain ⟨chars, -, h⟩ := h
        split at h
        · cases h
          rfl
        · cases h
    exact .inl (hl ▸ hc)
  · split at h
    · cases h
      exact .inl hc
    · split at h
      · cases h
        rcases List.mem_append.1 hc with hc | hc
        · have hmark : ∀ d ∈ mark, isHostChar d = true := by simp [mark, isHostChar]
          exact .inr (hmark c hc)
        · exact Bootstring.mem_encode hc
      · cases h

theorem exists_of_mem_mapM {α β : Type} {f : α → Option β} {as : List α} {bs : List β}
    (h : as.mapM f = some bs) {b : β} (hb : b ∈ bs) : ∃ a ∈ as, f a = some b := by
  induction as generalizing bs with
  | nil =>
      cases h
      cases hb
  | cons a as ih =>
      simp only [List.mapM_cons, Option.bind_eq_bind, Option.bind_eq_some_iff,
        Option.pure_def, Option.some.injEq] at h
      obtain ⟨b', ha, bs', has, rfl⟩ := h
      rcases List.mem_cons.1 hb with rfl | hb
      · exact ⟨a, List.mem_cons_self, ha⟩
      · obtain ⟨a', ha', hf⟩ := ih has hb
        exact ⟨a', List.mem_cons_of_mem a ha', hf⟩

/-- A name holds host characters only. -/
theorem isHostChar_of_ascii? {cs ascii : List Char} (h : ascii? cs = some ascii) :
    ∀ c ∈ ascii, isHostChar c = true := by
  unfold ascii? at h
  simp only [Option.bind_eq_bind, Option.bind_eq_some_iff] at h
  obtain ⟨folded, -, h⟩ := h
  split at h
  · cases h
  · rename_i hforbidden
    simp only [Option.bind_eq_some_iff] at h
    obtain ⟨ls, hls, h⟩ := h
    split at h
    · cases h
      intro c hc
      rcases mem_of_mem_intercalate hc with hc | ⟨p, hp, hc⟩
      · rw [List.mem_singleton.1 hc]
        decide
      · obtain ⟨l, hl, rfl⟩ := List.mem_map.1 hp
        obtain ⟨piece, hpiece, hlabel⟩ := exists_of_mem_mapM hls hl
        rcases mem_of_label? hlabel hc with hc | hc
        · have hmem := mem_of_mem_split hpiece hc
          refine isHostChar_of_not_isForbidden ?_
          simp only [List.any_eq_true, not_exists, not_and, Bool.not_eq_true] at hforbidden
          exact hforbidden c hmem
        · exact hc
    · cases h

end Name

/-! ### Hosts -/

namespace Host

/-- A text of host characters, and at least one of them. -/
def Solid (h : String) : Prop := h ≠ "" ∧ ∀ c ∈ h.toList, isHostChar c = true

theorem solid_fourText (n : Nat) : Solid (fourText n) := by
  refine ⟨fun hempty => ?_, fun c hc => ?_⟩
  · have hnil := congrArg String.toList hempty
    rw [fourText, String.toList_intercalate] at hnil
    simp at hnil
  · rw [fourText, String.toList_intercalate] at hc
    rcases mem_of_mem_intercalate hc with hc | ⟨p, hp, hc⟩
    · rw [List.mem_singleton.1 hc]
      decide
    · obtain ⟨t, ht, rfl⟩ := List.mem_map.1 hp
      obtain ⟨m, -, rfl⟩ := List.mem_map.1 ht
      have hdigits : (ToString.toString m).toList = Nat.toDigits 10 m := Nat.toList_repr
      exact isHostChar_of_mem_toDigits (by omega) (by omega) (hdigits ▸ hc)

theorem isHostChar_groupsText (gs : List Nat) :
    ∀ c ∈ (groupsText gs).toList, isHostChar c = true := by
  intro c hc
  rw [groupsText, String.toList_intercalate] at hc
  rcases mem_of_mem_intercalate hc with hc | ⟨p, hp, hc⟩
  · rw [List.mem_singleton.1 hc]
    decide
  · simp only [List.map_map, List.mem_map, Function.comp_apply, String.toList_ofList] at hp
    obtain ⟨g, -, rfl⟩ := hp
    exact isHostChar_of_mem_toDigits (by omega) (by omega) hc

theorem solid_eightText (gs : List Nat) : Solid (eightText gs) := by
  have hopen : ∀ c ∈ "[".toList, isHostChar c = true := by simp [isHostChar]
  have hgap : ∀ c ∈ "::".toList, isHostChar c = true := by simp [isHostChar]
  have hclose : ∀ c ∈ "]".toList, isHostChar c = true := by simp [isHostChar]
  unfold eightText
  split
  · refine ⟨by simp, fun c hc => ?_⟩
    simp only [String.toList_append, List.mem_append] at hc
    rcases hc with (hc | hc) | hc
    · exact hopen c hc
    · exact isHostChar_groupsText gs c hc
    · exact hclose c hc
  · refine ⟨by simp, fun c hc => ?_⟩
    simp only [String.toList_append, List.mem_append] at hc
    rcases hc with (((hc | hc) | hc) | hc) | hc
    · exact hopen c hc
    · exact isHostChar_groupsText _ c hc
    · exact hgap c hc
    · exact isHostChar_groupsText _ c hc
    · exact hclose c hc

/-- **The normal form of a host holds host characters only**, and at least one of them. -/
theorem solid_of_normal? {cs : List Char} {h : String} (hn : normal? cs = some h) : Solid h := by
  unfold normal? at hn
  split at hn
  · split at hn
    · rw [ofEight?, Option.map_eq_some_iff] at hn
      obtain ⟨gs, -, rfl⟩ := hn
      exact solid_eightText gs
    · cases hn
  · simp only [Option.bind_eq_bind, Option.bind_eq_some_iff] at hn
    obtain ⟨name, -, ascii, hascii, hn⟩ := hn
    split at hn
    · cases hn
    -- a name whose last label is a number is an address of four parts
    · rename_i hne
      split at hn
      · unfold ofFour? at hn
        simp only [Option.bind_eq_bind, Option.bind_eq_some_iff] at hn
        obtain ⟨parts, -, hn⟩ := hn
        split at hn
        · cases hn
        · obtain ⟨n, -, rfl⟩ := Option.map_eq_some_iff.1 hn
          exact solid_fourText n
      · cases hn
        refine ⟨?_, ?_⟩
        · intro hempty
          have hnil := congrArg String.toList hempty
          rw [String.toList_ofList] at hnil
          rw [hnil] at hne
          exact hne rfl
        · rw [String.toList_ofList]
          exact Name.isHostChar_of_ascii? hascii

end Host

end MediaTree.Url
