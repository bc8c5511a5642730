/-
**What stands behind the question mark.**

Of an address of the web, scheme, host, port and path hold neither of the two marks that cut an
address: what the text of the host may not hold is refused, and what the text of a path may not hold
is escaped.  So the first question mark in the text is the one in front of the query, and whatever
pairs an address is given stand behind it, up to the end.

Main definitions:

* `MediaTree.Url.IsUnmarked` — neither mark stands in a text;
* `MediaTree.Url.queryPart` — what stands behind the question mark of a text.

Main results:

* `MediaTree.Url.isAddress_iff` — an address has neither query nor fragment exactly if neither mark
  stands in it;
* `MediaTree.Url.IsAddress.queryPart_withPairs` — **pairs are found behind the question mark**, and
  there is none without pairs.
-/

import MediaTree.Proofs.Url.Base

set_option autoImplicit false
set_option relaxedAutoImplicit false

namespace MediaTree

/-- The form of pairs holds no mark of a fragment. -/
theorem Text.Form.ne_hash_of_mem_encodePairs {ps : List (String × String)} {c : Char}
    (h : c ∈ (encodePairs ps).toList) : c ≠ '#' := by
  have hchars {s : String} (hc : c ∈ encodeChars s) : c ≠ '#' := by
    rintro rfl
    rcases mem_encodeChars hc with h | h | h <;> revert h <;> decide
  rw [encodePairs, String.toList_ofList] at h
  rcases Url.mem_of_mem_intercalate h with hc | ⟨pair, hpair, hc⟩
  · rw [List.mem_singleton.1 hc]
    decide
  · obtain ⟨p, -, rfl⟩ := List.mem_map.1 hpair
    rcases List.mem_append.1 hc with hc | hc
    · exact hchars hc
    · rcases List.mem_cons.1 hc with rfl | hc
      · decide
      · exact hchars hc

namespace Url

/-! ### Texts without marks -/

/-- Neither the mark of a fragment nor that of a query stands in a text. -/
def IsUnmarked (cs : List Char) : Prop := ∀ c ∈ cs, c ≠ '#' ∧ c ≠ '?'

theorem isUnmarked_append {cs ds : List Char} :
    IsUnmarked (cs ++ ds) ↔ IsUnmarked cs ∧ IsUnmarked ds :=
  List.forall_mem_append

/-- Only blanks, control characters and line breaks are dropped from a text. -/
theorem mem_clean {cs : List Char} {c : Char} :
    (c ∈ clean cs → c ∈ cs) ∧ (c ∈ cs → 0x20 < c.toNat → c ∈ clean cs) := by
  have hdrop {ds : List Char} (hc : c ∈ ds) (hplain : 0x20 < c.toNat) : c ∈ ds.dropWhile isGap := by
    rw [← List.takeWhile_append_dropWhile (p := isGap) (l := ds), List.mem_append] at hc
    rcases hc with hc | hc
    · have hgap := List.all_eq_true.1 List.all_takeWhile c hc
      simp only [isGap, decide_eq_true_eq] at hgap
      omega
    · exact hc
  have hclean : clean cs =
      ((cs.dropWhile isGap).reverse.dropWhile isGap).reverse.filter staysIn := rfl
  rw [hclean, List.mem_filter, List.mem_reverse]
  constructor
  · rintro ⟨hc, -⟩
    have hc := (List.dropWhile_sublist isGap).mem hc
    exact (List.dropWhile_sublist isGap).mem (List.mem_reverse.1 hc)
  · intro hc hplain
    refine ⟨hdrop (List.mem_reverse.2 (hdrop hc hplain)) hplain, ?_⟩
    simp only [staysIn, ne_eq, decide_eq_true_eq]
    refine ⟨?_, ?_, ?_⟩ <;> rintro rfl <;> revert hplain <;> decide

/-- Marks are never dropped. -/
theorem isUnmarked_clean {cs : List Char} : IsUnmarked (clean cs) ↔ IsUnmarked cs := by
  constructor
  · intro h c hc
    constructor <;> rintro rfl
    · exact (h _ (mem_clean.2 hc (by decide))).1 rfl
    · exact (h _ (mem_clean.2 hc (by decide))).2 rfl
  · exact fun h c hc => h c (mem_clean.1 hc)

variable {s : String} {u : Url}

/-- **An address of the web has neither query nor fragment** exactly if neither mark stands in its
text. -/
theorem isAddress_iff : IsAddress s u ↔ parse s = .ok u ∧ u.IsWeb ∧ IsUnmarked s.toList := by
  constructor
  · intro hs
    exact ⟨hs.parsed, hs.web, isUnmarked_clean.1 (parse_eq_usual hs).1⟩
  · rintro ⟨hparse, hweb, hmarks⟩
    have hmarks := isUnmarked_clean.2 hmarks
    have hread := hparse
    unfold parse at hread
    rw [cut_eq_of_forall (p := (· == '#')) fun c hc => by simpa using (hmarks c hc).1] at hread
    simp only [cut_eq_of_forall (p := (· == '?')) fun c hc => by simpa using (hmarks c hc).2,
      Option.map_none] at hread
    split at hread
    · cases hread
    · split at hread
      -- files have rules of their own, and are not of the web
      · rw [IsWeb, scheme_parseFile hread] at hweb
        exact absurd hweb (by decide)
      · split at hread
        · obtain ⟨-, hquery, hfragment⟩ := scheme_parseUsual hread
          exact ⟨hparse, hweb, hquery, hfragment⟩
        · rename_i hother
          have hscheme := scheme_parseOther hread
          rw [IsWeb, hscheme] at hweb
          rcases hweb with rfl | rfl <;> exact absurd rfl hother

/-! ### The text in front of the query -/

theorem not_mark_of_isHostChar {c : Char} (h : isHostChar c = true) : c ≠ '#' ∧ c ≠ '?' := by
  constructor <;> rintro rfl <;> revert h <;> decide

/-- A segment that is read holds no mark, since marks are escaped. -/
theorem isUnmarked_of_segment {cs : List Char} {name : String}
    (h : Segment.of cs = .down name) : IsUnmarked name.toList := by
  intro c hc
  unfold Segment.of at h
  split at h
  · cases h
  · split at h
    · cases h
    · cases h
      rw [escaped, String.toList_ofList] at hc
      constructor <;> rintro rfl <;>
        rcases Text.Percent.mem_encode hc with ⟨-, h⟩ | h | h <;> revert h <;> decide

/-- The text of an address of the web up to the end of its path holds no mark. -/
theorem isUnmarked_textWith (hweb : u.IsWeb) {h : String} (hhost : u.host = some h)
    (hsolid : Host.Solid h) {ss : List String} (hss : ∀ n ∈ ss, IsUnmarked n.toList) :
    IsUnmarked (u.textWith ss).toList := by
  have hscheme : IsUnmarked u.scheme.toList := by
    rcases hweb with h | h <;> rw [h] <;> simp [IsUnmarked]
  have hhostText : IsUnmarked h.toList := fun c hc => not_mark_of_isHostChar (hsolid.2 c hc)
  have hplace : IsUnmarked u.authorityText.toList := by
    rw [authorityText, hhost]
    simp only [String.toList_append, isUnmarked_append]
    refine ⟨⟨by simp [IsUnmarked], hhostText⟩, ?_⟩
    cases u.port with
    | none => exact List.forall_mem_nil _
    | some p =>
        have hdigits : (ToString.toString p).toList = Nat.toDigits 10 p := Nat.toList_repr
        simp only [String.toList_append, isUnmarked_append]
        refine ⟨by simp [IsUnmarked], fun c hc => ?_⟩
        exact not_mark_of_isHostChar
          (isHostChar_of_mem_toDigits (by omega) (by omega) (hdigits ▸ hc))
  have hpath : IsUnmarked (Path.segments ss).text.toList := by
    rw [toList_text]
    intro c hc
    obtain ⟨n, hn, hc⟩ := List.mem_flatMap.1 hc
    rcases List.mem_cons.1 hc with rfl | hc
    · decide
    · exact hss n hn c hc
  rw [textWith]
  simp only [String.toList_append, isUnmarked_append]
  exact ⟨⟨⟨hscheme, by simp [IsUnmarked]⟩, hplace⟩, hpath⟩

/-- An address with pairs is a text without marks, and the pairs behind it. -/
theorem IsAddress.exists_toString_withPairs (hs : IsAddress s u) :
    ∃ front : String, IsUnmarked front.toList ∧ ∀ ps, (u.withPairs ps).toString =
      front ++ if ps = [] then "" else "?" ++ Text.Form.encodePairs ps := by
  obtain ⟨host, path, hhost, hsolid, hpath⟩ := hs.parts
  obtain ⟨ss, hss, -, hsegments⟩ : ∃ ss, pathOf isSlash path = .segments ss ∧ ss ≠ [] ∧
      ∀ n ∈ ss, IsUnmarked n.toList :=
    forall_mem_pathOf (List.forall_mem_nil _) fun _ _ _ hname => isUnmarked_of_segment hname
  rw [hss] at hpath
  refine ⟨u.textWith ss, isUnmarked_textWith hs.web hhost hsolid hsegments, fun ps => ?_⟩
  have htext : (u.withPairs ps).textWith ss = u.textWith ss := rfl
  have htail : (u.withPairs ps).tailText =
      if ps = [] then "" else "?" ++ Text.Form.encodePairs ps := by
    have hform : Text.Form.encodePairs ps = "" ↔ ps = [] :=
      ⟨fun h => Text.Form.encodePairs_injective (h.trans rfl), fun h => h ▸ rfl⟩
    by_cases hps : ps = []
    · rw [if_pos hps]
      simp [tailText, withPairs, hs.query, hs.fragment, hform.2 hps]
    · simp [tailText, withPairs, hs.query, hs.fragment, hps, hform]
  rw [toString_eq (u := u.withPairs ps) hhost hpath, htext, htail]

/-! ### The query -/

/-- What stands behind the question mark of a text, up to the mark of a fragment. -/
def queryPart (text : String) : Option String :=
  (cut (· == '?') (cut (· == '#') text.toList).1).2.map String.ofList

/-- **Pairs are found behind the question mark**, and there is none without pairs. -/
theorem IsAddress.queryPart_withPairs (hs : IsAddress s u) (ps : List (String × String)) :
    queryPart (u.withPairs ps).toString =
        (if ps = [] then none else some (Text.Form.encodePairs ps)) ∧
      ('?' ∈ (u.withPairs ps).toString.toList ↔ ps ≠ []) := by
  obtain ⟨front, hfront, htext⟩ := hs.exists_toString_withPairs
  have hquestion : ∀ c ∈ front.toList, (c == '?') = false := fun c hc => by
    simpa using (hfront c hc).2
  have hmissing : '?' ∉ front.toList := fun hc => (hfront _ hc).2 rfl
  rw [htext ps, queryPart]
  by_cases hps : ps = []
  · have hhash : ∀ c ∈ front.toList, (c == '#') = false := fun c hc => by
      simpa using (hfront c hc).1
    simp [hps, cut_eq_of_forall hhash, cut_eq_of_forall hquestion, hmissing]
  · have hmark : "?".toList = ['?'] := rfl
    have hhash : ∀ c ∈ front.toList ++ '?' :: (Text.Form.encodePairs ps).toList,
        (c == '#') = false := by
      intro c hc
      rw [beq_eq_false_iff_ne]
      rcases List.mem_append.1 hc with hc | hc
      · exact (hfront c hc).1
      · rcases List.mem_cons.1 hc with rfl | hc
        · decide
        · exact Text.Form.ne_hash_of_mem_encodePairs hc
    rw [if_neg hps, if_neg hps, String.toList_append, String.toList_append, hmark,
      List.singleton_append, cut_eq_of_forall hhash]
    simp only [cut_append_of_forall hquestion (beq_self_eq_true '?'), Option.map_some,
      String.ofList_toList]
    simp [hps]

end Url

end MediaTree
