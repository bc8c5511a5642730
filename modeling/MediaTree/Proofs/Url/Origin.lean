/-
**Who is asked stands in front of the path.**

An address says who is asked before it says for what.  The text of a host, a slash and a word of
plain characters settle scheme, host and port: nothing that is written behind them as segments is
read as another part of the address, however it is spelled, because all that is written of segments
are plain characters and slashes.  This holds of every text in front, also of one that is no address
at all, ends in a blank, holds a question mark, or names nobody but by the word that follows.

Main definitions:

* `MediaTree.Url.lead` — what stands in front of query and fragment;
* `MediaTree.Url.asked?` — who is asked by a text, if it is an address of the web.

Main results:

* `MediaTree.Url.asked?_eq_some_iff` — who is asked is the origin that reading finds;
* `MediaTree.Url.asked?_slashed` — **segments do not change who is asked**.
-/

import MediaTree.Proofs.Url.Extend

set_option autoImplicit false
set_option relaxedAutoImplicit false

namespace MediaTree.Url

/-! ### Who is asked -/

/-- What stands in front of query and fragment. -/
def lead (s : String) : List Char :=
  (cut (· == '?') (cut (· == '#') (clean s.toList)).1).1

/-- The place behind the slashes that lead to it. -/
def placeText (rest : List Char) : List Char := (cut isSlash (rest.dropWhile isSlash)).1

/-- Who is asked at a place by a scheme of the web. -/
def seated? (scheme : String) (place : List Char) : Option Origin :=
  match (Place.of place).hostBy Host.normal?, (Place.of place).portFor scheme with
  | .ok host, .ok port => some ⟨scheme, some host, port⟩
  | _, _ => none

/-- Who is asked by a text, if it is an address of the web. -/
def asked? (s : String) : Option Origin :=
  match schemeOf? (lead s) with
  | some (scheme, rest) =>
    if scheme = "http" ∨ scheme = "https" then seated? scheme (placeText rest) else none
  | none => none

/-- An address of the web asks who sits at its place. -/
theorem map_origin_parseUsual (scheme : String) (rest : List Char)
    (query fragment : Option String) :
    (parseUsual scheme rest query fragment).toOption.map origin =
      seated? scheme (placeText rest) := by
  simp only [parseUsual, seated?, placeText, bind, Except.bind]
  cases (Place.of (cut isSlash (rest.dropWhile isSlash)).1).hostBy Host.normal? with
  | error e => rfl
  | ok host =>
      cases (Place.of (cut isSlash (rest.dropWhile isSlash)).1).portFor scheme <;> rfl

/-- Reading a text goes on behind the scheme of its lead. -/
theorem parse_of_lead {s : String} {scheme : String} {rest : List Char}
    (h : schemeOf? (lead s) = some (scheme, rest)) :
    ∃ query fragment, parse s =
      if scheme = "file" then parseFile rest query fragment
      else if (usualPort? scheme).isSome then parseUsual scheme rest query fragment
      else parseOther scheme rest query fragment := by
  unfold parse
  simp only [lead] at h
  simp only [h]
  exact ⟨_, _, rfl⟩

/-- **Who is asked by a text** is the origin of what reading finds, if that is of the web. -/
theorem asked?_eq_some_iff (s : String) (o : Origin) :
    asked? s = some o ↔ ∃ u, parse s = .ok u ∧ u.IsWeb ∧ u.origin = o := by
  cases hscheme : schemeOf? (lead s) with
  | none =>
      have hparse : parse s = .error .relative := by
        unfold parse
        simp only [lead] at hscheme
        simp only [hscheme]
      simp [asked?, hscheme, hparse]
  | some p =>
      obtain ⟨scheme, rest⟩ := p
      obtain ⟨query, fragment, hparse⟩ := parse_of_lead hscheme
      simp only [asked?, hscheme]
      by_cases hweb : scheme = "http" ∨ scheme = "https"
      · have hfile : scheme ≠ "file" := by rcases hweb with rfl | rfl <;> decide
        have husual : (usualPort? scheme).isSome = true := by rcases hweb with rfl | rfl <;> rfl
        rw [if_neg hfile, if_pos husual] at hparse
        rw [if_pos hweb, ← map_origin_parseUsual scheme rest query fragment, hparse]
        cases husual' : parseUsual scheme rest query fragment with
        | error e => simp [Except.toOption]
        | ok u =>
            have hu : u.IsWeb := by
              rw [IsWeb, (scheme_parseUsual husual').1]
              exact hweb
            simp [Except.toOption, hu]
      · rw [if_neg hweb]
        -- whatever else is read has the scheme of the text
        have hscheme' (u : Url) (hu : parse s = .ok u) : u.scheme = scheme := by
          rw [hparse] at hu
          split at hu
          · rename_i hfile
            rw [scheme_parseFile hu, hfile]
          · split at hu
            · exact (scheme_parseUsual hu).1
            · exact scheme_parseOther hu
        simp only [reduceCtorEq, false_iff, not_exists, not_and]
        intro u hu hw
        rw [IsWeb, hscheme' u hu] at hw
        exact absurd hw hweb

/-! ### Segments behind the text of a host -/

/-- What is written of segments begins no other part of an address. -/
theorem bounds_of_mem_slashed {names : List String} {c : Char} (h : c ∈ slashed names) :
    0x20 < c.toNat ∧ c ≠ '#' ∧ c ≠ '?' ∧ c ≠ ':' := by
  obtain ⟨n, -, hc⟩ := List.mem_flatMap.1 h
  rcases List.mem_cons.1 hc with rfl | hc
  · decide
  · rw [Text.Percent.toList_segment] at hc
    have hplain := isPlain_bounds (isPlain_of_mem hc)
    refine ⟨hplain.1, hplain.2.2.1, hplain.2.2.2, ?_⟩
    -- a colon may stand in a path, but in a segment it is escaped
    rintro rfl
    rcases Text.Percent.mem_encode hc with ⟨-, h⟩ | h | h <;> revert h <;> decide

/-- Behind segments the text is cut where it is without them. -/
theorem cut_append_fst {p : Char → Bool} {ds : List Char} (hds : ∀ d ∈ ds, p d = false)
    (cs : List Char) :
    (cut p (cs ++ ds)).1 = (cut p cs).1 ++ if (cut p cs).2.isSome then [] else ds := by
  cases hcut : cut p cs with
  | mk front back =>
      cases back with
      | some back => simp [cut_append_of_some hcut]
      | none =>
          obtain ⟨hfront, hcs⟩ := cut_of_none (congrArg Prod.snd hcut)
          have hfront : front = cs := by rwa [hcut] at hfront
          have hall : ∀ c ∈ cs ++ ds, p c = false := fun c hc => by
            rcases List.mem_append.1 hc with hc | hc
            · exact hcs c hc
            · exact hds c hc
          simp [cut_eq_of_forall hall, hfront]

/-- Segments are part of what stands in front of query and fragment, or all of them are not. -/
theorem lead_slashed (s : String) :
    ∃ front, (∀ names ≠ [], lead (s ++ String.ofList (slashed names)) = front) ∨
      ∀ names ≠ [], lead (s ++ String.ofList (slashed names)) = front ++ slashed names := by
  let text := (s.toList.dropWhile isGap).filter staysIn
  have hclean (names : List String) (hne : names ≠ []) :
      clean (s ++ String.ofList (slashed names)).toList = text ++ slashed names := by
    obtain ⟨n, names, rfl⟩ := List.exists_cons_of_ne_nil hne
    rw [String.toList_append, String.toList_ofList]
    exact clean_append_of_forall s.toList (by simp [slashed_cons])
      fun c hc => (bounds_of_mem_slashed hc).1
  have hhash (names : List String) : ∀ c ∈ slashed names, (c == '#') = false := fun c hc => by
    simpa using (bounds_of_mem_slashed hc).2.1
  have hquestion (names : List String) : ∀ c ∈ slashed names, (c == '?') = false := fun c hc => by
    simpa using (bounds_of_mem_slashed hc).2.2.1
  -- a mark in front of the segments cuts all of them off
  cases hcut : (cut (· == '#') text).2 with
  | some back =>
      refine ⟨(cut (· == '?') (cut (· == '#') text).1).1, .inl fun names hne => ?_⟩
      rw [lead, hclean names hne, cut_append_fst (hhash names), hcut]
      simp
  | none =>
      cases hcut' : (cut (· == '?') (cut (· == '#') text).1).2 with
      | some back =>
          refine ⟨(cut (· == '?') (cut (· == '#') text).1).1, .inl fun names hne => ?_⟩
          rw [lead, hclean names hne, cut_append_fst (hhash names), hcut]
          simp [cut_append_fst (hquestion names), hcut']
      | none =>
          refine ⟨(cut (· == '?') (cut (· == '#') text).1).1, .inr fun names hne => ?_⟩
          rw [lead, hclean names hne, cut_append_fst (hhash names), hcut]
          simp [cut_append_fst (hquestion names), hcut']

/-- Without a colon behind it, a text has the scheme that it has. -/
theorem schemeOf?_append_of_forall (cs : List Char) {ds : List Char} (hds : ∀ d ∈ ds, d ≠ ':') :
    schemeOf? (cs ++ ds) = (schemeOf? cs).map fun p => (p.1, p.2 ++ ds) := by
  cases hscheme : schemeOf? cs with
  | some p => exact schemeOf?_append hscheme ds
  | none =>
      unfold schemeOf? at hscheme ⊢
      cases hcut : cut (· == ':') cs with
      | mk front back =>
          cases back with
          | some back =>
              -- what stands in front of the colon is no scheme, so nothing behind it makes it one
              simp only [hcut] at hscheme
              simp only [cut_append_of_some hcut]
              cases front with
              | nil => rfl
              | cons c name =>
                  simp only [ite_eq_right_iff, reduceCtorEq, imp_false] at hscheme
                  exact if_neg hscheme
          | none =>
              obtain ⟨-, hcs⟩ := cut_of_none (congrArg Prod.snd hcut)
              have hall : ∀ c ∈ cs ++ ds, (c == ':') = false := fun c hc => by
                rcases List.mem_append.1 hc with hc | hc
                · exact hcs c hc
                · simpa using hds c hc
              simp only [cut_eq_of_forall hall]
              cases cs ++ ds <;> rfl

/-- The place is settled by what stands in front of the segments, and by the first of them where
nothing but slashes stands there. -/
theorem placeText_slashed (rest : List Char) {word : String} (hword : word ≠ "")
    {names : List String} (hnames : names ≠ []) :
    placeText (rest ++ slashed (word :: names)) =
      if rest.dropWhile isSlash = [] then (Text.Percent.segment word).toList
      else (cut isSlash (rest.dropWhile isSlash)).1 := by
  have hslash : ∀ c ∈ (Text.Percent.segment word).toList, isSlash c = false := fun c hc =>
    isSlash_of_isPlain (isPlain_of_mem (Text.Percent.toList_segment word ▸ hc))
  have hmark : isSlash '/' = true := rfl
  obtain ⟨n, names, rfl⟩ := List.exists_cons_of_ne_nil hnames
  obtain ⟨c, cs, hcs⟩ : ∃ c cs, (Text.Percent.segment word).toList = c :: cs :=
    List.exists_cons_of_ne_nil fun hnil => hword (Text.Percent.segment_injective
      (String.toList_inj.1 (hnil.trans (by decide : [] = (Text.Percent.segment "").toList))))
  have hback : slashed (word :: n :: names) =
      '/' :: ((Text.Percent.segment word).toList ++
        '/' :: ((Text.Percent.segment n).toList ++ slashed names)) := rfl
  rw [placeText, List.dropWhile_append, hback]
  by_cases hrest : rest.dropWhile isSlash = []
  · -- the slash in front of the word is one of many
    have hc : isSlash c = false := hslash c (hcs ▸ List.mem_cons_self)
    have hdrop : ('/' :: ((Text.Percent.segment word).toList ++
        '/' :: ((Text.Percent.segment n).toList ++ slashed names))).dropWhile isSlash =
          (Text.Percent.segment word).toList ++
            '/' :: ((Text.Percent.segment n).toList ++ slashed names) := by
      rw [hcs, List.dropWhile_cons_of_pos rfl, List.cons_append,
        List.dropWhile_cons_of_neg (by simp [hc])]
    rw [hrest, if_pos List.isEmpty_nil, if_pos rfl, hdrop, cut_append_of_forall hslash hmark]
  · have hempty : (rest.dropWhile isSlash).isEmpty = false := by simpa using hrest
    rw [hempty, if_neg hrest]
    cases hcut : cut isSlash (rest.dropWhile isSlash) with
    | mk place path =>
        cases path with
        | some path => simp [cut_append_of_some hcut]
        | none =>
            obtain ⟨hplace, hplain⟩ := cut_of_none (congrArg Prod.snd hcut)
            have hplace : place = rest.dropWhile isSlash := by rwa [hcut] at hplace
            simp [cut_append_of_forall hplain hmark, hplace]

/-- **Segments do not change who is asked**, whatever stands in front of the first of them. -/
theorem asked?_slashed (s : String) {word : String} (hword : word ≠ "") {names names' : List String}
    (hnames : names ≠ []) (hnames' : names' ≠ []) :
    asked? (s ++ String.ofList (slashed (word :: names))) =
      asked? (s ++ String.ofList (slashed (word :: names'))) := by
  obtain ⟨front, hlead | hlead⟩ := lead_slashed s
  · rw [asked?, asked?, hlead _ (by simp), hlead _ (by simp)]
  · have hcolon (names : List String) : ∀ c ∈ slashed names, c ≠ ':' :=
      fun c hc => (bounds_of_mem_slashed hc).2.2.2
    rw [asked?, asked?, hlead _ (by simp), hlead _ (by simp),
      schemeOf?_append_of_forall front (hcolon _), schemeOf?_append_of_forall front (hcolon _)]
    cases schemeOf? front with
    | none => rfl
    | some p =>
        simp only [Option.map_some, placeText_slashed p.2 hword hnames,
          placeText_slashed p.2 hword hnames']

end MediaTree.Url
