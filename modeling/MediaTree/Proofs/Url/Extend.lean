/-
**Addresses with segments behind them.**

To ask for a record, segments are written behind the address of a server.  Reading the longer
address finds the same scheme, host and port, the path that the shorter one has, and the segments
behind it.  All stages of reading look at the text from the front, and what is added neither begins
another part nor ends the one that it is added to; only a slash at the end of the path, which a dot
segment leaves behind, goes.

Main definitions:

* `MediaTree.Url.IsWeb` — the scheme of an address is one of the two that are spoken;
* `MediaTree.Url.IsAddress` — a text is an address without query and fragment;
* `MediaTree.Url.Locates` — a text is the address of a server.

Main results:

* `MediaTree.Url.parse_eq_usual` — what is known of an address of the web;
* `MediaTree.Url.parse_slashed` — **segments behind an address are segments of its path**.
-/

import MediaTree.Proofs.Url.Segments

set_option autoImplicit false
set_option relaxedAutoImplicit false

namespace MediaTree.Url

/-- The scheme is one of the two that are spoken. -/
def IsWeb (u : Url) : Prop := u.scheme = "http" ∨ u.scheme = "https"

instance (u : Url) : Decidable u.IsWeb := by unfold IsWeb; infer_instance

/-- The text ends in neither a blank nor a slash. -/
def EndsPlain (s : String) : Prop :=
  ∃ c ∈ s.toList.getLast?, 0x20 < c.toNat ∧ isSlash c = false

/-- The text is an address of the web without query and fragment. -/
structure IsAddress (s : String) (u : Url) : Prop where
  parsed : parse s = .ok u
  web : u.IsWeb
  query : u.query = none
  fragment : u.fragment = none

/-- A text locates a server if it is such an address and ends in neither a blank nor a slash. -/
structure Locates (s : String) (u : Url) : Prop extends IsAddress s u where
  ends : EndsPlain s

/-! ### Cutting longer texts -/

/-- Where nothing is cut off, the text is kept, and holds no character to cut at. -/
theorem cut_of_none {p : Char → Bool} {cs : List Char} (h : (cut p cs).2 = none) :
    (cut p cs).1 = cs ∧ ∀ c ∈ cs, p c = false := by
  induction cs with
  | nil => simp [cut]
  | cons c cs ih =>
      rw [cut] at h ⊢
      split at h
      · cases h
      · rename_i hc
        obtain ⟨hkept, hnone⟩ := ih h
        rw [if_neg hc]
        simp only [Bool.not_eq_true] at hc
        exact ⟨by simp [hkept], by simpa [hc] using hnone⟩

theorem cut_eq_of_forall {p : Char → Bool} {cs : List Char} (h : ∀ c ∈ cs, p c = false) :
    cut p cs = (cs, none) := by
  induction cs with
  | nil => rfl
  | cons c cs ih =>
      rw [cut, ih fun d hd => h d (by simp [hd])]
      simp [h c (by simp)]

/-- A text that is cut has the character between its two parts. -/
theorem eq_append_of_cut {p : Char → Bool} {cs front back : List Char}
    (h : cut p cs = (front, some back)) : ∃ c, p c = true ∧ cs = front ++ c :: back := by
  induction cs generalizing front with
  | nil => simp [cut] at h
  | cons c cs ih =>
      rw [cut] at h
      split at h
      · rename_i hc
        simp only [Prod.mk.injEq, Option.some.injEq] at h
        exact ⟨c, hc, by simp [← h.1, h.2]⟩
      · simp only [Prod.mk.injEq] at h
        obtain ⟨d, hd, hcs⟩ := ih (Prod.ext rfl h.2)
        exact ⟨d, hd, by rw [← h.1, List.cons_append, ← hcs]⟩

/-- Behind a cut, the text only gets longer. -/
theorem cut_append_of_some {p : Char → Bool} {cs front back : List Char}
    (h : cut p cs = (front, some back)) (ds : List Char) :
    cut p (cs ++ ds) = (front, some (back ++ ds)) := by
  induction cs generalizing front with
  | nil => simp [cut] at h
  | cons c cs ih =>
      rw [List.cons_append, cut]
      rw [cut] at h
      split at h
      · rename_i hc
        simp only [Prod.mk.injEq, Option.some.injEq] at h
        obtain ⟨rfl, rfl⟩ := h
        rw [if_pos hc]
      · rename_i hc
        rw [if_neg hc]
        simp only [Prod.mk.injEq] at h
        have hcs : cut p cs = ((cut p cs).1, some back) := Prod.ext rfl h.2
        rw [ih hcs, ← h.1]

/-- A text that is not cut is cut where the longer one has the character. -/
theorem cut_append_of_forall {p : Char → Bool} {cs : List Char} (h : ∀ c ∈ cs, p c = false)
    {d : Char} (hd : p d = true) (ds : List Char) :
    cut p (cs ++ d :: ds) = (cs, some ds) := by
  induction cs with
  | nil => simp [cut, hd]
  | cons c cs ih =>
      rw [List.cons_append, cut, ih fun e he => h e (by simp [he])]
      simp [h c (by simp)]

/-! ### Longer texts, stage by stage -/

/-- A blank or control character, as they are dropped around an address. -/
def isGap (c : Char) : Bool := c.toNat ≤ 0x20

/-- Characters that stay inside an address. -/
def staysIn (c : Char) : Bool := c ≠ '\t' ∧ c ≠ '\n' ∧ c ≠ '\r'

theorem dropWhile_isGap (cs ds : List Char) {c : Char} (hc : 0x20 < c.toNat) :
    (cs ++ c :: ds).dropWhile isGap = cs.dropWhile isGap ++ c :: ds := by
  have hgap : isGap c = false := by simp [isGap, hc]
  induction cs with
  | nil => simp [hgap]
  | cons d cs ih =>
      rw [List.cons_append, List.dropWhile_cons, List.dropWhile_cons, ih]
      split <;> rfl

/-- A text that does not end in a blank loses blanks in front only. -/
theorem clean_concat (cs : List Char) {c : Char} (hc : 0x20 < c.toNat) :
    clean (cs ++ [c]) = (cs.dropWhile isGap ++ [c]).filter staysIn := by
  have hgap : isGap c = false := by simp [isGap, hc]
  have hfront := dropWhile_isGap cs [] hc
  show ((((cs ++ [c]).dropWhile isGap).reverse.dropWhile isGap).reverse.filter staysIn) = _
  rw [hfront, List.reverse_append, List.reverse_singleton, List.singleton_append,
    List.dropWhile_cons_of_neg (by simp [hgap])]
  simp

/-- What is added without blanks is kept, and keeps the text in front of it from ending in them. -/
theorem clean_append_of_forall (cs : List Char) {ds : List Char} (hne : ds ≠ [])
    (hds : ∀ d ∈ ds, 0x20 < d.toNat) :
    clean (cs ++ ds) = (cs.dropWhile isGap).filter staysIn ++ ds := by
  have hstays : ds.filter staysIn = ds := by
    rw [List.filter_eq_self]
    intro d hd
    have hd := hds d hd
    simp only [staysIn, ne_eq, decide_eq_true_eq]
    refine ⟨?_, ?_, ?_⟩ <;> rintro rfl <;> revert hd <;> decide
  have hfront : (cs ++ ds).dropWhile isGap = cs.dropWhile isGap ++ ds := by
    obtain ⟨c, ds, rfl⟩ := List.exists_cons_of_ne_nil hne
    exact dropWhile_isGap cs ds (hds c (by simp))
  -- blanks at the end are dropped from behind, so the last character decides
  rcases List.eq_nil_or_concat ds with hnil | ⟨back, d, hback⟩
  · exact absurd hnil hne
  · rw [List.concat_eq_append] at hback
    have hd : 0x20 < d.toNat := hds d (by simp [hback])
    have hsplit : cs ++ ds = (cs ++ back) ++ [d] := by rw [hback, List.append_assoc]
    rw [hsplit, clean_concat _ hd, ← dropWhile_isGap (cs ++ back) [] hd, ← hsplit, hfront,
      List.filter_append, hstays]

/-- Blanks are dropped around the text and inside it, not from what is added. -/
theorem clean_append {s : String} (hs : EndsPlain s) {ds : List Char}
    (hds : ∀ d ∈ ds, 0x20 < d.toNat) : clean (s.toList ++ ds) = clean s.toList ++ ds := by
  obtain ⟨c, hlast, hc, -⟩ := hs
  obtain ⟨front, hfront⟩ := List.getLast?_eq_some_iff.1 hlast
  have hsingle : ∀ d ∈ [c], 0x20 < d.toNat := by simpa using hc
  have hends : ∀ d ∈ [c] ++ ds, 0x20 < d.toNat := fun d hd => by
    rcases List.mem_append.1 hd with hd | hd
    · exact hsingle d hd
    · exact hds d hd
  rw [hfront, List.append_assoc, clean_append_of_forall front (by simp) hends,
    clean_append_of_forall front (by simp) hsingle, List.append_assoc]

/-- The scheme is found in front of what is added. -/
theorem schemeOf?_append {cs rest : List Char} {scheme : String}
    (h : schemeOf? cs = some (scheme, rest)) (ds : List Char) :
    schemeOf? (cs ++ ds) = some (scheme, rest ++ ds) := by
  unfold schemeOf? at h ⊢
  split at h
  · rename_i c name back hcut
    rw [cut_append_of_some hcut]
    split at h
    · rename_i hname
      simp only [Option.some.injEq, Prod.mk.injEq] at h
      obtain ⟨rfl, rfl⟩ := h
      simp [hname]
    · cases h
  · cases h

/-! ### Addresses of the web -/

theorem scheme_parseUsual {scheme : String} {cs : List Char} {query fragment : Option String}
    {u : Url} (h : parseUsual scheme cs query fragment = .ok u) :
    u.scheme = scheme ∧ u.query = query ∧ u.fragment = fragment := by
  unfold parseUsual at h
  simp only [bind, Except.bind] at h
  split at h
  · cases h
  · split at h
    · cases h
    · cases h
      exact ⟨rfl, rfl, rfl⟩

theorem scheme_parseFile {cs : List Char} {query fragment : Option String} {u : Url}
    (h : parseFile cs query fragment = .ok u) : u.scheme = "file" := by
  unfold parseFile at h
  split at h
  · split at h
    · split at h
      split at h
      · cases h
        rfl
      · simp only [bind, Except.bind] at h
        split at h <;> cases h
        rfl
    · cases h
      rfl
  · cases h
    rfl
  · cases h
    rfl

theorem scheme_parseOther {scheme : String} {cs : List Char} {query fragment : Option String}
    {u : Url} (h : parseOther scheme cs query fragment = .ok u) : u.scheme = scheme := by
  unfold parseOther at h
  split at h
  · rename_i rest
    simp only [parsePlaced, bind, Except.bind, throw, throwThe, MonadExceptOf.throw] at h
    split at h
    · cases h
    · split at h
      · cases h
      · split at h
        · cases h
        · split at h
          · cases h
          · cases h
            rfl
  · cases h
    rfl
  · cases h
    rfl

/-- The parts of a text that is read as an address of the web without query and fragment: nothing
is cut off, and what stands behind the scheme is read by the rules of the web. -/
theorem parse_eq_usual {s : String} {u : Url} (hs : IsAddress s u) :
    (∀ c ∈ clean s.toList, c ≠ '#' ∧ c ≠ '?') ∧
      ∃ rest, schemeOf? (clean s.toList) = some (u.scheme, rest) ∧
        parseUsual u.scheme rest none none = .ok u := by
  obtain ⟨h, hu, hquery, hfragment⟩ := hs
  unfold parse at h
  simp only at h
  split at h
  · cases h
  · rename_i scheme rest hscheme
    split at h
    -- files have rules of their own, and are not of the web
    · rw [IsWeb, scheme_parseFile h] at hu
      exact absurd hu (by decide)
    · split at h
      · obtain ⟨rfl, hq, hf⟩ := scheme_parseUsual h
        rw [hquery, eq_comm, Option.map_eq_none_iff] at hq
        rw [hfragment, eq_comm, Option.map_eq_none_iff] at hf
        -- no part was cut off, so the whole text stands in front of both marks
        obtain ⟨hfront, hhash⟩ := cut_of_none hf
        rw [hfront] at hq hscheme
        obtain ⟨hfront', hquestion⟩ := cut_of_none hq
        rw [hfront'] at hscheme
        refine ⟨fun c hc => ?_, rest, hscheme, ?_⟩
        · exact ⟨by simpa using hhash c hc, by simpa using hquestion c hc⟩
        · rw [hf, hfront, hq] at h
          exact h
      · rename_i hother
        have hs := scheme_parseOther h
        rw [IsWeb, hs] at hu
        rcases hu with rfl | rfl <;> exact absurd rfl hother

/-- What is behind the scheme has somebody in it. -/
theorem dropWhile_ne_nil_of_parseUsual {scheme : String} {cs : List Char}
    {query fragment : Option String} {u : Url} (h : parseUsual scheme cs query fragment = .ok u) :
    cs.dropWhile isSlash ≠ [] := by
  intro hnil
  have hhost : (Place.of []).hostBy Host.normal? = .error .host := rfl
  unfold parseUsual at h
  rw [hnil] at h
  simp only [cut, hhost, bind, Except.bind] at h
  cases h

/-- Two texts with the same place in front of their paths are addresses of that place. -/
theorem parseUsual_of_place {scheme : String} {cs ds place : List Char}
    {path path' : Option (List Char)} {u : Url}
    (hcs : cut isSlash (cs.dropWhile isSlash) = (place, path))
    (hds : cut isSlash (ds.dropWhile isSlash) = (place, path'))
    (h : parseUsual scheme cs none none = .ok u) :
    u.path = pathOf isSlash (path.getD []) ∧
      parseUsual scheme ds none none = .ok { u with path := pathOf isSlash (path'.getD []) } := by
  unfold parseUsual at h ⊢
  simp only [hcs, hds, bind, Except.bind] at h ⊢
  split at h
  · cases h
  · split at h
    · cases h
    · cases h
      exact ⟨rfl, rfl⟩

/-- Segments behind what is read by the rules of the web. -/
theorem parseUsual_slashed {scheme : String} {cs : List Char} {u : Url}
    (h : parseUsual scheme cs none none = .ok u) (hend : ∃ c ∈ cs.getLast?, isSlash c = false) :
    ∃ front, Stays front u.path ∧ ∀ names ≠ [],
      parseUsual scheme (cs ++ slashed names) none none =
        .ok { u with path := .segments (reached front names) } := by
  have hne := dropWhile_ne_nil_of_parseUsual h
  have hdrop (ds : List Char) : (cs ++ ds).dropWhile isSlash = cs.dropWhile isSlash ++ ds := by
    rw [List.dropWhile_append]
    simp [hne]
  cases hcut : cut isSlash (cs.dropWhile isSlash) with
  | mk place path =>
      cases path with
      | none =>
          -- nothing but a host: the segments are the path
          obtain ⟨hplace, hslash⟩ := cut_of_none (congrArg Prod.snd hcut)
          rw [hcut] at hplace
          have hpath := (parseUsual_of_place hcut hcut h).1
          refine ⟨[], .inl hpath, fun names hnames => ?_⟩
          obtain ⟨n, names, rfl⟩ := List.exists_cons_of_ne_nil hnames
          have hlong : cut isSlash ((cs ++ slashed (n :: names)).dropWhile isSlash) =
              (place, some ((Text.Percent.segment n).toList ++ slashed names)) := by
            rw [hdrop, slashed_cons, cut_append_of_forall hslash rfl, ← hplace]
          rw [(parseUsual_of_place hcut hlong h).2, Option.getD_some, pathOf_names]
      | some path =>
          -- a path is there already, and like the text it does not end in a slash
          have hpath := (parseUsual_of_place hcut hcut h).1
          have hlong (names : List String) :
              cut isSlash ((cs ++ slashed names).dropWhile isSlash) =
                (place, some (path ++ slashed names)) := by
            rw [hdrop, cut_append_of_some hcut]
          have hlast : ∃ c ∈ path.getLast?, isSlash c = false := by
            obtain ⟨c, hc, hrest⟩ := eq_append_of_cut hcut
            have hcs : cs = (cs.takeWhile isSlash ++ place) ++ c :: path := by
              rw [List.append_assoc, ← hrest, List.takeWhile_append_dropWhile]
            obtain ⟨d, hd, hslash⟩ := hend
            rw [hcs, List.getLast?_append] at hd
            cases path with
            | nil =>
                have hd : c = d := by simpa using hd
                rw [← hd, hc] at hslash
                cases hslash
            | cons e path => exact ⟨d, by simpa using hd, hslash⟩
          obtain ⟨front, hstays, hfront⟩ := pathOf_slashed hlast
          refine ⟨front, by simpa [hpath] using hstays, fun names hnames => ?_⟩
          rw [(parseUsual_of_place hcut (hlong names) h).2, Option.getD_some,
            hfront names hnames]

/-! ### Whole addresses -/

/-- What is left of a text ends as the text does. -/
theorem getLast?_clean {s : String} (hs : EndsPlain s) :
    ∃ c ∈ (clean s.toList).getLast?, isSlash c = false := by
  obtain ⟨c, hlast, hc, hslash⟩ := hs
  obtain ⟨front, hfront⟩ := List.getLast?_eq_some_iff.1 hlast
  have hstays : staysIn c = true := by
    simp only [staysIn, ne_eq, decide_eq_true_eq]
    refine ⟨?_, ?_, ?_⟩ <;> rintro rfl <;> revert hc <;> decide
  refine ⟨c, ?_, hslash⟩
  rw [hfront, clean_concat front hc, List.filter_append]
  simp [hstays]

/-- What stands behind the scheme ends as the whole text does. -/
theorem getLast?_schemeOf? {cs rest : List Char} {scheme : String}
    (h : schemeOf? cs = some (scheme, rest)) (hrest : rest ≠ []) :
    rest.getLast? = cs.getLast? := by
  unfold schemeOf? at h
  split at h
  · rename_i c name back hcut
    split at h
    · obtain ⟨d, -, rfl⟩ := eq_append_of_cut hcut
      simp only [Option.some.injEq, Prod.mk.injEq] at h
      obtain ⟨e, back', rfl⟩ := List.exists_cons_of_ne_nil (h.2 ▸ hrest)
      have hsplit : c :: name ++ d :: e :: back' = (c :: name ++ [d]) ++ e :: back' := by simp
      rw [← h.2, hsplit, List.getLast?_append, List.getLast?_cons]
      rfl
    · cases h
  · cases h

/-- Reading an address of the web whose parts are at hand. -/
theorem parse_of_schemeOf? {s : String} {u : Url} {rest : List Char} (hu : u.IsWeb)
    (hchars : ∀ c ∈ clean s.toList, c ≠ '#' ∧ c ≠ '?')
    (hscheme : schemeOf? (clean s.toList) = some (u.scheme, rest)) :
    parse s = parseUsual u.scheme rest none none := by
  have hhash : cut (· == '#') (clean s.toList) = (clean s.toList, none) :=
    cut_eq_of_forall fun c hc => by simpa using (hchars c hc).1
  have hquestion : cut (· == '?') (clean s.toList) = (clean s.toList, none) :=
    cut_eq_of_forall fun c hc => by simpa using (hchars c hc).2
  have hfile : u.scheme ≠ "file" := by
    rcases hu with hu | hu <;> rw [hu] <;> decide
  have husual : (usualPort? u.scheme).isSome = true := by
    rcases hu with hu | hu <;> rw [hu] <;> rfl
  rw [parse, hhash]
  simp only [hquestion, hscheme, hfile, husual, Option.map_none, if_false, if_true]

/-- **Segments behind an address are segments of its path**, and nothing else changes. -/
theorem parse_slashed {s : String} {u : Url} (hs : Locates s u) :
    ∃ front, Stays front u.path ∧ ∀ names ≠ [],
      parse (s ++ String.ofList (slashed names)) =
        .ok { u with path := .segments (reached front names) } := by
  obtain ⟨hchars, rest, hscheme, husual⟩ := parse_eq_usual hs.toIsAddress
  have hrest : rest ≠ [] := by
    rintro rfl
    exact dropWhile_ne_nil_of_parseUsual husual rfl
  have hlast := getLast?_clean hs.ends
  rw [← getLast?_schemeOf? hscheme hrest] at hlast
  obtain ⟨front, hstays, hfront⟩ := parseUsual_slashed husual hlast
  refine ⟨front, hstays, fun names hne => ?_⟩
  -- what is added begins no other part, so each stage takes it along
  have hplain : ∀ c ∈ slashed names, 0x20 < c.toNat ∧ c ≠ '#' ∧ c ≠ '?' := fun c hc => by
    rcases isPlain_of_mem_slashed hc with rfl | hc
    · decide
    · have hc := isPlain_bounds hc
      exact ⟨hc.1, hc.2.2⟩
  have hclean : clean (s ++ String.ofList (slashed names)).toList =
      clean s.toList ++ slashed names := by
    rw [String.toList_append, String.toList_ofList]
    exact clean_append hs.ends fun c hc => (hplain c hc).1
  rw [← hfront names hne]
  refine parse_of_schemeOf? hs.web (fun c hc => ?_) ?_
  · rw [hclean] at hc
    rcases List.mem_append.1 hc with hc | hc
    · exact hchars c hc
    · exact (hplain c hc).2
  · rw [hclean]
    exact schemeOf?_append hscheme _

end MediaTree.Url
