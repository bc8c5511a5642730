/-
**The text in front of added segments.**

The address of a server is the text that all addresses of its records begin with: the text of the
address in normal form, without a slash at its end.  A text that is in normal form already, but for
that slash, is its own base.

Main definitions:

* `MediaTree.Url.base` — the text that longer addresses begin with;
* `MediaTree.Url.below` — an address with segments behind its path;
* `MediaTree.Url.behind` — the same with dot segments carried out;
* `MediaTree.Url.IsNormal` — a text is in normal form, but for a slash at its end.

Main results:

* `MediaTree.Url.Locates.parse_behind` — segments behind the address of a server are read as such;
* `MediaTree.Url.Locates.toString_below`, `MediaTree.Url.Locates.toString_withPairs` — **what such
  addresses look like**;
* `MediaTree.Url.IsNormal.locates`, `MediaTree.Url.IsNormal.base_eq` — **a text in normal form is
  its own base**.
-/

import MediaTree.Proofs.Url.Extend
import MediaTree.Proofs.Url.Host

set_option autoImplicit false
set_option relaxedAutoImplicit false

namespace MediaTree.Url

/-- The text of an address with other segments as its path, up to the end of the path. -/
def textWith (u : Url) (ss : List String) : String :=
  u.scheme ++ ":" ++ u.authorityText ++ (Path.segments ss).text

/-- The segments of the path that stay when others are written behind them. -/
def front (u : Url) : List String :=
  match u.path with
  | .segments ss => if ss.getLast? = some "" then ss.dropLast else ss
  | .whole _ => []

/-- The text that longer addresses begin with. -/
def base (u : Url) : String := u.textWith u.front

/-- The address with segments behind its path. -/
def below (u : Url) (names : List String) : Url :=
  { u with path := .segments (u.front ++ names.map Text.Percent.segment) }

/-- The address with segments behind its path, among which dot segments are carried out. -/
def behind (u : Url) (names : List String) : Url :=
  { u with path := .segments (reached u.front names) }

/-- Names are no dot segments. -/
theorem behind_of_names (u : Url) {names : List String} (h : ∀ n ∈ names, IsName n) :
    u.behind names = u.below names := by
  rw [behind, below, reached_of_names u.front h]

theorem front_of_stays {u : Url} {front : List String} (h : Stays front u.path) :
    u.front = front := by
  rcases h with h | ⟨h, n, hn, hne⟩
  · simp [Url.front, h]
  · have hn : front.getLast? = some n := hn
    simp [Url.front, h, hn, hne]

/-! ### Texts of paths -/

theorem toList_text (ss : List String) :
    (Path.segments ss).text.toList = ss.flatMap fun s => '/' :: s.toList := by
  simp [Path.text, String.toList_join, List.flatMap_map]

theorem text_append (ss ts : List String) :
    (Path.segments (ss ++ ts)).text = (Path.segments ss).text ++ (Path.segments ts).text := by
  rw [← String.toList_inj, String.toList_append, toList_text, toList_text, toList_text,
    List.flatMap_append]

theorem text_names (names : List String) :
    (Path.segments (names.map Text.Percent.segment)).text = String.ofList (slashed names) := by
  rw [← String.toList_inj, toList_text, String.toList_ofList, slashed, List.flatMap_map]

theorem textWith_append (u : Url) (ss ts : List String) :
    u.textWith (ss ++ ts) = u.textWith ss ++ (Path.segments ts).text := by
  simp only [textWith, text_append, String.append_assoc]

/-- The text of an address that names somebody. -/
theorem toString_eq {u : Url} {h : String} {ss : List String} (hhost : u.host = some h)
    (hpath : u.path = .segments ss) : u.toString = u.textWith ss ++ u.tailText := by
  have htext : u.pathText = u.path.text := by
    rw [pathText, hhost]
  rw [toString, htext, hpath, textWith]

/-! ### Addresses of a server -/

/-- What an address of the web is made of. -/
theorem parts_of_parseUsual {scheme : String} {cs : List Char} {query fragment : Option String}
    {u : Url} (h : parseUsual scheme cs query fragment = .ok u) :
    ∃ host path, u.host = some host ∧ Host.Solid host ∧ u.path = pathOf isSlash path := by
  unfold parseUsual at h
  simp only [bind, Except.bind] at h
  split at h
  · cases h
  · rename_i host hhost
    split at h
    · cases h
    · cases h
      refine ⟨host, _, rfl, ?_, rfl⟩
      unfold Place.hostBy at hhost
      split at hhost
      · rename_i hnormal
        cases hhost
        exact Host.solid_of_normal? hnormal
      · cases hhost

variable {s : String} {u : Url}

theorem IsAddress.parts (hs : IsAddress s u) :
    ∃ host path, u.host = some host ∧ Host.Solid host ∧ u.path = pathOf isSlash path := by
  obtain ⟨-, rest, -, husual⟩ := parse_eq_usual hs
  exact parts_of_parseUsual husual

theorem IsAddress.tailText_eq (hs : IsAddress s u) : u.tailText = "" := by
  rw [tailText, hs.query, hs.fragment]
  rfl

namespace Locates

/-- **Segments behind the address of a server are read as such.** -/
theorem parse_behind (hs : Locates s u) {names : List String} (hne : names ≠ []) :
    parse (s ++ String.ofList (slashed names)) = .ok (u.behind names) := by
  obtain ⟨front, hstays, hfront⟩ := parse_slashed hs
  rw [hfront names hne, behind, front_of_stays hstays]

/-- The address of a record begins with the base of the server's. -/
theorem toString_below (hs : Locates s u) (names : List String) :
    (u.below names).toString = u.base ++ String.ofList (slashed names) := by
  obtain ⟨host, -, hhost, -⟩ := hs.parts
  have htail : (u.below names).tailText = "" := hs.tailText_eq
  rw [toString_eq (u := u.below names) hhost rfl, htail, String.append_empty, base, ← text_names,
    ← textWith_append]
  rfl

/-- The address of a list begins with the base of the server's, and ends in its pairs. -/
theorem toString_withPairs (hs : Locates s u) (names : List String) {ps : List (String × String)}
    (hps : ps ≠ []) :
    ((u.below names).withPairs ps).toString =
      u.base ++ String.ofList (slashed names) ++ "?" ++ Text.Form.encodePairs ps := by
  obtain ⟨host, -, hhost, -⟩ := hs.parts
  have hpairs : Text.Form.encodePairs ps ≠ "" := by
    intro h
    have hread := Text.Form.decodePairs?_encodePairs ps
    rw [h] at hread
    exact hps (Option.some.inj hread).symm
  obtain ⟨v, hv⟩ : ∃ v : Url, v =
    { u.below names with query := some (Text.Form.encodePairs ps) } := ⟨_, rfl⟩
  have hpaired : (u.below names).withPairs ps = v := by
    have hold : (u.below names).query = none := hs.query
    simp [withPairs, hold, hpairs, hv]
  have hpath : v.path = .segments (u.front ++ names.map Text.Percent.segment) := by
    rw [hv]
    rfl
  have htail : v.tailText = "?" ++ Text.Form.encodePairs ps := by
    have hfragment : (u.below names).fragment = none := hs.fragment
    simp [tailText, hv, hfragment]
  have htext : v.textWith (u.front ++ names.map Text.Percent.segment) =
      u.base ++ String.ofList (slashed names) := by
    rw [base, ← text_names, ← textWith_append, hv]
    rfl
  rw [hpaired, toString_eq (by rw [hv]; exact hhost) hpath, htail, htext]
  simp only [String.append_assoc]

end Locates

/-! ### Normal forms -/

/-- A text is in normal form, but for a slash at its end, which is not there. -/
structure IsNormal (s : String) (u : Url) : Prop extends IsAddress s u where
  text : u.toString = s ∨ u.toString = s ++ "/"
  noSlash : s.toList.getLast? ≠ some '/'

/-- A character that is neither a blank nor a slash. -/
def IsSolid (c : Char) : Prop := 0x20 < c.toNat ∧ isSlash c = false

theorem isSolid_of_isHostChar {c : Char} (h : isHostChar c = true) : IsSolid c := by
  simp only [isHostChar, List.contains_cons, Bool.and_eq_true, decide_eq_true_eq,
    Bool.not_eq_true', Bool.or_eq_false_iff, beq_eq_false_iff_ne] at h
  exact ⟨h.1, by simp [isSlash, h.2.1, h.2.2.1]⟩

/-- The segments of a path hold no slash. -/
theorem not_slash_of_mem_splitPath {slash : Char → Bool} {cs s : List Char}
    (hs : s ∈ splitPath slash cs) {c : Char} (hc : c ∈ s) : slash c = false := by
  induction cs generalizing s with
  | nil =>
      rw [splitPath, List.mem_singleton] at hs
      rw [hs] at hc
      cases hc
  | cons d cs ih =>
      rw [splitPath] at hs
      split at hs
      · rcases List.mem_cons.1 hs with rfl | hs
        · cases hc
        · exact ih hs hc
      · rename_i hd
        cases hsplit : splitPath slash cs with
        | nil => exact absurd hsplit (splitPath_ne_nil slash cs)
        | cons p ps =>
            rw [hsplit] at hs ih
            rcases List.mem_cons.1 hs with rfl | hs
            · rcases List.mem_cons.1 hc with rfl | hc
              · simpa using hd
              · exact ih List.mem_cons_self hc
            · exact ih (List.mem_cons_of_mem p hs) hc

/-- A segment that is read has no blank, and no slash if its text has none. -/
theorem isSolid_of_mem_name {cs : List Char} (h : ∀ c ∈ cs, isSlash c = false) {name : String}
    (hname : Segment.of cs = .down name) : ∀ c ∈ name.toList, IsSolid c := by
  intro c hc
  unfold Segment.of at hname
  split at hname
  · cases hname
  · split at hname
    · cases hname
    · cases hname
      rw [escaped, String.toList_ofList] at hc
      rcases Text.Percent.mem_encode hc with ⟨hc, hplain⟩ | rfl | halpha
      · simp only [isPathChar, Bool.and_eq_true, decide_eq_true_eq] at hplain
        exact ⟨hplain.1.1, h c (by simpa using hc)⟩
      · exact ⟨by decide, by decide⟩
      · have hplain := isPlain_of_isAlphanumeric halpha
        exact ⟨(isPlain_bounds hplain).1, isSlash_of_isPlain hplain⟩

/-- What holds of the segments that are read holds of a path as far as it was walked. -/
theorem forall_mem_walk {P : String → Prop} {ss : List (List Char)}
    (hss : ∀ s ∈ ss, ∀ name, Segment.of s = .down name → P name) {path : List String}
    (hpath : ∀ n ∈ path, P n) : ∀ n ∈ walk path ss, P n := by
  induction ss generalizing path with
  | nil => exact hpath
  | cons s ss ih =>
      refine ih (fun t ht => hss t (List.mem_cons_of_mem s ht)) ?_
      unfold step
      split
      · exact hpath
      · cases path with
        | nil => exact hpath
        | cons n ns =>
            rw [up]
            split
            · exact hpath
            · exact fun m hm => hpath m (List.mem_cons_of_mem n hm)
      · rename_i name hname
        intro n hn
        rcases List.mem_cons.1 hn with rfl | hn
        · exact hss s List.mem_cons_self n hname
        · exact hpath n hn

/-- A path that is read has segments, and of these holds what holds of the empty one and of those
that are read. -/
theorem forall_mem_pathOf {P : String → Prop} (hempty : P "") {slash : Char → Bool} {cs : List Char}
    (hread : ∀ s ∈ splitPath slash cs, ∀ name, Segment.of s = .down name → P name) :
    ∃ ss, pathOf slash cs = .segments ss ∧ ss ≠ [] ∧ ∀ n ∈ ss, P n := by
  refine ⟨_, rfl, ?_⟩
  rcases List.eq_nil_or_concat (splitPath slash cs) with hnil | ⟨ss, s, hsplit⟩
  · exact absurd hnil (splitPath_ne_nil slash cs)
  · rw [List.concat_eq_append] at hsplit
    rw [hsplit] at hread ⊢
    have hwalk : ∀ n ∈ walk [] (ss ++ [s]), P n := forall_mem_walk hread (List.forall_mem_nil _)
    -- a dot segment at the end leaves an empty segment behind it
    rcases addSegments_concat [] ss s with ⟨name, hname, hpath⟩ | hpath
    · have hne : walk [] (ss ++ [s]) ≠ [] := by
        rw [walk_concat, step, hname]
        simp
      rw [hpath]
      exact ⟨by simpa using hne, fun n hn => hwalk n (List.mem_reverse.1 hn)⟩
    · rw [hpath]
      refine ⟨by simp, fun n hn => ?_⟩
      rcases List.mem_cons.1 (List.mem_reverse.1 hn) with rfl | hn
      · exact hempty
      · exact hwalk n hn

/-- The segments of a path that is read have neither blanks nor slashes. -/
theorem segments_of_pathOf (cs : List Char) :
    ∃ ss, pathOf isSlash cs = .segments ss ∧ ss ≠ [] ∧ ∀ n ∈ ss, ∀ c ∈ n.toList, IsSolid c :=
  forall_mem_pathOf (List.forall_mem_nil _) fun _ hs _ hname =>
    isSolid_of_mem_name (fun _ hc => not_slash_of_mem_splitPath hs hc) hname

theorem endsPlain_append (s : String) {t : String} (hne : t ≠ "")
    (ht : ∀ c ∈ t.toList, IsSolid c) : EndsPlain (s ++ t) := by
  have hne : t.toList ≠ [] := fun hnil => hne (String.toList_inj.1 (hnil.trans rfl))
  refine ⟨t.toList.getLast hne, ?_, ht _ (List.getLast_mem hne)⟩
  rw [String.toList_append, List.getLast?_append, List.getLast?_eq_some_getLast hne]
  rfl

/-- The part in front of the path ends in a character of the host or of the port. -/
theorem endsPlain_authority {u : Url} {h : String} (hhost : u.host = some h)
    (hsolid : Host.Solid h) : EndsPlain (u.textWith []) := by
  have htext : u.textWith [] = u.scheme ++ ":" ++ u.authorityText := by
    simp [textWith, Path.text]
  rw [htext, authorityText, hhost]
  simp only [← String.append_assoc]
  cases u.port with
  | none =>
      have hend := endsPlain_append (u.scheme ++ ":" ++ "//") hsolid.1 fun c hc =>
        isSolid_of_isHostChar (hsolid.2 c hc)
      simpa only [String.append_empty] using hend
  | some p =>
      have hdigits : (ToString.toString p).toList = Nat.toDigits 10 p := Nat.toList_repr
      have hne : ToString.toString p ≠ "" := fun hempty => by
        have hnil := congrArg String.toList hempty
        rw [hdigits] at hnil
        exact Nat.toDigits_ne_nil hnil
      have hend := endsPlain_append (u.scheme ++ ":" ++ "//" ++ h ++ ":") hne fun c hc =>
        isSolid_of_isHostChar (isHostChar_of_mem_toDigits (by omega) (by omega) (hdigits ▸ hc))
      simpa only [← String.append_assoc] using hend

theorem textWith_concat (u : Url) (ss : List String) (n : String) :
    u.textWith (ss ++ [n]) = u.textWith ss ++ "/" ++ n := by
  rw [textWith_append]
  simp [Path.text, String.append_assoc]

/-- The text up to the end of a path ends in a slash, or in neither a slash nor a blank. -/
theorem endsPlain_textWith {u : Url} {h : String} (hhost : u.host = some h)
    (hsolid : Host.Solid h) {ss : List String} (hss : ∀ n ∈ ss, ∀ c ∈ n.toList, IsSolid c) :
    EndsPlain (u.textWith ss) ∨ (u.textWith ss).toList.getLast? = some '/' := by
  -- without segments the host or the port comes last
  rcases List.eq_nil_or_concat ss with rfl | ⟨ss, n, rfl⟩
  · exact .inl (endsPlain_authority hhost hsolid)
  · rw [List.concat_eq_append] at hss ⊢
    rw [textWith_concat]
    by_cases hn : n = ""
    · right
      simp [hn]
    · exact .inl (endsPlain_append _ hn (hss n (by simp)))

namespace IsNormal

/-- **A text in normal form is its own base**, and ends as the address of a server. -/
theorem base_eq_and_endsPlain (hs : IsNormal s u) : u.base = s ∧ EndsPlain s := by
  obtain ⟨host, path, hhost, hsolid, hpath⟩ := hs.parts
  obtain ⟨ss, hss, hne, hnames⟩ := segments_of_pathOf path
  rw [hss] at hpath
  have htext : u.toString = u.textWith ss := by
    rw [toString_eq hhost hpath, hs.tailText_eq, String.append_empty]
  obtain ⟨front, n, rfl⟩ : ∃ front n, ss = front ++ [n] := by
    rcases List.eq_nil_or_concat ss with hnil | ⟨front, n, hss⟩
    · exact absurd hnil hne
    · exact ⟨front, n, hss.trans List.concat_eq_append⟩
  have hends (ts : List String) (hts : ∀ n ∈ ts, ∀ c ∈ n.toList, IsSolid c)
      (h : u.textWith ts = s) : EndsPlain s := by
    rcases endsPlain_textWith hhost hsolid hts with hend | hslash
    · exact h ▸ hend
    · exact absurd (h ▸ hslash) hs.noSlash
  by_cases hn : n = ""
  · -- the slash at the end of the normal form is what the text lacks
    have hfront : u.front = front := front_of_stays (.inl (by rw [hpath, hn]))
    have hslash : u.toString = u.textWith front ++ "/" := by
      rw [htext, textWith_append, hn]
      rfl
    have hbase : u.textWith front = s := by
      rcases hs.text with h | h
      · refine absurd ?_ hs.noSlash
        rw [← h, hslash]
        simp
      · rw [hslash] at h
        exact (String.append_left_inj "/").1 h
    exact ⟨by rw [base, hfront, hbase], hends front (fun m hm => hnames m (by simp [hm])) hbase⟩
  · have hfront : u.front = front ++ [n] :=
      front_of_stays (.inr ⟨hpath, n, by simp, hn⟩)
    have hbase : u.textWith (front ++ [n]) = s := by
      rcases hs.text with h | h
      · rw [← htext, h]
      · have hend := endsPlain_append (u.textWith front ++ "/") hn (hnames n (by simp))
        rw [← textWith_concat, ← htext, h] at hend
        obtain ⟨c, hc, -, hslash⟩ := hend
        rw [String.toList_append, List.getLast?_append] at hc
        cases hc
        cases hslash
    exact ⟨by rw [base, hfront, hbase], hends _ hnames hbase⟩

theorem base_eq (hs : IsNormal s u) : u.base = s := hs.base_eq_and_endsPlain.1

/-- A text in normal form is the address of a server. -/
theorem locates (hs : IsNormal s u) : Locates s u where
  toIsAddress := hs.toIsAddress
  ends := hs.base_eq_and_endsPlain.2

end IsNormal

end MediaTree.Url
