/-
**Segments stay segments.**

A text written as one segment is read as that segment: it holds no slash, it is kept as it is, and
it moves up or stays only if the text is made of dots.  So segments that are added behind a path
leave alone what stands in front of them, once the dots there have been carried out.

Main definitions:

* `MediaTree.Url.IsName` — a text that is no dot segment;
* `MediaTree.Url.slashed` — texts as segments, each behind a slash;
* `MediaTree.Url.walk` — a path with its dot segments carried out, more segments to come;
* `MediaTree.Url.Stays` — what stays of a path when segments are written behind it;
* `MediaTree.Url.reached` — where segments lead from there.

Main results:

* `MediaTree.Url.Segment.of_segment` — a text written as a segment is read as that segment;
* `MediaTree.Url.addSegments_append` — what stands in front is carried out first;
* `MediaTree.Url.reached_of_names` — segments that are names are added as they are;
* `MediaTree.Url.pathOf_slashed` — **segments behind a path lead on from what stays of it**.
-/

import MediaTree.Proofs.Text.Encoding
import MediaTree.Url.Parser

set_option autoImplicit false
set_option relaxedAutoImplicit false

namespace MediaTree.Url

/-! ### Characters of a segment -/

/-- The characters of a segment stand for themselves in a path, and separate nothing. -/
def isPlain (c : Char) : Bool := isPathChar c && !isSlash c

theorem isPlain_of_isUnreserved {c : Char} (h : Text.Percent.isUnreserved c = true) :
    isPlain c = true := by
  have hall : ∀ n ∈ List.range 0x80, Text.Percent.isUnreserved (Char.ofNat n) = true →
      isPlain (Char.ofNat n) = true := by
    decide +kernel
  have hcode {d : Char} (h : c ≤ d) : c.toNat ≤ d.toNat := UInt32.le_iff_toNat_le.1 h
  refine Char.ofNat_toNat c ▸ hall c.toNat (List.mem_range.2 ?_) (by simpa using h)
  simp only [Text.Percent.isUnreserved, Text.Percent.isAlphanumeric, Bool.or_eq_true,
    Bool.and_eq_true, decide_eq_true_eq, beq_iff_eq] at h
  rcases h with (((((⟨-, h⟩ | ⟨-, h⟩) | ⟨-, h⟩) | rfl) | rfl) | rfl) | rfl
  · exact Nat.lt_of_le_of_lt (hcode h) (by decide)
  · exact Nat.lt_of_le_of_lt (hcode h) (by decide)
  · exact Nat.lt_of_le_of_lt (hcode h) (by decide)
  all_goals decide

theorem isPlain_of_isAlphanumeric {c : Char} (h : Text.Percent.isAlphanumeric c = true) :
    isPlain c = true :=
  isPlain_of_isUnreserved (by simp [Text.Percent.isUnreserved, h])

/-- What is written of a segment is plain. -/
theorem isPlain_of_mem {s : String} {c : Char}
    (h : c ∈ Text.Percent.encode Text.Percent.isUnreserved s) : isPlain c = true := by
  rcases Text.Percent.mem_encode h with ⟨-, h⟩ | rfl | h
  · exact isPlain_of_isUnreserved h
  · decide
  · exact isPlain_of_isAlphanumeric h

theorem isPathChar_of_isPlain {c : Char} (h : isPlain c = true) : isPathChar c = true := by
  simp only [isPlain, Bool.and_eq_true] at h
  exact h.1

theorem isSlash_of_isPlain {c : Char} (h : isPlain c = true) : isSlash c = false := by
  simp only [isPlain, Bool.and_eq_true, Bool.not_eq_true'] at h
  exact h.2

/-- A plain character is no blank and no control character, and begins nothing else. -/
theorem isPlain_bounds {c : Char} (h : isPlain c = true) :
    0x20 < c.toNat ∧ c.toNat < 0x80 ∧ c ≠ '#' ∧ c ≠ '?' := by
  have h := isPathChar_of_isPlain h
  simp only [isPathChar, Bool.and_eq_true, decide_eq_true_eq, Bool.not_eq_true',
    decide_eq_false_iff_not, List.mem_cons, not_or] at h
  exact ⟨h.1.1, by omega, h.2.2.1, h.2.2.2.2.2.1⟩

/-! ### Texts as segments -/

/-- A text that is no dot segment. -/
def IsName (s : String) : Prop := s ≠ "." ∧ s ≠ ".."

instance (s : String) : Decidable (IsName s) := by unfold IsName; infer_instance

/-- There are two dot segments. -/
theorem name_cases (s : String) : s = "." ∨ s = ".." ∨ IsName s := by
  by_cases hhere : s = "."
  · exact .inl hhere
  · by_cases hup : s = ".."
    · exact .inr (.inl hup)
    · exact .inr (.inr ⟨hhere, hup⟩)

theorem points_of_ne {c : Char} (h : c ≠ '%') (cs : List Char) :
    points (c :: cs) = c :: points cs := by
  rw [points]
  · exact fun rest hc => absurd hc h
  · exact fun rest hc => absurd hc h

/-- No escape in a segment spells a point. -/
theorem points_encodeOctet (b : UInt8) (rest : List Char) :
    points (Text.Percent.encodeOctet Text.Percent.isUnreserved b ++ rest) =
      Text.Percent.encodeOctet Text.Percent.isUnreserved b ++ points rest := by
  -- a point is written as itself, so the two escapes that spell one never occur
  have hall : ∀ n ∈ List.range 0x100,
      let plain := Text.Percent.isUnreserved (Char.ofNat n)
      let hi := Text.Hex.upper (n / 16)
      let lo := Text.Hex.upper (n % 16)
      (n < 0x80 ∧ plain = true → Char.ofNat n ≠ '%') ∧
        (¬ (n < 0x80 ∧ plain = true) →
          hi ≠ '%' ∧ lo ≠ '%' ∧ (hi ≠ '2' ∨ lo ≠ 'e' ∧ lo ≠ 'E')) := by
    decide +kernel
  obtain ⟨hplain, hescape⟩ := hall b.toNat (List.mem_range.2 b.toNat_lt)
  unfold Text.Percent.encodeOctet
  split
  · rename_i hb
    exact points_of_ne (hplain hb) rest
  · rename_i hb
    obtain ⟨hhi, hlo, hpoint⟩ := hescape hb
    have hpercent : points ('%' :: Text.Hex.upper (b.toNat / 16) ::
        Text.Hex.upper (b.toNat % 16) :: rest) =
          '%' ::
            points (Text.Hex.upper (b.toNat / 16) :: Text.Hex.upper (b.toNat % 16) :: rest) := by
      rw [points]
      · intro rest' _ heq
        simp only [List.cons.injEq] at heq
        rcases hpoint with h | h
        · exact h heq.1
        · exact h.1 heq.2.1
      · intro rest' _ heq
        simp only [List.cons.injEq] at heq
        rcases hpoint with h | h
        · exact h heq.1
        · exact h.2 heq.2.1
    rw [Text.Percent.escape, List.cons_append, List.cons_append, List.cons_append,
      List.nil_append, hpercent, points_of_ne hhi, points_of_ne hlo]
    rfl

/-- A segment holds its points as they are. -/
theorem points_segment (s : String) :
    points (Text.Percent.segment s).toList = (Text.Percent.segment s).toList := by
  rw [Text.Percent.toList_segment, Text.Percent.encode]
  induction Text.octets s with
  | nil => rfl
  | cons b bs ih => rw [List.flatMap_cons, points_encodeOctet, ih]

/-- **A text written as a segment is read as that segment**, unless it is a dot segment. -/
theorem Segment.of_segment {s : String} (h : IsName s) :
    Segment.of (Text.Percent.segment s).toList = .down (Text.Percent.segment s) := by
  have hne (t : String) (hs : s ≠ t) (ht : Text.Percent.segment t = t) :
      points (Text.Percent.segment s).toList ≠ t.toList := by
    intro heq
    rw [points_segment, String.toList_inj] at heq
    exact hs (Text.Percent.segment_injective (heq.trans ht.symm))
  have hhere : points (Text.Percent.segment s).toList ≠ ['.'] := hne "." h.1 (by decide)
  have hup : points (Text.Percent.segment s).toList ≠ ['.', '.'] := hne ".." h.2 (by decide)
  have hkept : escaped isPathChar (Text.Percent.segment s).toList = Text.Percent.segment s := by
    have hchars : ∀ c ∈ (Text.Percent.segment s).toList,
        c.toNat < 0x80 ∧ isPathChar c = true := fun c hc => by
      have hc := isPlain_of_mem (Text.Percent.toList_segment s ▸ hc)
      exact ⟨(isPlain_bounds hc).2.1, isPathChar_of_isPlain hc⟩
    rw [escaped, Text.Percent.encode_of_plain hchars, String.ofList_toList]
  rw [Segment.of, if_neg hhere, if_neg hup, hkept]

/-! ### Texts behind slashes -/

/-- Texts as segments, each behind a slash. -/
def slashed (names : List String) : List Char :=
  names.flatMap fun n => '/' :: (Text.Percent.segment n).toList

@[simp] theorem slashed_nil : slashed [] = [] := rfl

theorem slashed_cons (n : String) (names : List String) :
    slashed (n :: names) = '/' :: ((Text.Percent.segment n).toList ++ slashed names) := rfl

/-- Slashes apart, what is written is plain. -/
theorem isPlain_of_mem_slashed {names : List String} {c : Char} (h : c ∈ slashed names) :
    c = '/' ∨ isPlain c = true := by
  obtain ⟨n, -, hc⟩ := List.mem_flatMap.1 h
  rcases List.mem_cons.1 hc with hc | hc
  · exact .inl hc
  · exact .inr (isPlain_of_mem (Text.Percent.toList_segment n ▸ hc))

theorem splitPath_ne_nil (slash : Char → Bool) (cs : List Char) : splitPath slash cs ≠ [] := by
  cases cs with
  | nil => simp [splitPath]
  | cons c cs =>
      rw [splitPath]
      split
      · simp
      · split <;> simp

/-- A path is cut at each slash, and so are two paths with a slash between them. -/
theorem splitPath_append {slash : Char → Bool} {sep : Char} (hsep : slash sep = true)
    (cs ds : List Char) :
    splitPath slash (cs ++ sep :: ds) = splitPath slash cs ++ splitPath slash ds := by
  induction cs with
  | nil => simp [splitPath, hsep]
  | cons c cs ih =>
      rw [List.cons_append, splitPath, splitPath, ih]
      split
      · rfl
      · cases h : splitPath slash cs with
        | nil => exact absurd h (splitPath_ne_nil slash cs)
        | cons p ps => rfl

/-- A text without slashes is one segment. -/
theorem splitPath_of_plain {cs : List Char} (h : ∀ c ∈ cs, isPlain c = true) :
    splitPath isSlash cs = [cs] := by
  induction cs with
  | nil => rfl
  | cons c cs ih =>
      have hc := isSlash_of_isPlain (h c (by simp))
      rw [splitPath, ih fun d hd => h d (by simp [hd])]
      simp [hc]

/-- The segments behind a path are those that were added. -/
theorem splitPath_slashed (cs : List Char) (names : List String) :
    splitPath isSlash (cs ++ slashed names) =
      splitPath isSlash cs ++ names.map fun n => (Text.Percent.segment n).toList := by
  induction names generalizing cs with
  | nil => simp
  | cons n names ih =>
      have hn : splitPath isSlash (Text.Percent.segment n).toList =
          [(Text.Percent.segment n).toList] :=
        splitPath_of_plain fun c hc => isPlain_of_mem (Text.Percent.toList_segment n ▸ hc)
      have hfront : cs ++ slashed (n :: names) =
          (cs ++ '/' :: (Text.Percent.segment n).toList) ++ slashed names := by
        simp [slashed_cons]
      rw [hfront, ih, splitPath_append rfl, hn]
      simp

/-! ### Carrying out segments -/

/-- What a segment does to a path that is given last segment first, when more segments follow. -/
def step (path : List String) (s : List Char) : List String :=
  match Segment.of s with
  | .here => path
  | .up => up path
  | .down name => name :: path

/-- Carries out segments behind a path that is given last segment first, when more follow. -/
def walk (path : List String) (ss : List (List Char)) : List String := ss.foldl step path

/-- What stands in front is carried out first. -/
theorem addSegments_append (path : List String) (ss : List (List Char)) {ts : List (List Char)}
    (hts : ts ≠ []) : addSegments path (ss ++ ts) = addSegments (walk path ss) ts := by
  induction ss generalizing path with
  | nil => rfl
  | cons s ss ih =>
      have hstep : addSegments path (s :: (ss ++ ts)) = addSegments (step path s) (ss ++ ts) := by
        -- others follow in both texts, so neither segment is the last one
        obtain ⟨t, rest, hrest⟩ : ∃ t rest, ss ++ ts = t :: rest := by
          cases ss with
          | nil => exact List.exists_cons_of_ne_nil hts
          | cons t ss => exact ⟨t, ss ++ ts, rfl⟩
        rw [hrest, addSegments, step]
        cases Segment.of s <;> rfl
      rw [List.cons_append, hstep, ih]
      rfl

theorem walk_concat (path : List String) (ss : List (List Char)) (s : List Char) :
    walk path (ss ++ [s]) = step (walk path ss) s := by
  rw [walk, List.foldl_append]
  rfl

/-- A path that ends here is what was walked so far; behind a dot segment there is a slash. -/
theorem addSegments_concat (path : List String) (ss : List (List Char)) (s : List Char) :
    (∃ name, Segment.of s = .down name ∧
      addSegments path (ss ++ [s]) = walk path (ss ++ [s])) ∨
    addSegments path (ss ++ [s]) = "" :: walk path (ss ++ [s]) := by
  rw [addSegments_append path ss (by simp), walk_concat, addSegments, step]
  cases h : Segment.of s with
  | here => exact .inr rfl
  | up => exact .inr rfl
  | down name => exact .inl ⟨name, rfl, rfl⟩

/-- Segments are added as they are. -/
theorem addSegments_slashed {names : List String} (h : ∀ n ∈ names, IsName n)
    (path : List String) :
    addSegments path (names.map fun n => (Text.Percent.segment n).toList) =
      (names.map Text.Percent.segment).reverse ++ path := by
  induction names generalizing path with
  | nil => rfl
  | cons n names ih =>
      have hn := Segment.of_segment (h n (by simp))
      have ih := ih (fun m hm => h m (by simp [hm])) (Text.Percent.segment n :: path)
      -- only the last segment of a path is treated apart, and a name is no dot segment
      cases names with
      | nil =>
          rw [List.map_singleton, addSegments, hn]
          rfl
      | cons m names =>
          rw [List.map_cons, List.map_cons, addSegments, hn]
          simpa using ih

/-! ### Paths with segments behind them -/

/-- Where segments lead that are written behind other ones: dot segments among them are carried
out. -/
def reached (front names : List String) : List String :=
  (addSegments front.reverse (names.map fun n => (Text.Percent.segment n).toList)).reverse

/-- Segments that are names are added as they are. -/
theorem reached_of_names (front : List String) {names : List String}
    (h : ∀ n ∈ names, IsName n) :
    reached front names = front ++ names.map Text.Percent.segment := by
  rw [reached, addSegments_slashed h]
  simp

/-- What stays of a path when segments are written behind it: all of it but a slash at its end,
which a path without segments has, and one behind a dot segment. -/
def Stays (front : List String) (path : Path) : Prop :=
  path = .segments (front ++ [""]) ∨ (path = .segments front ∧ ∃ n ∈ front.getLast?, n ≠ "")

/-- A path that does not end in a slash has a last segment with a character. -/
theorem splitPath_concat {slash : Char → Bool} (cs : List Char) {c : Char}
    (hc : slash c = false) :
    ∃ ss s, splitPath slash (cs ++ [c]) = ss ++ [s ++ [c]] := by
  induction cs with
  | nil => exact ⟨[], [], by simp [splitPath, hc]⟩
  | cons d cs ih =>
      obtain ⟨ss, s, hcs⟩ := ih
      rw [List.cons_append, splitPath, hcs]
      split
      · exact ⟨[] :: ss, s, rfl⟩
      · cases ss with
        | nil => exact ⟨[], d :: s, rfl⟩
        | cons t ss => exact ⟨(d :: t) :: ss, s, rfl⟩

theorem name_ne_empty {cs : List Char} {c : Char} {name : String}
    (h : Segment.of (cs ++ [c]) = .down name) : name ≠ "" := by
  obtain ⟨d, ds, hds⟩ : ∃ d ds, cs ++ [c] = d :: ds :=
    List.exists_cons_of_ne_nil (by simp)
  rw [hds, Segment.of] at h
  split at h
  · cases h
  · split at h
    · cases h
    · cases h
      intro hempty
      have hnil := congrArg String.toList hempty
      rw [escaped, String.toList_ofList] at hnil
      exact Text.Percent.encode_cons_ne_nil isPathChar d ds hnil

/-- Segments behind a host are the path. -/
theorem pathOf_names (n : String) (names : List String) :
    pathOf isSlash ((Text.Percent.segment n).toList ++ slashed names) =
      .segments (reached [] (n :: names)) := by
  have hn : splitPath isSlash (Text.Percent.segment n).toList =
      [(Text.Percent.segment n).toList] :=
    splitPath_of_plain fun c hc => isPlain_of_mem (Text.Percent.toList_segment n ▸ hc)
  rw [pathOf, splitPath_slashed, hn]
  rfl

/-- **Segments behind a path lead on from what stays of it.** -/
theorem pathOf_slashed {cs : List Char} (hend : ∃ c ∈ cs.getLast?, isSlash c = false) :
    ∃ front, Stays front (pathOf isSlash cs) ∧ ∀ names ≠ [],
      pathOf isSlash (cs ++ slashed names) = .segments (reached front names) := by
  obtain ⟨c, hlast, hc⟩ := hend
  obtain ⟨cs, rfl⟩ := List.getLast?_eq_some_iff.1 hlast
  obtain ⟨ss, s, hsplit⟩ := splitPath_concat cs hc
  -- the walk so far stays, whatever is written behind it
  refine ⟨(walk [] (ss ++ [s ++ [c]])).reverse, ?_, fun names hne => ?_⟩
  · rw [pathOf, hsplit]
    rcases addSegments_concat [] ss (s ++ [c]) with ⟨name, hname, hpath⟩ | hpath
    · refine .inr ⟨by rw [hpath], name, ?_, name_ne_empty hname⟩
      rw [walk_concat, step, hname]
      simp
    · exact .inl (by rw [hpath, List.reverse_cons])
  · rw [pathOf, splitPath_slashed, hsplit, addSegments_append _ _ (by simpa using hne), reached,
      List.reverse_reverse]

end MediaTree.Url
