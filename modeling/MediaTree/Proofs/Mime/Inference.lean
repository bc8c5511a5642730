/-
**What the MIME type of an item is.**

The code walks through a path from its end: it drops what does not count, looks for the last dot, and
folds what stands behind it.  Here the same is said of the path as a whole: which of the pieces
between its slashes is the name of the file, where the name falls into two at a dot, and which
extensions of the table are spelled by what stands behind the dot when case does not count.  Whatever
the table, an extension stands there once, so there is one type at most.

Case does not matter anywhere in a path, and neither does the directory, as long as the name has its
extension without it: a name whose only dot is its first character gets an extension from a backslash
in front of it, which does not separate.

Main definitions:

* `MediaTree.Mime.IsLastComponent`, `MediaTree.Mime.HasExtension`, `MediaTree.Mime.GoesWith` — file,
  extension and type;
* `MediaTree.Mime.PathHasType` — the type of a path, from these three;
* `MediaTree.Mime.IsHiddenOnly` — a name whose only dot is its first character.

Main results:

* `MediaTree.Mime.fileName?_eq_some_iff`, `MediaTree.Mime.extension?_eq_some_iff`,
  `MediaTree.Mime.ofExtension?_eq_some_iff` — each of the three is what the code finds;
* `MediaTree.Mime.ofPath?_eq_some_iff` — **the type of a path**;
* `MediaTree.Mime.ofPath?_lower` — case does not matter;
* `MediaTree.Mime.ofPath?_placed` — nor does the directory;
* `MediaTree.Mime.types_inferred_exactly` — **the type of an item, and of items that are moved and
  spelled otherwise**.
-/

import Mathlib.Data.List.Nodup
import Mathlib.Data.List.Pairwise
import Mathlib.Data.List.TakeWhile
import MediaTree.Proofs.Mime.Directory

set_option autoImplicit false
set_option relaxedAutoImplicit false

namespace MediaTree

/-! ### Pieces -/

namespace Text

/-- The pieces of a text in lower case are those of the text. -/
theorem pieces_lower (cs : List Char) :
    pieces (· == '/') (lower cs) = (pieces (· == '/') cs).map lower := by
  induction cs with
  | nil => rfl
  | cons c cs ih =>
      have hslash : (c.toLower == '/') = (c == '/') := by
        rw [Bool.eq_iff_iff, beq_iff_eq, beq_iff_eq, toLower_eq_mark_iff (by decide)]
      show pieces (· == '/') (c.toLower :: lower cs) = _
      rw [pieces, pieces, hslash, ih]
      split
      · rfl
      · cases pieces (· == '/') cs <;> rfl

/-- The pieces of a text are what the library's splitting gives. -/
theorem pieces_eq_splitOn (cs : List Char) : pieces (· == '/') cs = cs.splitOn '/' := by
  rw [List.splitOn_eq_splitOnP]
  induction cs with
  | nil => rfl
  | cons c cs ih =>
      rw [List.splitOnP_cons_eq_if_modifyHead, pieces, ih]
      split
      · rfl
      · cases hp : cs.splitOnP (· == '/') with
        | nil => exact absurd (ih.trans hp) (pieces_ne_nil _ cs)
        | cons p ps => rfl

end Text

namespace Mime

open Text (lower FoldsTo)

/-! ### The file -/

/-- The last component of a path: of the pieces between slashes, the last one that is neither empty
nor the dot that stands for the directory itself. -/
def IsLastComponent (path name : List Char) : Prop :=
  name ≠ [] ∧ name ≠ ['.'] ∧
    ∃ front back, path.splitOn '/' = front ++ name :: back ∧ ∀ p ∈ back, p = [] ∨ p = ['.']

/-- What is found last is the last component. -/
theorem getLast?_components {path name : List Char} :
    (components path).getLast? = some name ↔ IsLastComponent path name := by
  have hkept (p : List Char) : decide (p ≠ [] ∧ p ≠ ['.']) = false ↔ p = [] ∨ p = ['.'] := by
    rw [decide_eq_false_iff_not, not_and_or, not_not, not_not]
  rw [components, List.getLast?_filter, Text.pieces_eq_splitOn, List.find?_eq_some_iff_append]
  constructor
  · rintro ⟨hname, after, before, hpieces, hafter⟩
    obtain ⟨hnil, hdot⟩ := of_decide_eq_true hname
    refine ⟨hnil, hdot, before.reverse, after.reverse, ?_, fun p hp => ?_⟩
    · simpa using congrArg List.reverse hpieces
    · exact (hkept p).1 (Bool.not_eq_true' _ ▸ hafter p (List.mem_reverse.1 hp))
  · rintro ⟨hnil, hdot, front, back, hpieces, hback⟩
    refine ⟨decide_eq_true ⟨hnil, hdot⟩, back.reverse, front.reverse, ?_, fun p hp => ?_⟩
    · simp [hpieces]
    · rw [(hkept p).2 (hback p (List.mem_reverse.1 hp))]
      rfl

/-- **The file of a path** is its last component, unless that leads back. -/
theorem fileName?_eq_some_iff {path name : List Char} :
    fileName? path = some name ↔ IsLastComponent path name ∧ name ≠ ['.', '.'] := by
  rw [← getLast?_components, fileName?]
  cases (components path).getLast? with
  | none => simp
  | some last =>
      by_cases hback : last = ['.', '.']
      · simp only [if_pos hback, reduceCtorEq, false_iff, not_and, not_not, Option.some.injEq]
        rintro rfl
        exact hback
      · simp only [if_neg hback, Option.some.injEq]
        constructor
        · rintro rfl
          exact ⟨rfl, hback⟩
        · exact And.left

/-! ### The extension -/

/-- An extension of a name: what stands behind its last dot, and that dot is not the first
character. -/
def HasExtension (name e : List Char) : Prop :=
  ∃ stem, stem ≠ [] ∧ name = stem ++ '.' :: e ∧ '.' ∉ e

theorem behindDot_of_not_mem {name : List Char} (h : '.' ∉ name) : behindDot name = name := by
  rw [behindDot, List.takeWhile_eq_self_iff.2 (not_dot_of_mem_reverse h), List.reverse_reverse]

/-- **The extension of a name.** -/
theorem extension?_eq_some_iff {name e : List Char} :
    extension? name = some e ↔ HasExtension name e := by
  rw [extension?_eq]
  constructor
  · intro h
    split at h
    · cases h
    · rename_i hfront
      cases h
      have hdot : '.' ∈ name := by
        by_contra hdot
        rw [behindDot_of_not_mem hdot, Nat.sub_self] at hfront
        exact hfront (by decide)
      obtain ⟨stem, back, rfl, hback⟩ := exists_last_dot hdot
      rw [behindDot_append stem hback] at hfront ⊢
      refine ⟨stem, ?_, rfl, hback⟩
      rintro rfl
      simp at hfront
  · rintro ⟨stem, hstem, rfl, he⟩
    rw [behindDot_append stem he, if_neg]
    have hlength := List.length_pos_of_ne_nil hstem
    simp only [List.length_append, List.length_cons]
    omega

/-! ### The type -/

section Types

variable [Table]

/-- A MIME type goes with an extension: it is the first one in the row of an extension of the table
that has the same folding. -/
def GoesWith (e : List Char) (t : String) : Prop :=
  ∃ row ∈ Table.rows, row.2.head? = some t ∧ ∃ fs, FoldsTo row.1.toList fs ∧ FoldsTo e fs

/-- The extensions of the table are ASCII, so that they fold to their lower case. -/
theorem foldsTo_row {row : String × List String} (hrow : row ∈ Table.rows) {fs : List Char} :
    FoldsTo row.1.toList fs ↔ fs = lower row.1.toList :=
  Text.foldsTo_of_ascii fun c hc => ((Table.isExtension row hrow).2 c hc).1

/-- The type of a folded extension is the first one in its row. -/
theorem typeOf?_eq_some_iff {fs : List Char} {t : String} :
    typeOf? fs = some t ↔
      ∃ row ∈ Table.rows, row.2.head? = some t ∧ lower row.1.toList = fs := by
  rw [typeOf?, Option.bind_eq_some_iff]
  constructor
  · rintro ⟨row, hfind, ht⟩
    exact ⟨row, List.mem_of_find?_eq_some hfind, ht, by simpa using List.find?_some hfind⟩
  · rintro ⟨row, hrow, ht, rfl⟩
    obtain ⟨row', hfind⟩ : ∃ row', (Table.rows.find? fun row' : String × List String =>
        lower row'.1.toList == lower row.1.toList) = some row' := by
      rw [← Option.isSome_iff_exists, List.find?_isSome]
      exact ⟨row, hrow, beq_self_eq_true _⟩
    have hlower : lower row'.1.toList = lower row.1.toList := by
      simpa using List.find?_some hfind
    -- no extension stands in two rows
    have hsame : row' = row :=
      List.inj_on_of_nodup_map Table.nodup (List.mem_of_find?_eq_some hfind) hrow hlower
    exact ⟨row', hfind, hsame ▸ ht⟩

/-- **The type that goes with an extension.** -/
theorem ofExtension?_eq_some_iff {e : List Char} {t : String} :
    ofExtension? e = some t ↔ GoesWith e t := by
  rw [ofExtension?, Option.bind_eq_some_iff]
  constructor
  · rintro ⟨fs, hfold, htype⟩
    obtain ⟨row, hrow, ht, hrowfs⟩ := typeOf?_eq_some_iff.1 htype
    exact ⟨row, hrow, ht, fs, (foldsTo_row hrow).2 hrowfs.symm, Text.foldAscii?_eq_some_iff.1 hfold⟩
  · rintro ⟨row, hrow, ht, fs, hrowfs, hfold⟩
    exact ⟨fs, Text.foldAscii?_eq_some_iff.2 hfold,
      typeOf?_eq_some_iff.2 ⟨row, hrow, ht, ((foldsTo_row hrow).1 hrowfs).symm⟩⟩

/-- No type goes with nothing. -/
theorem ofExtension?_nil : ofExtension? [] = none := by
  rw [Option.eq_none_iff_forall_ne_some]
  intro t ht
  obtain ⟨row, hrow, -, fs, hrowfs, hfold⟩ := ofExtension?_eq_some_iff.1 ht
  cases hfold
  have hlower : [] = lower row.1.toList := (foldsTo_row hrow).1 hrowfs
  have hnil : row.1.toList = [] := List.map_eq_nil_iff.1 hlower.symm
  exact (Table.isExtension row hrow).1 (String.toList_eq_nil_iff.1 hnil)

/-- The MIME type of a path: that of the extension of its last component, which is no way back. -/
def PathHasType (path : List Char) (t : String) : Prop :=
  ∃ name e, IsLastComponent path name ∧ name ≠ ['.', '.'] ∧ HasExtension name e ∧ GoesWith e t

/-- **The MIME type of a path.** -/
theorem ofPath?_eq_some_iff {path t : String} :
    ofPath? path = some t ↔ PathHasType path.toList t := by
  constructor
  · intro h
    obtain ⟨name, hname, hrest⟩ := Option.bind_eq_some_iff.1 h
    obtain ⟨e, he, htype⟩ := Option.bind_eq_some_iff.1 hrest
    obtain ⟨hlast, hback⟩ := fileName?_eq_some_iff.1 hname
    exact ⟨name, e, hlast, hback, extension?_eq_some_iff.1 he, ofExtension?_eq_some_iff.1 htype⟩
  · rintro ⟨name, e, hlast, hback, he, htype⟩
    rw [ofPath?, fileName?_eq_some_iff.2 ⟨hlast, hback⟩]
    show (extension? name).bind ofExtension? = some t
    rw [extension?_eq_some_iff.2 he]
    exact ofExtension?_eq_some_iff.2 htype

end Types

/-! ### Case -/

/-- The last component of a path in lower case. -/
theorem fileName?_lower (path : List Char) :
    fileName? (lower path) = (fileName? path).map lower := by
  have hcomponents : components (lower path) = (components path).map lower := by
    rw [components, components, Text.pieces_lower, List.filter_map]
    congr 2
    funext p
    show decide (lower p ≠ [] ∧ lower p ≠ ['.']) = _
    simp only [ne_eq, Text.lower_eq_marks_iff [] (List.forall_mem_nil _),
      Text.lower_eq_marks_iff ['.'] (by simp)]
  rw [fileName?, fileName?, hcomponents, List.getLast?_map]
  cases (components path).getLast? with
  | none => rfl
  | some name =>
      have hback : lower name = ['.', '.'] ↔ name = ['.', '.'] :=
        Text.lower_eq_marks_iff ['.', '.'] (by simp) name
      by_cases h : name = ['.', '.']
      · simp only [Option.map_some, if_pos h, if_pos (hback.2 h), Option.map_none]
      · simp only [Option.map_some, if_neg h, if_neg (mt hback.1 h)]

/-- The extension of a name in lower case. -/
theorem extension?_lower (name : List Char) :
    extension? (lower name) = (extension? name).map lower := by
  have hdot (c : Char) : (c.toLower != '.') = (c != '.') := by
    rw [Bool.eq_iff_iff, bne_iff_ne, bne_iff_ne, Ne, Ne, Text.toLower_eq_mark_iff (by decide)]
  have hbehind : behindDot (lower name) = lower (behindDot name) := by
    simp only [behindDot, lower, ← List.map_reverse, List.takeWhile_map, Function.comp_def, hdot]
  have hlength (cs : List Char) : (lower cs).length = cs.length := List.length_map _
  rw [extension?_eq, extension?_eq, hbehind, hlength, hlength]
  split <;> rfl

/-- **Case does not matter**, anywhere in a path. -/
theorem ofPath?_lower [Table] (path : List Char) :
    ofPath? (String.ofList (lower path)) = ofPath? (String.ofList path) := by
  have htype (e : List Char) : ofExtension? (lower e) = ofExtension? e := by
    rw [ofExtension?, ofExtension?, Text.foldAscii?_lower]
  rw [ofPath?, ofPath?, String.toList_ofList, String.toList_ofList, fileName?_lower]
  cases fileName? path with
  | none => rfl
  | some name =>
      show (extension? (lower name)).bind ofExtension? = (extension? name).bind ofExtension?
      rw [extension?_lower]
      cases extension? name with
      | none => rfl
      | some e => exact htype e

/-! ### The directory -/

/-- A name whose only dot is its first character. -/
def IsHiddenOnly (name : List Char) : Prop := ∃ rest, name = '.' :: rest ∧ '.' ∉ rest

/-- Every other name with a dot has an extension. -/
theorem extension?_of_not_hidden {name : List Char} (h : ¬ IsHiddenOnly name) :
    extension? name = if '.' ∈ name then some (behindDot name) else none := by
  split
  · rename_i hdot
    obtain ⟨stem, back, rfl, hback⟩ := exists_last_dot hdot
    rw [behindDot_append stem hback, extension?_eq_some_iff]
    refine ⟨stem, ?_, rfl, hback⟩
    rintro rfl
    exact h ⟨back, rfl, hback⟩
  · rename_i hdot
    rw [Option.eq_none_iff_forall_ne_some]
    intro e he
    obtain ⟨stem, -, rfl, -⟩ := extension?_eq_some_iff.1 he
    exact hdot (by simp)

/-- Without a directory the file is the name. -/
theorem ofPath?_name [Table] {name : List Char} (hname : IsFinalName name) :
    ofPath? (String.ofList name) =
      if name = ['.', '.'] then none else (extension? name).bind ofExtension? := by
  have hlast : (components name).getLast? = some name := by
    simp [components, Text.pieces_of_not_sep hname.not_slash, hname.ne_nil, hname.ne_dot]
  rw [ofPath?, String.toList_ofList, fileName?, hlast]
  simp only
  split <;> rfl

/-- **The directory does not matter** to a name that has its extension without it. -/
theorem ofPath?_placed [Table] (directory : List Char) {sep : Char} {name : List Char}
    (hsep : sep = '/' ∨ sep = '\\') (hname : IsFinalName name) (hhidden : ¬ IsHiddenOnly name) :
    ofPath? (String.ofList (directory ++ sep :: name)) = ofPath? (String.ofList name) := by
  rcases hsep with rfl | rfl
  · rw [ofPath?_slash directory hname, ofPath?_name hname]
  · rw [ofPath?_backslash directory hname, ofPath?_name hname, extension?_of_not_hidden hhidden]
    by_cases hback : name = ['.', '.']
    · subst hback
      exact ofExtension?_nil
    · rw [if_neg hback]
      split <;> rfl

/-! ### Items -/

/-- The path of the first source of an item. -/
def firstPath? (i : Item) : Option String := i.firstSource?.bind (·.path)

/-- The type of an item is that of its first path. -/
theorem ofItem?_eq [Table] (i : Item) : ofItem? i = (firstPath? i).bind ofPath? := by
  unfold ofItem? ofItem firstPath?
  cases i.firstSource? with
  | none => rfl
  | some s =>
      simp only [Option.bind_some]
      cases s.path with
      | none => rfl
      | some path =>
          simp only [Option.bind_some]
          cases ofPath? path <;> rfl

/-- **The MIME type of an item, exactly.**  An item has a type exactly if it has a first source with
a path whose last component, where only slashes separate and neither empty components nor single dots
count, is no way back and has an extension of the table behind its last dot, when case does not count
and that dot is not its first character; then the type is that of the extension's row.  The sources
behind the first one do not matter, whether or not the first one has a type.  So a name has the type
that it has alone in every directory, behind either slash and in any case of its ASCII letters, unless
its only dot is its first character. -/
theorem types_inferred_exactly [Table] :
    (∀ (i : Item) (t : String), ofItem? i = some t ↔
      ∃ s rest path, i.sources = some (s :: rest) ∧ s.path = some path ∧
        PathHasType path.toList t) ∧
    (∀ (i : Item) (s : MediaSource) (rest rest' : List MediaSource),
      ofItem? { i with sources := some (s :: rest) } =
        ofItem? { i with sources := some (s :: rest') }) ∧
    ∀ (i i' : Item) (directory name name' : List Char) (sep : Char),
      sep = '/' ∨ sep = '\\' → IsFinalName name → ¬ IsHiddenOnly name →
      lower name' = lower name →
      firstPath? i = some (String.ofList (directory ++ sep :: name')) →
      firstPath? i' = some (String.ofList name) → ofItem? i = ofItem? i' := by
  refine ⟨fun i t => ?_, fun i s rest rest' => ?_, ?_⟩
  · rw [ofItem?_eq]
    constructor
    · intro h
      obtain ⟨path, hpath, htype⟩ := Option.bind_eq_some_iff.1 h
      obtain ⟨s, hs, hsource⟩ := Option.bind_eq_some_iff.1 hpath
      obtain ⟨ss, hss, hhead⟩ := Option.bind_eq_some_iff.1 hs
      obtain ⟨rest, rfl⟩ := List.head?_eq_some_iff.1 hhead
      exact ⟨s, rest, path, hss, hsource, ofPath?_eq_some_iff.1 htype⟩
    · rintro ⟨s, rest, path, hsources, hpath, htype⟩
      have hfirst : firstPath? i = some path := by
        simp [firstPath?, Item.firstSource?, hsources, hpath]
      rw [hfirst]
      exact ofPath?_eq_some_iff.2 htype
  · rw [ofItem?_eq, ofItem?_eq]
    rfl
  · intro i i' directory name name' sep hsep hname hhidden hcase hpath hpath'
    have hmoved : lower (directory ++ sep :: name') = lower (directory ++ sep :: name) := by
      simp only [lower, List.map_append, List.map_cons] at hcase ⊢
      rw [hcase]
    rw [ofItem?_eq, ofItem?_eq, hpath, hpath']
    calc ofPath? (String.ofList (directory ++ sep :: name'))
      _ = ofPath? (String.ofList (directory ++ sep :: name)) := by
        rw [← ofPath?_lower, hmoved, ofPath?_lower]
      _ = ofPath? (String.ofList name) := ofPath?_placed directory hsep hname hhidden

/-- A film with a second file, in a directory that is written with backslashes. -/
def cutFilm (path : String) : Item :=
  { Item.bare "f" (.known .movie) with
    sources := some [⟨none, some path, none⟩, ⟨none, some "/films/b.mp3", none⟩] }

/-- A Kelvin sign is a letter k, what does not count behind the name is passed over, and the name has
the same type where it stands in another directory in capitals. -/
theorem kelvin_film_has_type :
    ofItem? (cutFilm "D:\\films/.cut.m\u212av/.//") = some "video/x-matroska" ∧
    ¬ IsHiddenOnly ['a', '.', 'm', 'k', 'v'] ∧
    ofItem? (cutFilm "D:\\old films.zip\\A.MKV") = ofItem? (cutFilm "a.mkv") := by
  have hhidden : ¬ IsHiddenOnly ['a', '.', 'm', 'k', 'v'] := by
    rintro ⟨rest, h, -⟩
    exact absurd (List.cons.inj h).1 (by decide)
  refine ⟨?_, hhidden, ?_⟩
  · refine (types_inferred_exactly.1 _ _).2 ⟨_, _, _, rfl, rfl, ".cut.m\u212av".toList,
      "m\u212av".toList, ⟨by decide, by decide, ["D:\\films".toList], [['.'], [], []], ?_, ?_⟩,
      by decide, ⟨".cut".toList, by decide, by decide, by decide⟩, ?_⟩
    · decide +kernel
    · decide
    · have hrow : ("mkv", ["video/x-matroska"]) ∈ (Table.rows : List (String × List String)) := by
        decide +kernel
      refine ⟨_, hrow, rfl, ['m', 'k', 'v'], (foldsTo_row hrow).2 (by decide), ?_⟩
      exact .ascii (by decide) (.wide (f := ['k']) (by decide) (.ascii (by decide) .nil))
  · refine types_inferred_exactly.2.2 _ _ "D:\\old films.zip".toList "a.mkv".toList "A.MKV".toList
      '\\' (.inr rfl) ⟨by decide, by decide, by decide, by decide⟩ hhidden (by decide) ?_ ?_
    · exact congrArg some (by decide)
    · exact congrArg some (by decide)

end Mime

end MediaTree
