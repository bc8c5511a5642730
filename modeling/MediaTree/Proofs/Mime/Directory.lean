/-
**The directory of a file does not matter.**

A server may write its paths with either slash.  The name that is logged is what stands behind the
last slash of either kind; but the file of a path is told by the forward slash only, so behind a
backslash some of the directory stays in front of the name.  Neither the MIME type nor what is
logged shows any of it.  A dot of the name is never the first character of a file that begins with
a directory, so the extension is what stands behind the last dot of the name; and if the name has no
dot, an extension that the directory could give it holds the backslash, and no MIME type goes with
that.

Main definitions:

* `MediaTree.Mime.IsFinalName` — a name that a path may end in;
* `MediaTree.Mime.Moved` — two paths of one name, in any two directories.

Main results:

* `MediaTree.Mime.ofPath?_slash`, `MediaTree.Mime.ofPath?_backslash` — the MIME type of a path, told
  by its name alone;
* `MediaTree.Mime.Moved.ofPath?_eq`, `MediaTree.Mime.Moved.baseName_eq` — **what is told of a path
  is told alike of a path that was moved.**
-/

import MediaTree.Mime.Basic
import MediaTree.Proofs.Text.Case

set_option autoImplicit false
set_option relaxedAutoImplicit false

namespace MediaTree

/-! ### Pieces of a path -/

namespace Text

variable {sep : Char → Bool}

/-- A separator ends the pieces in front of it. -/
theorem pieces_append_sep {c : Char} (h : sep c = true) (front back : List Char) :
    pieces sep (front ++ c :: back) = pieces sep front ++ pieces sep back := by
  induction front with
  | nil => simp [pieces, h]
  | cons d front ih =>
      rw [List.cons_append, pieces, pieces, ih]
      split
      · rfl
      · cases hp : pieces sep front with
        | nil => exact absurd hp (pieces_ne_nil sep front)
        | cons p ps => rfl

/-- A text without a separator is one piece. -/
theorem pieces_of_not_sep {cs : List Char} (h : ∀ c ∈ cs, sep c = false) :
    pieces sep cs = [cs] := by
  induction cs with
  | nil => rfl
  | cons c cs ih => simp [pieces, h c (by simp), ih fun d hd => h d (by simp [hd])]

/-- What follows the last separator goes on the last piece. -/
theorem pieces_append_of_not_sep (front : List Char) {back : List Char}
    (h : ∀ c ∈ back, sep c = false) :
    ∃ ps p, pieces sep front = ps ++ [p] ∧ pieces sep (front ++ back) = ps ++ [p ++ back] := by
  induction front with
  | nil => exact ⟨[], [], rfl, pieces_of_not_sep h⟩
  | cons c front ih =>
      obtain ⟨ps, p, hfront, hboth⟩ := ih
      rw [List.cons_append, pieces, pieces, hfront, hboth]
      split
      · exact ⟨[] :: ps, p, rfl, rfl⟩
      · cases ps with
        | nil => exact ⟨[], c :: p, rfl, rfl⟩
        | cons q qs => exact ⟨(c :: q) :: qs, p, rfl, rfl⟩

end Text

namespace Mime

/-! ### Names -/

/-- A name that a path may end in: not empty, not the dot that stands for the directory itself, and
without either slash. -/
structure IsFinalName (name : List Char) : Prop where
  ne_nil : name ≠ []
  ne_dot : name ≠ ['.']
  slash : '/' ∉ name
  backslash : '\\' ∉ name

/-- No character of the name separates. -/
theorem IsFinalName.not_slash {name : List Char} (hname : IsFinalName name) :
    ∀ c ∈ name, (c == '/') = false := by
  intro c hc
  have hslash : c ≠ '/' := fun h => hname.slash (h ▸ hc)
  simp [hslash]

/-- A path that was moved: to another directory, behind the same slash and under the same name. -/
inductive Moved : String → String → Prop
  | stay (path : String) : Moved path path
  | move (directory directory' : List Char) (sep : Char) (name : List Char)
      (hsep : sep = '/' ∨ sep = '\\') (hname : IsFinalName name) :
    Moved (String.ofList (directory ++ sep :: name)) (String.ofList (directory' ++ sep :: name))

/-- Of a path, the name is shown and nothing of the directory. -/
theorem baseName_append (directory : List Char) {sep : Char} {name : List Char}
    (hsep : sep = '/' ∨ sep = '\\') (hname : IsFinalName name) :
    baseName (String.ofList (directory ++ sep :: name)) = String.ofList name := by
  have hplain : ∀ c ∈ name.reverse, (c != '/' && c != '\\') = true := by
    intro c hc
    have hc := List.mem_reverse.1 hc
    have hslash : c ≠ '/' := fun h => hname.slash (h ▸ hc)
    have hback : c ≠ '\\' := fun h => hname.backslash (h ▸ hc)
    simp [hslash, hback]
  have hstop : (sep != '/' && sep != '\\') = false := by rcases hsep with rfl | rfl <;> rfl
  simp [baseName, List.takeWhile_append_of_pos hplain, hstop]

/-! ### Files -/

/-- Behind a forward slash the file is the name. -/
theorem fileName?_slash (directory : List Char) {name : List Char} (hname : IsFinalName name) :
    fileName? (directory ++ '/' :: name) = if name = ['.', '.'] then none else some name := by
  have hlast : (components (directory ++ '/' :: name)).getLast? = some name := by
    have hpieces : Text.pieces (· == '/') (directory ++ '/' :: name) =
        Text.pieces (· == '/') directory ++ Text.pieces (· == '/') name :=
      Text.pieces_append_sep rfl directory name
    simp [components, hpieces, Text.pieces_of_not_sep hname.not_slash, hname.ne_nil, hname.ne_dot]
  rw [fileName?, hlast]

/-- Behind a backslash the file begins with some of the directory. -/
theorem fileName?_backslash (directory : List Char) {name : List Char} (hname : IsFinalName name) :
    ∃ rest, fileName? (directory ++ '\\' :: name) = some (rest ++ '\\' :: name) := by
  have hplain : ∀ c ∈ '\\' :: name, (c == '/') = false := by
    intro c hc
    rcases List.mem_cons.1 hc with rfl | hc
    · rfl
    · exact hname.not_slash c hc
  obtain ⟨ps, rest, -, hpieces⟩ := Text.pieces_append_of_not_sep directory hplain
  have hne (cs : List Char) (hcs : '\\' ∉ cs) : rest ++ '\\' :: name ≠ cs := by
    rintro rfl
    exact hcs (by simp)
  have hlast : (components (directory ++ '\\' :: name)).getLast? = some (rest ++ '\\' :: name) := by
    have hnil := hne [] (by decide)
    have hdot := hne ['.'] (by decide)
    simp [components, hpieces, hnil, hdot]
  refine ⟨rest, ?_⟩
  rw [fileName?, hlast]
  simp only
  rw [if_neg (hne ['.', '.'] (by decide))]

/-! ### Extensions -/

/-- What stands behind the last dot of a name; all of it if it has none. -/
def behindDot (name : List Char) : List Char := (name.reverse.takeWhile (· != '.')).reverse

/-- An extension is told by what stands behind the last dot. -/
theorem extension?_eq (name : List Char) :
    extension? name =
      if name.length - (behindDot name).length ≤ 1 then none else some (behindDot name) := rfl

/-- A name without a dot is passed from its end to its beginning. -/
theorem not_dot_of_mem_reverse {name : List Char} (h : '.' ∉ name) :
    ∀ c ∈ name.reverse, (c != '.') = true := by
  intro c hc
  have hdot : c ≠ '.' := fun h' => h (h' ▸ List.mem_reverse.1 hc)
  simp [hdot]

theorem behindDot_append (front : List Char) {back : List Char} (h : '.' ∉ back) :
    behindDot (front ++ '.' :: back) = back := by
  simp [behindDot, List.takeWhile_append_of_pos (not_dot_of_mem_reverse h)]

/-- A name with a dot has a last one. -/
theorem exists_last_dot {name : List Char} (h : '.' ∈ name) :
    ∃ front back, name = front ++ '.' :: back ∧ '.' ∉ back := by
  obtain ⟨back, front, hname, hback⟩ := List.eq_append_cons_of_mem (List.mem_reverse.2 h)
  refine ⟨front.reverse, back.reverse, ?_, fun h' => hback (List.mem_reverse.1 h')⟩
  simpa using congrArg List.reverse hname

/-- If the name has a dot, nothing in front of the name matters. -/
theorem extension?_append {name : List Char} (h : '.' ∈ name) (front : List Char) (c : Char) :
    extension? (front ++ c :: name) = some (behindDot name) := by
  obtain ⟨stem, back, rfl, hback⟩ := exists_last_dot h
  have hwhole : front ++ c :: (stem ++ '.' :: back) = (front ++ c :: stem) ++ '.' :: back := by
    simp
  rw [extension?_eq, hwhole, behindDot_append _ hback, behindDot_append _ hback, if_neg]
  simp only [List.length_append, List.length_cons]
  omega

/-- If the name has no dot, an extension holds all of the name and the backslash in front of it. -/
theorem backslash_mem_extension {name : List Char} (h : '.' ∉ name) {front e : List Char}
    (he : extension? (front ++ '\\' :: name) = some e) : '\\' ∈ e := by
  rw [extension?_eq] at he
  split at he
  · cases he
  · cases he
    simp [behindDot, List.takeWhile_append_of_pos (not_dot_of_mem_reverse h)]

/-- Folding keeps a backslash. -/
theorem backslash_mem_foldAscii {cs fs : List Char} (hcs : '\\' ∈ cs)
    (hfs : Text.foldAscii? cs = some fs) : '\\' ∈ fs := by
  induction cs generalizing fs with
  | nil => cases hcs
  | cons c cs ih =>
      rw [Text.foldAscii?] at hfs
      obtain ⟨f, hf, hrest⟩ := Option.bind_eq_some_iff.1 hfs
      obtain ⟨gs, hgs, hpure⟩ := Option.bind_eq_some_iff.1 hrest
      cases hpure
      rcases List.mem_cons.1 hcs with rfl | hcs
      · have hself : Text.foldAsciiChar? '\\' = some ['\\'] := by decide
        rw [hself] at hf
        cases hf
        exact List.mem_cons_self
      · exact List.mem_append_right f (ih hcs hgs)

section Types

variable [Table]

/-- No MIME type goes with an extension that holds a backslash. -/
theorem ofExtension?_backslash {e : List Char} (h : '\\' ∈ e) : ofExtension? e = none := by
  cases hfold : Text.foldAscii? e with
  | none => simp [ofExtension?, hfold]
  | some fs =>
      have hmem := backslash_mem_foldAscii h hfold
      have hnone : (Table.rows.find? fun row => Text.lower row.1.toList == fs) = none := by
        rw [List.find?_eq_none]
        intro row hrow hfs
        have hlower : '\\' ∈ Text.lower row.1.toList := by rwa [beq_iff_eq.1 hfs]
        have hextension := Text.mark_mem_lower (by decide) hlower
        exact ((Table.isExtension row hrow).2 _ hextension).2 rfl
      rw [ofExtension?, hfold, Option.bind_some, typeOf?, hnone, Option.bind_none]

/-! ### MIME types -/

/-- **Behind a forward slash the MIME type is that of the name.** -/
theorem ofPath?_slash (directory : List Char) {name : List Char} (hname : IsFinalName name) :
    ofPath? (String.ofList (directory ++ '/' :: name)) =
      if name = ['.', '.'] then none else (extension? name).bind ofExtension? := by
  rw [ofPath?, String.toList_ofList, fileName?_slash directory hname]
  split <;> rfl

/-- **Behind a backslash the MIME type is that of the name**, which may begin with its only dot. -/
theorem ofPath?_backslash (directory : List Char) {name : List Char} (hname : IsFinalName name) :
    ofPath? (String.ofList (directory ++ '\\' :: name)) =
      if '.' ∈ name then ofExtension? (behindDot name) else none := by
  obtain ⟨rest, hfile⟩ := fileName?_backslash directory hname
  rw [ofPath?, String.toList_ofList, hfile]
  show (extension? (rest ++ '\\' :: name)).bind ofExtension? = _
  split
  · rename_i hdot
    rw [extension?_append hdot]
    rfl
  · rename_i hdot
    cases he : extension? (rest ++ '\\' :: name) with
    | none => rfl
    | some e => exact ofExtension?_backslash (backslash_mem_extension hdot he)

/-- A path that was moved has the MIME type that it had. -/
theorem Moved.ofPath?_eq {path path' : String} (h : Moved path path') :
    ofPath? path = ofPath? path' := by
  cases h with
  | stay path => rfl
  | move directory directory' sep name hsep hname =>
      rcases hsep with rfl | rfl
      · rw [ofPath?_slash directory hname, ofPath?_slash directory' hname]
      · rw [ofPath?_backslash directory hname, ofPath?_backslash directory' hname]

end Types

/-- A path that was moved is shown by the name that it had. -/
theorem Moved.baseName_eq {path path' : String} (h : Moved path path') :
    baseName path = baseName path' := by
  cases h with
  | stay path => rfl
  | move directory directory' sep name hsep hname =>
      rw [baseName_append directory hsep hname, baseName_append directory' hsep hname]

end Mime

end MediaTree
