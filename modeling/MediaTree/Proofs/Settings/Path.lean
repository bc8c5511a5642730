/-
**What a key means.**

The top-level keys of a layer are read as paths, from left to right, and a key that is no path is a
name as it stands.  Three things are needed of this reading: a key without dots and brackets is a
name, two names with a dot between them are a path of two steps, and wherever a path leads, it
begins with characters of its key.

Main results:

* `MediaTree.Path.ofText_of_plain` — a key without dots and brackets is a name;
* `MediaTree.Path.ofText_path` — the path of a setting leads to it;
* `MediaTree.Path.root_prefix` — a path begins as its key does.
-/

import MediaTree.Settings.Basic
import MediaTree.Settings.Path

set_option autoImplicit false
set_option relaxedAutoImplicit false

namespace MediaTree

open Text (Scan)

/-! ### Readers, one after the other -/

/-- A reader goes on where the one before it stopped. -/
theorem Text.Scan.bind_apply {α β : Type} (s : Scan α) (f : α → Scan β) (cs : List Char) :
    (s >>= f) cs = (s cs).bind fun r => f r.1 r.2 := rfl

namespace Path

/-- A name is as long as there are characters for it. -/
theorem name_apply (cs : List Char) : name cs =
    if (cs.takeWhile isNameChar).isEmpty then none
    else some (String.ofList (cs.takeWhile isNameChar), cs.dropWhile isNameChar) := by
  unfold name Scan.takeSome
  rw [Scan.bind_apply, Scan.bind_apply]
  show Option.bind ((if _ then _ else _ : Scan (List Char)) _) _ = _
  split <;> rfl

/-- A name in front of something else. -/
theorem name_append {cs rest : List Char} (hcs : ∀ c ∈ cs, isNameChar c = true) (hne : cs ≠ [])
    (hrest : ∀ c ∈ rest.head?, isNameChar c = false) :
    name (cs ++ rest) = some (String.ofList cs, rest) := by
  have hstop : rest.takeWhile isNameChar = [] ∧ rest.dropWhile isNameChar = rest := by
    cases rest with
    | nil => exact ⟨rfl, rfl⟩
    | cons c rest => simp [hrest c rfl]
  rw [name_apply, List.takeWhile_append_of_pos hcs, List.dropWhile_append_of_pos hcs, hstop.1,
    hstop.2, List.append_nil, if_neg (by simpa using hne)]

/-- Steps are read until nothing is left. -/
theorem stepsRest_succ (fuel : Nat) (acc : List Step) (cs : List Char) :
    stepsRest (fuel + 1) acc cs =
      if cs.isEmpty then some (acc.reverse, cs)
      else (step cs).bind fun r => stepsRest fuel (r.1 :: acc) r.2 := by
  cases cs <;> rfl

/-- Only a dot and a bracket start a step. -/
theorem step_of_ne {c : Char} (hdot : c ≠ '.') (hbracket : c ≠ '[') (cs : List Char) :
    step (c :: cs) = none := by
  unfold step
  simp only [Scan.bind_apply, Scan.next, Option.bind_some]
  rfl

/-- A dot and a name are a step. -/
theorem step_dot (cs : List Char) :
    step ('.' :: cs) = (name cs).bind fun r => some (.key r.1, r.2) := rfl

/-- A key is read as a name and the steps behind it. -/
theorem ofText?_eq (s : String) :
    ofText? s = (name s.toList).bind fun r =>
      match stepsRest (s.toList.length + 1) [] r.2 with
      | some (steps, []) => some ⟨r.1, steps⟩
      | _ => none := by
  unfold ofText? Scan.whole?
  rw [Scan.bind_apply]
  cases name s.toList with
  | none => rfl
  | some r =>
      simp only [Option.bind_some, Scan.bind_apply]
      cases stepsRest (s.toList.length + 1) [] r.2 with
      | none => rfl
      | some q =>
          obtain ⟨steps, left⟩ := q
          cases left <;> rfl

/-! ### What paths begin with -/

/-- A path begins as its key does. -/
theorem root_prefix (s : String) : (ofText s).root.toList <+: s.toList := by
  unfold ofText
  cases h : ofText? s with
  | none => exact List.prefix_refl _
  | some p =>
      rw [ofText?_eq, name_apply] at h
      split at h
      · cases h
      · simp only [Option.bind_some] at h
        split at h
        · obtain rfl := Option.some_inj.1 h
          simpa using List.takeWhile_prefix isNameChar
        · cases h

/-- A key without dots and brackets. -/
def IsPlain (s : String) : Prop := ∀ c ∈ s.toList, c ≠ '.' ∧ c ≠ '['

instance (s : String) : Decidable (IsPlain s) := List.decidableBAll _ _

/-- **A key without dots and brackets is a name**, whatever its characters are. -/
theorem ofText_of_plain {s : String} (h : IsPlain s) : ofText s = ⟨s, []⟩ := by
  unfold ofText
  cases hp : ofText? s with
  | none => rfl
  | some p =>
      rw [ofText?_eq, name_apply] at hp
      split at hp
      · cases hp
      · have hsplit : s.toList.takeWhile isNameChar ++ s.toList.dropWhile isNameChar = s.toList :=
          List.takeWhile_append_dropWhile
        cases hrest : s.toList.dropWhile isNameChar with
        | nil =>
            rw [hrest, List.append_nil] at hsplit
            rw [hrest, hsplit] at hp
            simp only [Option.bind_some, stepsRest_succ, List.isEmpty_nil, if_true,
              List.reverse_nil, String.ofList_toList] at hp
            rw [← Option.some_inj.1 hp]
            rfl
        | cons c cs =>
            -- what is behind the name is no step, so there is no path
            have hc : c ∈ s.toList := by
              rw [← hsplit, hrest]
              simp
            obtain ⟨hdot, hbracket⟩ := h c hc
            rw [hrest] at hp
            simp only [Option.bind_some, stepsRest_succ, List.isEmpty_cons,
              step_of_ne hdot hbracket] at hp
            cases hp

/-- Two names with a dot between them are a path of two steps. -/
theorem ofText_dot {root last : String} (hroot : root.toList.all isNameChar = true)
    (hroot' : root ≠ "") (hlast : last.toList.all isNameChar = true) (hlast' : last ≠ "") :
    ofText (root ++ "." ++ last) = ⟨root, [.key last]⟩ := by
  have hchars : (root ++ "." ++ last).toList = root.toList ++ '.' :: last.toList := by simp
  have hname : name (root.toList ++ '.' :: last.toList) = some (root, '.' :: last.toList) := by
    rw [name_append (List.all_eq_true.1 hroot) (by simpa using hroot') (by simp [isNameChar]),
      String.ofList_toList]
  have hstep : step ('.' :: last.toList) = some (.key last, []) := by
    have hlast := @name_append _ [] (List.all_eq_true.1 hlast) (by simpa using hlast') (by simp)
    rw [List.append_nil, String.ofList_toList] at hlast
    rw [step_dot, hlast]
    rfl
  have hlength : (root.toList ++ '.' :: last.toList).length + 1 =
      (root.toList.length + last.toList.length + 1) + 1 := by
    simp
    omega
  unfold ofText
  rw [ofText?_eq, hchars, hname, hlength]
  simp [stepsRest_succ, hstep]

/-! ### Paths of settings -/

/-- The path of a setting leads to it: first to its section, and there to its key. -/
theorem ofText_path (k : Setting) : ofText k.path = ⟨k.home.key, [.key k.key]⟩ := by
  apply ofText_dot
  · cases k <;> decide
  · cases k <;> decide
  · cases k <;> decide
  · cases k <;> decide

/-- The key of a section is a name. -/
theorem ofText_key (c : Section) : ofText c.key = ⟨c.key, []⟩ :=
  ofText_of_plain (by cases c <;> decide)

end Path

end MediaTree
