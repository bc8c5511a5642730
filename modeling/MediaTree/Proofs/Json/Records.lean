/-
**Decoders of records.**

A decoder finds a value in the JSON that was written for it, as soon as enough nestings are
allowed.  The lemmas here say so for each way in which decoders are put together; a record follows
from its fields, one member after the other.  A member that is left out leaves its field empty,
which is the value that it stood for.

Main definitions:

* `MediaTree.Json.Decoder.Finds` — a decoder finds a value in a piece of JSON.

Main results:

* `MediaTree.Json.Decoder.finds_list`, `MediaTree.Json.Decoder.finds_optional` — combinations of
  decoders;
* `MediaTree.Json.Shape.members_field`, `MediaTree.Json.Shape.members_optional` — the members of a
  record, one by one;
* `MediaTree.Json.Decoder.Finds.decodeBytes` — what is found in the JSON is found in its text.
-/

import MediaTree.Proofs.Json.Print

set_option autoImplicit false
set_option relaxedAutoImplicit false

namespace MediaTree.Json

variable {α β δ : Type}

/-- The decoder finds the value in the JSON, if so many nestings are allowed. -/
def Decoder.Finds (d : Decoder α) (j : Json) (a : α) (room : Nat) : Prop :=
  ∀ depth, room ≤ depth → d depth j.reading = .ok a

namespace Decoder

/-- What is found in the JSON is found in its text, in either layout. -/
theorem Finds.decodeBytes {d : Decoder α} {j : Json} {a : α} {room : Nat} (h : d.Finds j a room)
    (hroom : room ≤ nestingLimit) (hj : j.Fits) {st : Style} (hst : st.IsBlank) (level : Nat) :
    decodeBytes d (String.ofList (j.render st level)).toUTF8 = .ok a :=
  decodeBytes_render hst hj level (h _ hroom)

/-! ### Scalars -/

theorem finds_string (s : String) : string.Finds (.string s) s 0 := fun _ _ => rfl

/-- A number with a sign. -/
theorem finds_signed {n : Int} (h : -0x8000000000000000 ≤ n ∧ n < 0x8000000000000000) :
    signed.Finds (.int n) n 0 := by
  intro depth _
  have hp : Nat.pow 2 63 = 9223372036854775808 := by decide
  rw [reading, Numeral.ofInt]
  split
  · simp only [signed]
    congr 1
    omega
  · simp only [signed]
    rw [if_pos (by omega)]
    congr 1
    omega

/-- A number without a sign. -/
theorem finds_unsigned (n : Nat) : unsigned.Finds (.int n) n 0 := by
  intro depth _
  rw [reading, Numeral.ofInt, if_neg (by omega)]
  rfl

/-! ### Combinations -/

theorem finds_map {d : Decoder α} {j : Json} {a : α} {room : Nat} (h : d.Finds j a room)
    (f : α → β) : (d.map f).Finds j (f a) room := by
  intro depth hdepth
  rw [map, h depth hdepth]
  rfl

/-- A value that is there is found where it may be missing, unless it is spelled as nothing. -/
theorem finds_optional {d : Decoder α} {j : Json} {a : α} {room : Nat} (h : d.Finds j a room)
    (hj : j ≠ .null) : d.optional.Finds j (some a) room := by
  intro depth hdepth
  have ha := h depth hdepth
  cases j with
  | null => exact absurd rfl hj
  | _ =>
      simp only [reading, optional] at ha ⊢
      rw [ha]
      rfl

theorem elements_map {f : Reading → Except Problem α} {enc : α → Json} {as : List α}
    (h : ∀ a ∈ as, f (enc a).reading = .ok a) :
    elements f (as.map fun a => (enc a).reading) = .ok as := by
  induction as with
  | nil => rfl
  | cons a as ih =>
      have ha := h a (by simp)
      have has := ih fun b hb => h b (by simp [hb])
      rw [List.map_cons, elements, ha, has]
      rfl

/-- A list is found if its elements are. -/
theorem finds_list {d : Decoder α} {enc : α → Json} {as : List α} {room : Nat}
    (h : ∀ a ∈ as, d.Finds (enc a) a room) :
    d.list.Finds (.array (as.map enc)) as (room + 1) := by
  rintro (- | depth) hdepth
  · omega
  · have has := elements_map fun a ha => h a ha depth (by omega)
    simpa [reading, list, Function.comp_def] using has

/-- The entries of a dictionary are put into it in order. -/
theorem entries_map {d : Reading → Except Problem α} {enc : α → Json} {es : List (String × α)}
    (put : β → String → α → β) (h : ∀ e ∈ es, d (enc e.2).reading = .ok e.2) (b : β) :
    entries d put b (es.map fun e => (.string (some e.1), (enc e.2).reading)) =
      .ok (es.foldl (fun b e => put b e.1 e.2) b) := by
  induction es generalizing b with
  | nil => rfl
  | cons e es ih =>
      have he := h e (by simp)
      have hes := ih (fun f hf => h f (by simp [hf])) (put b e.1 e.2)
      rw [List.map_cons, entries, he]
      exact hes

end Decoder

/-! ### Records -/

namespace Shape

variable (s : Shape δ α) {depth : Nat}

@[simp] theorem members_nil (d : δ) : s.members depth d [] = .ok d := by
  rw [members]

/-- Members are read one after the other. -/
theorem members_append (d : δ) (front back : List (Reading × Reading)) :
    s.members depth d (front ++ back) =
      (s.members depth d front).bind fun d' => s.members depth d' back := by
  induction front generalizing d with
  | nil => simp [Except.bind]
  | cons m front ih =>
      obtain ⟨k, v⟩ := m
      rw [List.cons_append, members, members]
      cases Decoder.key k with
      | error p => rfl
      | ok name =>
          simp only [bind, Except.bind]
          split
          · split
            · rfl
            · rename_i f _ _
              cases f.read d depth v with
              | error p => rfl
              | ok d' => exact ih d'
          · split
            · exact ih d
            · rfl

/-- Behind members that were read, the others go on with their draft. -/
theorem members_append_of_ok {d d' : δ} {front : List (Reading × Reading)}
    (h : s.members depth d front = .ok d') (back : List (Reading × Reading)) :
    s.members depth d (front ++ back) = s.members depth d' back := by
  rw [members_append, h]
  rfl

/-- A single member is read into its field, if that is empty. -/
theorem members_single {name : String} {f : Field δ} {d : δ}
    (hf : s.fields.find? (·.name == name) = some f) (hempty : f.filled d = false) (v : Reading) :
    s.members depth d [(.string (some name), v)] = f.read d depth v := by
  cases h : f.read d depth v <;> simp [members, Decoder.key, hf, hempty, h, bind, Except.bind]

/-- A member fills its field, if that is empty, and the members behind it go on. -/
theorem members_field {name : String} {f : Field δ} {dec : Decoder β} {j : Json} {b : β}
    {room : Nat} {d : δ} (fill : β → δ) (hf : s.fields.find? (·.name == name) = some f)
    (hempty : f.filled d = false)
    (hread : ∀ r, f.read d depth r = (dec depth r).bind fun b => .ok (fill b))
    (hdec : dec.Finds j b room) (hroom : room ≤ depth) (back : List (Reading × Reading)) :
    s.members depth d (memberReading (name, j) :: back) = s.members depth (fill b) back := by
  have hb := (hread j.reading).trans (by rw [hdec depth hroom])
  have hone : s.members depth d [memberReading (name, j)] = .ok (fill b) :=
    (s.members_single hf hempty j.reading).trans hb
  exact s.members_append_of_ok hone back

/-- A member that may be left out fills its field, or leaves it empty. -/
theorem members_optional {name : String} {f : Field δ} {dec : Decoder β} {enc : β → Json}
    {o : Option β} {room : Nat} (put : Option (Option β) → δ)
    (hf : s.fields.find? (·.name == name) = some f) (hempty : f.filled (put none) = false)
    (hread : ∀ r, f.read (put none) depth r =
      (dec.optional depth r).bind fun b => .ok (put (some b)))
    (hdec : ∀ b ∈ o, dec.Finds (enc b) b room) (henc : ∀ b, enc b ≠ .null)
    (hroom : room ≤ depth) (back : List (Reading × Reading)) :
    s.members depth (put none) ((Json.optional name enc o).map memberReading ++ back) =
      s.members depth (put (o.map some)) back := by
  cases o with
  | none => rfl
  | some b =>
      exact s.members_field (fun b => put (some b)) hf hempty hread
        (Decoder.finds_optional (hdec b rfl) (henc b)) hroom back

theorem join_map_some (o : Option β) : (o.map some).join = o := by cases o <;> rfl

/-- A record is found if its members fill a draft that is finished. -/
theorem finds_decode {ms : List (String × Json)} {d : δ} {a : α} {room : Nat}
    (hms : ∀ depth, room ≤ depth → s.members depth s.blank (ms.map memberReading) = .ok d)
    (hfinish : s.finish d = .ok a) : s.decode.Finds (.object ms) a (room + 1) := by
  -- a record takes one level of nesting for itself
  rintro (- | depth) hdepth
  · omega
  · rw [reading, memberReadings_eq_map, decode, hms depth (by omega)]
    exact hfinish

end Shape

end MediaTree.Json
