/-
**Spellings of a record.**

A record may be spelled as an object, with its members in any order and with members that it does
not know, or by position, as an array.  A field that may be left out is not named in an object, or
stands behind the last element of an array.  Whatever the spelling, the decoder of the record reads
the same value for each field.

Main definitions:

* `MediaTree.Json.Part` — a field of a record, with what may stand for it; `Part.needed` and
  `Part.optional`;
* `MediaTree.Json.Part.Spells` — the spellings of a record;
* `MediaTree.Json.Fit` — a slot that reads everything that may stand for a field.

Main results:

* `MediaTree.Json.Part.Spells.values` — every spelling gives one value for a field, or none where it
  may be left out;
* `MediaTree.Json.Part.Spells.of_members` — an object that is written is one of the spellings;
* `MediaTree.Json.Shape.Slotted.exists_of_spells` — **every spelling is read as the same record**.
-/

import MediaTree.Proofs.Json.Print
import MediaTree.Proofs.Json.Slots

set_option autoImplicit false
set_option relaxedAutoImplicit false

namespace MediaTree.Json

/-- A field of a record, as a text may spell it. -/
structure Part where
  name : String
  /-- The field may be left out. -/
  omissible : Prop
  /-- What may stand for its value. -/
  spelled : Reading → Prop

/-- A field that is always there. -/
def Part.needed (name : String) (spelled : Reading → Prop) : Part := ⟨name, False, spelled⟩

/-- A field that may have no value: it is left out then, or `null`. -/
def Part.optional {β : Type} (name : String) (spelled : β → Reading → Prop) : Option β → Part
  | none => ⟨name, True, (· = .null)⟩
  | some b => ⟨name, False, spelled b⟩

/-- The reading says a text. -/
def SaysText (t : String) (r : Reading) : Prop := r = .string (some t)

/-- The reading says a whole number. -/
def SaysInt (n : Int) (r : Reading) : Prop := r = .number (.ofInt n)

/-- The reading is an array whose elements say the elements of a list. -/
def SaysList {β : Type} (spelled : β → Reading → Prop) (bs : List β) (r : Reading) : Prop :=
  ∃ rs, r = .array rs ∧ List.Forall₂ spelled bs rs

/-- A member with its key. -/
def keyed (m : String × Reading) : Reading × Reading := (.string (some m.1), m.2)

namespace Part

/-- Members that name fields, in the order of the fields. -/
inductive Chosen : List Part → List (String × Reading) → Prop where
  | nil : Chosen [] []
  | given {p : Part} {ps : List Part} {v : Reading} {ms : List (String × Reading)}
    (hv : p.spelled v) (h : Chosen ps ms) : Chosen (p :: ps) ((p.name, v) :: ms)
  | omitted {p : Part} {ps : List Part} {ms : List (String × Reading)} (hp : p.omissible)
    (h : Chosen ps ms) : Chosen (p :: ps) ms

/-- Elements for the first fields; the others are left out. -/
inductive Placed : List Part → List Reading → Prop where
  | nil {ps : List Part} (h : ∀ p ∈ ps, p.omissible) : Placed ps []
  | cons {p : Part} {ps : List Part} {v : Reading} {vs : List Reading} (hv : p.spelled v)
    (h : Placed ps vs) : Placed (p :: ps) (v :: vs)

/-- The spellings of a record. -/
inductive Spells (ps : List Part) : Reading → Prop where
  /-- An object: members for the fields and others that are unknown, in any order. -/
  | object {known unknown : List (String × Reading)} {ms : List (Reading × Reading)}
    (hknown : Chosen ps known) (hnames : ∀ m ∈ unknown, ∀ p ∈ ps, m.1 ≠ p.name)
    (hsound : ∀ m ∈ unknown, m.2.sound = true) (hms : ms.Perm ((known ++ unknown).map keyed)) :
    Spells ps (.object ms)
  /-- An array: the values by position. -/
  | array {vs : List Reading} (h : Placed ps vs) : Spells ps (.array vs)

variable {ps : List Part}

/-! ### What a spelling gives for a field -/

theorem valuesOf_perm {ms ms' : List (Reading × Reading)} (h : ms.Perm ms') (name : String) :
    (Reading.valuesOf name ms).Perm (Reading.valuesOf name ms') :=
  (h.filter _).map _

theorem valuesOf_keyed_of_ne {name : String} {ms : List (String × Reading)}
    (h : ∀ m ∈ ms, m.1 ≠ name) : Reading.valuesOf name (ms.map keyed) = [] := by
  have hfilter : (ms.map keyed).filter (fun m => m.1.text? = some name) = [] := by
    rw [List.filter_eq_nil_iff]
    intro k hk
    obtain ⟨m, hm, rfl⟩ := List.mem_map.1 hk
    simpa [keyed, Reading.text?] using h m hm
  rw [Reading.valuesOf, hfilter, List.map_nil]

/-- Members name fields only. -/
theorem Chosen.exists_part {ms : List (String × Reading)} (h : Chosen ps ms)
    {m : String × Reading} (hm : m ∈ ms) : ∃ p ∈ ps, m.1 = p.name := by
  induction h with
  | nil => cases hm
  | @given p ps v ms _ _ ih =>
      rcases List.mem_cons.1 hm with rfl | hm
      · exact ⟨p, by simp, rfl⟩
      · obtain ⟨q, hq, hname⟩ := ih hm
        exact ⟨q, by simp [hq], hname⟩
  | omitted _ _ ih =>
      obtain ⟨q, hq, hname⟩ := ih hm
      exact ⟨q, by simp [hq], hname⟩

/-- Members give one value for a field, or none where it may be left out. -/
theorem Chosen.values {ms : List (String × Reading)} (h : Chosen ps ms)
    (hnodup : (ps.map Part.name).Nodup) {p : Part} (hp : p ∈ ps) :
    (Reading.valuesOf p.name (ms.map keyed) = [] ∧ p.omissible) ∨
      ∃ v, Reading.valuesOf p.name (ms.map keyed) = [v] ∧ p.spelled v := by
  induction h with
  | nil => cases hp
  | @given q ps v ms hv h ih =>
      rw [List.map_cons, List.nodup_cons] at hnodup
      have hcons : Reading.valuesOf p.name (((q.name, v) :: ms).map keyed) =
          if q.name = p.name then v :: Reading.valuesOf p.name (ms.map keyed)
          else Reading.valuesOf p.name (ms.map keyed) := by
        simp [keyed, Reading.valuesOf_cons, Reading.text?]
      rw [hcons]
      rcases List.mem_cons.1 hp with rfl | hp
      · -- no field behind it has its name
        have hrest : Reading.valuesOf p.name (ms.map keyed) = [] :=
          valuesOf_keyed_of_ne fun m hm hname => by
            obtain ⟨q, hq, hmq⟩ := h.exists_part hm
            exact hnodup.1 (hname ▸ hmq ▸ List.mem_map_of_mem hq)
        exact .inr ⟨v, by rw [if_pos rfl, hrest], hv⟩
      · have hne : q.name ≠ p.name := fun h => hnodup.1 (h ▸ List.mem_map_of_mem hp)
        rw [if_neg hne]
        exact ih hnodup.2 hp
  | @omitted q ps ms hq h ih =>
      rw [List.map_cons, List.nodup_cons] at hnodup
      rcases List.mem_cons.1 hp with rfl | hp
      · refine .inl ⟨valuesOf_keyed_of_ne fun m hm hname => ?_, hq⟩
        obtain ⟨q, hq, hmq⟩ := h.exists_part hm
        exact hnodup.1 (hname ▸ hmq ▸ List.mem_map_of_mem hq)
      · exact ih hnodup.2 hp

/-- Elements give one value for a field, or none where it may be left out. -/
theorem Placed.values {vs : List Reading} (h : Placed ps vs) (hnodup : (ps.map Part.name).Nodup)
    {p : Part} (hp : p ∈ ps) :
    (Reading.placed (ps.map Part.name) p.name vs = [] ∧ p.omissible) ∨
      ∃ v, Reading.placed (ps.map Part.name) p.name vs = [v] ∧ p.spelled v := by
  induction h with
  | nil hps => exact .inl ⟨Reading.placed_nil _ _, hps p hp⟩
  | @cons q ps v vs hv h ih =>
      rw [List.map_cons, List.nodup_cons] at hnodup
      rcases List.mem_cons.1 hp with rfl | hp
      · exact .inr ⟨v, by rw [List.map_cons, Reading.placed_head], hv⟩
      · have hne : q.name ≠ p.name := fun h => hnodup.1 (h ▸ List.mem_map_of_mem hp)
        rw [List.map_cons, Reading.placed_tail hne]
        exact ih hnodup.2 hp

theorem Placed.length_le {vs : List Reading} (h : Placed ps vs) : vs.length ≤ ps.length := by
  induction h with
  | nil => exact Nat.zero_le _
  | cons _ _ ih => exact Nat.succ_le_succ ih

/-- **Every spelling gives one value for a field**, or none where it may be left out. -/
theorem Spells.values {r : Reading} (h : Spells ps r) (hnodup : (ps.map Part.name).Nodup)
    {p : Part} (hp : p ∈ ps) :
    (r.given (ps.map Part.name) p.name = [] ∧ p.omissible) ∨
      ∃ v, r.given (ps.map Part.name) p.name = [v] ∧ p.spelled v := by
  cases h with
  | array h => exact h.values hnodup hp
  | @object known unknown ms hknown hnames _ hms =>
      have hvalues : (Reading.valuesOf p.name ms).Perm
          (Reading.valuesOf p.name (known.map keyed)) := by
        have hperm := valuesOf_perm hms p.name
        have hunknown := valuesOf_keyed_of_ne fun m hm => hnames m hm p hp
        have happend : Reading.valuesOf p.name ((known ++ unknown).map keyed) =
            Reading.valuesOf p.name (known.map keyed) ++
              Reading.valuesOf p.name (unknown.map keyed) := by
          simp only [Reading.valuesOf, List.map_append, List.filter_append]
        rwa [happend, hunknown, List.append_nil] at hperm
      obtain ⟨hnone, hp⟩ | ⟨v, hone, hv⟩ := hknown.values hnodup hp
      · rw [hnone] at hvalues
        exact .inl ⟨hvalues.eq_nil, hp⟩
      · rw [hone] at hvalues
        exact .inr ⟨v, hvalues.eq_singleton, hv⟩

/-- Every spelling is a record of these fields. -/
theorem Spells.isRecord {r : Reading} (h : Spells ps r) : r.IsRecord (ps.map Part.name) := by
  cases h with
  | array h => exact .array (by simpa using h.length_le)
  | @object known unknown ms hknown hnames hsound hms =>
      refine .object (fun m hm => ?_) fun m hm hname => ?_
      all_goals
        obtain ⟨n, hn, rfl⟩ := List.mem_map.1 (hms.mem_iff.1 hm)
      · rfl
      · rcases List.mem_append.1 hn with hn | hn
        · obtain ⟨p, hp, hnp⟩ := hknown.exists_part hn
          exact absurd (congrArg some hnp) (hname p.name (List.mem_map_of_mem hp))
        · exact hsound n hn

/-! ### What is written -/

/-- A member as it is written. -/
def written (m : String × Json) : String × Reading := (m.1, m.2.reading)

/-- A field that may have no value is written if it has one. -/
theorem Chosen.written_optional {β : Type} {name : String} {spelled : β → Reading → Prop}
    {enc : β → Json} {o : Option β} {ms : List (String × Json)}
    (henc : ∀ b ∈ o, spelled b (enc b).reading) (h : Chosen ps (ms.map written)) :
    Chosen (.optional name spelled o :: ps) ((Json.optional name enc o ++ ms).map written) := by
  cases o with
  | none => exact .omitted trivial h
  | some b => exact .given (henc b rfl) h

/-- An object whose members are chosen for the fields spells the record. -/
theorem Spells.of_members {ms : List (String × Json)} (h : Chosen ps (ms.map written)) :
    Spells ps (Json.object ms).reading := by
  -- every member names a field, so there are no unknown ones
  have hms : ms.map memberReading = (ms.map written ++ []).map keyed := by
    rw [List.append_nil, List.map_map]
    rfl
  rw [reading, memberReadings_eq_map, hms]
  exact .object h (by simp) (by simp) (.refl _)

end Part

/-- A list is written element by element. -/
theorem SaysList.of_map {β : Type} {spelled : β → Reading → Prop} {enc : β → Json} {bs : List β}
    (h : ∀ b ∈ bs, spelled b (enc b).reading) :
    SaysList spelled bs (Json.array (bs.map enc)).reading := by
  refine ⟨(bs.map enc).map reading, by rw [reading, elementReadings_eq_map], ?_⟩
  rw [List.map_map, List.forall₂_map_right_iff]
  exact List.forall₂_same.2 h

/-! ### Reading a spelling -/

/-- A slot that reads everything that may stand for a field as the same value. -/
structure Fit (δ : Type) (depth : Nat) where
  slot : Slot δ
  part : Part
  value : slot.Value
  name_eq : part.name = slot.name
  reads : ∀ v, part.spelled v → slot.decoder depth v = .ok value
  required : part.omissible → slot.required = false

/-- A slot that may stay empty reads an optional field. -/
def Fit.optional {δ β γ : Type} {depth : Nat} (name : String) (get : δ → Option (Option γ))
    (put : δ → Option γ → δ) (decoder : Decoder γ) (spelled : β → Reading → Prop) (f : β → γ)
    (o : Option β) (h : ∀ b ∈ o, ∀ v, spelled b v → v ≠ .null ∧ decoder depth v = .ok (f b)) :
    Fit δ depth where
  slot := .optional name get put decoder
  part := .optional name spelled o
  value := o.map f
  name_eq := by cases o <;> rfl
  reads v hv := by
    cases o with
    | none =>
        cases hv
        rfl
    | some b =>
        obtain ⟨hnull, hread⟩ := h b rfl v hv
        cases v with
        | null => exact absurd rfl hnull
        | _ => simp [Slot.optional, Decoder.optional, hread, Except.map]
  required _ := rfl

/-- What an optional field comes to, whether its place was filled or not. -/
theorem Fit.join_optional {β γ : Type} {name : String} {spelled : β → Reading → Prop}
    {f : β → γ} {o : Option β} {place : Option (Option γ)}
    (h : place = some (o.map f) ∨ ((Part.optional name spelled o).omissible ∧ place = none)) :
    place.join = o.map f := by
  rcases h with rfl | ⟨homissible, rfl⟩
  · rfl
  · cases o with
    | none => rfl
    | some b => exact homissible.elim

/-- A slot for a text reads the text. -/
def Fit.text {δ : Type} (depth : Nat) (name : String) (get : δ → Option (Option String))
    (put : δ → Option String → δ) (o : Option String) : Fit δ depth :=
  .optional name get put Decoder.string SaysText (fun t => t) o fun t _ v h => by
    cases h
    exact ⟨nofun, rfl⟩

theorem Fit.join_text {name : String} {o : Option String} {place : Option (Option String)}
    (h : place = some (o.map fun t => t) ∨
      ((Part.optional name SaysText o).omissible ∧ place = none)) : place.join = o := by
  rw [Fit.join_optional h, Option.map_id']

/-- **Every spelling of a record is read as the same record**: the place of a field holds its value,
or nothing where the field may be left out. -/
theorem Shape.Slotted.exists_of_spells {δ α : Type} {depth : Nat} {s : Shape δ α}
    {fits : List (Fit δ depth)} (hs : s.Slotted (fits.map Fit.slot)) {r : Reading}
    (hr : Part.Spells (fits.map Fit.part) r) :
    ∃ d, s.decode (depth + 1) r = s.finish d ∧
      ∀ f ∈ fits, f.slot.get d = some f.value ∨ (f.part.omissible ∧ f.slot.get d = none) := by
  have hnames : (fits.map Fit.slot).map Slot.name = (fits.map Fit.part).map Part.name := by
    simp only [List.map_map]
    exact List.map_congr_left fun f _ => f.name_eq.symm
  have hvalues (f : Fit δ depth) (hf : f ∈ fits) :
      (r.given ((fits.map Fit.slot).map Slot.name) f.slot.name = [] ∧ f.part.omissible) ∨
        ∃ v, r.given ((fits.map Fit.slot).map Slot.name) f.slot.name = [v] ∧ f.part.spelled v := by
    rw [hnames, ← f.name_eq]
    exact hr.values (hnames ▸ hs.nodup) (List.mem_map_of_mem hf)
  have hread : ∀ a ∈ fits.map Fit.slot,
      (r.given ((fits.map Fit.slot).map Slot.name) a.name = [] ∧ a.required = false) ∨
        ∃ v x, r.given ((fits.map Fit.slot).map Slot.name) a.name = [v] ∧
          a.decoder depth v = .ok x := by
    intro a ha
    obtain ⟨f, hf, rfl⟩ := List.mem_map.1 ha
    obtain ⟨hnone, hp⟩ | ⟨v, hone, hv⟩ := hvalues f hf
    · exact .inl ⟨hnone, f.required hp⟩
    · exact .inr ⟨v, f.value, hone, f.reads v hv⟩
  obtain ⟨d, hd, hfilled⟩ := hs.exists_draft (hnames ▸ hr.isRecord) hread
  refine ⟨d, hd, fun f hf => ?_⟩
  have hplace := hfilled f.slot (List.mem_map_of_mem hf)
  obtain ⟨hnone, hp⟩ | ⟨v, hone, hv⟩ := hvalues f hf
  · rw [hnone] at hplace
    exact .inr ⟨hp, hplace.of_nothing⟩
  · rw [hone] at hplace
    obtain ⟨x, hx, hget⟩ := hplace.of_value
    rw [f.reads v hv] at hx
    cases hx
    exact .inl hget

/-- Elements that spell values are decoded to them, one by one. -/
theorem decode_of_saysList {β γ : Type} {decoder : Decoder γ} {spelled : β → Reading → Prop}
    {f : β → γ} {depth : Nat} {bs : List β} {r : Reading} (h : SaysList spelled bs r)
    (hdecode : ∀ b ∈ bs, ∀ v, spelled b v → decoder depth v = .ok (f b)) :
    decoder.list (depth + 1) r = .ok (bs.map f) := by
  obtain ⟨rs, rfl, hall⟩ := h
  show Decoder.elements (decoder depth) rs = .ok (bs.map f)
  induction hall with
  | nil => rfl
  | @cons b v bs rs hv _ ih =>
      rw [Decoder.elements, hdecode b (by simp) v hv,
        ih fun c hc => hdecode c (by simp [hc])]
      rfl

end MediaTree.Json
