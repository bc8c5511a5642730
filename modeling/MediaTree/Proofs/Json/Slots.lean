/-
**Records by their slots.**

A record is read one member after the other, and each member fills one place of a draft.  Since the
places are independent, the outcome does not depend on the order of the members: it is settled by
the values that the text gives for each field, wherever they stand.  The same holds where the values
stand by position.

Main definitions:

* `MediaTree.Json.Slot` — one field of a record, and the place of its value in the draft;
* `MediaTree.Json.Shape.Slotted` — a record whose fields are independent slots;
* `MediaTree.Json.Reading.given` — the values that a reading gives for a field;
* `MediaTree.Json.Slot.Filled` — what the values that are given make of a place.

Main results:

* `MediaTree.Json.Shape.Slotted.filled_of_decode` — **a record that was read holds what was given
  for each field**;
* `MediaTree.Json.Shape.Slotted.exists_draft` — a record is read if what is given for each field is.
-/

import Mathlib.Data.List.Nodup
import MediaTree.Json.Decoder

set_option autoImplicit false
set_option relaxedAutoImplicit false

namespace MediaTree.Json

variable {δ α : Type}

/-- Two steps succeed if both do. -/
theorem of_bind_eq_ok {ε β γ : Type} {x : Except ε β} {f : β → Except ε γ} {c : γ}
    (h : x >>= f = .ok c) : ∃ b, x = .ok b ∧ f b = .ok c := by
  cases x with
  | error e => cases h
  | ok b => exact ⟨b, rfl, h⟩

/-! ### What a reading gives for a field -/

namespace Reading

/-- The text of a string. -/
def text? : Reading → Option String
  | .string s => s
  | _ => none

/-- The values that stand in members under a name. -/
def valuesOf (name : String) (ms : List (Reading × Reading)) : List Reading :=
  (ms.filter fun m => m.1.text? = some name).map Prod.snd

theorem valuesOf_cons (name : String) (k v : Reading) (ms : List (Reading × Reading)) :
    valuesOf name ((k, v) :: ms) =
      if k.text? = some name then v :: valuesOf name ms else valuesOf name ms := by
  unfold valuesOf
  by_cases h : k.text? = some name <;> simp [h]

/-- The value that stands at the place of a name. -/
def placed (names : List String) (name : String) (vs : List Reading) : List Reading :=
  vs[names.idxOf name]?.toList

@[simp] theorem placed_nil (names : List String) (name : String) : placed names name [] = [] := rfl

@[simp] theorem placed_head (name : String) (names : List String) (v : Reading)
    (vs : List Reading) : placed (name :: names) name (v :: vs) = [v] := by
  simp [placed]

theorem placed_tail {first name : String} (h : first ≠ name) (names : List String) (v : Reading)
    (vs : List Reading) : placed (first :: names) name (v :: vs) = placed names name vs := by
  simp [placed, List.idxOf_cons_ne _ h]

/-- The values that a reading gives for a field, by its name or by its place among the names. -/
def given (names : List String) (name : String) : Reading → List Reading
  | .object ms => valuesOf name ms
  | .array vs => placed names name vs
  | _ => []

end Reading

/-- A reading that may spell a record with fields of these names. -/
inductive Reading.IsRecord (names : List String) : Reading → Prop where
  /-- Not more elements than there are fields. -/
  | array {vs : List Reading} (h : vs.length ≤ names.length) : IsRecord names (.array vs)
  /-- All keys are texts, and members without a field are sound. -/
  | object {ms : List (Reading × Reading)} (hkeys : ∀ m ∈ ms, m.1.text?.isSome)
    (hsound : ∀ m ∈ ms, (∀ name ∈ names, m.1.text? ≠ some name) → m.2.sound = true) :
    IsRecord names (.object ms)

theorem Decoder.key_eq_ok {k : Reading} {name : String} :
    Decoder.key k = .ok name ↔ k.text? = some name := by
  rcases k with - | - | - | (- | t) | - | - | - <;> simp [Decoder.key, Reading.text?]

/-! ### Slots -/

/-- One field of a record, and the place of its value in the draft. -/
structure Slot (δ : Type) where
  Value : Type
  name : String
  /-- The positional spelling must give it. -/
  required : Bool
  get : δ → Option Value
  put : δ → Value → δ
  decoder : Decoder Value

namespace Slot

/-- A field that may be left out or be `null`. -/
def optional {β : Type} (name : String) (get : δ → Option (Option β)) (put : δ → Option β → δ)
    (decoder : Decoder β) : Slot δ :=
  ⟨Option β, name, false, get, put, decoder.optional⟩

/-- The field itself. -/
def field (a : Slot δ) : Field δ where
  name := a.name
  required := a.required
  filled d := (a.get d).isSome
  read d depth r := do
    pure (a.put d (← a.decoder depth r))

/-- What the values that are given make of a place: nothing changes it, or one value fills it. -/
inductive Filled (a : Slot δ) (depth : Nat) :
    List Reading → Option a.Value → Option a.Value → Prop where
  | kept (o : Option a.Value) : Filled a depth [] o o
  | put {v : Reading} {x : a.Value} (h : a.decoder depth v = .ok x) :
    Filled a depth [v] none (some x)

/-- A place that is full takes no value any more. -/
theorem Filled.of_full {a : Slot δ} {depth : Nat} {vs : List Reading} {x : a.Value}
    {o : Option a.Value} (h : a.Filled depth vs (some x) o) : vs = [] ∧ o = some x := by
  cases h
  exact ⟨rfl, rfl⟩

/-- Without a value the place stays empty. -/
theorem Filled.of_nothing {a : Slot δ} {depth : Nat} {o : Option a.Value}
    (h : a.Filled depth [] none o) : o = none := by
  cases h
  rfl

/-- A value fills the place. -/
theorem Filled.of_value {a : Slot δ} {depth : Nat} {v : Reading} {o : Option a.Value}
    (h : a.Filled depth [v] none o) : ∃ x, a.decoder depth v = .ok x ∧ o = some x := by
  cases h with
  | put h => exact ⟨_, h, rfl⟩

end Slot

/-- The fields of the record are slots, each with a place of its own, empty in the beginning. -/
structure Shape.Slotted (s : Shape δ α) (slots : List (Slot δ)) : Prop where
  fields : s.fields = slots.map Slot.field
  nodup : (slots.map Slot.name).Nodup
  blank : ∀ a ∈ slots, a.get s.blank = none
  get_put : ∀ a ∈ slots, ∀ d x, a.get (a.put d x) = some x
  get_put_of_ne : ∀ a ∈ slots, ∀ b ∈ slots, a.name ≠ b.name → ∀ d x, b.get (a.put d x) = b.get d

namespace Shape.Slotted

variable {s : Shape δ α} {slots : List (Slot δ)} {depth : Nat}

theorem eq_of_name_eq (hs : s.Slotted slots) {a b : Slot δ} (ha : a ∈ slots) (hb : b ∈ slots)
    (h : a.name = b.name) : a = b :=
  List.inj_on_of_nodup_map hs.nodup ha hb h

/-- A field is found by its name. -/
theorem find?_name (hs : s.Slotted slots) {a : Slot δ} (ha : a ∈ slots) :
    s.fields.find? (·.name == a.name) = some a.field := by
  rw [hs.fields]
  cases hfind : (slots.map Slot.field).find? (·.name == a.name) with
  | none =>
      have hnone := List.find?_eq_none.1 hfind a.field (List.mem_map_of_mem ha)
      exact absurd (beq_self_eq_true a.name) hnone
  | some f =>
      obtain ⟨b, hb, rfl⟩ := List.mem_map.1 (List.mem_of_find?_eq_some hfind)
      have hname : b.name = a.name := by simpa [Slot.field] using List.find?_some hfind
      rw [hs.eq_of_name_eq hb ha hname]

/-- No field is found by another name. -/
theorem find?_unknown (hs : s.Slotted slots) {name : String} (h : ∀ a ∈ slots, a.name ≠ name) :
    s.fields.find? (·.name == name) = none := by
  rw [hs.fields, List.find?_eq_none]
  intro f hf
  obtain ⟨a, ha, rfl⟩ := List.mem_map.1 hf
  simpa [Slot.field] using h a ha

/-! ### Members -/

/-- A member with a field of its own fills the place of the field, if that is empty. -/
theorem members_known (hs : s.Slotted slots) {a : Slot δ} (ha : a ∈ slots) {k : Reading}
    (hkey : k.text? = some a.name) (v : Reading) (ms : List (Reading × Reading)) (d : δ) :
    s.members depth d ((k, v) :: ms) =
      if (a.get d).isSome then .error (.duplicateField a.name)
      else (a.decoder depth v).bind fun x => s.members depth (a.put d x) ms := by
  rw [members, Decoder.key_eq_ok.2 hkey]
  simp only [bind, Except.bind, hs.find?_name ha]
  cases hfull : (a.get d).isSome with
  | true => simp [Slot.field, hfull, throw, throwThe, MonadExceptOf.throw]
  | false =>
      cases hread : a.decoder depth v <;>
        simp [Slot.field, hfull, hread, bind, Except.bind, pure, Except.pure]

/-- A member without a field is skipped, if it is sound. -/
theorem members_unknown (hs : s.Slotted slots) {k : Reading} {name : String}
    (hkey : k.text? = some name) (hname : ∀ a ∈ slots, a.name ≠ name) (v : Reading)
    (ms : List (Reading × Reading)) (d : δ) :
    s.members depth d ((k, v) :: ms) =
      if v.sound then s.members depth d ms else .error .malformed := by
  rw [members, Decoder.key_eq_ok.2 hkey]
  simp only [bind, Except.bind, hs.find?_unknown hname]
  rfl

/-- A member whose key is no text is damage. -/
theorem members_of_no_key {k : Reading} (hkey : k.text? = none) (v : Reading)
    (ms : List (Reading × Reading)) (d : δ) : ∃ p, s.members depth d ((k, v) :: ms) = .error p := by
  rw [members]
  cases h : Decoder.key k with
  | error p => exact ⟨p, rfl⟩
  | ok name => simp [Decoder.key_eq_ok.1 h] at hkey

/-- One member fills the empty place of its field, or is skipped. -/
theorem of_members_cons (hs : s.Slotted slots) {k v : Reading} {ms : List (Reading × Reading)}
    {d d' : δ} (h : s.members depth d ((k, v) :: ms) = .ok d') :
    ∃ name, k.text? = some name ∧
      ((∃ a ∈ slots, a.name = name ∧ a.get d = none ∧
          ∃ x, a.decoder depth v = .ok x ∧ s.members depth (a.put d x) ms = .ok d') ∨
        ((∀ a ∈ slots, a.name ≠ name) ∧ s.members depth d ms = .ok d')) := by
  cases hkey : k.text? with
  | none =>
      have hdamage : ∃ p, s.members depth d ((k, v) :: ms) = .error p :=
        members_of_no_key hkey v ms d
      obtain ⟨p, hp⟩ := hdamage
      rw [hp] at h
      cases h
  | some name =>
      refine ⟨name, rfl, ?_⟩
      by_cases hknown : ∃ a ∈ slots, a.name = name
      · obtain ⟨a, ha, rfl⟩ := hknown
        rw [hs.members_known ha hkey] at h
        split at h
        · cases h
        · rename_i hempty
          cases hx : a.decoder depth v with
          | error p => simp [hx, Except.bind] at h
          | ok x =>
              refine .inl ⟨a, ha, rfl, by simpa using hempty, x, hx, ?_⟩
              simpa [hx, Except.bind] using h
      · have hname (a : Slot δ) (ha : a ∈ slots) : a.name ≠ name := fun h => hknown ⟨a, ha, h⟩
        rw [hs.members_unknown hkey hname] at h
        split at h
        · exact .inr ⟨hname, h⟩
        · cases h

/-- Members that were read have filled the places of their fields. -/
theorem filled_of_members (hs : s.Slotted slots) {ms : List (Reading × Reading)} {d d' : δ}
    (h : s.members depth d ms = .ok d') {a : Slot δ} (ha : a ∈ slots) :
    a.Filled depth (Reading.valuesOf a.name ms) (a.get d) (a.get d') := by
  induction ms generalizing d with
  | nil =>
      rw [members] at h
      cases h
      exact .kept _
  | cons m ms ih =>
      obtain ⟨k, v⟩ := m
      obtain ⟨name, hkey, ⟨b, hb, rfl, hempty, x, hx, hrest⟩ | ⟨hunknown, hrest⟩⟩ :=
        hs.of_members_cons h
      · have hfilled := ih hrest
        by_cases hab : a.name = b.name
        · obtain rfl := hs.eq_of_name_eq ha hb hab
          rw [hs.get_put a ha] at hfilled
          rw [Reading.valuesOf_cons, if_pos hkey, hempty]
          -- the place is filled now, so no value for it can follow
          obtain ⟨hvalues, hx'⟩ := hfilled.of_full
          rw [hvalues, hx']
          exact .put hx
        · have hne : k.text? ≠ some a.name := by
            rw [hkey]
            exact fun h => hab (Option.some.inj h).symm
          rw [Reading.valuesOf_cons, if_neg hne]
          rwa [hs.get_put_of_ne b hb a ha (Ne.symm hab)] at hfilled
      · have hne : k.text? ≠ some a.name := by
          rw [hkey]
          exact fun h => hunknown a ha (Option.some.inj h).symm
        rw [Reading.valuesOf_cons, if_neg hne]
        exact ih hrest

/-- Members are read if the keys are texts, the members without a field are sound, and what is
given for each field can be read into its empty place. -/
theorem exists_members (hs : s.Slotted slots) {ms : List (Reading × Reading)} {d : δ}
    (hkeys : ∀ m ∈ ms, m.1.text?.isSome)
    (hsound : ∀ m ∈ ms, (∀ a ∈ slots, m.1.text? ≠ some a.name) → m.2.sound = true)
    (hvalues : ∀ a ∈ slots, Reading.valuesOf a.name ms = [] ∨
      ∃ v x, Reading.valuesOf a.name ms = [v] ∧ a.get d = none ∧ a.decoder depth v = .ok x) :
    ∃ d', s.members depth d ms = .ok d' := by
  induction ms generalizing d with
  | nil => exact ⟨d, by rw [members]⟩
  | cons m ms ih =>
      obtain ⟨k, v⟩ := m
      have hkeys' : ∀ m ∈ ms, m.1.text?.isSome := fun m hm => hkeys m (by simp [hm])
      have hsound' : ∀ m ∈ ms, (∀ a ∈ slots, m.1.text? ≠ some a.name) → m.2.sound = true :=
        fun m hm => hsound m (by simp [hm])
      obtain ⟨name, hkey⟩ := Option.isSome_iff_exists.1 (hkeys (k, v) (by simp))
      simp only at hkey
      by_cases hknown : ∃ a ∈ slots, a.name = name
      · obtain ⟨a, ha, rfl⟩ := hknown
        -- the member is the only one of its name
        have hown := hvalues a ha
        rw [Reading.valuesOf_cons, if_pos hkey] at hown
        obtain h | ⟨v', x, hone, hempty, hx⟩ := hown
        · cases h
        obtain ⟨rfl, hnone⟩ := List.cons.inj hone
        rw [hs.members_known ha hkey, hempty, hx]
        refine ih hkeys' hsound' fun b hb => ?_
        by_cases hab : a.name = b.name
        · obtain rfl := hs.eq_of_name_eq ha hb hab
          exact .inl hnone
        · have hne : k.text? ≠ some b.name := by
            rw [hkey]
            exact fun h => hab (Option.some.inj h)
          have hother := hvalues b hb
          rwa [Reading.valuesOf_cons, if_neg hne, ← hs.get_put_of_ne a ha b hb hab d x] at hother
      · have hname (a : Slot δ) (ha : a ∈ slots) : a.name ≠ name := fun h => hknown ⟨a, ha, h⟩
        have hne (a : Slot δ) (ha : a ∈ slots) : k.text? ≠ some a.name := by
          rw [hkey]
          exact fun h => hname a ha (Option.some.inj h).symm
        rw [hs.members_unknown hkey hname, if_pos (hsound (k, v) (by simp) hne)]
        refine ih hkeys' hsound' fun a ha => ?_
        have hother := hvalues a ha
        rwa [Reading.valuesOf_cons, if_neg (hne a ha)] at hother

/-! ### Elements -/

/-- Elements that were read have filled the places of their fields, and no others. -/
theorem filled_of_elements (hs : s.Slotted slots) {as : List (Slot δ)} (has : as ⊆ slots)
    (hnodup : (as.map Slot.name).Nodup) {i : Nat} {d d' : δ} {vs : List Reading}
    (hempty : ∀ a ∈ as, a.get d = none)
    (h : s.elements depth i (as.map Slot.field) d vs = .ok d') :
    (∀ a ∈ as, a.Filled depth (Reading.placed (as.map Slot.name) a.name vs) none (a.get d')) ∧
      ∀ b ∈ slots, b.name ∉ as.map Slot.name → b.get d' = b.get d := by
  induction as generalizing i d vs with
  | nil =>
      cases vs with
      | nil =>
          rw [List.map_nil, elements] at h
          cases h
          exact ⟨nofun, fun _ _ _ => rfl⟩
      | cons v vs => cases h
  | cons a as ih =>
      have ha : a ∈ slots := has (by simp)
      have has' : as ⊆ slots := fun b hb => has (by simp [hb])
      rw [List.map_cons, List.nodup_cons] at hnodup
      have hne (b : Slot δ) (hb : b ∈ as) : a.name ≠ b.name := fun h =>
        hnodup.1 (h ▸ List.mem_map_of_mem hb)
      cases vs with
      | nil =>
          rw [List.map_cons, elements] at h
          split at h
          · cases h
          · obtain ⟨hfilled, hkept⟩ := ih has' hnodup.2 (fun b hb => hempty b (by simp [hb])) h
            refine ⟨fun b hb => ?_, fun b hb hname => ?_⟩
            · rcases List.mem_cons.1 hb with rfl | hb
              · rw [Reading.placed_nil, hkept b ha hnodup.1, hempty b (by simp)]
                exact .kept none
              · exact hfilled b hb
            · exact hkept b hb fun hmem => hname (List.mem_cons_of_mem _ hmem)
      | cons v vs =>
          rw [List.map_cons, elements] at h
          cases hx : a.decoder depth v with
          | error p => simp [Slot.field, hx, bind, Except.bind] at h
          | ok x =>
              have hrest :
                  s.elements depth (i + 1) (as.map Slot.field) (a.put d x) vs = .ok d' := by
                simpa [Slot.field, hx, bind, Except.bind, pure, Except.pure] using h
              obtain ⟨hfilled, hkept⟩ := ih has' hnodup.2 (fun b hb => by
                rw [hs.get_put_of_ne a ha b (has' hb) (hne b hb)]
                exact hempty b (by simp [hb])) hrest
              refine ⟨fun b hb => ?_, fun b hb hname => ?_⟩
              · rcases List.mem_cons.1 hb with rfl | hb
                · rw [List.map_cons, Reading.placed_head, hkept b ha hnodup.1, hs.get_put b ha]
                  exact .put hx
                · rw [List.map_cons, Reading.placed_tail (hne b hb)]
                  exact hfilled b hb
              · rw [List.map_cons, List.mem_cons, not_or] at hname
                rw [hkept b hb hname.2, hs.get_put_of_ne a ha b hb (Ne.symm hname.1)]

/-- Elements are read if there are not too many of them, none that is required is missing, and each
can be read. -/
theorem exists_elements {as : List (Slot δ)} (hnodup : (as.map Slot.name).Nodup) {i : Nat} {d : δ}
    {vs : List Reading} (hlength : vs.length ≤ as.length)
    (hvalues : ∀ a ∈ as,
      (Reading.placed (as.map Slot.name) a.name vs = [] ∧ a.required = false) ∨
        ∃ v x, Reading.placed (as.map Slot.name) a.name vs = [v] ∧ a.decoder depth v = .ok x) :
    ∃ d', s.elements depth i (as.map Slot.field) d vs = .ok d' := by
  induction as generalizing i d vs with
  | nil =>
      obtain rfl : vs = [] := List.eq_nil_of_length_eq_zero (Nat.le_zero.1 hlength)
      exact ⟨d, rfl⟩
  | cons a as ih =>
      rw [List.map_cons, List.nodup_cons] at hnodup
      have hne (b : Slot δ) (hb : b ∈ as) : a.name ≠ b.name := fun h =>
        hnodup.1 (h ▸ List.mem_map_of_mem hb)
      have hfirst := hvalues a (by simp)
      cases vs with
      | nil =>
          obtain ⟨-, hrequired⟩ | ⟨v, x, hplaced, -⟩ := hfirst
          · have hrest : ∃ d', s.elements depth (i + 1) (as.map Slot.field) d [] = .ok d' :=
              ih hnodup.2 (Nat.zero_le _) fun b hb => hvalues b (by simp [hb])
            obtain ⟨d', hd'⟩ := hrest
            exact ⟨d', by rw [List.map_cons, elements, Slot.field, hrequired]; exact hd'⟩
          · cases hplaced
      | cons v vs =>
          rw [List.map_cons, Reading.placed_head] at hfirst
          obtain ⟨hnil, -⟩ | ⟨v', x, hplaced, hx⟩ := hfirst
          · cases hnil
          · obtain ⟨rfl, -⟩ := List.cons.inj hplaced
            obtain ⟨d', hd'⟩ := ih (i := i + 1) (d := a.put d x) hnodup.2
              (Nat.le_of_succ_le_succ hlength) fun b hb => by
                have hb' := hvalues b (by simp [hb])
                rwa [List.map_cons, Reading.placed_tail (hne b hb)] at hb'
            refine ⟨d', ?_⟩
            rw [List.map_cons, elements]
            simpa [Slot.field, hx, bind, Except.bind, pure, Except.pure] using hd'

/-! ### Whole records -/

/-- **A record that was read holds what was given for each field.** -/
theorem filled_of_decode (hs : s.Slotted slots) {r : Reading} {a : α}
    (h : s.decode depth r = .ok a) : ∃ inner d, depth = inner + 1 ∧ s.finish d = .ok a ∧
      ∀ b ∈ slots, b.Filled inner (r.given (slots.map Slot.name) b.name) none (b.get d) := by
  cases r with
  | array vs =>
      cases depth with
      | zero => cases h
      | succ inner =>
          rw [decode, hs.fields] at h
          obtain ⟨d, hd, hfinish⟩ := of_bind_eq_ok h
          have hfilled := (hs.filled_of_elements (List.Subset.refl slots) hs.nodup hs.blank hd).1
          exact ⟨inner, d, rfl, hfinish, hfilled⟩
  | object ms =>
      cases depth with
      | zero => cases h
      | succ inner =>
          rw [decode] at h
          obtain ⟨d, hd, hfinish⟩ := of_bind_eq_ok h
          refine ⟨inner, d, rfl, hfinish, fun b hb => ?_⟩
          have hfilled := hs.filled_of_members hd hb
          rwa [hs.blank b hb] at hfilled
  | _ => cases depth <;> cases h

/-- A record is read up to its end if what is given for each field can be read. -/
theorem exists_draft (hs : s.Slotted slots) {r : Reading}
    (hr : r.IsRecord (slots.map Slot.name))
    (hvalues : ∀ a ∈ slots,
      (r.given (slots.map Slot.name) a.name = [] ∧ a.required = false) ∨
        ∃ v x, r.given (slots.map Slot.name) a.name = [v] ∧ a.decoder depth v = .ok x) :
    ∃ d, s.decode (depth + 1) r = s.finish d ∧
      ∀ a ∈ slots, a.Filled depth (r.given (slots.map Slot.name) a.name) none (a.get d) := by
  cases hr with
  | @array vs hlength =>
      rw [List.length_map] at hlength
      obtain ⟨d, hd⟩ := exists_elements (s := s) (i := 0) (d := s.blank) hs.nodup hlength hvalues
      refine ⟨d, by rw [decode, hs.fields, hd]; rfl, ?_⟩
      exact (hs.filled_of_elements (List.Subset.refl slots) hs.nodup hs.blank hd).1
  | @object ms hkeys hsound =>
      have hunknown : ∀ m ∈ ms, (∀ a ∈ slots, m.1.text? ≠ some a.name) → m.2.sound = true := by
        refine fun m hm h => hsound m hm fun name hname => ?_
        obtain ⟨a, ha, rfl⟩ := List.mem_map.1 hname
        exact h a ha
      obtain ⟨d, hd⟩ := hs.exists_members (d := s.blank) hkeys hunknown fun a ha => by
        obtain ⟨hnone, -⟩ | ⟨v, x, hone, hx⟩ := hvalues a ha
        · exact .inl hnone
        · exact .inr ⟨v, x, hone, hs.blank a ha, hx⟩
      refine ⟨d, by rw [decode, hd]; rfl, fun a ha => ?_⟩
      have hfilled := hs.filled_of_members hd ha
      rwa [hs.blank a ha] at hfilled

end Shape.Slotted

end MediaTree.Json
