/-
**What the order of children is.**

Children are arranged by a key that they may lack.  An arrangement keeps every item as often as it
was listed, puts items that have the key in front of those that lack it, lets the values ascend, and
leaves items that cannot be told apart by the key in the order of the server.  There is exactly one
such arrangement, and it is the one that sorting gives.

The argument rests on groups: the sublists of items with one value of the key, and of those without
any.  Sorting changes no group, and two arranged lists with the same groups are the same list, since
the first items of both are in front of each other and so belong to one group.  Hence what sorting
leaves to the server are the groups and nothing else.

Main definitions:

* `MediaTree.SortKey.Value`, `MediaTree.SortKey.value?` — the values of a key, and that of an item;
* `MediaTree.SortKey.Precedes` — an item may stand in front of another one;
* `MediaTree.SortKey.group` — the items with one value, or with none;
* `MediaTree.SortKey.Arranges` — a list is an arrangement of another one.

Main results:

* `MediaTree.SortKey.le_iff` — what is compared is what should be;
* `MediaTree.SortKey.group_sort` — sorting changes no group;
* `MediaTree.SortKey.eq_of_groups` — an arranged list is settled by its groups;
* `MediaTree.SortKey.arranges_iff` — sorting gives the only arrangement;
* `MediaTree.SortKey.order_settled_by_groups` — **what sorting settles, and what it leaves to the
  server.**
-/

import Mathlib.Data.String.Basic
import MediaTree.Tree.Sort

set_option autoImplicit false
set_option relaxedAutoImplicit false

namespace MediaTree.SortKey

/-! ### Values of a key -/

/-- The values of a key. -/
def Value : SortKey → Type
  | name => String
  | index => Int64

instance decidableEqValue : (k : SortKey) → DecidableEq k.Value
  | name => inferInstanceAs (DecidableEq String)
  | index => inferInstanceAs (DecidableEq Int64)

/-- The value that an item has for a key, if it has one; the empty name is a value. -/
def value? : (k : SortKey) → Item → Option k.Value
  | name, i => i.name
  | index, i => i.index

/-- The numbers of the characters of a text. -/
def codes (s : String) : List Nat := s.toList.map Char.toNat

/-- Values in ascending order: names character by character, numbers as whole numbers with a
sign. -/
def Ascends : (k : SortKey) → k.Value → k.Value → Prop
  | name, v, w => codes v ≤ codes w
  | index, v, w => v.toInt ≤ w.toInt

/-- An item may stand in front of another one. -/
structure Precedes (k : SortKey) (a b : Item) : Prop where
  /-- An item that lacks the key has only such items behind it. -/
  missing : k.value? a = none → k.value? b = none
  ascending : ∀ v w, k.value? a = some v → k.value? b = some w → k.Ascends v w

theorem codes_le_iff {s t : String} : codes s ≤ codes t ↔ s ≤ t := by
  have hlt {s t : String} (h : s < t) : codes s < codes t := by
    rw [String.lt_iff_toList_lt] at h
    exact List.map_lt (fun _ _ hcd => hcd) h
  constructor
  · intro h
    rw [← String.not_lt]
    intro hts
    exact absurd (hlt hts) (not_lt.2 h)
  · intro h
    by_cases hst : s = t
    · rw [hst]
    · have hlt' : s < t := by
        rw [← String.not_le]
        intro hts
        exact hst (String.le_antisymm h hts)
      exact le_of_lt (hlt hlt')

namespace Ascends

variable {k : SortKey} {u v w : k.Value}

theorem trans (huv : k.Ascends u v) (hvw : k.Ascends v w) : k.Ascends u w := by
  cases k with
  | name => exact le_trans huv hvw
  | index => exact Int.le_trans huv hvw

theorem total (v w : k.Value) : k.Ascends v w ∨ k.Ascends w v := by
  cases k with
  | name => exact le_total (codes v) (codes w)
  | index => exact Int.le_total v.toInt w.toInt

theorem refl (v : k.Value) : k.Ascends v v := (total v v).elim id id

/-- Different values do not ascend both ways. -/
theorem antisymm (hvw : k.Ascends v w) (hwv : k.Ascends w v) : v = w := by
  cases k with
  | name => exact String.le_antisymm (codes_le_iff.1 hvw) (codes_le_iff.1 hwv)
  | index => exact Int64.toInt_inj.1 (Int.le_antisymm hvw hwv)

end Ascends

/-! ### Comparing items -/

section Compare

variable {k : SortKey} {a b c : Item}

theorem missingLast_iff {α : Type} {le : α → α → Bool} {x y : Option α} :
    missingLast le x y = true ↔
      (x = none → y = none) ∧ ∀ v w, x = some v → y = some w → le v w = true := by
  cases x <;> cases y <;> simp [missingLast]

/-- **Items are compared by what may stand in front of what.** -/
theorem le_iff : k.le a b = true ↔ k.Precedes a b := by
  have hsplit : k.Precedes a b ↔ (k.value? a = none → k.value? b = none) ∧
      ∀ v w, k.value? a = some v → k.value? b = some w → k.Ascends v w :=
    ⟨fun h => ⟨h.missing, h.ascending⟩, fun h => ⟨h.1, h.2⟩⟩
  rw [hsplit]
  cases k with
  | name =>
      show missingLast (fun v w : String => decide (v ≤ w)) a.name b.name = true ↔
        (a.name = none → b.name = none) ∧
          ∀ v w : String, a.name = some v → b.name = some w → codes v ≤ codes w
      simp only [missingLast_iff, decide_eq_true_eq, codes_le_iff]
  | index =>
      show missingLast (fun v w : Int64 => decide (v.toInt ≤ w.toInt)) a.index b.index = true ↔
        (a.index = none → b.index = none) ∧
          ∀ v w : Int64, a.index = some v → b.index = some w → v.toInt ≤ w.toInt
      simp only [missingLast_iff, decide_eq_true_eq]

instance (k : SortKey) : DecidableRel k.Precedes := fun _ _ => decidable_of_iff _ le_iff

theorem Precedes.trans (hab : k.Precedes a b) (hbc : k.Precedes b c) : k.Precedes a c where
  missing ha := hbc.missing (hab.missing ha)
  ascending v w hv hw := by
    -- the item between has a value too: if it had none, neither would the last one
    cases hb : k.value? b with
    | none =>
        rw [hbc.missing hb] at hw
        cases hw
    | some u => exact (hab.ascending v u hv hb).trans (hbc.ascending u w hb hw)

theorem Precedes.total (k : SortKey) (a b : Item) : k.Precedes a b ∨ k.Precedes b a := by
  cases ha : k.value? a with
  | none =>
      right
      refine ⟨fun _ => ha, ?_⟩
      intro v w _ hw
      rw [ha] at hw
      cases hw
  | some v =>
      cases hb : k.value? b with
      | none =>
          left
          refine ⟨fun _ => hb, ?_⟩
          intro v w _ hw
          rw [hb] at hw
          cases hw
      | some w =>
          rcases Ascends.total v w with h | h
          · exact .inl ⟨by simp [ha], by simpa [ha, hb] using h⟩
          · exact .inr ⟨by simp [hb], by simpa [ha, hb] using h⟩

/-- **Items in front of each other belong to one group.** -/
theorem Precedes.antisymm (hab : k.Precedes a b) (hba : k.Precedes b a) :
    k.value? a = k.value? b := by
  cases ha : k.value? a with
  | none => exact (hab.missing ha).symm
  | some v =>
      cases hb : k.value? b with
      | none =>
          rw [hba.missing hb] at ha
          cases ha
      | some w => rw [(hab.ascending v w ha hb).antisymm (hba.ascending w v hb ha)]

/-- Items of one group may stand in any order. -/
theorem Precedes.of_eq (h : k.value? a = k.value? b) : k.Precedes a b where
  missing ha := h ▸ ha
  ascending v w hv hw := by
    rw [h, hw] at hv
    obtain rfl := Option.some_inj.1 hv
    exact .refl w

theorem le_trans_true (k : SortKey) (a b c : Item) (hab : k.le a b = true)
    (hbc : k.le b c = true) : k.le a c = true :=
  le_iff.2 ((le_iff.1 hab).trans (le_iff.1 hbc))

theorem le_total_true (k : SortKey) (a b : Item) : (k.le a b || k.le b a) = true := by
  rw [Bool.or_eq_true, le_iff, le_iff]
  exact Precedes.total k a b

end Compare

/-! ### Groups -/

/-- The items with one value of a key, or those without any, in their order. -/
def group (k : SortKey) (v : Option k.Value) (items : List Item) : List Item :=
  items.filter fun i => decide (k.value? i = v)

section Groups

variable {k : SortKey} {v : Option k.Value} {i : Item} {items : List Item}

theorem mem_group : i ∈ k.group v items ↔ i ∈ items ∧ k.value? i = v := by
  simp [group]

theorem group_cons_of_eq (h : k.value? i = v) :
    k.group v (i :: items) = i :: k.group v items := by
  simp [group, h]

theorem group_cons_of_ne (h : k.value? i ≠ v) : k.group v (i :: items) = k.group v items := by
  simp [group, h]

theorem pairwise_group : (k.group v items).Pairwise (k.le · ·) := by
  refine List.pairwise_of_forall_mem_list ?_
  intro a ha b hb
  exact le_iff.2 (.of_eq ((mem_group.1 ha).2.trans (mem_group.1 hb).2.symm))

theorem pairwise_sort (k : SortKey) (items : List Item) : (k.sort items).Pairwise k.Precedes := by
  refine (List.pairwise_mergeSort (le_trans_true k) (le_total_true k) items).imp ?_
  intro a b h
  exact le_iff.1 h

theorem perm_sort (k : SortKey) (items : List Item) : (k.sort items).Perm items :=
  List.mergeSort_perm items k.le

/-- **Sorting changes no group.** -/
theorem group_sort (k : SortKey) (v : Option k.Value) (items : List Item) :
    k.group v (k.sort items) = k.group v items := by
  -- the items of a group are in order already, so they are found again in that order
  have hsub : (k.group v items).Sublist (k.sort items) :=
    List.sublist_mergeSort (le_trans_true k) (le_total_true k) pairwise_group List.filter_sublist
  have hgroup : (k.group v items).Sublist (k.group v (k.sort items)) := by
    have h := hsub.filter fun i => decide (k.value? i = v)
    simpa [group, List.filter_filter] using h
  refine (hgroup.eq_of_length ?_).symm
  exact ((perm_sort k items).filter _).length_eq.symm

/-- **An arranged list is settled by its groups.** -/
theorem eq_of_groups {xs ys : List Item} (hxs : xs.Pairwise k.Precedes)
    (hys : ys.Pairwise k.Precedes) (h : ∀ v, k.group v xs = k.group v ys) : xs = ys := by
  have hmem {xs ys : List Item} (h : ∀ v, k.group v xs = k.group v ys) {i : Item}
      (hi : i ∈ xs) : i ∈ ys := by
    have hi : i ∈ k.group (k.value? i) xs := mem_group.2 ⟨hi, rfl⟩
    rw [h] at hi
    exact (mem_group.1 hi).1
  have hfirst {i j : Item} {js : List Item} (hjs : (j :: js).Pairwise k.Precedes)
      (hi : i ∈ j :: js) : k.Precedes j i := by
    rcases List.mem_cons.1 hi with rfl | hi
    · exact .of_eq rfl
    · exact List.rel_of_pairwise_cons hjs hi
  induction xs generalizing ys with
  | nil =>
      cases ys with
      | nil => rfl
      | cons y ys => exact absurd (hmem (fun v => (h v).symm) List.mem_cons_self) List.not_mem_nil
  | cons x xs ih =>
      cases ys with
      | nil => exact absurd (hmem h List.mem_cons_self) List.not_mem_nil
      | cons y ys =>
          -- each of the first items is somewhere in the other list, so the other one precedes it
          have hyx : k.Precedes y x := hfirst hys (hmem h List.mem_cons_self)
          have hxy : k.Precedes x y := hfirst hxs (hmem (fun v => (h v).symm) List.mem_cons_self)
          have hvalue : k.value? y = k.value? x := hyx.antisymm hxy
          have hhead := h (k.value? x)
          rw [group_cons_of_eq rfl, group_cons_of_eq hvalue] at hhead
          obtain ⟨rfl, htail⟩ := List.cons.inj hhead
          refine congrArg (x :: ·) (ih hxs.of_cons hys.of_cons ?_)
          intro v
          by_cases hv : k.value? x = v
          · rw [← hv]
            exact htail
          · have hv' := h v
            rwa [group_cons_of_ne hv, group_cons_of_ne hv] at hv'

/-- Groups agree if they do for the values that occur. -/
theorem groups_agree_iff {xs ys : List Item} :
    (∀ v, k.group v xs = k.group v ys) ↔
      ∀ i ∈ xs ++ ys, k.group (k.value? i) xs = k.group (k.value? i) ys := by
  constructor
  · intro h i _
    exact h (k.value? i)
  · intro h v
    by_cases hv : ∃ i ∈ xs ++ ys, k.value? i = v
    · obtain ⟨i, hi, rfl⟩ := hv
      exact h i hi
    · -- a value that does not occur has no items in either list
      have hnone {zs : List Item} (hzs : zs ⊆ xs ++ ys) : k.group v zs = [] := by
        rw [List.eq_nil_iff_forall_not_mem]
        intro i hi
        obtain ⟨hi, hiv⟩ := mem_group.1 hi
        exact hv ⟨i, hzs hi, hiv⟩
      rw [hnone (List.subset_append_left xs ys), hnone (List.subset_append_right xs ys)]

end Groups

/-! ### Arrangements -/

/-- A list is an arrangement of another one. -/
structure Arranges (k : SortKey) (items sorted : List Item) : Prop where
  /-- Every item is kept, as often as it was listed. -/
  perm : sorted.Perm items
  ordered : sorted.Pairwise k.Precedes
  /-- Items with one value, and those without any, stay in their order. -/
  stable : ∀ v, k.group v sorted = k.group v items

instance (k : SortKey) (items sorted : List Item) : Decidable (k.Arranges items sorted) :=
  decidable_of_iff (sorted.Perm items ∧ sorted.Pairwise k.Precedes ∧
      ∀ i ∈ sorted ++ items, k.group (k.value? i) sorted = k.group (k.value? i) items)
    ⟨fun h => ⟨h.1, h.2.1, groups_agree_iff.2 h.2.2⟩,
      fun h => ⟨h.perm, h.ordered, groups_agree_iff.1 h.stable⟩⟩

theorem arranges_sort (k : SortKey) (items : List Item) : k.Arranges items (k.sort items) where
  perm := perm_sort k items
  ordered := pairwise_sort k items
  stable v := group_sort k v items

/-- **Sorting gives the only arrangement.** -/
theorem arranges_iff {k : SortKey} {items sorted : List Item} :
    k.Arranges items sorted ↔ sorted = k.sort items := by
  constructor
  · intro h
    refine eq_of_groups h.ordered (pairwise_sort k items) ?_
    intro v
    rw [h.stable, group_sort]
  · rintro rfl
    exact arranges_sort k items

theorem sort_eq_iff {k : SortKey} {xs ys : List Item} :
    k.sort xs = k.sort ys ↔ ∀ v, k.group v xs = k.group v ys := by
  constructor
  · intro h v
    rw [← group_sort k v xs, h, group_sort]
  · intro h
    refine eq_of_groups (pairwise_sort k xs) (pairwise_sort k ys) ?_
    intro v
    rw [group_sort, group_sort, h]

/-- What is arranged already stays as it is. -/
theorem sort_of_ordered {k : SortKey} {items : List Item} (h : items.Pairwise k.Precedes) :
    k.sort items = items :=
  (arranges_iff.1 ⟨.refl items, h, fun _ => rfl⟩).symm

/-- **What sorting settles, and what it leaves to the server.**  Whatever the items, sorting gives
their one arrangement: all of them are kept, those that have the key come first and ascend, and
items with one value, as well as those without any, stay in the order in which they were listed.  So
two lists are sorted alike exactly if they agree on the items of every value, and on those without
any; and sorting twice is sorting once. -/
theorem order_settled_by_groups (k : SortKey) :
    (∀ items sorted, k.Arranges items sorted ↔ sorted = k.sort items) ∧
    (∀ xs ys, k.sort xs = k.sort ys ↔ ∀ v, k.group v xs = k.group v ys) ∧
    ∀ items, k.sort (k.sort items) = k.sort items := by
  refine ⟨fun items sorted => arranges_iff, fun xs ys => sort_eq_iff, ?_⟩
  intro items
  exact sort_of_ordered (pairwise_sort k items)

/-- The empty name is a value and comes first; items without a name stay behind, in their order. -/
example :
    name.Arranges [{ Item.bare "x" (.known .album) with name := none },
      { Item.bare "b" (.known .album) with name := some "B" },
      { Item.bare "y" (.known .album) with name := none },
      { Item.bare "e" (.known .album) with name := some "" }]
    [{ Item.bare "e" (.known .album) with name := some "" },
      { Item.bare "b" (.known .album) with name := some "B" },
      { Item.bare "x" (.known .album) with name := none },
      { Item.bare "y" (.known .album) with name := none }] := by
  decide

end MediaTree.SortKey
