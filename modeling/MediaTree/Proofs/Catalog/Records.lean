/-
**What the records of the catalog hold.**

The numbers in a record have 64 bits, so its JSON is a text that a reader accepts.  Tags are kept in
the order of their names: putting the entries of a map in one by one makes the same map again, in
whatever order they come.

Main results:

* `MediaTree.Tags.foldl_insert_of_perm` — **a map does not depend on the order of its entries**;
* `MediaTree.Item.finds_index`, `MediaTree.ItemList.finds_total` — the numbers are read as they were
  written;
* `MediaTree.Item.fits_toJson`, `MediaTree.ItemList.fits_toJson` — they have 64 bits.
-/

import MediaTree.Catalog.Codec
import MediaTree.Proofs.Json.Records

set_option autoImplicit false
set_option relaxedAutoImplicit false

namespace MediaTree

open Json (Decoder)

/-! ### Tags -/

namespace Tags

/-- A new entry is one entry more. -/
theorem perm_insertEntry {k v : String} {es : List (String × String)} (h : ∀ e ∈ es, e.1 ≠ k) :
    (insertEntry k v es).Perm ((k, v) :: es) := by
  induction es with
  | nil => exact .refl _
  | cons e es ih =>
      have hne : k ≠ e.1 := (h e (by simp)).symm
      rw [insertEntry, if_neg hne]
      split
      · exact .refl _
      · exact (List.Perm.cons e (ih fun f hf => h f (by simp [hf]))).trans (.swap _ _ _)

/-- Entries of different names that are put into a map are all in it. -/
theorem perm_foldl_insert (es : List (String × String)) (t : Tags)
    (h : (t.entries ++ es).Pairwise fun a b => a.1 ≠ b.1) :
    (es.foldl (fun t e => t.insert e.1 e.2) t).entries.Perm (t.entries ++ es) := by
  induction es generalizing t with
  | nil => simp
  | cons e es ih =>
      have hinsert : (t.insert e.1 e.2).entries.Perm (t.entries ++ [e]) := by
        refine (perm_insertEntry fun f hf => ?_).trans (List.perm_append_singleton e t.entries).symm
        exact (List.pairwise_append.1 h).2.2 f hf e (by simp)
      have hall : ((t.insert e.1 e.2).entries ++ es).Perm (t.entries ++ e :: es) := by
        simpa using hinsert.append_right es
      have hapart := (hall.pairwise_iff fun h => h.symm).2 h
      exact (ih (t.insert e.1 e.2) hapart).trans hall

/-- **A map does not depend on the order of its entries.** -/
theorem foldl_insert_of_perm {t : Tags} {es : List (String × String)} (h : es.Perm t.entries) :
    es.foldl (fun t e => t.insert e.1 e.2) empty = t := by
  have hapart : es.Pairwise fun a b => a.1 ≠ b.1 := by
    refine (h.pairwise_iff fun h => h.symm).2 (t.ascending.imp fun hlt heq => ?_)
    exact String.lt_irrefl _ (heq ▸ hlt)
  have hperm := (perm_foldl_insert es empty (by simpa [empty] using hapart)).trans h
  -- two ascending lists of the same entries are the same list
  have hentries := hperm.eq_of_pairwise (fun a b _ _ hab hba =>
    absurd (String.lt_trans hab hba) (String.lt_irrefl _)) (Tags.ascending _) t.ascending
  cases t
  cases hfold : List.foldl _ empty es
  simpa [hfold] using hentries

end Tags

/-! ### Media sources -/

theorem MediaSource.fits_toJson (s : MediaSource) : s.toJson.Fits := by
  have htext (t : String) : (Json.string t).Fits := trivial
  simp only [toJson, Json.Fits, Json.fitMembers_iff, List.mem_append]
  rintro m ((hm | hm) | hm) <;> exact Json.fits_of_mem_optional (fun t _ => htext t) hm

/-- The numbers of media sources have 64 bits: there are none. -/
theorem MediaSource.fits_list (ss : List MediaSource) :
    (Json.array (ss.map MediaSource.toJson)).Fits := by
  simp only [Json.Fits, Json.fitElements_iff, List.mem_map]
  rintro e ⟨s, -, rfl⟩
  exact s.fits_toJson

/-! ### Items -/

namespace Item

/-- The number of an item. -/
theorem finds_index (n : Int64) :
    (Decoder.signed.map Int64.ofInt).Finds (.int n.toInt) n 0 := by
  have hn : -0x8000000000000000 ≤ n.toInt ∧ n.toInt < 0x8000000000000000 :=
    ⟨n.le_toInt, n.toInt_lt⟩
  have h := Decoder.finds_map (Decoder.finds_signed hn) Int64.ofInt
  rw [Int64.ofInt_toInt] at h
  exact h

/-- The numbers of an item have 64 bits. -/
theorem fits_toJson (i : Item) : i.toJson.Fits := by
  have htags (t : Tags) : t.toJson.Fits := by
    simp only [Tags.toJson, Json.Fits, Json.fitMembers_iff, List.mem_map]
    rintro m ⟨e, -, rfl⟩
    trivial
  have hindex (n : Int64) : (Json.int n.toInt).Fits := by
    have hlow := n.le_toInt
    have hhigh := n.toInt_lt
    rw [Json.Fits]
    omega
  have htext (t : String) : (Json.string t).Fits := trivial
  have hword {κ : Type} [Vocabulary κ] (n : Named κ) : n.toJson.Fits := trivial
  simp only [toJson, Json.Fits, Json.fitMembers_iff, List.mem_append, List.mem_cons]
  rintro m ((((((((rfl | hm) | rfl | hm) | hm) | hm) | hm) | hm)))
  · exact htext i.id
  · exact Json.fits_of_mem_optional (fun t _ => htext t) hm
  · exact hword i.kind
  · exact Json.fits_of_mem_optional (fun c _ => hword c) hm
  · exact Json.fits_of_mem_optional (fun n _ => hindex n) hm
  · exact Json.fits_of_mem_optional (fun m _ => hword m) hm
  · exact Json.fits_of_mem_optional (fun t _ => htags t) hm
  · exact Json.fits_of_mem_optional (fun ss _ => MediaSource.fits_list ss) hm

end Item

/-! ### Item lists -/

namespace ItemList

/-- The number of items in total. -/
theorem finds_total (n : UInt64) :
    (Decoder.unsigned.map UInt64.ofNat).Finds (.int n.toNat) n 0 := by
  have h := Decoder.finds_map (Decoder.finds_unsigned n.toNat) UInt64.ofNat
  rw [UInt64.ofNat_toNat] at h
  exact h

/-- The numbers of an item list have 64 bits. -/
theorem fits_toJson (l : ItemList) : l.toJson.Fits := by
  have hitems : (Json.array (l.items.map Item.toJson)).Fits := by
    simp only [Json.Fits, Json.fitElements_iff, List.mem_map]
    rintro e ⟨i, -, rfl⟩
    exact i.fits_toJson
  have htotal : (Json.int l.total.toNat).Fits := by
    have hlt := l.total.toNat_lt
    rw [Json.Fits]
    omega
  simp only [toJson, Json.Fits, Json.fitMembers_iff, List.mem_cons, List.not_mem_nil, or_false]
  rintro m (rfl | rfl)
  · exact hitems
  · exact htotal

end ItemList

end MediaTree
