/-
**Image tags.**

An item carries a map from image names to tags.  It is kept as the list of its entries in ascending
order of their names, so that two equal maps are one value whatever the order in which they were
spelled; a name that stands twice keeps its last tag.

Main definitions:

* `MediaTree.Tags` — the map, with `empty`, `insert`, `contains`.
-/

set_option autoImplicit false
set_option relaxedAutoImplicit false

namespace MediaTree

/-- A map from names to tags. -/
structure Tags where
  entries : List (String × String)
  /-- The names ascend, so none stands twice. -/
  ascending : entries.Pairwise fun a b => a.1 < b.1
deriving DecidableEq, Repr

namespace Tags

/-- The map without entries. -/
def empty : Tags := ⟨[], .nil⟩

instance : Inhabited Tags := ⟨empty⟩

/-- Puts an entry into its place among ascending ones, in place of one of the same name. -/
def insertEntry (k v : String) : List (String × String) → List (String × String)
  | [] => [(k, v)]
  | e :: es =>
    if k < e.1 then (k, v) :: e :: es
    else if k = e.1 then (k, v) :: es
    else e :: insertEntry k v es

theorem mem_insertEntry {k v : String} {es : List (String × String)} {x : String × String}
    (h : x ∈ insertEntry k v es) : x = (k, v) ∨ x ∈ es := by
  induction es with
  | nil => simpa [insertEntry] using h
  | cons e es ih =>
    simp only [insertEntry] at h
    split at h
    · simpa using h
    · split at h
      · simp only [List.mem_cons] at h ⊢
        rcases h with h | h
        · exact .inl h
        · exact .inr (.inr h)
      · simp only [List.mem_cons] at h ⊢
        rcases h with h | h
        · exact .inr (.inl h)
        · rcases ih h with h | h
          · exact .inl h
          · exact .inr (.inr h)

theorem pairwise_insertEntry {k v : String} {es : List (String × String)}
    (h : es.Pairwise fun a b => a.1 < b.1) :
    (insertEntry k v es).Pairwise fun a b => a.1 < b.1 := by
  induction es with
  | nil => simp [insertEntry]
  | cons e es ih =>
    have he := List.pairwise_cons.1 h
    simp only [insertEntry]
    split
    · rename_i hk
      refine List.pairwise_cons.2 ⟨fun x hx => ?_, h⟩
      rcases List.mem_cons.1 hx with rfl | hx
      · exact hk
      · exact String.lt_trans hk (he.1 x hx)
    · rename_i hk
      split
      · rename_i heq
        refine List.pairwise_cons.2 ⟨fun x hx => ?_, he.2⟩
        simpa [heq] using he.1 x hx
      · rename_i hne
        refine List.pairwise_cons.2 ⟨fun x hx => ?_, ih he.2⟩
        rcases mem_insertEntry hx with rfl | hx
        · exact Decidable.byContradiction fun hn =>
            hne (String.le_antisymm (String.not_lt.1 hn) (String.not_lt.1 hk))
        · exact he.1 x hx

/-- Puts an entry into the map, in place of one of the same name. -/
def insert (t : Tags) (k v : String) : Tags :=
  ⟨insertEntry k v t.entries, pairwise_insertEntry t.ascending⟩

/-- Whether a name has a tag. -/
def contains (t : Tags) (k : String) : Bool := t.entries.any (·.1 == k)

end Tags

end MediaTree
