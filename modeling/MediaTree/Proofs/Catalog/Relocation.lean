/-
**Catalogs whose files lie elsewhere.**

Two catalogs may be the same but for where their server keeps the files: the first media source of
an item names another directory, its id and its container are other ones, and the sources behind it
are anything at all.  This module says what that means, item by item and answer by answer, and how
little of it can be noticed: such items look alike, that is, they are equal once their sources are
taken away, and they have the same MIME type or the same reason for having none.

Main definitions:

* `MediaTree.Item.Relocated`, `MediaTree.ItemList.Relocated` — records whose files lie elsewhere;
* `MediaTree.EndsAlike` — two outcomes with related answers, or with the same error;
* `MediaTree.Catalog.Relocated`, `MediaTree.Memory.Relocated` — such catalogs, and data that make
  them;
* `MediaTree.Item.LooksLike` — items that differ in nothing that shows.

Main results:

* `MediaTree.Item.Relocated.looksLike` — **where the files of an item lie does not show**;
* `MediaTree.Memory.Relocated.toCatalog` — relocated data make relocated catalogs.
-/

import Mathlib.Data.List.Forall2
import MediaTree.Catalog.Memory
import MediaTree.Proofs.Mime.Directory

set_option autoImplicit false
set_option relaxedAutoImplicit false

namespace MediaTree

/-! ### Records -/

/-- Sources of one item, kept in two places: the first one has moved, or names no path in both;
nothing else about the sources is the same. -/
inductive SourcesRelocated : Option (List MediaSource) → Option (List MediaSource) → Prop
  | missing : SourcesRelocated none none
  | empty : SourcesRelocated (some []) (some [])
  | first {s s' : MediaSource} (h : Option.Rel Mime.Moved s.path s'.path)
      (rest rest' : List MediaSource) : SourcesRelocated (some (s :: rest)) (some (s' :: rest'))

namespace Item

/-- The item without its sources. -/
def withoutSources (i : Item) : Item := { i with sources := none }

/-- The same item, its files kept in two places. -/
structure Relocated (i j : Item) : Prop where
  rest : i.withoutSources = j.withoutSources
  sources : SourcesRelocated i.sources j.sources

/-- Two items that differ in nothing that shows. -/
structure LooksLike [Mime.Table] (i j : Item) : Prop where
  rest : i.withoutSources = j.withoutSources
  mime : Mime.ofItem i = Mime.ofItem j

/-- **Where the files of an item lie does not show.** -/
theorem Relocated.looksLike [Mime.Table] {i j : Item} (h : i.Relocated j) : i.LooksLike j := by
  refine ⟨h.rest, ?_⟩
  have hid : i.withoutSources.id = j.withoutSources.id := congrArg Item.id h.rest
  have hsources := h.sources
  unfold Mime.ofItem firstSource?
  rw [show i.id = j.id from hid]
  generalize i.sources = sources, j.sources = sources' at hsources ⊢
  cases hsources with
  | missing => rfl
  | empty => rfl
  | @first s s' hpath rest rest' =>
      simp only [Option.bind_some, List.head?_cons]
      generalize s.path = path, s'.path = path' at hpath ⊢
      cases hpath with
      | none => rfl
      | some hmoved => simp only [hmoved.ofPath?_eq, hmoved.baseName_eq]

end Item

/-- The same list of items, their files kept in two places. -/
structure ItemList.Relocated (l l' : ItemList) : Prop where
  items : List.Forall₂ Item.Relocated l.items l'.items
  total : l.total = l'.total

/-! ### Catalogs -/

/-- Two outcomes are alike: both are answers, and these are related, or both are one error. -/
inductive EndsAlike {ε α β : Type} (R : α → β → Prop) : Except ε α → Except ε β → Prop
  | ok {a : α} {b : β} (h : R a b) : EndsAlike R (.ok a) (.ok b)
  | error (e : ε) : EndsAlike R (.error e) (.error e)

/-- The same answer to a call, its files kept in two places. -/
def Call.Relocated : (c : Call) → c.Answer → c.Answer → Prop
  | .folders => ItemList.Relocated
  | .query _ => ItemList.Relocated
  | .get _ => Item.Relocated

/-- The same catalog, its files kept in two places. -/
structure Catalog.Relocated (k k' : Catalog) : Prop where
  links : k.links = k'.links
  events : ∀ c, (k.handle c).events = (k'.handle c).events
  answers : ∀ c, EndsAlike c.Relocated (k.handle c).result (k'.handle c).result

/-! ### Data in memory -/

namespace Memory

/-- The same items below one parent, their files kept in two places. -/
structure Listing.Relocated (l l' : Listing) : Prop where
  parent : l.parent = l'.parent
  kind : l.kind = l'.kind
  items : List.Forall₂ Item.Relocated l.items l'.items

/-- The same data, their files kept in two places. -/
structure Relocated (m m' : Memory) : Prop where
  base : m.base = m'.base
  folders : List.Forall₂ Item.Relocated m.folders m'.folders
  items : List.Forall₂ Item.Relocated m.items m'.items
  listings : List.Forall₂ Listing.Relocated m.listings m'.listings
  foldersFail : m.foldersFail = m'.foldersFail
  getFails : m.getFails = m'.getFails
  queryFails : m.queryFails = m'.queryFails

/-- What is found first in related lists is related, if both are searched for the same. -/
theorem rel_find? {α β : Type} {R : α → β → Prop} {as : List α} {bs : List β} {p : α → Bool}
    {q : β → Bool} (h : List.Forall₂ R as bs) (hpq : ∀ a b, R a b → p a = q b) :
    Option.Rel R (as.find? p) (bs.find? q) := by
  induction h with
  | nil => exact .none
  | @cons a b as bs hab _ ih =>
      rw [List.find?_cons, List.find?_cons, hpq a b hab]
      cases q b with
      | false => exact ih
      | true => exact .some hab

variable {m m' : Memory}

theorem Relocated.item? (h : m.Relocated m') (id : String) :
    Option.Rel Item.Relocated (m.item? id) (m'.item? id) := by
  have hlistings : List.Forall₂ Item.Relocated (m.listings.flatMap (·.items))
      (m'.listings.flatMap (·.items)) :=
    List.rel_flatMap h.listings fun _ _ hl => hl.items
  have hall : List.Forall₂ Item.Relocated m.allItems m'.allItems :=
    List.rel_append (List.rel_append h.folders h.items) hlistings
  refine rel_find? (List.forall₂_reverse_iff.2 hall) fun i j hij => ?_
  have hid : i.withoutSources.id = j.withoutSources.id := congrArg Item.id hij.rest
  exact congrArg (· == id) hid

theorem Relocated.below (h : m.Relocated m') (q : Query) :
    List.Forall₂ Item.Relocated (m.below q) (m'.below q) := by
  have hfind := rel_find? (List.forall₂_reverse_iff.2 h.listings)
    (p := fun l => q.parent == some l.parent && l.kind == kindOf q)
    (q := fun l => q.parent == some l.parent && l.kind == kindOf q)
    fun l l' hl => by rw [hl.parent, hl.kind]
  unfold Memory.below
  generalize m.listings.reverse.find? _ = found, m'.listings.reverse.find? _ = found' at hfind ⊢
  cases hfind with
  | none => exact .nil
  | some hl => exact hl.items

/-- Lists of as many items count alike. -/
theorem relocated_counted {is js : List Item} (h : List.Forall₂ Item.Relocated is js) :
    (counted is).Relocated (counted js) :=
  ⟨h, congrArg UInt64.ofNat h.length_eq⟩

/-- **Relocated data make relocated catalogs.** -/
theorem Relocated.toCatalog (h : m.Relocated m') : m.toCatalog.Relocated m'.toCatalog where
  links := by
    show m.links = m'.links
    simp only [Memory.links, h.base]
  events _ := rfl
  answers c := by
    show EndsAlike c.Relocated (m.answer c) (m'.answer c)
    cases c with
    | folders =>
        simp only [answer, ← h.foldersFail]
        cases m.foldersFail with
        | some e => exact .error e
        | none => exact .ok (relocated_counted h.folders)
    | query q =>
        simp only [answer, ← h.queryFails]
        cases m.queryFails.find? (·.1 == kindOf q) with
        | some e => exact .error e.2
        | none => exact .ok (relocated_counted (h.below q))
    | get id =>
        have hitem := h.item? id
        simp only [answer, ← h.getFails]
        cases m.getFails.find? (·.1 == id) with
        | some e => exact .error e.2
        | none =>
            generalize m.item? id = found, m'.item? id = found' at hitem ⊢
            cases hitem with
            | none => exact .error _
            | some hi => exact .ok hi

end Memory

end MediaTree
