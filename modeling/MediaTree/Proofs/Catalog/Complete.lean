/-
**Catalogs that are complete.**

A catalog is complete if every call is answered by what it asks for; only an item that does not
exist is missed.  None of the words in an answer hides a meaning, so that each answer can be written
and read again.  Data in memory make such a catalog unless their calls are made to fail.

Main definitions:

* `MediaTree.Catalog.Complete` — a catalog that answers every call, and says what it means;
* `MediaTree.Catalog.Small` — its records are small enough to be read from a server;
* `MediaTree.Catalog.linked` — a catalog with other addresses of streams and artwork;
* `MediaTree.Memory.Sound` — data whose calls do not fail.

Main results:

* `MediaTree.Memory.Sound.complete` — **sound data make a complete catalog**;
* `MediaTree.Memory.Sound.small` — and one of small records, if the data are small.
-/

import MediaTree.Catalog.Codec
import MediaTree.Catalog.Memory

set_option autoImplicit false
set_option relaxedAutoImplicit false

namespace MediaTree

/-! ### Complete catalogs -/

/-- The JSON of what answers a call. -/
def Call.json : (c : Call) → c.Answer → Json
  | .folders, answer => ItemList.toJson answer
  | .query _, answer => ItemList.toJson answer
  | .get _, answer => Item.toJson answer

/-- No word of what answers a call hides a meaning. -/
def Call.IsFaithful : (c : Call) → c.Answer → Prop
  | .folders, answer => ∀ i ∈ (answer : ItemList).items, i.Faithful
  | .query _, answer => ∀ i ∈ (answer : ItemList).items, i.Faithful
  | .get _, answer => Item.Faithful answer

/-- What a call may fail with in a catalog that is complete: there is no such item. -/
def Call.Misses : Call → CatalogError → Prop
  | .get id, e => e = .notFound id
  | _, _ => False

namespace Catalog

/-- A catalog is complete if it has its folders, the items of every query, and every item but those
that do not exist. -/
structure Complete (k : Catalog) : Prop where
  faithful : ∀ c a, (k.handle c).result = .ok a → c.IsFaithful a
  misses : ∀ c e, (k.handle c).result = .error e → c.Misses e

/-- The records of a catalog are small enough to be read. -/
def Small (k : Catalog) : Prop :=
  ∀ c a, (k.handle c).result = .ok a → (c.json a).compact.toUTF8.size ≤ maxResponseSize

/-- The catalog with other addresses of streams and artwork. -/
def linked (k : Catalog) (links : Links) : Catalog := { k with links := links }

theorem Complete.linked {k : Catalog} (hk : k.Complete) (links : Links) :
    (k.linked links).Complete :=
  ⟨hk.faithful, hk.misses⟩

end Catalog

/-! ### Data in memory -/

namespace Memory

variable {m : Memory}

/-- Data that answer every call, and none of whose words hides a meaning. -/
structure Sound (m : Memory) : Prop where
  folders : m.foldersFail = none
  gets : m.getFails = []
  queries : m.queryFails = []
  faithful : ∀ i ∈ m.allItems, i.Faithful

/-- The items of a query are those of a listing, if there are any. -/
theorem below_cases (m : Memory) (q : Query) :
    m.below q = [] ∨ ∃ l ∈ m.listings, m.below q = l.items := by
  unfold below
  split
  · rename_i l hl
    exact .inr ⟨l, List.mem_reverse.1 (List.mem_of_find?_eq_some hl), rfl⟩
  · exact .inl rfl

theorem mem_of_item? {id : String} {i : Item} (hi : m.item? id = some i) : i ∈ m.allItems :=
  List.mem_reverse.1 (List.mem_of_find?_eq_some hi)

theorem mem_allItems_of_below {q : Query} {i : Item} (hi : i ∈ m.below q) : i ∈ m.allItems := by
  rcases m.below_cases q with hnone | ⟨l, hl, hitems⟩
  · rw [hnone] at hi
    cases hi
  · rw [hitems] at hi
    simp only [allItems, List.mem_append, List.mem_flatMap]
    exact .inr ⟨l, hl, hi⟩

/-- What sound data answer. -/
theorem Sound.answer_eq (hm : m.Sound) :
    m.answer .folders = .ok (counted m.folders) ∧
      (∀ q, m.answer (.query q) = .ok (counted (m.below q))) ∧
      ∀ id, m.answer (.get id) =
        match m.item? id with
        | some i => .ok i
        | none => .error (.notFound id) := by
  refine ⟨?_, fun q => ?_, fun id => ?_⟩
  · rw [answer, hm.folders]
  · rw [answer, hm.queries]
    rfl
  · rw [answer, hm.gets]
    rfl

/-- What holds of the lists and of the items of sound data holds of all their answers. -/
theorem Sound.answer_ok (hm : m.Sound) {P : (c : Call) → c.Answer → Prop}
    (hfolders : P .folders (counted m.folders))
    (hquery : ∀ q, P (.query q) (counted (m.below q)))
    (hget : ∀ id, ∀ i ∈ m.allItems, P (.get id) i) {c : Call} {a : c.Answer}
    (ha : m.answer c = .ok a) : P c a := by
  obtain ⟨hf, hq, hg⟩ := hm.answer_eq
  cases c with
  | folders =>
      rw [hf] at ha
      cases ha
      exact hfolders
  | query q =>
      rw [hq] at ha
      cases ha
      exact hquery q
  | get id =>
      rw [hg] at ha
      cases hi : m.item? id with
      | none => simp [hi] at ha
      | some i =>
          rw [hi] at ha
          cases ha
          exact hget id _ (mem_of_item? hi)

/-- Sound data miss nothing but items. -/
theorem Sound.answer_error (hm : m.Sound) {c : Call} {e : CatalogError}
    (he : m.answer c = .error e) : c.Misses e := by
  obtain ⟨hf, hq, hg⟩ := hm.answer_eq
  cases c with
  | folders =>
      rw [hf] at he
      cases he
  | query q =>
      rw [hq] at he
      cases he
  | get id =>
      rw [hg] at he
      cases hi : m.item? id with
      | none =>
          rw [hi] at he
          cases he
          rfl
      | some i => simp [hi] at he

/-- **Sound data make a complete catalog.** -/
theorem Sound.complete (hm : m.Sound) : m.toCatalog.Complete where
  faithful _ _ ha := by
    refine hm.answer_ok (P := Call.IsFaithful) ?_ (fun q => ?_) (fun _ => hm.faithful) ha
    · intro i hi
      exact hm.faithful i (List.mem_append_left _ (List.mem_append_left _ hi))
    · intro i hi
      exact hm.faithful i (mem_allItems_of_below hi)
  misses _ _ he := hm.answer_error he

/-- The records of sound data are small if its lists and items are. -/
theorem Sound.small (hm : m.Sound)
    (hlists : ∀ items ∈ [] :: m.folders :: m.listings.map (·.items),
      (counted items).toJson.compact.toUTF8.size ≤ maxResponseSize)
    (hitems : ∀ i ∈ m.allItems, i.toJson.compact.toUTF8.size ≤ maxResponseSize) :
    m.toCatalog.Small := by
  intro c a ha
  refine hm.answer_ok (P := fun c a => (c.json a).compact.toUTF8.size ≤ maxResponseSize)
    (hlists m.folders (by simp)) (fun q => hlists (m.below q) ?_) (fun _ => hitems) ha
  rcases m.below_cases q with hnone | ⟨l, hl, hlist⟩
  · rw [hnone]
    exact List.mem_cons_self
  · rw [hlist]
    exact List.mem_cons_of_mem _ (List.mem_cons_of_mem _ (List.mem_map_of_mem hl))

theorem sound_empty (base : String) : (empty base).Sound where
  folders := rfl
  gets := rfl
  queries := rfl
  faithful i hi := absurd (show i ∈ [] from hi) List.not_mem_nil

end Memory

end MediaTree
