/-
**What a listing promises, opening the entry delivers.**

A node is made twice: as a child, from the level that it stands on, and as the node that is opened,
from the item that is fetched by its id.  On a catalog that agrees with itself the two come out the
same.  The argument is one relation between an item and the node that a listing shows of it: either
the item can be opened, and the node is what it is opened as; or it cannot, and the node carries the
MIME type that resolving finds again.

Main definitions:

* `MediaTree.Catalog.Holds`, `MediaTree.Catalog.Coherent` — a catalog that agrees with itself;
* `MediaTree.Build.Entry` — the node that a listing shows of an item.

Main results:

* `MediaTree.entry_of_mem_children` — every child is the entry of an item of the catalog;
* `MediaTree.browse_entry`, `MediaTree.resolve_entry` — what opening and resolving an entry gives;
* `MediaTree.children_deliver` — **a child can be opened or resolved as it says.**
-/

import MediaTree.Catalog.Memory
import MediaTree.Proofs.Tree.Shape

set_option autoImplicit false
set_option relaxedAutoImplicit false

namespace MediaTree

/-! ### Catalogs that agree with themselves -/

namespace Catalog

/-- An item has an id, and is found by it. -/
structure Holds (k : Catalog) (x : Item) : Prop where
  found : (k.handle (.get x.id)).result = .ok x
  id_ne : x.id ≠ ""

/-- Whatever is listed is found by its id and is of the kind that was asked for. -/
structure Coherent (k : Catalog) : Prop where
  folders : ∀ answer : ItemList, (k.handle .folders).result = .ok answer →
    ∀ x ∈ answer.items, k.Holds x ∧ x.kind = .known .library
  query : ∀ (q : Query) (answer : ItemList), (k.handle (.query q)).result = .ok answer →
    ∀ x ∈ answer.items, k.Holds x ∧ ∀ κ, q.kinds = [.known κ] → x.kind = .known κ

end Catalog

/-! ### Entries -/

namespace Build

variable (links : Links)

/-- The node that a listing shows of an item. -/
inductive Entry [Mime.Table] (x : Item) : Node → Prop
  /-- The item can be opened, and is shown as what it is opened as. -/
  | opens {c : Node} (h : front? links x = some c) : Entry x c
  /-- The item is a leaf, and is shown with its MIME type. -/
  | plays (c : MediaClass) {m : String} (hclosed : Opening.of x.kind = .closed)
      (hm : Mime.ofItem x = .ok m) :
      Entry x (Node.playable x.id c m x.title (thumbnail? links x))

variable {links}

/-- On a level above the leaves, items are opened as what the level shows. -/
theorem opening_of_level {l : Level} (h : l.isLeaf = false) :
    ∃ below, Opening.of (.known l.kind) = .level l.mediaClass below := by
  cases l with
  | artists => exact ⟨.albums, rfl⟩
  | albums => exact ⟨.tracks, rfl⟩
  | series => exact ⟨.seasons, rfl⟩
  | seasons => exact ⟨.episodes, rfl⟩
  | tracks | movies | episodes => cases h

/-- Leaves cannot be opened. -/
theorem opening_of_leaf {l : Level} (h : l.isLeaf = true) :
    Opening.of (.known l.kind) = .closed := by
  cases l <;> first | rfl | cases h

/-- An item on the level of its kind is shown as an entry. -/
theorem entry_of_child? [Mime.Table] {l : Level} {x : Item} {c : Node} (hx : x.kind = .known l.kind)
    (h : child? links l x = some c) : Entry links x c := by
  unfold child? at h
  split at h
  · rename_i hleaf
    obtain ⟨m, hm, rfl⟩ := Option.map_eq_some_iff.1 h
    exact .plays _ (hx ▸ opening_of_leaf hleaf) (Mime.ofItem?_eq_some_iff.1 hm)
  · rename_i hleaf
    obtain ⟨below, ho⟩ := opening_of_level (l := l) (by simpa using hleaf)
    obtain rfl := Option.some_inj.1 h
    exact .opens (by simp [front?, hx, ho])

/-- A library is shown as an entry. -/
theorem entry_libraryNode [Mime.Table] {x : Item} (hx : x.kind = .known .library) :
    Entry links x (libraryNode x) :=
  .opens (by simp [front?, hx, Opening.of])

/-- An entry carries the id of its item. -/
theorem Entry.identifier_eq [Mime.Table] {x : Item} {c : Node} (h : Entry links x c) :
    c.identifier = some x.id ∧ c.domain = "jellyfin" := by
  cases h with
  | opens h =>
      obtain ⟨c', title, thumbnail, rfl, -⟩ := front?_eq_container h
      exact ⟨rfl, rfl⟩
  | plays c hclosed hm => exact ⟨rfl, rfl⟩

/-- A node of a level, on a catalog that agrees with itself, is the entry of one of its items. -/
theorem entry_of_mem_nodes [Mime.Table] {k : Catalog} (hk : k.Coherent) {parent : String}
    {l : Level} {answer : ItemList}
    (h : (k.handle (.query (Query.below parent l.kind))).result = .ok answer) {c : Node}
    (hc : c ∈ nodes links l answer.items) :
    ∃ x, k.Holds x ∧ Entry links x c := by
  obtain ⟨x, hx, hchild⟩ := List.mem_filterMap.1 hc
  have hmem : x ∈ answer.items := (List.mergeSort_perm _ _).mem_iff.1 hx
  obtain ⟨hholds, hkind⟩ := hk.query _ answer h x hmem
  exact ⟨x, hholds, entry_of_child? (hkind _ rfl) hchild⟩

end Build

open Build (Entry)

variable {k : Catalog} {name : String}

/-- **Every child that is shown is the entry of an item of the catalog.** -/
theorem entry_of_mem_children [Mime.Table] (hk : k.Coherent) {id : Option String} {n c : Node}
    (h : (((Source.new name).attach k).browse id).2 = .ok n)
    (hc : ∃ cs, n.children = some cs ∧ c ∈ cs) : ∃ x, k.Holds x ∧ Entry k.links x c := by
  obtain ⟨cs, hcs, hmem⟩ := hc
  by_cases hid : id.getD "" = ""
  · have h := (result_browsePlan_root k k.links name hid).symm.trans h
    rw [Build.result_root] at h
    split at h
    · rename_i answer hanswer
      obtain rfl := Except.ok.inj h
      obtain rfl := Option.some_inj.1 hcs
      obtain ⟨x, hx, rfl⟩ := List.mem_map.1 hmem
      obtain ⟨hholds, hkind⟩ := hk.folders answer hanswer x (List.mem_filter.1 hx).1
      exact ⟨x, hholds, Build.entry_libraryNode hkind⟩
    · cases h
  · have h := (result_browsePlan_item k k.links name hid).symm.trans h
    split at h
    · rename_i i hi
      have hopens : Build.Opens k k.links i (.ok n) := h ▸ Build.opens_node i
      cases hopens with
      | shown l answer f hl hanswer hf =>
          obtain rfl := Option.some_inj.1 hcs
          exact Build.entry_of_mem_nodes hk hanswer hmem
    · cases h

/-- What browsing an item of the catalog comes to. -/
theorem browse_held [Mime.Table] {x : Item} (hx : k.Holds x) :
    Build.Opens k k.links x (((Source.new name).attach k).browse (some x.id)).2 := by
  have hne : (some x.id).getD "" ≠ "" := hx.id_ne
  have h := result_browsePlan_item k k.links name hne
  have hget : (k.handle (.get ((some x.id).getD ""))).result = .ok x := hx.found
  rw [hget] at h
  exact h ▸ Build.opens_node x

/-- **Opening an entry that can be opened** gives its node again, now with children, unless the query
for one of the item's levels fails. -/
theorem browse_entry [Mime.Table] {x : Item} (hx : k.Holds x) {c : Node}
    (hc : Build.front? k.links x = some c) :
    (∀ e, (((Source.new name).attach k).browse (some x.id)).2 = .error e →
      ∃ l ∈ x.levels, ∃ ce, (k.handle (.query (Query.below x.id l.kind))).result = .error ce ∧
        e = .catalog ce) ∧
    ∀ n, (((Source.new name).attach k).browse (some x.id)).2 = .ok n → n.withoutChildren = c := by
  have hopens : Build.Opens k k.links x (((Source.new name).attach k).browse (some x.id)).2 :=
    browse_held hx
  constructor
  · intro e he
    rw [he] at hopens
    cases hopens with
    | closed ho => simp [Build.front?, ho] at hc
    | failed l ce hl hce => exact ⟨l, hl, ce, hce, rfl⟩
  · intro n hn
    rw [hn] at hopens
    cases hopens with
    | shown l answer f hl hanswer hf =>
        obtain rfl : f = c := Option.some_inj.1 (hf.symm.trans hc)
        obtain ⟨cl, title, thumbnail, rfl, -⟩ := Build.front?_eq_container hf
        rfl

/-- **Resolving an entry that is a leaf** succeeds exactly for the two media with a stream, and
finds the MIME type that was shown. -/
theorem resolve_entry [Mime.Table] {x : Item} (hx : k.Holds x) {m : String}
    (hm : Mime.ofItem x = .ok m) :
    ((∃ p, (((Source.new name).attach k).resolve x.id).2 = .ok p) ↔
      x.medium = some (.known .audio) ∨ x.medium = some (.known .video)) ∧
    ∀ p, (((Source.new name).attach k).resolve x.id).2 = .ok p →
      p.mimeType = m ∧
      (x.medium = some (.known .audio) → p.url = k.links.audio x.id) ∧
      (x.medium = some (.known .video) → p.url = k.links.video x.id) := by
  have h : (((Source.new name).attach k).resolve x.id).2 = _ := result_resolvePlan k k.links x.id
  rw [hx.found] at h
  rw [h]
  -- one case for each medium, and one for an item without any
  cases hmedium : x.medium with
  | none => simp [Build.stream, hmedium]
  | some w =>
      cases w with
      | other s => simp [Build.stream, hmedium]
      | known medium => cases medium <;> simp [Build.stream, hmedium, hm]

/-- **A child can be opened or resolved as it says.**  What stands behind the domain in its address
is the id of an item.  If it can be opened, browsing that id fails only with the failure of the query
for one of the item's levels, and otherwise gives the child with children added.  If it can be
played, browsing the id fails and names the kind of the item, and resolving it succeeds exactly for
the two media with a stream: with the MIME type that was shown, and with the address of the stream
of that id. -/
theorem children_deliver [Mime.Table] (hk : k.Coherent) {id : Option String} {n c : Node}
    (h : (((Source.new name).attach k).browse id).2 = .ok n)
    (hc : ∃ cs, n.children = some cs ∧ c ∈ cs) :
    ∃ cid, c.address = "media-source://jellyfin/" ++ cid ∧
      (c.canExpand = true → ∃ x, (k.handle (.get cid)).result = .ok x ∧
        (∀ e, (((Source.new name).attach k).browse (some cid)).2 = .error e →
          ∃ l ∈ x.levels, ∃ ce,
            (k.handle (.query (Query.below cid l.kind))).result = .error ce ∧
              e = .catalog ce) ∧
        ∀ n', (((Source.new name).attach k).browse (some cid)).2 = .ok n' →
          n'.withoutChildren = c) ∧
      (c.canPlay = true → ∃ x, (k.handle (.get cid)).result = .ok x ∧
        (((Source.new name).attach k).browse (some cid)).2 =
          .error (.browse (.unsupportedItem x.kind.word)) ∧
        ((∃ p, (((Source.new name).attach k).resolve cid).2 = .ok p) ↔
          x.medium = some (.known .audio) ∨ x.medium = some (.known .video)) ∧
        ∀ p, (((Source.new name).attach k).resolve cid).2 = .ok p →
          c.contentType = some p.mimeType ∧
          (x.medium = some (.known .audio) → p.url = k.links.audio cid) ∧
          (x.medium = some (.known .video) → p.url = k.links.video cid)) := by
  obtain ⟨x, hx, hentry⟩ := entry_of_mem_children hk h hc
  obtain ⟨hid, hdomain⟩ := hentry.identifier_eq
  refine ⟨x.id, by simp [Node.address, hid, hdomain], ?_, ?_⟩
  · intro hexpand
    cases hentry with
    | opens hf => exact ⟨x, hx.found, browse_entry hx hf⟩
    | plays cl hclosed hm => cases hexpand
  · intro hplay
    cases hentry with
    | opens hf =>
        obtain ⟨cl, title, thumbnail, rfl, -⟩ := Build.front?_eq_container hf
        cases hplay
    | plays cl hclosed hm =>
        refine ⟨x, hx.found, ?_, (resolve_entry hx hm).1, ?_⟩
        · have hne : (some x.id).getD "" ≠ "" := hx.id_ne
          exact result_browsePlan_closed k k.links name hne hx.found hclosed
        · intro p hp
          obtain ⟨rfl, haudio, hvideo⟩ := (resolve_entry hx hm).2 p hp
          exact ⟨rfl, haudio, hvideo⟩

/-! ### A library of films -/

/-- A film with a file. -/
def shelvedFilm : Item :=
  { Item.bare "f" (.known .movie) with
    medium := some (.known .video)
    sources := some [⟨none, some "/films/f.mkv", none⟩] }

/-- A library that holds a film. -/
def filmShelf : Memory :=
  { Memory.empty "memory" with
    folders := [{ Item.bare "l" (.known .library) with collection := some (.known .movies) }]
    listings := [⟨"l", "Movie", [shelvedFilm]⟩] }

theorem coherent_filmShelf : filmShelf.toCatalog.Coherent where
  folders answer h x hx := by
    obtain rfl := Except.ok.inj h
    obtain rfl := List.mem_singleton.1 hx
    exact ⟨⟨rfl, by decide⟩, rfl⟩
  query q answer h x hx := by
    obtain rfl := Except.ok.inj h
    have hx : x ∈ filmShelf.below q := hx
    simp only [Memory.below, filmShelf, List.reverse_singleton, List.find?_singleton] at hx
    split at hx
    · rename_i l hl
      obtain ⟨hasked, rfl⟩ := by simpa using hl
      obtain rfl := List.mem_singleton.1 hx
      refine ⟨⟨rfl, by decide⟩, ?_⟩
      intro κ hκ
      have hword : "Movie" = Vocabulary.word κ := by simpa [Memory.kindOf, hκ] using hasked.2
      exact congrArg Named.known (Vocabulary.word_injective ItemKind.movie κ hword)
    · cases hx

/-- The library at the root is opened as it is shown there; the film in it cannot be browsed, and
resolves to its file's type and its stream. -/
theorem filmShelf_delivers :
    let s := (Source.new "Media").attach filmShelf.toCatalog
    (∃ n, (s.browse (some "l")).2 = .ok n ∧
      n.withoutChildren = Node.container (some "l") .directory "" none) ∧
    (s.browse (some "f")).2 = .error (.browse (.unsupportedItem "Movie")) ∧
    (s.resolve "f").2 = .ok ⟨"memory/video/f", "video/x-matroska"⟩ := by
  intro s
  have hroot : (s.browse none).2 =
      .ok ((Node.container none .directory "Media" none).withChildren .directory
        [Node.container (some "l") .directory "" none]) :=
    (result_browsePlan_root filmShelf.toCatalog filmShelf.links "Media" rfl).trans
      (Build.result_root _ _)
  have hlibrary : (s.browse (some "l")).2 =
      .ok ((Node.container (some "l") .directory "" none).withChildren .movie
        [Node.playable "f" .movie "video/x-matroska" "" none]) := by
    have hid : (some "l").getD "" ≠ "" := by decide
    exact (result_browsePlan_shown (l := .movies) filmShelf.toCatalog filmShelf.links "Media" hid
      rfl rfl rfl (List.pairwise_singleton _ _)).trans rfl
  constructor
  · obtain ⟨cid, haddress, hexpand, -⟩ :=
      children_deliver coherent_filmShelf hroot ⟨_, rfl, List.mem_singleton.2 rfl⟩
    have haddress : "media-source://jellyfin/" ++ "l" = "media-source://jellyfin/" ++ cid :=
      haddress
    obtain rfl : "l" = cid := (String.append_right_inj _).1 haddress
    obtain ⟨_, -, -, hopens⟩ := hexpand rfl
    exact ⟨_, hlibrary, hopens _ hlibrary⟩
  · obtain ⟨cid, haddress, -, hplay⟩ :=
      children_deliver coherent_filmShelf hlibrary ⟨_, rfl, List.mem_singleton.2 rfl⟩
    have haddress : "media-source://jellyfin/" ++ "f" = "media-source://jellyfin/" ++ cid :=
      haddress
    obtain rfl : "f" = cid := (String.append_right_inj _).1 haddress
    obtain ⟨x, hget, hbrowse, hresolve, hstream⟩ := hplay rfl
    obtain rfl : shelvedFilm = x := Except.ok.inj hget
    obtain ⟨p, hp⟩ := hresolve.2 (.inr rfl)
    obtain ⟨htype, -, hvideo⟩ := hstream p hp
    refine ⟨hbrowse, hp.trans (congrArg Except.ok ?_)⟩
    obtain ⟨url, mimeType⟩ := p
    obtain rfl : url = "memory/video/f" := hvideo rfl
    obtain rfl : "video/x-matroska" = mimeType := Option.some_inj.1 htype
    rfl

end MediaTree
