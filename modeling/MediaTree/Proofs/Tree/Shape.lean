/-
**The shape of what is shown.**

A host relies on a few facts about every node it is given, whatever the server has answered: a node
can either be played or opened, what it stands for says which of both, exactly the playable ones
have a MIME type, and a listing goes one level deep and holds nodes of one class.  Nothing is
assumed about items here.  An item of the wrong kind among the children of an artist still makes a
node of the right shape, because the shape comes from the level and not from the item.

Main definitions:

* `MediaTree.Node.Regular` — the fields of a node agree with each other;
* `MediaTree.Node.IsChild` — a node of a class, without children of its own;
* `MediaTree.Node.WellShaped` — a node that is opened one level deep.

Main results:

* `MediaTree.Build.isChild_of_mem_nodes` — every node of a level is a child of its class;
* `MediaTree.browse_wellShaped` — **every tree that is shown is well shaped.**
-/

import MediaTree.Catalog.Memory
import MediaTree.Proofs.Tree.Listing

set_option autoImplicit false
set_option relaxedAutoImplicit false

namespace MediaTree

namespace Node

/-! ### Shapes -/

/-- The fields of a node agree with each other. -/
structure Regular (n : Node) : Prop where
  domain : n.domain = "jellyfin"
  /-- A node can be played or opened, and never both. -/
  playable : n.canPlay = !n.canExpand
  /-- The playable nodes are those with a MIME type. -/
  typed : n.canPlay = true ↔ n.contentType.isSome
  /-- What a node stands for says whether it can be opened. -/
  expandable : n.canExpand = true ↔ n.mediaClass.isExpandable = true

/-- A node of a class, shown below another one. -/
structure IsChild (c : MediaClass) (n : Node) : Prop where
  regular : n.Regular
  mediaClass : n.mediaClass = c
  identifier : n.identifier ≠ none
  children : n.children = none
  childrenClass : n.childrenClass = none

/-- A node that is opened, one level deep. -/
structure WellShaped (n : Node) : Prop where
  regular : n.Regular
  opened : n.canPlay = false
  children : ∃ c cs, n.childrenClass = some c ∧ n.children = some cs ∧ ∀ x ∈ cs, IsChild c x

/-! ### How nodes are made -/

theorem regular_container {identifier thumbnail : Option String} {c : MediaClass} {title : String}
    (hc : c.isExpandable = true) : (container identifier c title thumbnail).Regular where
  domain := rfl
  playable := rfl
  typed := by simp [container, canPlay, contentType]
  expandable := by simp [container, canExpand, mediaClass, hc]

theorem regular_playable {identifier m title : String} {thumbnail : Option String}
    {c : MediaClass} (hc : c.isExpandable = false) :
    (playable identifier c m title thumbnail).Regular where
  domain := rfl
  playable := rfl
  typed := by simp [Node.playable, canPlay, contentType]
  expandable := by simp [Node.playable, canExpand, mediaClass, hc]

theorem isChild_container {identifier title : String} {thumbnail : Option String} {c : MediaClass}
    (hc : c.isExpandable = true) : IsChild c (container (some identifier) c title thumbnail) where
  regular := regular_container hc
  mediaClass := rfl
  identifier := by simp [container, Node.identifier]
  children := rfl
  childrenClass := rfl

theorem isChild_playable {identifier m title : String} {thumbnail : Option String}
    {c : MediaClass} (hc : c.isExpandable = false) :
    IsChild c (playable identifier c m title thumbnail) where
  regular := regular_playable hc
  mediaClass := rfl
  identifier := by simp [playable, Node.identifier]
  children := rfl
  childrenClass := rfl

/-- A regular node is well shaped with children of one class below it. -/
theorem wellShaped_withChildren {n : Node} (hn : n.Regular) (hopen : n.canExpand = true)
    {c : MediaClass} {cs : List Node} (hcs : ∀ x ∈ cs, IsChild c x) :
    (n.withChildren c cs).WellShaped where
  regular := ⟨hn.domain, hn.playable, hn.typed, hn.expandable⟩
  opened := by
    have h := hn.playable
    rw [hopen] at h
    exact h
  children := ⟨c, cs, rfl, rfl, hcs⟩

end Node

namespace Build

variable {links : Links}

/-! ### Nodes of a level -/

/-- A node of a level is a child of the level's class, whatever the item is. -/
theorem isChild_of_child? [Mime.Table] {l : Level} {i : Item} {n : Node}
    (h : child? links l i = some n) : Node.IsChild l.mediaClass n := by
  unfold child? at h
  split at h
  · rename_i hleaf
    obtain ⟨m, -, rfl⟩ := Option.map_eq_some_iff.1 h
    exact Node.isChild_playable (by simp [Level.isExpandable_mediaClass, hleaf])
  · rename_i hleaf
    obtain rfl := Option.some_inj.1 h
    exact Node.isChild_container (by simpa [Level.isExpandable_mediaClass] using hleaf)

/-- Every node of a level is a child of the level's class. -/
theorem isChild_of_mem_nodes [Mime.Table] {l : Level} {items : List Item} :
    ∀ n ∈ nodes links l items, Node.IsChild l.mediaClass n := by
  intro n hn
  obtain ⟨i, -, hi⟩ := List.mem_filterMap.1 hn
  exact isChild_of_child? hi

/-- What an item is opened as stands for something that can be opened. -/
theorem isExpandable_of_opening {κ : Named ItemKind} {c : MediaClass} {l : Level}
    (h : Opening.of κ = .level c l) : c.isExpandable = true := by
  unfold Opening.of at h
  split at h <;> cases h <;> rfl

/-- The node of an item that can be opened is a container with the item's id. -/
theorem front?_eq_container {i : Item} {f : Node} (h : front? links i = some f) :
    ∃ c title thumbnail, f = Node.container (some i.id) c title thumbnail ∧
      c.isExpandable = true := by
  unfold front? at h
  split at h
  · obtain rfl := Option.some_inj.1 h
    exact ⟨.directory, i.title, none, rfl, rfl⟩
  · rename_i c l ho
    obtain rfl := Option.some_inj.1 h
    exact ⟨c, i.title, thumbnail? links i, rfl, isExpandable_of_opening ho⟩
  · cases h

/-- An item that is opened is well shaped, and carries its id. -/
theorem wellShaped_of_opens [Mime.Table] {k : Catalog} {i : Item} {n : Node}
    (h : Opens k links i (.ok n)) : n.WellShaped ∧ n.identifier = some i.id := by
  cases h with
  | shown l answer f hl hanswer hf =>
      obtain ⟨c, title, thumbnail, rfl, hc⟩ := front?_eq_container hf
      refine ⟨?_, rfl⟩
      exact Node.wellShaped_withChildren (Node.regular_container hc) rfl isChild_of_mem_nodes

/-- The root is well shaped, and has no id. -/
theorem wellShaped_root {k : Catalog} {title : String} {n : Node}
    (h : (Attempt.run k (root title)).2 = .ok n) : n.WellShaped ∧ n.identifier = none := by
  rw [result_root] at h
  split at h
  · obtain rfl := Except.ok.inj h
    refine ⟨?_, rfl⟩
    refine Node.wellShaped_withChildren (Node.regular_container rfl) rfl ?_
    intro x hx
    obtain ⟨i, -, rfl⟩ := List.mem_map.1 hx
    exact Node.isChild_container rfl
  · cases h

end Build

/-! ### Every request -/

/-- **Every tree that is shown is well shaped**, and it has no id exactly if the root was asked
for. -/
theorem browse_wellShaped [Mime.Table] {s : Source} {id : Option String} {n : Node}
    (h : (s.browse id).2 = .ok n) :
    n.WellShaped ∧ (n.identifier = none ↔ id = none ∨ id = some "") := by
  have hroot : id.getD "" = "" ↔ id = none ∨ id = some "" := by cases id <;> simp
  unfold Source.browse at h
  split at h
  · cases h
  · rename_i k hk
    by_cases hid : id.getD "" = ""
    · obtain ⟨hshape, hnone⟩ :=
        Build.wellShaped_root ((result_browsePlan_root k k.links s.name hid).symm.trans h)
      exact ⟨hshape, by simp [hnone, hroot.1 hid]⟩
    · have h := (result_browsePlan_item k k.links s.name hid).symm.trans h
      split at h
      · rename_i i hi
        obtain ⟨hshape, hsome⟩ := Build.wellShaped_of_opens (h ▸ Build.opens_node i)
        exact ⟨hshape, by simp [hsome, ← hroot, hid]⟩
      · cases h

/-- An artist below which the server lists a song and a library. -/
def mixedShelf : Memory :=
  { Memory.empty "memory" with
    items := [Item.bare "a" (.known .artist)]
    listings :=
      [⟨"a", "MusicAlbum", [Item.bare "s" (.known .audio), Item.bare "l" (.known .library)]⟩] }

/-- Items of other kinds than asked for are shown as albums, and the tree is well shaped. -/
theorem mixedShelf_wellShaped :
    ∃ n, (((Source.new "Media").attach mixedShelf.toCatalog).browse (some "a")).2 = .ok n ∧
      (n.WellShaped ∧ (n.identifier = none ↔ some "a" = none ∨ some "a" = some "")) ∧
      n.children = some
        [Node.container (some "s") .album "" none, Node.container (some "l") .album "" none] := by
  have h : (((Source.new "Media").attach mixedShelf.toCatalog).browse (some "a")).2 =
      .ok ((Node.container (some "a") .artist "" none).withChildren .album
        [Node.container (some "s") .album "" none,
          Node.container (some "l") .album "" none]) := by
    have hid : (some "a").getD "" ≠ "" := by decide
    have hsorted : [Item.bare "s" (.known .audio), Item.bare "l" (.known .library)].Pairwise
        (Level.albums.key.le · ·) := by decide
    exact (result_browsePlan_shown (l := .albums) mixedShelf.toCatalog mixedShelf.links "Media" hid
      rfl rfl rfl hsorted).trans rfl
  exact ⟨_, h, browse_wellShaped h, rfl⟩

end MediaTree
