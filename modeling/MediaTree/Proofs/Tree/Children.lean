/-
**The children of one level.**

What a level shows is said here once more, apart from the builder: which items are shown, in which
order, as which nodes, and what is said in the log about those that are not.  An item is shown
unless the level is one of leaves and nothing can tell its MIME type.  Sorting and leaving out do
not disturb each other, since leaving out keeps an arrangement arranged and the arrangement of what
is left is unique.

Whatever comes of opening an item is then traced through the builder: the calls of the levels that
are tried, each behind its own events, and at the end the lines about what was left out.

Main definitions:

* `MediaTree.Level.shows`, `MediaTree.Level.nodeOf` — which items a level shows, and as what;
* `MediaTree.Item.missingType` — what is said about an item that is left out;
* `MediaTree.Level.Lists` — what a level makes of the items that a server lists;
* `MediaTree.Catalog.asking` — what is seen of asking for a level.

Main results:

* `MediaTree.Level.filter_sort` — leaving out before sorting changes nothing;
* `MediaTree.Build.run_children` — a level as a whole: events and nodes;
* `MediaTree.Build.shows_node` — an item that is opened shows one of its levels;
* `MediaTree.levels_list_exactly` — **what is listed of every level.**
-/

import MediaTree.Proofs.Tree.Calls
import MediaTree.Proofs.Tree.Order

set_option autoImplicit false
set_option relaxedAutoImplicit false

namespace MediaTree

open Attempt (run)

/-! ### What should be listed -/

/-- The names of the images of an item. -/
def Item.images (i : Item) : List String := (i.tags.map fun t => t.entries.map Prod.fst).getD []

/-- What is said about an item that has no MIME type. -/
def Item.missingType (i : Item) : Log.Entry where
  severity := .debug
  target := "jellyfin_media_source::mime"
  message :=
    match i.firstSource? with
    | none => "Unable to determine mime type for item without media source"
    | some s =>
      match s.path with
      | none => "Unable to determine mime type for media source without path"
      | some p => "Unable to determine mime type for path " ++ Mime.baseName p
  fields := [("item_id", .shown i.id)]

namespace Level

/-- The levels on which items are shown with a MIME type, or not at all. -/
def typed : List Level := [tracks, movies, episodes]

/-- The levels that are ordered by number; the others are ordered by name. -/
def numbered : List Level := [tracks, seasons, episodes]

/-- What a level is ordered by. -/
def order (l : Level) : SortKey := if l ∈ numbered then .index else .name

/-- An item is shown on a level. -/
def shows [Mime.Table] (l : Level) (i : Item) : Bool := decide (l ∉ typed) || (Mime.ofItem? i).isSome

/-- The MIME type that a level shows of an item. -/
def typeOf [Mime.Table] (l : Level) (i : Item) : Option String :=
  if l ∈ typed then Mime.ofItem? i else none

/-- The address of the artwork that is shown of an item: that of its primary image, if it has
one. -/
def artworkOf (links : Links) (i : Item) : Option String :=
  if "Primary" ∈ i.images then some (links.artwork i.id "Primary" 500) else none

/-- The node that a level shows of an item: a leaf that can be played, or a container, and in either
case without children of its own. -/
def nodeOf [Mime.Table] (links : Links) (l : Level) (i : Item) : Node :=
  .mk "jellyfin" (some i.id) l.mediaClass (l.typeOf i) (i.name.getD "")
    (decide (l ∈ typed)) (decide (l ∉ typed)) (artworkOf links i) none none

/-- What a level makes of the items that a server lists: nodes, and lines of the log. -/
def Lists [Mime.Table] (links : Links) (l : Level) (items : List Item) (nodes : List Node)
    (lines : List Log.Entry) : Prop :=
  ∃ sorted, l.order.Arranges items sorted ∧
    l.order.sort (items.filter l.shows) = sorted.filter l.shows ∧
    nodes = (sorted.filter l.shows).map (l.nodeOf links) ∧
    lines = (sorted.filter fun i => !l.shows i).map Item.missingType

variable {l : Level} {i : Item} {items : List Item} {links : Links}

/-! ### Levels -/

/-- The levels of leaves are those that show a MIME type. -/
theorem isLeaf_eq (l : Level) : l.isLeaf = decide (l ∈ typed) := by
  cases l <;> rfl

theorem key_eq (l : Level) : l.key = l.order := by
  cases l <;> rfl

/-- **Leaving out before sorting changes nothing**, since what is left of an arrangement is the
arrangement of what is left. -/
theorem filter_sort (key : SortKey) (p : Item → Bool) (items : List Item) :
    (key.sort items).filter p = key.sort (items.filter p) := by
  have h := key.arranges_sort items
  refine SortKey.arranges_iff.1 ⟨h.perm.filter p, h.ordered.filter p, ?_⟩
  intro v
  have hswap (items : List Item) : key.group v (items.filter p) = (key.group v items).filter p := by
    rw [SortKey.group, SortKey.group, List.filter_filter, List.filter_filter]
    simp only [Bool.and_comm]
  rw [hswap, hswap, h.stable]

/-- The lines about the items that a level leaves out. -/
def remarks [Mime.Table] (l : Level) (items : List Item) : List Log.Entry :=
  (l.key.sort items).filterMap (Build.remark? l)

theorem thumbnail?_eq : Build.thumbnail? links i = artworkOf links i := by
  have himage : i.hasImage "Primary" = true ↔ "Primary" ∈ i.images := by
    rw [Item.hasImage, Item.images]
    cases i.tags with
    | none => simp
    | some t => simp [Tags.contains]
  simp only [Build.thumbnail?, Build.primaryImage, Build.artworkWidth, artworkOf, himage]

/-- An item makes the node that should be shown of it, if it should be shown. -/
theorem child?_eq [Mime.Table] (links : Links) (l : Level) (i : Item) :
    Build.child? links l i = if l.shows i then some (l.nodeOf links i) else none := by
  by_cases hl : l ∈ typed
  · cases hm : Mime.ofItem? i with
    | none => simp [Build.child?, isLeaf_eq, shows, hl, hm]
    | some m =>
        simp [Build.child?, isLeaf_eq, shows, nodeOf, typeOf, thumbnail?_eq, Node.playable,
          Node.ownDomain, Item.title, hl, hm]
  · simp [Build.child?, isLeaf_eq, shows, nodeOf, typeOf, thumbnail?_eq, Build.container,
      Node.container, Node.ownDomain, Item.title, hl]

/-- The cause is what should be said. -/
theorem entry_eq [Mime.Table] {u : Mime.Unknown} (h : Mime.ofItem i = .error u) :
    u.entry = i.missingType := by
  cases hsource : i.firstSource? with
  | none =>
      simp only [Mime.ofItem, hsource] at h
      obtain rfl := Except.error.inj h
      simp only [Item.missingType, hsource]
      rfl
  | some source =>
      cases hpath : source.path with
      | none =>
          simp only [Mime.ofItem, hsource, hpath] at h
          obtain rfl := Except.error.inj h
          simp only [Item.missingType, hsource, hpath]
          rfl
      | some path =>
          cases htype : Mime.ofPath? path with
          | some m => simp only [Mime.ofItem, hsource, hpath, htype, reduceCtorEq] at h
          | none =>
              simp only [Mime.ofItem, hsource, hpath, htype] at h
              obtain rfl := Except.error.inj h
              simp only [Item.missingType, hsource, hpath]
              rfl

/-- A line is written about an item exactly if it is not shown. -/
theorem remark?_eq [Mime.Table] (l : Level) (i : Item) :
    Build.remark? l i = if !l.shows i then some i.missingType else none := by
  by_cases hl : l ∈ typed
  · cases hm : Mime.ofItem i with
    | error u =>
        simp [Build.remark?, isLeaf_eq, shows, Mime.ofItem?, Except.toOption, hl, hm, entry_eq hm]
    | ok m => simp [Build.remark?, isLeaf_eq, shows, Mime.ofItem?, Except.toOption, hl, hm]
  · simp [Build.remark?, isLeaf_eq, shows, hl]

/-- **A level makes of items what it should.** -/
theorem lists_nodes [Mime.Table] (links : Links) (l : Level) (items : List Item) :
    l.Lists links items (Build.nodes links l items) (l.remarks items) := by
  refine ⟨l.order.sort items, l.order.arranges_sort items, (filter_sort _ _ _).symm, ?_, ?_⟩
  · rw [← List.filterMap_eq_map, List.filterMap_filter, Build.nodes, key_eq]
    simp only [child?_eq, Function.comp_apply]
  · rw [← List.filterMap_eq_map, List.filterMap_filter, remarks, key_eq]
    simp only [remark?_eq, Function.comp_apply]

/-- Above the leaves nothing is left out. -/
theorem remarks_of_not_typed [Mime.Table] (h : l ∉ typed) (items : List Item) :
    l.remarks items = [] := by
  rw [remarks, List.filterMap_eq_nil_iff]
  intro i _
  simp [remark?_eq, shows, h]

end Level

/-! ### What is seen -/

/-- The items that a query finds. -/
def Catalog.found (k : Catalog) (q : Query) : List Item :=
  match (k.handle (.query q)).result with
  | .ok answer => answer.items
  | .error _ => []

/-- What is seen of asking for a level that is answered: the call, and how many items there are. -/
def Catalog.asking (k : Catalog) (parent : String) (l : Level) : List Event :=
  let q := Query.below parent l.kind
  (k.handle (.query q)).events ++
    [.logged (Build.listedBelow parent (.known l.kind) (k.found q))]

/-- An item is shown on a level: those in front of it are tried first and hold nothing, and those
behind it are not tried, since it holds something. -/
structure Catalog.ShownOn (k : Catalog) (i : Item) (front : List Level) (l : Level)
    (answer : ItemList) : Prop where
  levels : ∃ back, i.levels = front ++ l :: back ∧
    (back = [] ∨ k.findsNone (Query.below i.id l.kind) = false)
  empty : ∀ l' ∈ front, k.findsNone (Query.below i.id l'.kind) = true
  answered : (k.handle (.query (Query.below i.id l.kind))).result = .ok answer

/-- What is shown and seen of an item that is shown on a level. -/
def Catalog.Shows [Mime.Table] (k : Catalog) (links : Links) (i : Item) (n : Node)
    (seen : List Event) : Prop :=
  ∃ front l answer, k.ShownOn i front l answer ∧
    n.childrenClass = some l.mediaClass ∧ n.children = some (Build.nodes links l answer.items) ∧
    seen = (front ++ [l]).flatMap (k.asking i.id) ++ (l.remarks answer.items).map Event.logged

namespace Build

variable (k : Catalog) (links : Links)

@[simp] theorem events_logAll (es : List Log.Entry) :
    (run k (logAll es)).1 = es.map Event.logged := by
  induction es with
  | nil => rfl
  | cons e es ih => simp [logAll, Attempt.events_bind, ih]

theorem events_itemsBelow (parent : String) (l : Level) {answer : ItemList}
    (h : (k.handle (.query (Query.below parent l.kind))).result = .ok answer) :
    (run k (itemsBelow parent (.known l.kind))).1 = k.asking parent l := by
  have hfound : k.found (Query.below parent l.kind) = answer.items := by rw [Catalog.found, h]
  rw [Catalog.asking, hfound]
  rw [← Query.children_known] at h ⊢
  refine (Attempt.events_bind k (Attempt.ask (.query (Query.children parent (.known l.kind))))
    _).trans ?_
  rw [Attempt.result_ask, h, Attempt.events_ask]
  rfl

/-- **A level as a whole**: it is asked for, what is left out is named in the log, and the rest
becomes nodes. -/
theorem run_children [Mime.Table] (parent : String) (l : Level) {answer : ItemList}
    (h : (k.handle (.query (Query.below parent l.kind))).result = .ok answer) :
    run k (children links parent l) =
      (k.asking parent l ++ (l.remarks answer.items).map Event.logged,
        .ok (nodes links l answer.items)) := by
  have hresult : (run k (children links parent l)).2 = .ok (nodes links l answer.items) := by
    rw [result_children, h]
  have hitems : (run k (itemsBelow parent (.known l.kind))).2 = .ok answer.items := by
    rw [result_itemsBelow, h]
  refine Prod.ext ?_ hresult
  simp [children, Attempt.events_bind, hitems, events_itemsBelow k parent l h, Level.remarks]

/-- The same with the nodes below another one. -/
theorem run_expand [Mime.Table] (n : Node) (parent : String) (l : Level) {answer : ItemList}
    (h : (k.handle (.query (Query.below parent l.kind))).result = .ok answer) :
    run k (expand links n parent l) =
      (k.asking parent l ++ (l.remarks answer.items).map Event.logged,
        .ok (n.withChildren l.mediaClass (nodes links l answer.items))) := by
  refine Prod.ext ?_ ?_
  · simp [expand, Attempt.events_bind, run_children k links parent l h]
  · rw [result_expand, h]

variable {k links}

theorem findsNone_eq {q : Query} {answer : ItemList}
    (h : (k.handle (.query q)).result = .ok answer) : k.findsNone q = answer.items.isEmpty := by
  rw [Catalog.findsNone, h]

/-- A node with the nodes of its last level, behind the levels that were tried. -/
theorem shows_expand [Mime.Table] {i : Item} (front : List Level) {l : Level} {f n : Node}
    (hlevels : i.levels = front ++ [l])
    (hempty : ∀ l' ∈ front, k.findsNone (Query.below i.id l'.kind) = true)
    (h : (run k (expand links f i.id l)).2 = .ok n) :
    k.Shows links i n
      (front.flatMap (k.asking i.id) ++ (run k (expand links f i.id l)).1) := by
  cases hanswer : (k.handle (.query (Query.below i.id l.kind))).result with
  | error e =>
      rw [result_expand, hanswer] at h
      cases h
  | ok answer =>
      rw [run_expand k links f i.id l hanswer] at h ⊢
      obtain rfl := Except.ok.inj h
      refine ⟨front, l, answer, ⟨⟨[], hlevels, .inl rfl⟩, hempty, hanswer⟩, rfl, rfl, ?_⟩
      simp

/-- A library is shown on the level of what it collects; a music library without artists is shown
on the level of albums. -/
theorem shows_library [Mime.Table] {i : Item} {n : Node} (hk : i.kind = .known .library)
    (h : (run k (library links i)).2 = .ok n) :
    k.Shows links i n (run k (library links i)).1 := by
  unfold library at h ⊢
  split at h
  · rename_i hc
    have hlevels : i.levels = [.artists, .albums] := by simp [Item.levels, hk, hc]
    cases hartists : (k.handle (.query (Query.below i.id Level.artists.kind))).result with
    | error e =>
        rw [Attempt.result_bind, result_children, hartists] at h
        cases h
    | ok answer =>
        have hrun := run_children k links i.id .artists hartists
        have hnone : k.findsNone (Query.below i.id Level.artists.kind) = answer.items.isEmpty :=
          findsNone_eq hartists
        -- artists are no leaves, so none of them is left out
        rw [Level.remarks_of_not_typed (by decide), List.map_nil, List.append_nil] at hrun
        rw [Attempt.result_bind, hrun] at h
        rw [Attempt.events_bind, hrun]
        simp only [Except.bind, isEmpty_nodes (l := .artists) rfl] at h ⊢
        split at h
        · rename_i hempty
          rw [if_pos hempty]
          have hshows := shows_expand [.artists] hlevels ?_ h
          · simpa using hshows
          · intro l' hl'
            rw [List.mem_singleton.1 hl', hnone, hempty]
        · rename_i hfull
          obtain rfl := Except.ok.inj h
          rw [if_neg hfull]
          refine ⟨[], .artists, answer, ⟨⟨[.albums], hlevels, .inr ?_⟩, ?_, hartists⟩, rfl, rfl, ?_⟩
          · rw [hnone]
            simpa using hfull
          · exact List.forall_mem_nil _
          · simp [Level.remarks_of_not_typed (l := .artists) (by decide)]
  · rename_i hc
    have hlevels : i.levels = [.movies] := by simp [Item.levels, hk, hc]
    exact shows_expand [] hlevels (List.forall_mem_nil _) h
  · rename_i hmusic hmovies
    have hlevels : i.levels = [.series] := by simp [Item.levels, hk]
    exact shows_expand [] hlevels (List.forall_mem_nil _) h

/-- **An item that is opened is shown on one of its levels**, and all that is seen are the calls for
the levels that were tried and the lines about what was left out. -/
theorem shows_node [Mime.Table] {i : Item} {n : Node} (h : (run k (node links i)).2 = .ok n) :
    k.Shows links i n (run k (node links i)).1 := by
  unfold node at h ⊢
  split at h
  · rename_i ho
    exact shows_library (Opening.eq_library ho) h
  · rename_i c l ho
    have hlevels : i.levels = [l] := Item.levels_of_level ho
    exact shows_expand [] hlevels (List.forall_mem_nil _) h
  · cases h

end Build

/-- What is seen of browsing an item that is fetched: that it is browsed, the call for it, and what
is seen of opening it. -/
theorem events_browsePlan_item [Mime.Table] (k : Catalog) (links : Links) {id : Option String}
    {i : Item} (title : String) (h : id.getD "" ≠ "")
    (hi : (k.handle (.get (id.getD ""))).result = .ok i) :
    (run k (browsePlan links title id)).1 =
      .logged (sourceEntry .debug "Browsing item" [("item_id", .text (id.getD ""))]) ::
        ((k.handle (.get (id.getD ""))).events ++ (run k (Build.node links i)).1) := by
  have hitem : (run k (Build.item (id.getD ""))).2 = .ok i := by rw [Build.result_item, hi]
  have hcall : (run k (Build.item (id.getD ""))).1 = (k.handle (.get (id.getD ""))).events :=
    Attempt.events_ask k (.get (id.getD ""))
  simp only [browsePlan, h, if_false, Attempt.events_bind, Attempt.result_log, Attempt.events_log,
    hitem, hcall, List.cons_append, List.nil_append]

/-- **What is listed of every level.**  A level below any parent, over any catalog whose query for
it is answered, is the list of the nodes of the items, in the one arrangement that its order leaves
to it and without those that it does not show; these are named in the log, one line each, in the
same order.  Whatever is browsed with success shows its children in this way, and nothing is seen
but the calls for the levels that were tried and those lines. -/
theorem levels_list_exactly [Mime.Table] (k : Catalog) :
    (∀ (links : Links) (parent : String) (l : Level) (answer : ItemList),
      (k.handle (.query (Query.below parent l.kind))).result = .ok answer →
      ∃ nodes lines, l.Lists links answer.items nodes lines ∧
        run k (Build.children links parent l) =
          (k.asking parent l ++ lines.map Event.logged, .ok nodes)) ∧
    ∀ (name id : String) (n : Node), id ≠ "" →
      (((Source.new name).attach k).browse (some id)).2 = .ok n →
      ∃ i front l answer nodes lines,
        (k.handle (.get id)).result = .ok i ∧ k.ShownOn i front l answer ∧
        l.Lists k.links answer.items nodes lines ∧
        n.childrenClass = some l.mediaClass ∧ n.children = some nodes ∧
        (((Source.new name).attach k).browse (some id)).1 =
          .logged (sourceEntry .debug "Browsing item" [("item_id", .text id)]) ::
            ((k.handle (.get id)).events ++
              ((front ++ [l]).flatMap (k.asking i.id) ++ lines.map Event.logged)) := by
  constructor
  · intro links parent l answer hanswer
    exact ⟨_, _, l.lists_nodes links answer.items,
      Build.run_children k links parent l hanswer⟩
  · intro name id n hid hn
    have hid : (some id).getD "" ≠ "" := hid
    have hn : (run k (browsePlan k.links name (some id))).2 = .ok n := hn
    rw [result_browsePlan_item k k.links name hid] at hn
    cases hi : (k.handle (.get ((some id).getD ""))).result with
    | error e =>
        rw [hi] at hn
        cases hn
    | ok i =>
        rw [hi] at hn
        obtain ⟨front, l, answer, hshown, hclass, hnodes, hseen⟩ := Build.shows_node hn
        refine ⟨i, front, l, answer, _, _, hi, hshown, l.lists_nodes k.links answer.items, hclass,
          hnodes, ?_⟩
        rw [← hseen]
        exact events_browsePlan_item k k.links name hid hi

/-- A track with a number and a file. -/
def trackAt (id : String) (number : Int64) (path : String) : Item :=
  { Item.bare id (.known .audio) with
    index := some number
    sources := some [⟨none, some path, none⟩] }

/-- An album of which the server lists a track twice, and two in files of no known kind. -/
def carelessShelf : Memory :=
  { Memory.empty "memory" with
    items := [Item.bare "al" (.known .album)]
    listings := [⟨"al", "Audio", [trackAt "b" 2 "b.mp3", trackAt "m" 3 "notes",
      trackAt "n" 1 "notes", trackAt "a" (-1) "a.flac", trackAt "b" 2 "b.mp3"]⟩] }

/-- The track stays there twice, behind the one with the lower number, and those in files of no known
kind are named in the log by their ids, in the order of their numbers. -/
theorem album_lists_track_twice :
    let s := (Source.new "Media").attach carelessShelf.toCatalog
    ∃ n, (s.browse (some "al")).2 = .ok n ∧
      n.children.map (List.map fun c => (c.identifier, c.contentType)) =
        some [(some "a", some "audio/flac"), (some "b", some "audio/mpeg"),
          (some "b", some "audio/mpeg")] ∧
      (Event.logs (s.browse (some "al")).1).map (fun e => (e.line, e.fields)) =
        [("DEBUG Browsing item", [("item_id", .text "al")]),
          ("DEBUG Fetched children",
            [("parent_id", .text "al"), ("item_type", .shown "Audio"), ("count", .count 5)]),
          ("DEBUG Unable to determine mime type for path notes", [("item_id", .shown "n")]),
          ("DEBUG Unable to determine mime type for path notes", [("item_id", .shown "m")])] := by
  intro s
  let listed : List Item := [trackAt "b" 2 "b.mp3", trackAt "m" 3 "notes",
    trackAt "n" 1 "notes", trackAt "a" (-1) "a.flac", trackAt "b" 2 "b.mp3"]
  have hid : (some "al").getD "" ≠ "" := by decide
  obtain ⟨n, hn⟩ : ∃ n, (s.browse (some "al")).2 = .ok n :=
    ⟨_, (result_browsePlan_item carelessShelf.toCatalog _ "Media" hid).trans
      (Build.result_expand _ _ _ _ _)⟩
  obtain ⟨i, front, l, answer, nodes, lines, hi, hshown, hlists, -, hnodes, hseen⟩ :=
    (levels_list_exactly carelessShelf.toCatalog).2 "Media" "al" n (by decide) hn
  -- an album has one level, so no other one was tried
  obtain rfl : Item.bare "al" (.known .album) = i := Except.ok.inj hi
  obtain ⟨⟨back, hlevels, -⟩, -, hanswer⟩ := hshown
  obtain ⟨rfl, rfl⟩ : front = [] ∧ l = .tracks := by
    cases front with
    | nil => exact ⟨rfl, (List.cons.inj hlevels).1.symm⟩
    | cons l' front => simp [Item.levels, Item.bare] at hlevels
  obtain rfl : Memory.counted listed = answer := Except.ok.inj hanswer
  obtain ⟨sorted, hsorted, -, rfl, rfl⟩ := hlists
  have hsort : sorted = [trackAt "a" (-1) "a.flac", trackAt "n" 1 "notes",
      trackAt "b" 2 "b.mp3", trackAt "b" 2 "b.mp3", trackAt "m" 3 "notes"] := by
    rw [SortKey.arranges_iff.1 hsorted]
    exact (SortKey.arranges_iff.1 (by decide)).symm
  subst hsort
  refine ⟨n, hn, ?_, ?_⟩
  · rw [hnodes]
    decide
  · rw [hseen]
    decide

end MediaTree
