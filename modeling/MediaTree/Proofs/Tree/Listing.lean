/-
**What a listing comes to.**

`MediaTree.Tree.Builder` says how nodes are made while calls are made and entries are logged.  This
module says what is left when calls and log are taken away: one equation for each part of the
builder, and for an item that is opened the three ways in which this can end.  What is proved of
nodes rests on these statements and never looks into the builder again.

Main definitions:

* `MediaTree.Query.below` — the query for the items of a kind below a parent, written out;
* `MediaTree.Build.nodes` — the nodes of a level, given the items;
* `MediaTree.Item.levels` — the levels that an item is opened on, in the order of trying;
* `MediaTree.Build.front?` — the node of an item that can be opened, without children.

Main results:

* `MediaTree.Build.result_children`, `MediaTree.Build.calls_children` — a level is one query;
* `MediaTree.Build.opens_node` — an item is closed, or a query fails, or a level is shown;
* `MediaTree.result_browsePlan_root`, `MediaTree.result_browsePlan_item`,
  `MediaTree.result_resolvePlan` — whole requests.
-/

import MediaTree.Proofs.Catalog.Run
import MediaTree.Tree.Source

set_option autoImplicit false
set_option relaxedAutoImplicit false

namespace MediaTree

open Attempt (run)

/-! ### Queries and levels -/

/-- The query for the items of a kind below a parent: all descendants of this one kind, and media
sources for the kinds that have a stream. -/
def Query.below (parent : String) (kind : ItemKind) : Query where
  parent := some parent
  kinds := [.known kind]
  recursive := true
  fields := if kind = .audio ∨ kind = .movie ∨ kind = .episode then [.mediaSources] else []

@[simp] theorem Query.children_known (parent : String) (kind : ItemKind) :
    Query.children parent (.known kind) = Query.below parent kind := by
  cases kind <;> rfl

/-- The levels that an item is opened on.  A music library is opened on the second one only if
there is nothing on the first. -/
def Item.levels (i : Item) : List Level :=
  match i.kind with
  | .known .library =>
    match i.collection with
    | some (.known .music) => [.artists, .albums]
    | some (.known .movies) => [.movies]
    | _ => [.series]
  | .known .artist => [.albums]
  | .known .album => [.tracks]
  | .known .series => [.seasons]
  | .known .season => [.episodes]
  | _ => []

/-- Only libraries are opened as libraries. -/
theorem Opening.eq_library {n : Named ItemKind} (h : Opening.of n = .library) :
    n = .known .library := by
  unfold Opening.of at h
  split at h <;> first | rfl | cases h

/-- All other items that can be opened have one level. -/
theorem Item.levels_of_level {i : Item} {c : MediaClass} {l : Level}
    (h : Opening.of i.kind = .level c l) : i.levels = [l] := by
  unfold Opening.of at h
  split at h <;> cases h <;> simp [Item.levels, *]

namespace Build

/-- The nodes of a level, given the items in the order of the server. -/
def nodes [Mime.Table] (links : Links) (l : Level) (items : List Item) : List Node :=
  (l.key.sort items).filterMap (child? links l)

/-- The node of an item that can be opened, without its children. -/
def front? (links : Links) (i : Item) : Option Node :=
  match Opening.of i.kind with
  | .library => some (libraryNode i)
  | .level c _ => some (container links c i)
  | .closed => none

/-! ### Parts of the builder -/

variable (k : Catalog) (links : Links)

@[simp] theorem result_logAll (es : List Log.Entry) : (run k (logAll es)).2 = .ok () := by
  induction es with
  | nil => rfl
  | cons e es ih => simp [logAll, ih, Except.bind]

@[simp] theorem calls_logAll (es : List Log.Entry) : (logAll es).calls k = [] := by
  induction es with
  | nil => rfl
  | cons e es ih => simp [logAll, ih]

theorem result_itemsBelow (parent : String) (kind : ItemKind) :
    (run k (itemsBelow parent (.known kind))).2 =
      match (k.handle (.query (Query.below parent kind))).result with
      | .ok answer => .ok answer.items
      | .error e => .error (.catalog e) := by
  rw [← Query.children_known]
  refine (Attempt.result_bind k (Attempt.ask (.query (Query.children parent (.known kind))))
    _).trans ?_
  rw [Attempt.result_ask]
  cases (k.handle (.query (Query.children parent (.known kind)))).result <;> rfl

@[simp] theorem calls_itemsBelow (parent : String) (kind : ItemKind) :
    (itemsBelow parent (.known kind)).calls k = [.query (Query.below parent kind)] := by
  rw [← Query.children_known]
  refine (Attempt.calls_bind k (Attempt.ask (.query (Query.children parent (.known kind))))
    _).trans ?_
  rw [Attempt.result_ask]
  cases (k.handle (.query (Query.children parent (.known kind)))).result <;> rfl

/-- A level is what the answer to its query holds. -/
theorem result_children [Mime.Table] (parent : String) (l : Level) :
    (run k (children links parent l)).2 =
      match (k.handle (.query (Query.below parent l.kind))).result with
      | .ok answer => .ok (nodes links l answer.items)
      | .error e => .error (.catalog e) := by
  simp only [children, Attempt.result_bind, result_itemsBelow]
  cases (k.handle (.query (Query.below parent l.kind))).result with
  | error e => rfl
  | ok answer => simp [Except.bind, nodes]

/-- A level is asked for by one query. -/
@[simp] theorem calls_children [Mime.Table] (parent : String) (l : Level) :
    (children links parent l).calls k = [.query (Query.below parent l.kind)] := by
  simp only [children, Attempt.calls_bind, calls_itemsBelow]
  cases (run k (itemsBelow parent (.known l.kind))).2 <;> simp

/-- The nodes below a node are those of its level. -/
theorem result_expand [Mime.Table] (n : Node) (parent : String) (l : Level) :
    (run k (expand links n parent l)).2 =
      match (k.handle (.query (Query.below parent l.kind))).result with
      | .ok answer => .ok (n.withChildren l.mediaClass (nodes links l answer.items))
      | .error e => .error (.catalog e) := by
  simp only [expand, Attempt.result_bind, result_children]
  cases (k.handle (.query (Query.below parent l.kind))).result <;> rfl

@[simp] theorem calls_expand [Mime.Table] (n : Node) (parent : String) (l : Level) :
    (expand links n parent l).calls k = [.query (Query.below parent l.kind)] := by
  simp only [expand, Attempt.calls_bind, calls_children]
  cases (run k (children links parent l)).2 <;> simp

/-! ### Items that are opened -/

/-- How opening an item can end. -/
inductive Opens [Mime.Table] (i : Item) : Except RequestError Node → Prop
  /-- The item cannot be opened. -/
  | closed (h : Opening.of i.kind = .closed) :
      Opens i (.error (.browse (.unsupportedItem i.kind.word)))
  /-- The query for one of its levels fails. -/
  | failed (l : Level) (e : CatalogError) (hl : l ∈ i.levels)
      (h : (k.handle (.query (Query.below i.id l.kind))).result = .error e) :
      Opens i (.error (.catalog e))
  /-- One of its levels is shown. -/
  | shown (l : Level) (answer : ItemList) (f : Node) (hl : l ∈ i.levels)
      (h : (k.handle (.query (Query.below i.id l.kind))).result = .ok answer)
      (hf : front? links i = some f) :
      Opens i (.ok (f.withChildren l.mediaClass (nodes links l answer.items)))

variable {k links}

theorem opens_expand [Mime.Table] {i : Item} {l : Level} {f : Node} (hl : l ∈ i.levels)
    (hf : front? links i = some f) :
    Opens k links i (run k (expand links f i.id l)).2 := by
  rw [result_expand]
  cases h : (k.handle (.query (Query.below i.id l.kind))).result with
  | error e => exact .failed l e hl h
  | ok answer => exact .shown l answer f hl h hf

/-- A library is shown on the level of what it collects; a music library without artists is shown
on the level of albums. -/
theorem opens_library [Mime.Table] {i : Item} (hk : i.kind = .known .library) :
    Opens k links i (run k (library links i)).2 := by
  have hf : front? links i = some (libraryNode i) := by simp [front?, hk, Opening.of]
  unfold library
  split
  · rename_i hc
    have hlevels : i.levels = [.artists, .albums] := by simp [Item.levels, hk, hc]
    rw [Attempt.result_bind, result_children]
    cases h : (k.handle (.query (Query.below i.id Level.artists.kind))).result with
    | error e => exact .failed .artists e (by simp [hlevels]) h
    | ok answer =>
        simp only [Except.bind]
        split
        · exact opens_expand (by simp [hlevels]) hf
        · exact .shown .artists answer _ (by simp [hlevels]) h hf
  · rename_i hc
    exact opens_expand (by simp [Item.levels, hk, hc]) hf
  · rename_i hmusic hmovies
    refine opens_expand ?_ hf
    simp [Item.levels, hk]

/-- **An item is closed, or the query for one of its levels fails, or a level is shown.** -/
theorem opens_node [Mime.Table] (i : Item) : Opens k links i (run k (node links i)).2 := by
  unfold node
  split
  · rename_i ho
    exact opens_library (Opening.eq_library ho)
  · rename_i c l ho
    exact opens_expand (by simp [Item.levels_of_level ho]) (by simp [front?, ho])
  · rename_i ho
    exact .closed ho

/-! ### Whole requests -/

variable (k)

/-- The root lists the libraries among the folders. -/
theorem result_root (title : String) :
    (run k (root title)).2 =
      match (k.handle .folders).result with
      | .ok answer =>
        .ok ((Node.container none .directory title none).withChildren .directory
          ((answer.items.filter isLibrary).map libraryNode))
      | .error e => .error (.catalog e) := by
  refine (Attempt.result_bind k libraries _).trans ?_
  have h : (run k libraries).2 = _ := Attempt.result_bind k (Attempt.ask .folders) _
  rw [h, Attempt.result_ask]
  cases (k.handle .folders).result <;> rfl

@[simp] theorem calls_root (title : String) : (root title).calls k = [.folders] := by
  refine (Attempt.calls_bind k libraries _).trans ?_
  have h : libraries.calls k = _ := Attempt.calls_bind k (Attempt.ask .folders) _
  rw [h, Attempt.result_ask]
  cases (k.handle .folders).result <;> cases (run k libraries).2 <;> rfl

theorem result_item (id : String) :
    (run k (item id)).2 =
      match (k.handle (.get id)).result with
      | .ok i => .ok i
      | .error e => .error (.catalog e) := by
  refine (Attempt.result_ask k (.get id)).trans ?_
  cases (k.handle (.get id)).result <;> rfl

@[simp] theorem calls_item (id : String) : (item id).calls k = [.get id] := rfl

end Build

section Requests

variable [Mime.Table] (k : Catalog) (links : Links)

/-- Without an id, or with an empty one, the root is built. -/
theorem result_browsePlan_root {id : Option String} (title : String) (h : id.getD "" = "") :
    (run k (browsePlan links title id)).2 = (run k (Build.root title)).2 := by
  simp [browsePlan, h, Except.bind]

theorem calls_browsePlan_root {id : Option String} (title : String) (h : id.getD "" = "") :
    (browsePlan links title id).calls k = [.folders] := by
  simp [browsePlan, h]

/-- With an id, the item is fetched and opened. -/
theorem result_browsePlan_item {id : Option String} (title : String) (h : id.getD "" ≠ "") :
    (run k (browsePlan links title id)).2 =
      match (k.handle (.get (id.getD ""))).result with
      | .ok i => (run k (Build.node links i)).2
      | .error e => .error (.catalog e) := by
  simp only [browsePlan, h, if_false, Attempt.result_bind, Attempt.result_log,
    Build.result_item]
  cases (k.handle (.get (id.getD ""))).result <;> rfl

/-- An item is shown with the nodes of one level, whose items come in order already. -/
theorem result_browsePlan_shown {id : Option String} {i : Item} {f : Node} {l : Level}
    {answer : ItemList} (title : String) (h : id.getD "" ≠ "")
    (hi : (k.handle (.get (id.getD ""))).result = .ok i)
    (hnode : Build.node links i = Build.expand links f i.id l)
    (hanswer : (k.handle (.query (Query.below i.id l.kind))).result = .ok answer)
    (hsorted : answer.items.Pairwise (l.key.le · ·)) :
    (run k (browsePlan links title id)).2 =
      .ok (f.withChildren l.mediaClass (answer.items.filterMap (Build.child? links l))) := by
  have hsort : l.key.sort answer.items = answer.items := List.mergeSort_of_pairwise hsorted
  rw [result_browsePlan_item k links title h, hi]
  simp only [hnode, Build.result_expand, hanswer, Build.nodes, hsort]

/-- An item that cannot be opened is named in the error. -/
theorem result_browsePlan_closed {id : Option String} {i : Item} (title : String)
    (h : id.getD "" ≠ "") (hi : (k.handle (.get (id.getD ""))).result = .ok i)
    (ho : Opening.of i.kind = .closed) :
    (run k (browsePlan links title id)).2 = .error (.browse (.unsupportedItem i.kind.word)) := by
  rw [result_browsePlan_item k links title h, hi]
  simp [Build.node, ho]

theorem calls_browsePlan_item {id : Option String} (title : String) (h : id.getD "" ≠ "") :
    (browsePlan links title id).calls k =
      .get (id.getD "") ::
        match (k.handle (.get (id.getD ""))).result with
        | .ok i => (Build.node links i).calls k
        | .error _ => [] := by
  simp only [browsePlan, h, if_false, Attempt.calls_bind, Attempt.calls_log, Attempt.result_log,
    Build.calls_item, Build.result_item]
  cases (k.handle (.get (id.getD ""))).result <;> rfl

/-- An item is resolved by its medium first and by its file then. -/
theorem result_resolvePlan (id : String) :
    (run k (resolvePlan links id)).2 =
      match (k.handle (.get id)).result with
      | .error e => .error (.catalog e)
      | .ok i =>
        match Build.stream links i, Mime.ofItem i with
        | .error e, _ => .error e
        | .ok url, .ok m => .ok ⟨url, m⟩
        | .ok _, .error _ => .error (.unresolvable (.noMimeType id)) := by
  simp only [resolvePlan, Attempt.result_bind, Build.result_item]
  cases (k.handle (.get id)).result with
  | error e => rfl
  | ok i =>
      simp only [Except.bind, Attempt.result_lift]
      cases Build.stream links i with
      | error e => rfl
      | ok url => cases h : Mime.ofItem i <;> simp [Except.bind]

@[simp] theorem calls_resolvePlan (id : String) :
    (resolvePlan links id).calls k = [.get id] := by
  simp only [resolvePlan, Attempt.calls_bind, Build.calls_item, Build.result_item]
  cases (k.handle (.get id)).result with
  | error e => rfl
  | ok i =>
      simp only [Attempt.calls_lift, Attempt.result_lift]
      cases Build.stream links i with
      | error e => rfl
      | ok url => cases h : Mime.ofItem i <;> simp

end Requests

end MediaTree
