/-
**The calls of a request.**

Which calls a request makes is settled by the id that is asked for and by the answers: the folders
for the root; otherwise the item, and then the query for the kind of item that belongs below it.
Only a music library may need a second query, for albums, when it has no artists.  The table of
kinds is written out here once more, apart from the levels of the tree, so that the statement says
what is asked for and not how the builder comes to ask.

A call that fails is the last one, and its error is the result as it is.

Main definitions:

* `MediaTree.Item.firstKind?` — the kind of items asked for below an item;
* `MediaTree.Catalog.callsBelow`, `MediaTree.Catalog.browseCalls` — the calls that are made;
* `MediaTree.EndsAtFailure` — a run in which a failed call is the last one and the result.

Main results:

* `MediaTree.Build.calls_node` — the calls for an item that was fetched;
* `MediaTree.prompt_browsePlan`, `MediaTree.prompt_resolvePlan` — no request goes on after a failed
  call;
* `MediaTree.requests_make_exact_calls` — **the calls of every request, whatever is answered.**
-/

import MediaTree.Catalog.Memory
import MediaTree.Proofs.Tree.Listing

set_option autoImplicit false
set_option relaxedAutoImplicit false

namespace MediaTree

/-! ### What should be asked -/

/-- The kind of the items that are asked for first below an item; leaves and items of an unknown
kind have nothing below them. -/
def Item.firstKind? (i : Item) : Option ItemKind :=
  match i.kind with
  | .known .artist => some .album
  | .known .album => some .audio
  | .known .series => some .season
  | .known .season => some .episode
  | .known .library =>
    if i.collection = some (.known .music) then some .artist
    else if i.collection = some (.known .movies) then some .movie
    else some .series
  | .known .audio | .known .movie | .known .episode | .other _ => none

/-- The item is a library of music. -/
def Item.IsMusicLibrary (i : Item) : Prop :=
  i.kind = .known .library ∧ i.collection = some (.known .music)

instance (i : Item) : Decidable i.IsMusicLibrary := by unfold Item.IsMusicLibrary; infer_instance

namespace Catalog

/-- A query is answered, by an empty list. -/
def findsNone (k : Catalog) (q : Query) : Bool :=
  match (k.handle (.query q)).result with
  | .ok (answer : ItemList) => answer.items.isEmpty
  | .error _ => false

/-- The calls for what lies below an item that was fetched. -/
def callsBelow (k : Catalog) (i : Item) : List Call :=
  match i.firstKind? with
  | none => []
  | some kind =>
    .query (Query.below i.id kind) ::
      if i.IsMusicLibrary ∧ k.findsNone (Query.below i.id kind) then
        [.query (Query.below i.id .album)]
      else []

/-- The calls for browsing. -/
def browseCalls (k : Catalog) (id : Option String) : List Call :=
  if id.getD "" = "" then [.folders]
  else
    .get (id.getD "") ::
      match (k.handle (.get (id.getD ""))).result with
      | .ok i => k.callsBelow i
      | .error _ => []

end Catalog

/-- A run in which a failed call is the last one, and its error the result. -/
def EndsAtFailure {α : Type} (k : Catalog) (run : List Event × Except RequestError α) : Prop :=
  ∀ front c back e, Event.calls run.1 = front ++ c :: back → (k.handle c).result = .error e →
    back = [] ∧ run.2 = .error (.catalog e)

namespace Build

variable {k : Catalog} {links : Links}

/-! ### What is asked -/

@[simp] theorem length_sort (key : SortKey) (items : List Item) :
    (key.sort items).length = items.length := by
  simp [SortKey.sort]

/-- Above the leaves every item makes a node. -/
theorem length_nodes [Mime.Table] {l : Level} (hl : l.isLeaf = false) (items : List Item) :
    (nodes links l items).length = items.length := by
  have h : child? links l = fun i => some (container links l.mediaClass i) := by
    funext i
    simp [child?, hl]
  simp [nodes, h]

/-- There is no node above the leaves exactly if there is no item. -/
theorem isEmpty_nodes [Mime.Table] {l : Level} (hl : l.isLeaf = false) (items : List Item) :
    (nodes links l items).isEmpty = items.isEmpty := by
  have h : (nodes links l items).length = items.length := length_nodes hl items
  cases hn : nodes links l items <;> cases items <;> simp_all

/-- A music library is asked for artists, and for albums if it has none. -/
theorem calls_library_music [Mime.Table] {i : Item} (hi : i.IsMusicLibrary) :
    (library links i).calls k =
      .query (Query.below i.id .artist) ::
        if k.findsNone (Query.below i.id .artist) then [.query (Query.below i.id .album)]
        else [] := by
  have hartists := result_children k links i.id .artists
  unfold Catalog.findsNone
  simp only [library, hi.2, Attempt.calls_bind, calls_children, List.cons_append,
    List.nil_append, Level.kind] at hartists ⊢
  refine congrArg (Call.query (Query.below i.id .artist) :: ·) ?_
  cases h : (k.handle (.query (Query.below i.id .artist))).result with
  | error e =>
      rw [h] at hartists
      rw [hartists]
      rfl
  | ok answer =>
      rw [h] at hartists
      rw [hartists]
      show Attempt.calls k (if (nodes links .artists answer.items).isEmpty then _ else _) = _
      rw [isEmpty_nodes rfl]
      split
      · exact calls_expand k links _ _ _
      · rfl

/-- Any other library is asked for movies or series. -/
theorem calls_library_other [Mime.Table] {i : Item} (hi : i.collection ≠ some (.known .music)) :
    (library links i).calls k =
      [.query (Query.below i.id
        (if i.collection = some (.known .movies) then .movie else .series))] := by
  unfold library
  split
  · rename_i hc
    exact absurd hc hi
  · rename_i hc
    simp [hc, Level.kind]
  · rename_i hmovies
    rw [calls_expand, if_neg hmovies]
    rfl

/-- **The calls for an item that was fetched.** -/
theorem calls_node [Mime.Table] (i : Item) : (node links i).calls k = k.callsBelow i := by
  cases hk : i.kind with
  | other w => simp [node, hk, Opening.of, Catalog.callsBelow, Item.firstKind?]
  | known κ =>
      have hplain (h : κ ≠ .library) : ¬ i.IsMusicLibrary := fun hm => by
        rw [hm.1] at hk
        cases hk
        exact h rfl
      cases κ with
      | library =>
          have hnode : node links i = library links i := by simp [node, hk, Opening.of]
          rw [hnode]
          by_cases hc : i.collection = some (.known .music)
          · rw [calls_library_music ⟨hk, hc⟩]
            simp [Catalog.callsBelow, Item.firstKind?, Item.IsMusicLibrary, hk, hc]
          · rw [calls_library_other hc]
            simp only [Catalog.callsBelow, Item.firstKind?, Item.IsMusicLibrary, hk, hc, if_false]
            split <;> simp
      | _ =>
          simp [node, hk, Opening.of, Catalog.callsBelow, Item.firstKind?, hplain, Level.kind]

/-! ### No request goes on after a failed call -/

theorem prompt_logAll (es : List Log.Entry) : Attempt.Prompt (logAll es) := by
  induction es with
  | nil => exact Attempt.prompt_pure ()
  | cons e es ih => exact Attempt.prompt_bind (Attempt.prompt_log e) fun _ => ih

theorem prompt_children [Mime.Table] (parent : String) (l : Level) :
    Attempt.Prompt (children links parent l) := by
  refine Attempt.prompt_bind ?_ fun items => ?_
  · refine Attempt.prompt_bind (Attempt.prompt_ask _) fun answer => ?_
    exact Attempt.prompt_bind (Attempt.prompt_log _) fun _ => Attempt.prompt_pure _
  · exact Attempt.prompt_bind (prompt_logAll _) fun _ => Attempt.prompt_pure _

theorem prompt_expand [Mime.Table] (n : Node) (parent : String) (l : Level) :
    Attempt.Prompt (expand links n parent l) :=
  Attempt.prompt_bind (prompt_children parent l) fun _ => Attempt.prompt_pure _

theorem prompt_node [Mime.Table] (i : Item) : Attempt.Prompt (node links i) := by
  unfold node
  split
  · unfold library
    split
    · refine Attempt.prompt_bind (prompt_children _ _) fun artists => ?_
      split
      · exact prompt_expand _ _ _
      · exact Attempt.prompt_pure _
    · exact prompt_expand _ _ _
    · exact prompt_expand _ _ _
  · exact prompt_expand _ _ _
  · exact Attempt.prompt_throw _

theorem prompt_root (title : String) : Attempt.Prompt (root title) := by
  refine Attempt.prompt_bind ?_ fun _ => Attempt.prompt_pure _
  refine Attempt.prompt_bind (Attempt.prompt_ask _) fun answer => ?_
  exact Attempt.prompt_bind (Attempt.prompt_log _) fun _ => Attempt.prompt_pure _

end Build

theorem prompt_browsePlan [Mime.Table] (links : Links) (title : String) (id : Option String) :
    Attempt.Prompt (browsePlan links title id) := by
  by_cases h : id.getD "" = ""
  · simp only [browsePlan, h, if_true]
    exact Attempt.prompt_bind (Attempt.prompt_log _) fun _ => Build.prompt_root title
  · simp only [browsePlan, h, if_false]
    refine Attempt.prompt_bind (Attempt.prompt_log _) fun _ => ?_
    exact Attempt.prompt_bind (Attempt.prompt_ask _) fun i => Build.prompt_node i

theorem prompt_resolvePlan [Mime.Table] (links : Links) (id : String) :
    Attempt.Prompt (resolvePlan links id) := by
  refine Attempt.prompt_bind (Attempt.prompt_ask _) fun i => ?_
  refine Attempt.prompt_bind (Attempt.prompt_lift _) fun url => ?_
  split
  · exact Attempt.prompt_bind (Attempt.prompt_log _) fun _ => Attempt.prompt_pure _
  · refine Attempt.prompt_bind (Attempt.prompt_log _) fun _ => ?_
    exact Attempt.prompt_bind (Attempt.prompt_log _) fun _ => Attempt.prompt_throw _

/-- A request that looks at no failed answer ends at the first one. -/
theorem Attempt.Prompt.endsAtFailure {α : Type} {t : Attempt α} (ht : t.Prompt) (k : Catalog) :
    EndsAtFailure k (t.run k.recorded) := by
  intro front c back e hcalls he
  obtain ⟨hseen, hresult⟩ := Plan.run_recorded k (ExceptT.run t)
  have hcalls : Plan.calls k (ExceptT.run t) = front ++ c :: back := hseen ▸ hcalls
  obtain ⟨hback, hend⟩ := Plan.Prompt.ends_at_failure ht hcalls he
  exact ⟨hback, hresult.trans hend⟩

/-! ### All requests -/

/-- The calls for browsing are those that should be made. -/
theorem calls_browsePlan [Mime.Table] (k : Catalog) (links : Links) (title : String)
    (id : Option String) : (browsePlan links title id).calls k = k.browseCalls id := by
  unfold Catalog.browseCalls
  split
  · rename_i h
    exact calls_browsePlan_root k links title h
  · rename_i h
    refine (calls_browsePlan_item k links title h).trans ?_
    cases (k.handle (.get (id.getD ""))).result with
    | error e => rfl
    | ok i => exact congrArg (Call.get (id.getD "") :: ·) (Build.calls_node i)

/-- What is seen of browsing on a recorded catalog. -/
theorem calls_browse [Mime.Table] (k : Catalog) (name : String) (id : Option String) :
    Event.calls (((Source.new name).attach k.recorded).browse id).1 = k.browseCalls id :=
  (Plan.run_recorded k (ExceptT.run (browsePlan k.links name id))).1.trans
    (calls_browsePlan k k.links name id)

/-- What is seen of resolving on a recorded catalog. -/
theorem calls_resolve [Mime.Table] (k : Catalog) (name id : String) :
    Event.calls (((Source.new name).attach k.recorded).resolve id).1 = [.get id] :=
  (Plan.run_recorded k (ExceptT.run (resolvePlan k.links id))).1.trans
    (calls_resolvePlan k k.links id)

/-- What has nothing below it cannot be opened. -/
theorem Opening.of_leaf {i : Item} (h : i.firstKind? = none) : Opening.of i.kind = .closed := by
  cases hk : i.kind with
  | other w => rfl
  | known κ =>
      simp only [Item.firstKind?, hk] at h
      cases κ with
      | library =>
          simp only at h
          split at h
          · cases h
          · split at h <;> cases h
      | audio | movie | episode => rfl
      | _ => cases h

/-- **The calls of every request, whatever is answered.**  Without a catalog there is no call; to
see the calls of a catalog changes no result; the root asks for the folders and nothing else; any
other item is fetched, and then what belongs below it is asked for; what has nothing below it is an
error of its own; resolving fetches the item and nothing else.  A query asks for everything below
the item that was fetched, and for media sources exactly for kinds that have a stream.  A failed
call is the last one and its error is the result. -/
theorem requests_make_exact_calls [Mime.Table] (k : Catalog) (name : String) :
    (∀ id, ((Source.new name).browse id).1 = []) ∧
    (∀ id, ((Source.new name).resolve id).1 = []) ∧
    (∀ id, (((Source.new name).attach k.recorded).browse id).2 =
      (((Source.new name).attach k).browse id).2) ∧
    (∀ id, (((Source.new name).attach k.recorded).resolve id).2 =
      (((Source.new name).attach k).resolve id).2) ∧
    (∀ id, Event.calls (((Source.new name).attach k.recorded).browse id).1 = k.browseCalls id) ∧
    (∀ id, Event.calls (((Source.new name).attach k.recorded).resolve id).1 = [.get id]) ∧
    (∀ id i, id.getD "" ≠ "" → (k.handle (.get (id.getD ""))).result = .ok i →
      i.firstKind? = none →
      (((Source.new name).attach k.recorded).browse id).2 =
        .error (.browse (.unsupportedItem i.kind.word))) ∧
    (∀ id, EndsAtFailure k (((Source.new name).attach k.recorded).browse id)) ∧
    ∀ id, EndsAtFailure k (((Source.new name).attach k.recorded).resolve id) := by
  refine ⟨fun _ => rfl, fun _ => rfl, ?_, ?_, calls_browse k name, calls_resolve k name, ?_, ?_,
    ?_⟩
  · intro id
    exact (Plan.run_recorded k (ExceptT.run (browsePlan k.links name id))).2
  · intro id
    exact (Plan.run_recorded k (ExceptT.run (resolvePlan k.links id))).2
  · intro id i hid hi hleaf
    exact result_browsePlan_closed k.recorded k.links name hid hi (Opening.of_leaf hleaf)
  · intro id
    exact (prompt_browsePlan k.links name id).endsAtFailure k
  · intro id
    exact (prompt_resolvePlan k.links id).endsAtFailure k

/-- A music library without artists, whose albums cannot be had, and a film. -/
def brokenShelf : Memory :=
  { Memory.empty "memory" with
    folders := [{ Item.bare "m" (.known .library) with collection := some (.known .music) }]
    items := [Item.bare "f" (.known .movie)]
    queryFails := [("MusicAlbum", .network "down")] }

/-- The second query of a music library is made, and its failure is the result; a film is no place
to look into. -/
theorem exact_calls_of_broken_shelf :
    let s := (Source.new "Media").attach brokenShelf.toCatalog.recorded
    Event.calls (s.browse (some "m")).1 =
      [.get "m", .query (Query.below "m" .artist), .query (Query.below "m" .album)] ∧
    (s.browse (some "m")).2 = .error (.catalog (.network "down")) ∧
    (s.browse (some "f")).2 = .error (.browse (.unsupportedItem "Movie")) := by
  obtain ⟨-, -, -, -, hbrowse, -, hleaf, hend, -⟩ :=
    requests_make_exact_calls brokenShelf.toCatalog "Media"
  have hcalls : brokenShelf.toCatalog.browseCalls (some "m") =
      [.get "m", .query (Query.below "m" .artist), .query (Query.below "m" .album)] := rfl
  have hseen := (hbrowse (some "m")).trans hcalls
  refine ⟨hseen, ?_, ?_⟩
  · exact (hend (some "m") [.get "m", .query (Query.below "m" .artist)] _ [] _ hseen rfl).2
  · exact hleaf (some "f") (Item.bare "f" (.known .movie)) (by decide) rfl rfl

end MediaTree
