/-
**Requests do not show where files lie.**

A request is run over two catalogs that differ only in the directories of their files.  The two runs
agree: they show the same events, make the same calls, and end alike.  Agreement goes through a
request part by part.  Between a call and what is made of its answer the two runs hold different
items; what is made of them no longer differs, because nodes, log entries and the order of children
depend on what shows of an item only.

Main definitions:

* `MediaTree.Attempt.Agree` — two runs that cannot be told apart but by the answer.

Main results:

* `MediaTree.Attempt.Agree.bind`, `MediaTree.Attempt.agree_ask` — agreement goes through a request;
* `MediaTree.Build.looksLike_sort` — items that look alike are put in the same order;
* `MediaTree.Build.agree_children`, `MediaTree.Build.agree_node` — listings agree;
* `MediaTree.directories_do_not_show` — **no request shows where a file lies.**
-/

import MediaTree.Proofs.Catalog.Relocation
import MediaTree.Proofs.Catalog.Run
import MediaTree.Proofs.Source.Slot

set_option autoImplicit false
set_option relaxedAutoImplicit false

namespace MediaTree

variable {k k' : Catalog} {α β γ δ : Type}

/-! ### Two runs -/

namespace Attempt

/-- Two requests, each over its own catalog, show the same events, make the same calls and end
alike. -/
structure Agree (k k' : Catalog) (R : α → β → Prop) (t : Attempt α) (t' : Attempt β) : Prop where
  events : (t.run k).1 = (t'.run k').1
  calls : t.calls k = t'.calls k'
  ends : EndsAlike R (t.run k).2 (t'.run k').2

/-- Runs that agree, and go on in agreement with related answers, agree. -/
theorem Agree.bind {R : α → β → Prop} {S : γ → δ → Prop} {t : Attempt α} {t' : Attempt β}
    {f : α → Attempt γ} {f' : β → Attempt δ} (h : Agree k k' R t t')
    (hf : ∀ a b, R a b → Agree k k' S (f a) (f' b)) : Agree k k' S (t >>= f) (t' >>= f') := by
  obtain ⟨hevents, hcalls, hends⟩ := h
  constructor
  · rw [events_bind, events_bind, hevents]
    generalize (run k t).2 = r, (run k' t').2 = r' at hends ⊢
    cases hends with
    | ok hab => exact congrArg ((run k' t').1 ++ ·) (hf _ _ hab).events
    | error e => rfl
  · rw [calls_bind, calls_bind, hcalls]
    generalize (run k t).2 = r, (run k' t').2 = r' at hends ⊢
    cases hends with
    | ok hab => exact congrArg (t'.calls k' ++ ·) (hf _ _ hab).calls
    | error e => rfl
  · rw [result_bind, result_bind]
    generalize (run k t).2 = r, (run k' t').2 = r' at hends ⊢
    cases hends with
    | ok hab => exact (hf _ _ hab).ends
    | error e => exact .error e

theorem agree_pure {R : α → β → Prop} {a : α} {b : β} (h : R a b) :
    Agree k k' R (pure a) (pure b) :=
  ⟨rfl, rfl, .ok h⟩

theorem agree_throw (R : α → β → Prop) (e : RequestError) :
    Agree k k' R (throw e) (throw e) :=
  ⟨rfl, rfl, .error e⟩

theorem agree_log (e : Log.Entry) : Agree k k' Eq (log e) (log e) := ⟨rfl, rfl, .ok rfl⟩

theorem agree_lift (r : Except RequestError α) : Agree k k' Eq (liftM r) (liftM r) := by
  cases r with
  | ok a => exact ⟨rfl, rfl, .ok rfl⟩
  | error e => exact ⟨rfl, rfl, .error e⟩

/-- A call to catalogs whose files lie elsewhere. -/
theorem agree_ask (h : k.Relocated k') (c : Call) : Agree k k' c.Relocated (ask c) (ask c) := by
  refine ⟨?_, rfl, ?_⟩
  · show (k.handle c).events ++ [] = (k'.handle c).events ++ []
    rw [h.events c]
  · rw [result_ask, result_ask]
    have hanswer := h.answers c
    generalize (k.handle c).result = r, (k'.handle c).result = r' at hanswer ⊢
    cases hanswer with
    | ok hab => exact .ok hab
    | error e => exact .error _

end Attempt

/-! ### What is made of items -/

/-- Lists of which every item looks like the one in its place. -/
abbrev LookLike [Mime.Table] (is js : List Item) : Prop := List.Forall₂ Item.LooksLike is js

/-- What is made of an item without its sources is made alike of items that look alike. -/
theorem Item.LooksLike.congr [Mime.Table] {i j : Item} {f : Item → γ} (h : i.LooksLike j)
    (hf : ∀ i : Item, f i = f i.withoutSources) : f i = f j := by
  rw [hf i, hf j, h.rest]

/-- What is made of what shows is made alike of items that look alike. -/
theorem LookLike.filterMap_eq [Mime.Table] {is js : List Item} {f : Item → Option γ}
    (h : LookLike is js) (hf : ∀ i j, i.LooksLike j → f i = f j) :
    is.filterMap f = js.filterMap f := by
  induction h with
  | nil => rfl
  | cons hij _ ih => rw [List.filterMap_cons, List.filterMap_cons, hf _ _ hij, ih]

namespace Build

variable [Mime.Table] {links : Links}

/-- An item as it shows. -/
def outline (i : Item) : Item × Except Mime.Unknown String := (i.withoutSources, Mime.ofItem i)

theorem lookLike_iff {is js : List Item} : LookLike is js ↔ is.map outline = js.map outline := by
  have hlooks : Item.LooksLike = fun i j => outline i = outline j := by
    funext i j
    simp only [outline, Prod.mk.injEq]
    exact propext ⟨fun h => ⟨h.rest, h.mime⟩, fun h => ⟨h.1, h.2⟩⟩
  rw [LookLike, hlooks, ← List.forall₂_eq_eq_eq, List.forall₂_map_left_iff,
    List.forall₂_map_right_iff]

/-- **Items that look alike are put in the same order.** -/
theorem looksLike_sort (key : SortKey) {is js : List Item} (h : LookLike is js) :
    LookLike (key.sort is) (key.sort js) := by
  have hle (is : List Item) : (key.sort is).map outline =
      (is.map outline).mergeSort fun p q => key.le p.1 q.1 := by
    refine List.map_mergeSort fun i _ j _ => ?_
    cases key <;> rfl
  rw [lookLike_iff] at h ⊢
  rw [hle, hle, h]

theorem child?_eq {i j : Item} (h : i.LooksLike j) (l : Level) :
    child? links l i = child? links l j := by
  have hview (i : Item) : child? links l i =
      if l.isLeaf then (Mime.ofItem i).toOption.map fun m =>
        Node.playable i.withoutSources.id l.mediaClass m i.withoutSources.title
          (thumbnail? links i.withoutSources)
      else some (container links l.mediaClass i.withoutSources) := rfl
  rw [hview, hview, h.rest, h.mime]

theorem remark?_eq {i j : Item} (h : i.LooksLike j) (l : Level) : remark? l i = remark? l j := by
  simp only [remark?, h.mime]

/-- Items that look alike are opened by one plan. -/
theorem node_eq {i j : Item} (h : i.LooksLike j) : node links i = node links j :=
  h.congr fun _ => rfl

theorem stream_eq {i j : Item} (h : i.LooksLike j) : stream links i = stream links j :=
  h.congr fun _ => rfl

/-- Libraries that look alike are listed alike. -/
theorem libraryNodes_eq {is js : List Item} (h : LookLike is js) :
    (is.filter isLibrary).map libraryNode = (js.filter isLibrary).map libraryNode := by
  induction h with
  | nil => rfl
  | @cons i j is js hij _ ih =>
      have hlibrary : isLibrary i = isLibrary j := hij.congr fun _ => rfl
      have hnode : libraryNode i = libraryNode j := hij.congr fun _ => rfl
      rw [List.filter_cons, List.filter_cons, hlibrary]
      split
      · rw [List.map_cons, List.map_cons, hnode, ih]
      · exact ih

/-! ### Parts of the builder -/

/-- The answer of a list, seen as it shows. -/
theorem lookLike_of_relocated {l l' : ItemList} (h : l.Relocated l') : LookLike l.items l'.items :=
  h.items.imp fun _ _ hij => hij.looksLike

omit [Mime.Table] in
theorem agree_logAll (es : List Log.Entry) :
    Attempt.Agree k k' Eq (logAll es) (logAll es) := by
  induction es with
  | nil => exact Attempt.agree_pure rfl
  | cons e es ih => exact (Attempt.agree_log e).bind fun _ _ _ => ih

variable (h : k.Relocated k')
include h

theorem agree_libraries :
    Attempt.Agree k k' (fun is js => is.map libraryNode = js.map libraryNode) libraries
      libraries := by
  refine (Attempt.agree_ask h .folders).bind fun l l' hl => ?_
  have hnodes := libraryNodes_eq (lookLike_of_relocated hl)
  have hcount := congrArg List.length hnodes
  rw [List.length_map, List.length_map] at hcount
  simp only [hcount]
  exact (Attempt.agree_log _).bind fun _ _ _ => Attempt.agree_pure hnodes

theorem agree_root (title : String) : Attempt.Agree k k' Eq (root title) (root title) := by
  refine (agree_libraries h).bind fun is js hnodes => ?_
  rw [hnodes]
  exact Attempt.agree_pure rfl

theorem agree_itemsBelow (parent : String) (kind : Named ItemKind) :
    Attempt.Agree k k' LookLike (itemsBelow parent kind) (itemsBelow parent kind) := by
  refine (Attempt.agree_ask h (.query (Query.children parent kind))).bind fun l l' hl => ?_
  simp only [listedBelow, hl.items.length_eq]
  exact (Attempt.agree_log _).bind fun _ _ _ => Attempt.agree_pure (lookLike_of_relocated hl)

/-- **The children of a level agree**, in their order, and so does what is logged about them. -/
theorem agree_children (parent : String) (l : Level) :
    Attempt.Agree k k' Eq (children links parent l) (children links parent l) := by
  refine (agree_itemsBelow h parent _).bind fun is js hitems => ?_
  have hsorted := looksLike_sort l.key hitems
  have hremarks := hsorted.filterMap_eq fun _ _ hij => remark?_eq hij l
  have hnodes : (l.key.sort is).filterMap (child? links l) =
      (l.key.sort js).filterMap (child? links l) :=
    hsorted.filterMap_eq fun _ _ hij => child?_eq hij l
  simp only [hremarks, hnodes]
  exact (agree_logAll _).bind fun _ _ _ => Attempt.agree_pure rfl

theorem agree_expand (n : Node) (parent : String) (l : Level) :
    Attempt.Agree k k' Eq (expand links n parent l) (expand links n parent l) := by
  refine (agree_children h parent l).bind fun cs cs' hcs => ?_
  rw [hcs]
  exact Attempt.agree_pure rfl

theorem agree_library (i : Item) :
    Attempt.Agree k k' Eq (library links i) (library links i) := by
  unfold library
  split
  · refine (agree_children h i.id .artists).bind fun cs cs' hcs => ?_
    subst hcs
    split
    · exact agree_expand h _ _ _
    · exact Attempt.agree_pure rfl
  · exact agree_expand h _ _ _
  · exact agree_expand h _ _ _

/-- **An item is opened in agreement.** -/
theorem agree_node (i : Item) : Attempt.Agree k k' Eq (node links i) (node links i) := by
  unfold node
  split
  · exact agree_library h i
  · exact agree_expand h _ _ _
  · exact Attempt.agree_throw _ _

end Build

/-! ### Requests -/

section Requests

variable [Mime.Table] (h : k.Relocated k') (links : Links)
include h

theorem agree_browsePlan (title : String) (id : Option String) :
    Attempt.Agree k k' Eq (browsePlan links title id) (browsePlan links title id) := by
  by_cases hid : id.getD "" = ""
  · simp only [browsePlan, hid, if_true]
    exact (Attempt.agree_log _).bind fun _ _ _ => Build.agree_root h title
  · simp only [browsePlan, hid, if_false]
    refine (Attempt.agree_log _).bind fun _ _ _ => ?_
    refine (Attempt.agree_ask h (.get (id.getD ""))).bind fun (i : Item) (j : Item) hij => ?_
    rw [Build.node_eq (Item.Relocated.looksLike hij)]
    exact Build.agree_node h j

theorem agree_resolvePlan (id : String) :
    Attempt.Agree k k' Eq (resolvePlan links id) (resolvePlan links id) := by
  refine (Attempt.agree_ask h (.get id)).bind fun (i : Item) (j : Item) hij => ?_
  have hlooks := Item.Relocated.looksLike hij
  rw [Build.stream_eq hlooks, hlooks.mime]
  refine (Attempt.agree_lift _).bind fun url url' hurl => ?_
  subst hurl
  cases Mime.ofItem j with
  | ok mimeType => exact (Attempt.agree_log _).bind fun _ _ _ => Attempt.agree_pure rfl
  | error u =>
      refine (Attempt.agree_log _).bind fun _ _ _ => ?_
      exact (Attempt.agree_log _).bind fun _ _ _ => Attempt.agree_throw _ _

theorem agree_plan (name : String) (r : Request) :
    Attempt.Agree k k' Eq (r.plan links name) (r.plan links name) := by
  cases r with
  | browse id => exact agree_browsePlan h links name id
  | resolve id => exact agree_resolvePlan h links id

end Requests

/-- Runs that agree on everything are one. -/
theorem Attempt.Agree.run_eq {t : Attempt α} (h : Agree k k' Eq t t) : t.run k = t.run k' := by
  refine Prod.ext h.events ?_
  have hends := h.ends
  generalize (run k t).2 = r, (run k' t).2 = r' at hends ⊢
  cases hends with
  | ok hab => exact congrArg Except.ok hab
  | error e => rfl

/-- **No request shows where a file lies.**  Over two catalogs that differ only in the directories
of the first media sources, in the ids and containers of media sources, and in all sources behind
the first, every request sees the same events, the same log among them, makes the same calls, and
ends with the same node, stream or error. -/
theorem directories_do_not_show [Mime.Table] (h : k.Relocated k') (name : String) (r : Request) :
    ((Source.new name).attach k).answer r = ((Source.new name).attach k').answer r ∧
      (r.plan k.links name).calls k = (r.plan k'.links name).calls k' := by
  have hagree := agree_plan h k'.links name r
  rw [Source.answer_of_some rfl, Source.answer_of_some rfl, h.links]
  exact ⟨hagree.run_eq, hagree.calls⟩

/-- An album whose tracks are kept in a directory, one of them in a file of no known kind. -/
def albumIn (directory container : String) : Memory :=
  let track (id : String) (sep : Char) (name : String) : Item :=
    { Item.bare id (.known .audio) with
      medium := some (.known .audio)
      sources := some [⟨none, some (String.ofList (directory.toList ++ sep :: name.toList)),
        some container⟩] }
  { Memory.empty "memory" with
    items := [Item.bare "al" (.known .album)]
    listings := [⟨"al", "Audio", [track "t" '/' "intro.flac", track "u" '\\' "notes"]⟩] }

/-- The album may be kept anywhere. -/
theorem relocated_albumIn (directory directory' container container' : String) :
    (albumIn directory container).Relocated (albumIn directory' container') := by
  have htrack (sep : Char) (hsep : sep = '/' ∨ sep = '\\') {name : List Char}
      (hname : Mime.IsFinalName name) : Option.Rel Mime.Moved
        (some (String.ofList (directory.toList ++ sep :: name)))
        (some (String.ofList (directory'.toList ++ sep :: name))) :=
    .some (.move _ _ sep name hsep hname)
  have hintro : Mime.IsFinalName "intro.flac".toList := by constructor <;> decide
  have hnotes : Mime.IsFinalName "notes".toList := by constructor <;> decide
  refine ⟨rfl, .nil, .cons ⟨rfl, .missing⟩ .nil, .cons ⟨rfl, rfl, ?_⟩ .nil, rfl, rfl, rfl⟩
  refine .cons ⟨rfl, .first (htrack '/' (.inl rfl) hintro) _ _⟩ ?_
  exact .cons ⟨rfl, .first (htrack '\\' (.inr rfl) hnotes) _ _⟩ .nil

/-- The album is shown alike from either disk, and of the file of no known kind only the name is
told. -/
theorem album_on_another_disk :
    let s := (Source.new "Media").attach (albumIn "/srv/.music" "flac").toCatalog
    let s' := (Source.new "Media").attach (albumIn "D:\\a.b" "ogg").toCatalog
    s.answer (.browse (some "al")) = s'.answer (.browse (some "al")) ∧
    s.answer (.resolve "u") = s'.answer (.resolve "u") ∧
    (Event.logs (s.answer (.resolve "u")).1).map (fun e => (e.line, e.fields)) =
      [("DEBUG Unable to determine mime type for path notes", [("item_id", .shown "u")]),
        ("WARN Resolve requested for item without a mime type", [("item_id", .text "u")])] := by
  have h := relocated_albumIn "/srv/.music" "D:\\a.b" "flac" "ogg"
  refine ⟨(directories_do_not_show h.toCatalog "Media" (.browse (some "al"))).1,
    (directories_do_not_show h.toCatalog "Media" (.resolve "u")).1, ?_⟩
  decide

end MediaTree
