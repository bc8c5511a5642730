/-
**How resolving ends.**

To resolve an id, one item is fetched, and of that item three things count: its own id, its medium,
and the file that it is stored in.  The medium is looked at before the file, so an item that has
neither a stream nor a type is refused for its medium.  Where it is listed, of what kind it is, and
what it collects does not matter, since the id may come from elsewhere.

Main definitions:

* `MediaTree.Event.warnings` — the warnings among events;
* `MediaTree.Links.stream` — the address of a stream, by medium;
* `MediaTree.Resolves` — the four ways in which resolving ends, each with what it logs;
* `MediaTree.Catalog.recast` — a catalog whose items get other kinds and collections.

Main results:

* `MediaTree.resolves_resolve` — resolving ends in one of the four ways;
* `MediaTree.warnings_resolve`, `MediaTree.Session.warnings_perform` — it warns of a missing type and
  of nothing else, and a session does not warn at all;
* `MediaTree.resolve_recast` — kinds and collections do not matter;
* `MediaTree.resolve_ok_iff`, `MediaTree.resolve_error_iff` — when there is a stream, and which error
  there is otherwise;
* `MediaTree.resolving_ends_exactly` — **stream, error and warning, for every catalog and id**.
-/

import MediaTree.Catalog.Memory
import MediaTree.Proofs.Tree.Listing
import MediaTree.Server.Session

set_option autoImplicit false
set_option relaxedAutoImplicit false

namespace MediaTree

/-! ### Warnings -/

/-- The warnings among events. -/
def Event.warnings (es : List Event) : List Log.Entry :=
  (Event.logs es).filter (·.severity = .warn)

theorem Event.warnings_append (es fs : List Event) :
    Event.warnings (es ++ fs) = Event.warnings es ++ Event.warnings fs := by
  simp [Event.warnings, Event.logs]

theorem Event.warnings_logged (entries : List Log.Entry) :
    Event.warnings (entries.map .logged) = entries.filter (·.severity = .warn) := by
  have hlogs : Event.logs (entries.map .logged) = entries := by
    rw [Event.logs, List.filterMap_map]
    exact List.filterMap_some
  rw [Event.warnings, hlogs]

/-- A session warns of nothing. -/
theorem Session.warnings_perform (s : Session) (link : Http.Link) (c : Call) :
    Event.warnings (s.perform link c).events = [] := by
  unfold Session.perform
  cases s.request c <;> cases c <;> rfl

/-! ### Streams -/

/-- The address of a stream, by medium. -/
def Links.stream (links : Links) : Medium → String → String
  | .audio => links.audio
  | .video => links.video

/-- A known medium has a stream, at an address made of the id of the item. -/
theorem Build.stream_of_known (links : Links) {i : Item} {m : Medium}
    (h : i.medium = some (.known m)) : Build.stream links i = .ok (links.stream m i.id) := by
  cases m <;> simp [Build.stream, h, Links.stream]

/-- Without a known medium there is no stream, and the medium is named if there is one. -/
theorem Build.stream_of_unknown (links : Links) {i : Item}
    (h : ∀ m, i.medium ≠ some (.known m)) :
    Build.stream links i = .error (.browse (.unsupportedMedium (i.medium.map Named.word))) := by
  cases hmedium : i.medium with
  | none => simp [Build.stream, hmedium]
  | some w =>
      cases w with
      | known m => exact absurd hmedium (h m)
      | other word => simp [Build.stream, hmedium]

/-- The text of the error about a medium without a stream. -/
theorem message_unsupportedMedium (medium : Option String) :
    (RequestError.browse (.unsupportedMedium medium)).message =
      "Browse error: Unsupported media type " ++ medium.getD "(none)" := by
  cases medium with
  | none => decide +kernel
  | some word =>
      have hfront : "Browse error: Unsupported media type " =
          "Browse error: " ++ "Unsupported media type " := by decide +kernel
      rw [hfront, String.append_assoc]
      rfl

/-- The text of the error about a missing type. -/
theorem message_noMimeType (id : String) :
    (RequestError.unresolvable (.noMimeType id)).message =
      "Unresolvable: Unable to determine mime type for item " ++ id := by
  have hfront : "Unresolvable: Unable to determine mime type for item " =
      "Unresolvable: " ++ "Unable to determine mime type for item " := by decide +kernel
  rw [hfront, String.append_assoc]
  rfl

/-! ### The ways in which resolving ends -/

/-- What is logged about a stream of a type, for the id that was asked for. -/
def resolvedEntry (id mimeType : String) : Log.Entry :=
  sourceEntry .debug "Resolved media" [("item_id", .text id), ("mime_type", .shown mimeType)]

/-- What is logged about an item that has a stream and no type, by the id that was asked for. -/
def untypedEntry (id : String) : Log.Entry :=
  sourceEntry .warn "Resolve requested for item without a mime type" [("item_id", .text id)]

/-- The ways in which resolving an id ends, with what is logged and the result. -/
inductive Resolves [Mime.Table] (k : Catalog) (id : String) :
    List Log.Entry → Except RequestError Playback → Prop where
  /-- The item cannot be had. -/
  | missed (e : CatalogError) : (k.handle (.get id)).result = .error e →
      Resolves k id [] (.error (.catalog e))
  /-- The item has no stream. -/
  | streamless (i : Item) : (k.handle (.get id)).result = .ok i →
      (∀ m, i.medium ≠ some (.known m)) →
      Resolves k id [] (.error (.browse (.unsupportedMedium (i.medium.map Named.word))))
  /-- The item has a stream, and no type goes with its file. -/
  | untyped (i : Item) (m : Medium) (u : Mime.Unknown) :
      (k.handle (.get id)).result = .ok i → i.medium = some (.known m) →
      Mime.ofItem i = .error u →
      Resolves k id [u.entry, untypedEntry id] (.error (.unresolvable (.noMimeType id)))
  | played (i : Item) (m : Medium) (t : String) :
      (k.handle (.get id)).result = .ok i → i.medium = some (.known m) → Mime.ofItem i = .ok t →
      Resolves k id [resolvedEntry id t] (.ok ⟨k.links.stream m i.id, t⟩)

variable [Mime.Table] (k : Catalog) (name id : String)

/-- Resolving works on the catalog that is attached. -/
theorem Source.resolve_attach (s : Source) :
    (s.attach k).resolve id = Attempt.run k (resolvePlan k.links id) := rfl

/-- What is seen of resolving: what the catalog does about the call, and what is logged of the
item. -/
theorem events_resolvePlan (links : Links) :
    (Attempt.run k (resolvePlan links id)).1 =
      (k.handle (.get id)).events ++
        (match (k.handle (.get id)).result with
        | .error _ => []
        | .ok i =>
          match Build.stream links i, Mime.ofItem i with
          | .error _, _ => []
          | .ok _, .ok t => [resolvedEntry id t]
          | .ok _, .error u => [u.entry, untypedEntry id]).map .logged := by
  have hitem : (Attempt.run k (Build.item id)).1 = (k.handle (.get id)).events :=
    Attempt.events_ask k (.get id)
  simp only [resolvePlan, Attempt.events_bind, Build.result_item, hitem]
  congr 1
  cases (k.handle (.get id)).result with
  | error e => rfl
  | ok i =>
      simp only [Attempt.events_lift, Attempt.result_lift, List.nil_append]
      cases Build.stream links i with
      | error e => rfl
      | ok url => cases Mime.ofItem i <;> rfl

/-- **Resolving ends in one of the four ways**, and besides what is logged then only what the catalog
does about the call is seen. -/
theorem resolves_resolve : ∃ own,
    (((Source.new name).attach k).resolve id).1 =
      (k.handle (.get id)).events ++ own.map .logged ∧
    Resolves k id own (((Source.new name).attach k).resolve id).2 := by
  rw [Source.resolve_attach, events_resolvePlan, result_resolvePlan]
  refine ⟨_, rfl, ?_⟩
  cases hget : (k.handle (.get id)).result with
  | error e => exact .missed e hget
  | ok i =>
      by_cases hmedium : ∃ m, i.medium = some (.known m)
      · obtain ⟨m, hmedium⟩ := hmedium
        simp only [Build.stream_of_known k.links hmedium]
        cases htype : Mime.ofItem i with
        | ok t => exact .played i m t hget hmedium htype
        | error u => exact .untyped i m u hget hmedium htype
      · have hmedium : ∀ m, i.medium ≠ some (.known m) := not_exists.1 hmedium
        simp only [Build.stream_of_unknown k.links hmedium]
        exact .streamless i hget hmedium

/-- What the result is in each of the four ways. -/
theorem Resolves.result_eq {k : Catalog} {id : String} {own : List Log.Entry}
    {r : Except RequestError Playback} (h : Resolves k id own r) :
    (Attempt.run k (resolvePlan k.links id)).2 = r := by
  rw [result_resolvePlan]
  cases h with
  | missed e hget => rw [hget]
  | streamless i hget hmedium =>
      rw [hget]
      simp only [Build.stream_of_unknown k.links hmedium]
  | untyped i m u hget hmedium htype =>
      rw [hget]
      simp only [Build.stream_of_known k.links hmedium, htype]
  | played i m t hget hmedium htype =>
      rw [hget]
      simp only [Build.stream_of_known k.links hmedium, htype]

/-- **The result is that of one of the four ways**, and of no other. -/
theorem result_resolve_iff (r : Except RequestError Playback) :
    (((Source.new name).attach k).resolve id).2 = r ↔ ∃ own, Resolves k id own r := by
  constructor
  · rintro rfl
    obtain ⟨own, -, hends⟩ := resolves_resolve k name id
    exact ⟨own, hends⟩
  · rintro ⟨own, hends⟩
    rw [Source.resolve_attach]
    exact hends.result_eq

/-- **A missing type is warned of, and nothing else.** -/
theorem warnings_resolve :
    let run := ((Source.new name).attach k).resolve id
    (run.2 = .error (.unresolvable (.noMimeType id)) →
      Event.warnings run.1 =
        Event.warnings (k.handle (.get id)).events ++ [untypedEntry id]) ∧
    (run.2 ≠ .error (.unresolvable (.noMimeType id)) →
      Event.warnings run.1 = Event.warnings (k.handle (.get id)).events) := by
  intro run
  obtain ⟨own, hevents, hends⟩ := resolves_resolve k name id
  have hwarnings : Event.warnings run.1 = Event.warnings (k.handle (.get id)).events ++
      own.filter (·.severity = .warn) := by
    rw [hevents, Event.warnings_append, Event.warnings_logged]
  rw [hwarnings]
  generalize hresult : run.2 = result
  rw [hresult] at hends
  cases hends with
  | missed e hget => simp
  | streamless i hget hmedium => simp
  | untyped i m u hget hmedium htype =>
      have hentry : u.entry.severity = .debug := rfl
      simp [hentry, untypedEntry, sourceEntry]
  | played i m t hget hmedium htype => simp [resolvedEntry, sourceEntry]

/-! ### What does not matter -/

/-- The catalog whose single items get other kinds and collections. -/
def Catalog.recast (kind : Item → Named ItemKind)
    (collection : Item → Option (Named Collection)) : Catalog where
  links := k.links
  handle
    | .get id =>
      ⟨(k.handle (.get id)).events, (k.handle (.get id)).result.map fun i : Item =>
        ({ i with kind := kind i, collection := collection i } : Item)⟩
    | c => k.handle c

/-- **Kinds and collections do not matter**: events and result are the same. -/
theorem resolve_recast (kind : Item → Named ItemKind)
    (collection : Item → Option (Named Collection)) :
    ((Source.new name).attach (k.recast kind collection)).resolve id =
      ((Source.new name).attach k).resolve id := by
  have hresult : ((k.recast kind collection).handle (.get id)).result =
      (k.handle (.get id)).result.map fun i : Item =>
        ({ i with kind := kind i, collection := collection i } : Item) := rfl
  rw [Source.resolve_attach, Source.resolve_attach]
  refine Prod.ext ?_ ?_
  · rw [events_resolvePlan, events_resolvePlan, hresult]
    cases (k.handle (.get id)).result <;> rfl
  · rw [result_resolvePlan, result_resolvePlan, hresult]
    cases (k.handle (.get id)).result <;> rfl

/-! ### Resolving, exactly -/

/-- **There is a stream** exactly if the item is had, its medium is known and its type is found. -/
theorem resolve_ok_iff (p : Playback) :
    (((Source.new name).attach k).resolve id).2 = .ok p ↔
      ∃ (i : Item) (m : Medium), (k.handle (.get id)).result = .ok i ∧
        i.medium = some (.known m) ∧ Mime.ofItem? i = some p.mimeType ∧
        p.url = k.links.stream m i.id := by
  rw [result_resolve_iff]
  constructor
  · rintro ⟨own, hends⟩
    cases hends with
    | played i m t hget hmedium htype =>
        exact ⟨i, m, hget, hmedium, Mime.ofItem?_eq_some_iff.2 htype, rfl⟩
  · rintro ⟨i, m, hget, hmedium, htype, hurl⟩
    obtain ⟨url, t⟩ := p
    obtain rfl : url = k.links.stream m i.id := hurl
    exact ⟨_, .played i m t hget hmedium (Mime.ofItem?_eq_some_iff.1 htype)⟩

/-- **Otherwise the first reason is the error.** -/
theorem resolve_error_iff (error : RequestError) :
    (((Source.new name).attach k).resolve id).2 = .error error ↔
      (∃ e, (k.handle (.get id)).result = .error e ∧ error = .catalog e ∧
        error.message = e.message) ∨
      (∃ i : Item, (k.handle (.get id)).result = .ok i ∧ (∀ m, i.medium ≠ some (.known m)) ∧
        error = .browse (.unsupportedMedium (i.medium.map Named.word)) ∧
        error.message = "Browse error: Unsupported media type " ++
          (i.medium.map Named.word).getD "(none)") ∨
      ∃ (i : Item) (m : Medium), (k.handle (.get id)).result = .ok i ∧
        i.medium = some (.known m) ∧ Mime.ofItem? i = none ∧
        error = .unresolvable (.noMimeType id) ∧
        error.message = "Unresolvable: Unable to determine mime type for item " ++ id := by
  rw [result_resolve_iff]
  constructor
  · rintro ⟨own, hends⟩
    cases hends with
    | missed e hget => exact .inl ⟨e, hget, rfl, rfl⟩
    | streamless i hget hmedium =>
        exact .inr (.inl ⟨i, hget, hmedium, rfl, message_unsupportedMedium _⟩)
    | untyped i m u hget hmedium htype =>
        exact .inr (.inr ⟨i, m, hget, hmedium, Mime.ofItem?_eq_none_iff.2 ⟨u, htype⟩, rfl,
          message_noMimeType id⟩)
  · rintro (⟨e, hget, rfl, -⟩ | ⟨i, hget, hmedium, rfl, -⟩ | ⟨i, m, hget, hmedium, htype, rfl, -⟩)
    · exact ⟨_, .missed e hget⟩
    · exact ⟨_, .streamless i hget hmedium⟩
    · obtain ⟨u, htype⟩ := Mime.ofItem?_eq_none_iff.1 htype
      exact ⟨_, .untyped i m u hget hmedium htype⟩

/-- **How resolving ends, for every catalog and every id.**  There is a stream exactly if the item is
had, its medium is known and its type is found; it is the stream of the item that was fetched, under
that item's own id.  Otherwise the first reason is the error: that of the call as it is; the medium by
its word, or that there is none, whatever is known of the type; and last the missing type, which names
the id that was asked for.  In this last case one warning is added to those of the catalog, and in no
other case any.  Kinds and collections of items change neither events nor result. -/
theorem resolving_ends_exactly :
    let get := k.handle (.get id)
    let run := ((Source.new name).attach k).resolve id
    (∀ p, run.2 = .ok p ↔ ∃ (i : Item) (m : Medium), get.result = .ok i ∧
      i.medium = some (.known m) ∧ Mime.ofItem? i = some p.mimeType ∧
      p.url = k.links.stream m i.id) ∧
    (∀ error, run.2 = .error error ↔
      (∃ e, get.result = .error e ∧ error = .catalog e ∧ error.message = e.message) ∨
      (∃ i : Item, get.result = .ok i ∧ (∀ m, i.medium ≠ some (.known m)) ∧
        error = .browse (.unsupportedMedium (i.medium.map Named.word)) ∧
        error.message = "Browse error: Unsupported media type " ++
          (i.medium.map Named.word).getD "(none)") ∨
      ∃ (i : Item) (m : Medium), get.result = .ok i ∧ i.medium = some (.known m) ∧
        Mime.ofItem? i = none ∧ error = .unresolvable (.noMimeType id) ∧
        error.message = "Unresolvable: Unable to determine mime type for item " ++ id) ∧
    (run.2 = .error (.unresolvable (.noMimeType id)) →
      Event.warnings run.1 = Event.warnings get.events ++ [untypedEntry id]) ∧
    (run.2 ≠ .error (.unresolvable (.noMimeType id)) →
      Event.warnings run.1 = Event.warnings get.events) ∧
    ∀ kind collection,
      ((Source.new name).attach (k.recast kind collection)).resolve id = run := by
  intro get run
  obtain ⟨hwarned, hquiet⟩ := warnings_resolve k name id
  exact ⟨resolve_ok_iff k name id, resolve_error_iff k name id, hwarned, hquiet,
    resolve_recast k name id⟩

/-- A picture without a file has neither stream nor type, and is refused for its medium. -/
example :
    let m := { Memory.empty "memory" with
      items := [{ Item.bare "p" (.other "Photo") with medium := some (.other "Photo") }] }
    (((Source.new "Media").attach m.toCatalog).resolve "p").2 =
      .error (.browse (.unsupportedMedium (some "Photo"))) := rfl

end MediaTree
