/-
**Spellings of the catalog's records.**

A server may write one item in many ways: blanks, escapes, the order of the members, members that
nobody here knows, fields without a value written as `null` or not at all, and records by position
instead of by name.  None of it matters: every text of a record is decoded, and to the same value.

A word that hides one with a meaning is decoded as the word with the meaning, so what a text of an
item is decoded to is the item *as it is understood*.

Main definitions:

* `MediaTree.MediaSource.SpelledBy`, `MediaTree.Item.SpelledBy`, `MediaTree.ItemList.SpelledBy` —
  the readings that spell a record;
* `MediaTree.Item.understood`, `MediaTree.ItemList.understood` — the record with the meaning of each
  word.

Main results:

* `MediaTree.Item.decode_of_spelledBy` — every spelling of an item is decoded to it;
* `MediaTree.Item.spelledBy_toJson` — what is written of an item is one of them;
* `MediaTree.Item.finds_decode`, `MediaTree.ItemList.finds_decode` — so items and item lists are
  found in what was written;
* `MediaTree.texts_of_record_agree` — **every text of a record is decoded to that record**.
-/

import MediaTree.Proofs.Catalog.Records
import MediaTree.Proofs.Catalog.Slots
import MediaTree.Proofs.Json.Spelling

set_option autoImplicit false
set_option relaxedAutoImplicit false

namespace MediaTree

open Json (Decoder Fit Part Reading SaysInt SaysList SaysText)

/-! ### Parts of a record -/

/-- The reading is an object with the entries of a map as its members, in any order. -/
def Tags.SpelledBy (t : Tags) (r : Reading) : Prop :=
  ∃ es : List (String × String), es.Perm t.entries ∧
    r = .object (es.map fun e => (.string (some e.1), .string (some e.2)))

/-! ### Records -/

/-- The fields of a media source. -/
def MediaSource.parts (s : MediaSource) : List Part :=
  [.optional "Id" SaysText s.id, .optional "Path" SaysText s.path,
    .optional "Container" SaysText s.container]

/-- The reading spells a media source. -/
def MediaSource.SpelledBy (s : MediaSource) (r : Reading) : Prop := Part.Spells s.parts r

/-- The fields of an item. -/
def Item.parts (i : Item) : List Part :=
  [.needed "Id" (SaysText i.id),
    .optional "Name" SaysText i.name,
    .needed "Type" (SaysText i.kind.word),
    .optional "CollectionType" (fun c => SaysText c.word) i.collection,
    .optional "IndexNumber" (fun n => SaysInt n.toInt) i.index,
    .optional "MediaType" (fun m => SaysText m.word) i.medium,
    .optional "ImageTags" Tags.SpelledBy i.tags,
    .optional "MediaSources" (SaysList MediaSource.SpelledBy) i.sources]

/-- The reading spells an item. -/
def Item.SpelledBy (i : Item) (r : Reading) : Prop := Part.Spells i.parts r

/-- The fields of an item list; an empty list and a total of none may be left out. -/
def ItemList.parts (l : ItemList) : List Part :=
  [⟨"Items", l.items = [], SaysList Item.SpelledBy l.items⟩,
    ⟨"TotalRecordCount", l.total = 0, SaysInt l.total.toNat⟩]

/-- The reading spells an item list. -/
def ItemList.SpelledBy (l : ItemList) (r : Reading) : Prop := Part.Spells l.parts r

/-! ### Words as they are understood -/

/-- A word with its meaning, if it has one. -/
def Named.understood {κ : Type} [Vocabulary κ] (n : Named κ) : Named κ := .ofWord n.word

/-- An item with the meanings of its words. -/
def Item.understood (i : Item) : Item :=
  { i with
    kind := i.kind.understood
    collection := i.collection.map Named.understood
    medium := i.medium.map Named.understood }

/-- An item list with the meanings of all words. -/
def ItemList.understood (l : ItemList) : ItemList :=
  { l with items := l.items.map Item.understood }

/-- An item whose words hide no meaning is understood as it is. -/
theorem Item.understood_of_faithful {i : Item} (h : i.Faithful) : i.understood = i := by
  have hcollection : i.collection.map Named.understood = i.collection := by
    cases hc : i.collection with
    | none => rfl
    | some c => rw [Option.map_some, Named.understood, Named.ofWord_word (h.collection c hc)]
  have hmedium : i.medium.map Named.understood = i.medium := by
    cases hm : i.medium with
    | none => rfl
    | some m => rw [Option.map_some, Named.understood, Named.ofWord_word (h.medium m hm)]
  rw [understood, hcollection, hmedium, Named.understood, Named.ofWord_word h.kind]

theorem ItemList.understood_of_faithful {l : ItemList} (h : ∀ i ∈ l.items, i.Faithful) :
    l.understood = l := by
  have hitems : l.items.map Item.understood = l.items.map fun i => i :=
    List.map_congr_left fun i hi => Item.understood_of_faithful (h i hi)
  rw [understood, hitems, List.map_id']

/-! ### Decoding a spelling -/

theorem Named.decode_of_saysText {κ : Type} [Vocabulary κ] {n : Named κ} {r : Reading}
    (h : SaysText n.word r) (depth : Nat) : Named.decode depth r = .ok n.understood := by
  cases h
  rfl

theorem Tags.decode_of_spelledBy {t : Tags} {r : Reading} (h : t.SpelledBy r) (depth : Nat) :
    Tags.decode (depth + 1) r = .ok t := by
  obtain ⟨es, hperm, rfl⟩ := h
  have hentries := @Decoder.entries_map _ _ (Decoder.string depth) Json.string es Tags.insert
    (fun _ _ => rfl) Tags.empty
  rw [Tags.foldl_insert_of_perm hperm] at hentries
  exact hentries

namespace MediaSource

/-- Each slot of a media source reads what may stand for its field. -/
def fits (s : MediaSource) (depth : Nat) : List (Fit Draft depth) :=
  [Fit.text depth "Id" Draft.id (fun d x => { d with id := some x }) s.id,
    Fit.text depth "Path" Draft.path (fun d x => { d with path := some x }) s.path,
    Fit.text depth "Container" Draft.container (fun d x => { d with container := some x })
      s.container]

/-- Every spelling of a media source is decoded to it. -/
theorem decode_of_spelledBy {s : MediaSource} {r : Reading} (h : s.SpelledBy r) (depth : Nat) :
    MediaSource.decode (depth + 1) r = .ok s := by
  have hslots : shape.Slotted ((s.fits depth).map Fit.slot) := slotted
  obtain ⟨d, hd, hfits⟩ := hslots.exists_of_spells (r := r) h
  simp only [fits, List.forall_mem_cons] at hfits
  obtain ⟨hid, hpath, hcontainer, -⟩ := hfits
  have hid : d.id.join = s.id := Fit.join_text hid
  have hpath : d.path.join = s.path := Fit.join_text hpath
  have hcontainer : d.container.join = s.container := Fit.join_text hcontainer
  rw [decode, hd]
  simp [shape, hid, hpath, hcontainer]

end MediaSource

namespace Item

/-- A slot for a word reads the word as it is understood. -/
def wordFit {κ : Type} [Vocabulary κ] (depth : Nat) (name : String)
    (get : Draft → Option (Option (Named κ))) (put : Draft → Option (Named κ) → Draft)
    (o : Option (Named κ)) : Fit Draft depth :=
  .optional name get put Named.decode (fun n => SaysText n.word) Named.understood o
    fun n _ v h => by
      cases h
      exact ⟨nofun, rfl⟩

/-- Each slot of an item reads what may stand for its field. -/
def fits (i : Item) (depth : Nat) : List (Fit Draft (depth + 2)) :=
  [{ slot := idSlot
     part := .needed "Id" (SaysText i.id)
     value := i.id
     name_eq := rfl
     reads := fun v h => by
      cases h
      rfl
     required := False.elim },
    Fit.text (depth + 2) "Name" Draft.name (fun d x => { d with name := some x }) i.name,
    { slot := kindSlot
      part := .needed "Type" (SaysText i.kind.word)
      value := i.kind.understood
      name_eq := rfl
      reads := fun v h => Named.decode_of_saysText h (depth + 2)
      required := False.elim },
    wordFit (depth + 2) "CollectionType" Draft.collection
      (fun d x => { d with collection := some x }) i.collection,
    .optional "IndexNumber" Draft.index (fun d x => { d with index := some x })
      (Decoder.signed.map Int64.ofInt) (fun n => SaysInt n.toInt) (fun n => n) i.index
      fun n _ v h => by
        cases h
        exact ⟨nofun, finds_index n (depth + 2) (Nat.zero_le _)⟩,
    wordFit (depth + 2) "MediaType" Draft.medium (fun d x => { d with medium := some x }) i.medium,
    .optional "ImageTags" Draft.tags (fun d x => { d with tags := some x }) Tags.decode
      Tags.SpelledBy (fun t => t) i.tags
      fun t _ v h => by
        refine ⟨?_, Tags.decode_of_spelledBy h (depth + 1)⟩
        obtain ⟨es, -, rfl⟩ := h
        exact nofun,
    .optional "MediaSources" Draft.sources (fun d x => { d with sources := some x })
      MediaSource.decode.list (SaysList MediaSource.SpelledBy) (fun ss => ss) i.sources
      fun ss _ v h => by
        have hread := Json.decode_of_saysList (f := fun s => s) h fun s _ v hv =>
          MediaSource.decode_of_spelledBy hv depth
        rw [List.map_id'] at hread
        refine ⟨?_, hread⟩
        obtain ⟨rs, rfl, -⟩ := h
        exact nofun]

/-- **Every spelling of an item is decoded to it**, with its words as they are understood. -/
theorem decode_of_spelledBy {i : Item} {r : Reading} (h : i.SpelledBy r) (depth : Nat) :
    Item.decode (depth + 3) r = .ok i.understood := by
  have hslots : shape.Slotted ((i.fits depth).map Fit.slot) := slotted
  obtain ⟨d, hd, hfits⟩ := hslots.exists_of_spells (r := r) h
  simp only [fits, List.forall_mem_cons] at hfits
  obtain ⟨hid, hname, hkind, hcollection, hindex, hmedium, htags, hsources, -⟩ := hfits
  have hid : d.id = some i.id := hid.resolve_right fun h => h.1
  have hname : d.name.join = i.name := Fit.join_text hname
  have hkind : d.kind = some i.kind.understood := hkind.resolve_right fun h => h.1
  have hcollection : d.collection.join = i.collection.map Named.understood :=
    Fit.join_optional hcollection
  have hindex : d.index.join = i.index.map fun n => n := Fit.join_optional hindex
  have hmedium : d.medium.join = i.medium.map Named.understood := Fit.join_optional hmedium
  have htags : d.tags.join = i.tags.map fun t => t := Fit.join_optional htags
  have hsources : d.sources.join = i.sources.map fun ss => ss := Fit.join_optional hsources
  rw [decode, hd]
  simp [shape, Draft.finish, hid, hname, hkind, hcollection, hindex, hmedium, htags, hsources,
    understood]

end Item

namespace ItemList

/-- Each slot of an item list reads what may stand for its field. -/
def fits (l : ItemList) (depth : Nat) : List (Fit Draft (depth + 4)) :=
  [{ slot := itemsSlot
     part := ⟨"Items", l.items = [], SaysList Item.SpelledBy l.items⟩
     value := l.items.map Item.understood
     name_eq := rfl
     reads := fun v h => Json.decode_of_saysList h fun i _ v hv => Item.decode_of_spelledBy hv depth
     required := fun _ => rfl },
    { slot := totalSlot
      part := ⟨"TotalRecordCount", l.total = 0, SaysInt l.total.toNat⟩
      value := l.total
      name_eq := rfl
      reads := fun v h => by
        cases h
        exact finds_total l.total (depth + 4) (Nat.zero_le _)
      required := fun _ => rfl }]

/-- Every spelling of an item list is decoded to it, with its words as they are understood. -/
theorem decode_of_spelledBy {l : ItemList} {r : Reading} (h : l.SpelledBy r) (depth : Nat) :
    ItemList.decode (depth + 5) r = .ok l.understood := by
  have hslots : shape.Slotted ((l.fits depth).map Fit.slot) := slotted
  obtain ⟨d, hd, hfits⟩ := hslots.exists_of_spells (r := r) h
  simp only [fits, List.forall_mem_cons] at hfits
  obtain ⟨hitems, htotal, -⟩ := hfits
  -- what was left out is what stands for nothing
  have hitems : d.items.getD [] = l.items.map Item.understood := by
    obtain h | ⟨hnone, h⟩ := hitems
    · rw [show d.items = some (l.items.map Item.understood) from h, Option.getD_some]
    · rw [show d.items = none from h, show l.items = [] from hnone]
      rfl
  have htotal : d.total.getD 0 = l.total := by
    obtain h | ⟨hnone, h⟩ := htotal
    · rw [show d.total = some l.total from h, Option.getD_some]
    · rw [show d.total = none from h, show l.total = 0 from hnone]
      rfl
  rw [decode, hd]
  simp [shape, hitems, htotal, understood]

end ItemList

/-! ### What is written -/

/-- A map of tags is written in one of its spellings. -/
theorem Tags.spelledBy_toJson (t : Tags) : t.SpelledBy t.toJson.reading := by
  refine ⟨t.entries, .refl _, ?_⟩
  rw [toJson, Json.reading, Json.memberReadings_eq_map, List.map_map]
  rfl

/-- A media source is written in one of its spellings. -/
theorem MediaSource.spelledBy_toJson (s : MediaSource) : s.SpelledBy s.toJson.reading := by
  rw [SpelledBy, toJson, ← List.append_nil (Json.optional "Container" _ _)]
  simp only [List.append_assoc]
  refine .of_members (.written_optional (fun _ _ => rfl) ?_)
  exact .written_optional (fun _ _ => rfl) (.written_optional (fun _ _ => rfl) .nil)

/-- **An item is written in one of its spellings.** -/
theorem Item.spelledBy_toJson (i : Item) : i.SpelledBy i.toJson.reading := by
  rw [SpelledBy, toJson, ← List.append_nil (Json.optional "MediaSources" _ _)]
  simp only [List.append_assoc, List.cons_append]
  refine .of_members (.given rfl (.written_optional (fun _ _ => rfl) (.given rfl ?_)))
  refine .written_optional (fun _ _ => rfl) (.written_optional (fun _ _ => rfl) ?_)
  refine .written_optional (fun _ _ => rfl) (.written_optional (fun t _ => t.spelledBy_toJson) ?_)
  exact .written_optional (fun _ _ => .of_map fun s _ => s.spelledBy_toJson) .nil

/-- An item list is written in one of its spellings. -/
theorem ItemList.spelledBy_toJson (l : ItemList) : l.SpelledBy l.toJson.reading :=
  .of_members (.given (.of_map fun i _ => i.spelledBy_toJson) (.given rfl .nil))

/-- A media source is found in what was written. -/
theorem MediaSource.finds_decode (s : MediaSource) : MediaSource.decode.Finds s.toJson s 1 := by
  intro depth hdepth
  obtain ⟨depth, rfl⟩ := Nat.exists_eq_add_of_le' hdepth
  exact decode_of_spelledBy s.spelledBy_toJson depth

/-- An item is found in what was written, if none of its words hides a meaning. -/
theorem Item.finds_decode {i : Item} (h : i.Faithful) : Item.decode.Finds i.toJson i 3 := by
  intro depth hdepth
  obtain ⟨depth, rfl⟩ := Nat.exists_eq_add_of_le' hdepth
  rw [decode_of_spelledBy i.spelledBy_toJson, understood_of_faithful h]

/-- An item list is found in what was written, if none of its words hides a meaning. -/
theorem ItemList.finds_decode {l : ItemList} (h : ∀ i ∈ l.items, i.Faithful) :
    ItemList.decode.Finds l.toJson l 5 := by
  intro depth hdepth
  obtain ⟨depth, rfl⟩ := Nat.exists_eq_add_of_le' hdepth
  rw [decode_of_spelledBy l.spelledBy_toJson, understood_of_faithful h]

/-! ### Texts -/

/-- **Every text of a record is decoded to that record.**  Two texts of one record may differ in
blanks, in escapes, in the order of members, in members without a field, in whether a missing value
is `null` or left out, and in whether a record is spelled by name or by position; the record that
they are decoded to is the same. -/
theorem texts_of_record_agree (p : Json.Padded Json.Phrase) :
    (∀ s : MediaSource, s.SpelledBy p.content.reading →
        Json.decodeBytes MediaSource.decode p.bytes = .ok s) ∧
      (∀ i : Item, i.SpelledBy p.content.reading →
        Json.decodeBytes Item.decode p.bytes = .ok i.understood) ∧
      ∀ l : ItemList, l.SpelledBy p.content.reading →
        Json.decodeBytes ItemList.decode p.bytes = .ok l.understood :=
  ⟨fun _ h => Json.decodeBytes_bytes (MediaSource.decode_of_spelledBy h 126),
    fun _ h => Json.decodeBytes_bytes (Item.decode_of_spelledBy h 124),
    fun _ h => Json.decodeBytes_bytes (ItemList.decode_of_spelledBy h 122)⟩

/-! ### A text that makes other choices -/

section OddTexts

open Json (Padded Phrase)
open Json.Padded (bare)
open Json.Piece (plainly escaped)

/-- A member with a blank behind its colon. -/
def spacedMember (key : List Json.Piece) (v : Phrase) : Padded (List Json.Piece) × Padded Phrase :=
  (⟨[], key, []⟩, ⟨[.space], v, []⟩)

/-- A media source of which only the id is known, spelled by position: `["7"]`. -/
def idOnly : Phrase := .array (bare (.string (plainly "7"))) []

/-- A film without a name. -/
def namelessFilm : Item :=
  { Item.bare "f" (.known .movie) with sources := some [⟨some "7", none, none⟩] }

/-- A value that nobody here knows: `[true,{"x":null}]`. -/
def oddValue : Phrase :=
  .array (bare (.bool true)) [bare (.object ⟨[], plainly "x", []⟩ (bare .null) [])]

/-- The film with its members in reverse, one of them unknown, and one of the keys in escapes. -/
def filmText : Phrase :=
  .object ⟨[], plainly "Odd", []⟩ (bare oddValue)
    [spacedMember (plainly "MediaSources") (.array (bare idOnly) []),
      spacedMember (plainly "Type") (.string (plainly "Movie")),
      spacedMember (plainly "Name") .null,
      spacedMember (escaped "Id") (.string (plainly "f"))]

theorem spelledBy_idOnly : MediaSource.SpelledBy ⟨some "7", none, none⟩ idOnly.reading := by
  have hreading : idOnly.reading = .array [.string (some "7")] := by
    simp [idOnly, bare, Phrase.reading, Phrase.elementReadings]
  rw [hreading]
  refine .array (.cons rfl (.nil ?_))
  simp [Part.optional]

theorem spelledBy_filmText : namelessFilm.SpelledBy filmText.reading := by
  let known : List (String × Reading) := [("Id", .string (some "f")), ("Name", .null),
    ("Type", .string (some "Movie")), ("MediaSources", .array [idOnly.reading])]
  let unknown : List (String × Reading) := [("Odd", oddValue.reading)]
  have hreading : filmText.reading = .object ((known ++ unknown).map Json.keyed).reverse := by
    simp [filmText, bare, spacedMember, Phrase.reading, Phrase.elementReadings,
      Phrase.memberReadings, Json.keyed, known, unknown]
  rw [hreading]
  refine .object ?_ ?_ ?_ (List.reverse_perm _)
  · -- the fields in their order: four of them are left out
    refine .given rfl (.given rfl (.given rfl ?_))
    refine .omitted trivial (.omitted trivial (.omitted trivial (.omitted trivial ?_)))
    exact .given ⟨_, rfl, .cons spelledBy_idOnly .nil⟩ .nil
  · simp [unknown, Item.parts, Part.needed, Part.optional, namelessFilm, Item.bare]
  · simpa [unknown] using Phrase.sound_reading oddValue

/-- The film alone, and a list that holds it and is spelled by position, its total left out. -/
theorem odd_texts_are_decoded :
    Json.decodeBytes MediaSource.decode (bare idOnly).bytes = .ok ⟨some "7", none, none⟩ ∧
      Json.decodeBytes Item.decode (bare filmText).bytes = .ok namelessFilm ∧
      Json.decodeBytes ItemList.decode (bare (.array (bare (.array (bare filmText) [])) [])).bytes =
        .ok ⟨[namelessFilm], 0⟩ := by
  have hlist : ItemList.SpelledBy ⟨[namelessFilm], 0⟩
      (Phrase.array (bare (.array (bare filmText) [])) []).reading := by
    refine .array (.cons ⟨_, rfl, .cons spelledBy_filmText .nil⟩ (.nil ?_))
    simp
  exact ⟨(texts_of_record_agree (bare idOnly)).1 _ spelledBy_idOnly,
    (texts_of_record_agree (bare filmText)).2.1 _ spelledBy_filmText,
    (texts_of_record_agree (bare _)).2.2 _ hlist⟩

end OddTexts

end MediaTree
