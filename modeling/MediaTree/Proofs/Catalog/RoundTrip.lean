/-
**Round trips of the catalog's records.**

What is written of an item, of media sources or of an item list is read as the same value, as long
as no word hides one with a meaning.  A value that was read never holds such a word, so writing it
and reading it again changes nothing, whatever text it came from.  Words survive as they were sent:
the strings that a text gives for the fields that hold words stand for the same fields in what is
written, whether they have a meaning here or not.

Main definitions:

* `MediaTree.Json.Decoder.ReadsBack` — what is written of a value is read as that value;
* `MediaTree.Item.sent`, `MediaTree.ItemList.sent` — the strings sent for a field of an item, and
  the items sent in a list.

Main results:

* `MediaTree.Item.of_decode` — an item that was read hides no meaning, and holds the words that were
  sent;
* `MediaTree.records_round_trip` — **records survive being written and read**, and words survive
  being read and written.
-/

import MediaTree.Proofs.Catalog.Spelling

set_option autoImplicit false
set_option relaxedAutoImplicit false

namespace MediaTree

open Json (Decoder Document Reading Slot)

/-! ### What was sent -/

/-- What is written of a value is read as that value. -/
def Json.Decoder.ReadsBack {α : Type} (d : Decoder α) (encode : α → Json) (a : α) : Prop :=
  Json.decodeBytes d (encode a).compact.toUTF8 = .ok a

/-- The elements of an array. -/
def Json.Reading.elements : Reading → List Reading
  | .array rs => rs
  | _ => []

/-- The strings that a reading gives for a field of an item. -/
def Item.sent (name : String) (r : Reading) : List String :=
  (r.given (Item.fields.map (·.name)) name).filterMap Reading.text?

/-- The fields of an item that hold words. -/
def Item.wordFields : List String := ["Type", "CollectionType", "MediaType"]

/-- The items that a reading gives for an item list. -/
def ItemList.sent (r : Reading) : List Reading :=
  (r.given (ItemList.fields.map (·.name)) "Items").flatMap Reading.elements

/-! ### Decoders that succeed -/

namespace Json.Decoder

variable {α β : Type} {depth : Nat} {v : Reading}

theorem of_string_eq_ok {t : String} (h : string depth v = .ok t) : v = .string (some t) := by
  rcases v with _ | _ | _ | (_ | w) | _ | _ | _ <;> cases h
  rfl

theorem of_map_eq_ok {d : Decoder α} {f : α → β} {b : β} (h : d.map f depth v = .ok b) :
    ∃ a, d depth v = .ok a ∧ f a = b := by
  unfold map at h
  cases ha : d depth v with
  | error p => simp [ha, Except.map] at h
  | ok a => exact ⟨a, rfl, by simpa [ha, Except.map] using h⟩

theorem of_optional_eq_ok {d : Decoder α} {o : Option α} (h : d.optional depth v = .ok o) :
    (v = .null ∧ o = none) ∨ ∃ a, d depth v = .ok a ∧ o = some a := by
  unfold optional at h
  split at h
  · cases h
    exact .inl ⟨rfl, rfl⟩
  · obtain ⟨a, ha, rfl⟩ := of_map_eq_ok (d := d) (f := some) h
    exact .inr ⟨a, ha, rfl⟩

/-- Elements that were read were read one by one. -/
theorem forall₂_of_elements_eq_ok {f : Reading → Except Json.Problem α} {rs : List Reading}
    {as : List α} (h : elements f rs = .ok as) : List.Forall₂ (fun r a => f r = .ok a) rs as := by
  induction rs generalizing as with
  | nil =>
      cases h
      exact .nil
  | cons r rs ih =>
      obtain ⟨a, ha, h⟩ := Json.of_bind_eq_ok h
      obtain ⟨as, has, h⟩ := Json.of_bind_eq_ok h
      cases h
      exact .cons ha (ih has)

/-- A list that was read is an array whose elements were read one by one. -/
theorem forall₂_of_list_eq_ok {d : Decoder α} {as : List α} (h : d.list depth v = .ok as) :
    ∃ inner, depth = inner + 1 ∧ List.Forall₂ (fun r a => d inner r = .ok a) v.elements as := by
  unfold list at h
  split at h
  · cases h
  · exact ⟨_, rfl, forall₂_of_elements_eq_ok h⟩
  · cases h

end Json.Decoder

/-! ### Words -/

/-- A word that was read is the string that was sent. -/
theorem Named.of_decode {κ : Type} [Vocabulary κ] {depth : Nat} {v : Reading} {n : Named κ}
    (h : Named.decode depth v = .ok n) : v.text? = some n.word ∧ n.Faithful := by
  obtain ⟨w, hw, rfl⟩ := Decoder.of_map_eq_ok h
  obtain rfl := Decoder.of_string_eq_ok hw
  exact ⟨by rw [word_ofWord]; rfl, faithful_ofWord w⟩

/-- An optional word that was read is the string that was sent, if one was. -/
theorem Named.of_decode_optional {κ : Type} [Vocabulary κ] {depth : Nat} {v : Reading}
    {o : Option (Named κ)} (h : Named.decode.optional depth v = .ok o) :
    v.text? = o.map Named.word ∧ ∀ n ∈ o, n.Faithful := by
  obtain ⟨rfl, rfl⟩ | ⟨n, hn, rfl⟩ := Decoder.of_optional_eq_ok h
  · exact ⟨rfl, nofun⟩
  · obtain ⟨htext, hfaithful⟩ := Named.of_decode hn
    refine ⟨htext, fun m hm => ?_⟩
    cases hm
    exact hfaithful

/-! ### Items that were read -/

namespace Item

/-- A draft that is complete is the item, place by place. -/
theorem of_finish {d : Draft} {i : Item} (h : d.finish = .ok i) :
    d.kind = some i.kind ∧ d.collection.join = i.collection ∧ d.medium.join = i.medium := by
  obtain ⟨id, name, kind, collection, index, medium, tags, sources⟩ := d
  cases id <;> cases kind <;> cases h
  exact ⟨rfl, rfl, rfl⟩

/-- The place of a word that must be given. -/
theorem of_filled_kind {depth : Nat} {vs : List Reading} {k : Named ItemKind}
    (h : kindSlot.Filled depth vs none (some k)) :
    vs.filterMap Reading.text? = [k.word] ∧ k.Faithful := by
  cases h with
  | put h =>
      obtain ⟨htext, hfaithful⟩ := Named.of_decode h
      exact ⟨by rw [List.filterMap_cons_some htext, List.filterMap_nil], hfaithful⟩

/-- The place of a word that may be missing. -/
theorem of_filled_word {κ : Type} [Vocabulary κ] {name : String}
    {get : Draft → Option (Option (Named κ))} {put : Draft → Option (Named κ) → Draft}
    {depth : Nat} {vs : List Reading} {place : Option (Option (Named κ))}
    (h : (Slot.optional name get put Named.decode).Filled depth vs none place) :
    vs.filterMap Reading.text? = (place.join.map Named.word).toList ∧
      ∀ n ∈ place.join, n.Faithful := by
  cases h with
  | kept => exact ⟨rfl, nofun⟩
  | @put v o h =>
      obtain ⟨htext, hfaithful⟩ := Named.of_decode_optional h
      refine ⟨?_, hfaithful⟩
      cases o with
      | none => rw [List.filterMap_cons_none htext]; rfl
      | some n => rw [List.filterMap_cons_some htext]; rfl

/-- **An item that was read hides no meaning, and holds the words that were sent.** -/
theorem of_decode {depth : Nat} {r : Reading} {i : Item} (h : Item.decode depth r = .ok i) :
    i.Faithful ∧ sent "Type" r = [i.kind.word] ∧
      sent "CollectionType" r = (i.collection.map Named.word).toList ∧
      sent "MediaType" r = (i.medium.map Named.word).toList := by
  obtain ⟨inner, d, -, hfinish, hfilled⟩ := slotted.filled_of_decode h
  obtain ⟨hkind, hcollection, hmedium⟩ := of_finish hfinish
  have hplace : kindSlot.get d = some i.kind := hkind
  obtain ⟨hkindSent, hkindFaithful⟩ :=
    of_filled_kind (hplace ▸ hfilled kindSlot (by simp [slots]))
  obtain ⟨hcollectionSent, hcollectionFaithful⟩ :=
    of_filled_word (hfilled collectionSlot (by simp [slots]))
  obtain ⟨hmediumSent, hmediumFaithful⟩ := of_filled_word (hfilled mediumSlot (by simp [slots]))
  rw [show collectionSlot.get d = d.collection from rfl, hcollection]
    at hcollectionSent hcollectionFaithful
  rw [show mediumSlot.get d = d.medium from rfl, hmedium] at hmediumSent hmediumFaithful
  exact ⟨⟨hkindFaithful, hcollectionFaithful, hmediumFaithful⟩, hkindSent, hcollectionSent,
    hmediumSent⟩

theorem faithful_of_forall₂ {depth : Nat} {rs : List Reading} {is : List Item}
    (h : List.Forall₂ (fun r i => Item.decode depth r = .ok i) rs is) : ∀ i ∈ is, i.Faithful := by
  induction h with
  | nil => exact fun _ hi => absurd hi List.not_mem_nil
  | cons hi _ ih => exact List.forall_mem_cons.2 ⟨(of_decode hi).1, ih⟩

/-- Two readings of one item send the same words. -/
theorem sent_eq {depth depth' : Nat} {r r' : Reading} {i : Item} (h : Item.decode depth r = .ok i)
    (h' : Item.decode depth' r' = .ok i) : ∀ name ∈ wordFields, sent name r = sent name r' := by
  obtain ⟨-, hkind, hcollection, hmedium⟩ := of_decode h
  obtain ⟨-, hkind', hcollection', hmedium'⟩ := of_decode h'
  simp only [wordFields, List.forall_mem_cons]
  exact ⟨hkind.trans hkind'.symm, hcollection.trans hcollection'.symm,
    hmedium.trans hmedium'.symm, nofun⟩

/-- Two lists of readings of the same items send the same words. -/
theorem forall₂_sent_eq {depth depth' : Nat} {rs rs' : List Reading} {is : List Item}
    (h : List.Forall₂ (fun r i => Item.decode depth r = .ok i) rs is)
    (h' : List.Forall₂ (fun r i => Item.decode depth' r = .ok i) rs' is) :
    List.Forall₂ (fun r r' => ∀ name ∈ wordFields, sent name r = sent name r') rs rs' := by
  induction h generalizing rs' with
  | nil =>
      cases h'
      exact .nil
  | cons hi _ ih =>
      cases h' with
      | cons hi' h' => exact .cons (sent_eq hi hi') (ih h')

end Item

/-- An item list that was read holds the items that were sent, each read below the list and its
record. -/
theorem ItemList.forall₂_of_decode {depth : Nat} {r : Reading} {l : ItemList}
    (h : ItemList.decode depth r = .ok l) :
    List.Forall₂ (fun r i => Item.decode (depth - 2) r = .ok i) (ItemList.sent r) l.items := by
  obtain ⟨inner, d, rfl, hfinish, hfilled⟩ := slotted.filled_of_decode h
  have hitems : itemsSlot.Filled inner (r.given (fields.map (·.name)) "Items") none d.items :=
    hfilled itemsSlot (by simp [slots])
  cases hfinish
  rw [sent]
  generalize r.given (fields.map (·.name)) "Items" = vs, d.items = place at hitems ⊢
  cases hitems with
  | kept => exact .nil
  | put h =>
      obtain ⟨below, rfl, hread⟩ := Decoder.forall₂_of_list_eq_ok h
      rw [List.flatMap_singleton]
      exact hread

theorem ItemList.of_decode {depth : Nat} {r : Reading} {l : ItemList}
    (h : ItemList.decode depth r = .ok l) :
    ∃ inner, List.Forall₂ (fun r i => Item.decode inner r = .ok i) (ItemList.sent r) l.items :=
  ⟨depth - 2, ItemList.forall₂_of_decode h⟩

/-! ### Round trips -/

/-- A text that is decoded has a reading that is. -/
theorem Json.of_decodeBytes_eq_ok {α : Type} {d : Decoder α} {bytes : ByteArray} {a : α}
    (h : decodeBytes d bytes = .ok a) : d nestingLimit (Document.ofBytes bytes).value = .ok a := by
  obtain ⟨b, hb, h⟩ := Json.of_bind_eq_ok h
  split at h
  · cases h
    exact hb
  · cases h

/-- What is found in the JSON of a value is read back. -/
theorem Json.Decoder.Finds.readsBack {α : Type} {d : Decoder α} {encode : α → Json} {a : α}
    {room : Nat} (h : d.Finds (encode a) a room) (hroom : room ≤ nestingLimit)
    (hfits : (encode a).Fits) : d.ReadsBack encode a :=
  h.decodeBytes hroom hfits Style.isBlank_compact 0

/-- Media sources as a server lists them. -/
def MediaSource.listToJson (ss : List MediaSource) : Json := .array (ss.map MediaSource.toJson)

theorem Item.readsBack {i : Item} (h : i.Faithful) : Item.decode.ReadsBack Item.toJson i :=
  (Item.finds_decode h).readsBack (by decide) i.fits_toJson

theorem MediaSource.readsBack_list (ss : List MediaSource) :
    MediaSource.decode.list.ReadsBack MediaSource.listToJson ss :=
  (Decoder.finds_list fun s _ => s.finds_decode).readsBack (by decide) (MediaSource.fits_list ss)

theorem ItemList.readsBack {l : ItemList} (h : ∀ i ∈ l.items, i.Faithful) :
    ItemList.decode.ReadsBack ItemList.toJson l :=
  (ItemList.finds_decode h).readsBack (by decide) l.fits_toJson

/-- **Records survive being written and read**, as long as no word hides one with a meaning; values
that were read never hold such a word, so they survive whatever text they came from; and the strings
that were sent for words stand for the same fields in what is written. -/
theorem records_round_trip :
    (∀ i : Item, i.Faithful → Item.decode.ReadsBack Item.toJson i) ∧
      (∀ ss, MediaSource.decode.list.ReadsBack MediaSource.listToJson ss) ∧
      (∀ l : ItemList, (∀ i ∈ l.items, i.Faithful) → ItemList.decode.ReadsBack ItemList.toJson l) ∧
      (∀ bytes i, Json.decodeBytes Item.decode bytes = .ok i →
        i.Faithful ∧ Item.decode.ReadsBack Item.toJson i ∧
          ∀ name ∈ Item.wordFields, Item.sent name (Document.ofBytes bytes).value =
            Item.sent name (Document.ofBytes i.toJson.compact.toUTF8).value) ∧
      (∀ bytes ss, Json.decodeBytes MediaSource.decode.list bytes = .ok ss →
        MediaSource.decode.list.ReadsBack MediaSource.listToJson ss) ∧
      ∀ bytes l, Json.decodeBytes ItemList.decode bytes = .ok l →
        (∀ i ∈ l.items, i.Faithful) ∧ ItemList.decode.ReadsBack ItemList.toJson l ∧
          List.Forall₂ (fun r r' => ∀ name ∈ Item.wordFields, Item.sent name r = Item.sent name r')
            (ItemList.sent (Document.ofBytes bytes).value)
            (ItemList.sent (Document.ofBytes l.toJson.compact.toUTF8).value) := by
  refine ⟨fun i => Item.readsBack, MediaSource.readsBack_list, fun l => ItemList.readsBack,
    fun bytes i h => ?_, fun _ ss _ => MediaSource.readsBack_list ss, fun bytes l h => ?_⟩
  · have hread := Json.of_decodeBytes_eq_ok h
    have hfaithful := (Item.of_decode hread).1
    have hback := Item.readsBack hfaithful
    exact ⟨hfaithful, hback, Item.sent_eq hread (Json.of_decodeBytes_eq_ok hback)⟩
  · obtain ⟨inner, hitems⟩ := ItemList.of_decode (Json.of_decodeBytes_eq_ok h)
    have hfaithful := Item.faithful_of_forall₂ hitems
    have hback := ItemList.readsBack hfaithful
    obtain ⟨inner', hitems'⟩ := ItemList.of_decode (Json.of_decodeBytes_eq_ok hback)
    exact ⟨hfaithful, hback, Item.forall₂_sent_eq hitems hitems'⟩

/-! ### A photo, which has no meaning here -/

section Photo

open Json (Padded Phrase)
open Json.Piece (plainly escaped)

/-- A photo among books, both of them words without a meaning here, with everything else that can be
empty left empty but not missing. -/
def photo : Item :=
  { Item.bare "p" (.other "Photo") with
    collection := some (.other "books")
    tags := some Tags.empty
    sources := some [] }

/-- A photo among books, of which nothing else is known. -/
def sentPhoto : Item :=
  { Item.bare "p" (.other "Photo") with collection := some (.other "books") }

/-- The photo by position, `["p",null,"Photo","books"]` with the last word in escapes. -/
def photoText : Phrase :=
  .array (.bare (.string (plainly "p")))
    [.bare .null, .bare (.string (plainly "Photo")), .bare (.string (escaped "books"))]

theorem faithful_photo : photo.Faithful where
  kind k := by cases k <;> decide
  collection c hc := by
    cases hc
    intro k
    cases k <;> decide
  medium := nofun

theorem reading_photoText : photoText.reading =
    .array [.string (some "p"), .null, .string (some "Photo"), .string (some "books")] := by
  simp [photoText, Padded.bare, Phrase.reading, Phrase.elementReadings]

/-- The photo survives being written, and its words survive being sent by position; so does a list
of one photo, and a list of one media source of which nothing is known. -/
theorem photo_survives :
    Item.decode.ReadsBack Item.toJson photo ∧
      ItemList.decode.ReadsBack ItemList.toJson ⟨[photo], 0⟩ ∧
      MediaSource.decode.list.ReadsBack MediaSource.listToJson [⟨none, none, none⟩] ∧
      ItemList.decode.ReadsBack ItemList.toJson ⟨[sentPhoto], 0⟩ ∧
      ∀ name ∈ Item.wordFields,
        Item.sent name (Document.ofBytes (Padded.bare photoText).bytes).value =
          Item.sent name (Document.ofBytes sentPhoto.toJson.compact.toUTF8).value := by
  obtain ⟨hitem, -, hlist, hsent, hsources, hsentList⟩ := records_round_trip
  have hphoto : Json.decodeBytes Item.decode (Padded.bare photoText).bytes = .ok sentPhoto := by
    refine Json.decodeBytes_bytes ?_
    rw [Padded.bare, reading_photoText]
    rfl
  have hnothing : Json.decodeBytes MediaSource.decode.list
      (Padded.bare (.array (.bare (.emptyArray [])) [])).bytes = .ok [⟨none, none, none⟩] :=
    Json.decodeBytes_bytes rfl
  have hphotos : Json.decodeBytes ItemList.decode
      (Padded.bare (.array (.bare (.array (.bare photoText) [])) [])).bytes =
        .ok ⟨[sentPhoto], 0⟩ := by
    refine Json.decodeBytes_bytes ?_
    simp only [Padded.bare, Phrase.reading, Phrase.elementReadings, reading_photoText]
    rfl
  exact ⟨hitem photo faithful_photo, hlist ⟨[photo], 0⟩ (by simpa using faithful_photo),
    hsources _ _ hnothing, (hsentList _ _ hphotos).2.1, (hsent _ _ hphoto).2.2⟩

end Photo

end MediaTree
