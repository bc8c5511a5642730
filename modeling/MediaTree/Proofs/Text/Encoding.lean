/-
**Encodings lose nothing.**

The octets of a text, percent escapes and form encoding are each undone by their reader, so that
two texts are never written alike.  What is written holds few characters only: those that stand for
themselves, the percent sign and the digits of escapes, and in a form the plus sign.  No separator
is among them, so that pairs can be told apart.

Main definitions:

* `MediaTree.Text.Percent.IsSegment` — unreserved characters and escapes, and nothing else;
* `MediaTree.Text.Form.spacedPlain` — the characters of a form once its plus signs are read.

Main results:

* `MediaTree.Text.units_toUTF8` — reading octets yields the characters, none of them damaged;
* `MediaTree.Text.Percent.decodeText?_encode`, `MediaTree.Text.Percent.segment_injective` — escapes
  are undone;
* `MediaTree.Text.Form.decodePairs?_encodePairs` — **pairs are read back in order**.
-/

import MediaTree.Text.Form

set_option autoImplicit false
set_option relaxedAutoImplicit false

namespace MediaTree.Text

/-! ### Octets -/

/-- Reading on behind some octets finds the characters written there. -/
theorem unitsFrom_append (cs : List Char) (front : ByteArray) (found : Array (Option Char)) :
    unitsFrom (front ++ cs.utf8Encode) front.size found = found ++ (cs.map some).toArray := by
  induction cs generalizing front found with
  | nil =>
      rw [unitsFrom]
      simp
  | cons c cs ih =>
      have hread : (front ++ (c :: cs).utf8Encode).utf8DecodeChar? front.size = some c := by
        rw [ByteArray.utf8DecodeChar?_eq_utf8DecodeChar?_extract,
          ByteArray.extract_append_eq_right (by simp) (by simp)]
        exact List.utf8DecodeChar?_utf8Encode_cons
      -- there is an octet left, and the next character starts right behind the front
      have hsize : front.size < (front ++ (c :: cs).utf8Encode).size := by
        have hpos := Char.utf8Size_pos c
        rw [List.utf8Encode_cons]
        simp [List.utf8Encode_singleton]
        omega
      have hnext : front.size + c.utf8Size = (front ++ [c].utf8Encode).size := by
        simp [List.utf8Encode_singleton]
      rw [unitsFrom, if_pos hsize, hread]
      simp only
      rw [List.utf8Encode_cons, ← ByteArray.append_assoc, hnext, ih]
      simp

/-- **The octets of a text are read as its characters**, and none of them is damage. -/
theorem units_toUTF8 (s : String) : units s.toUTF8 = s.toList.map some := by
  have h := unitsFrom_append s.toList ByteArray.empty #[]
  rw [String.utf8Encode_toList] at h
  have h : unitsFrom s.toUTF8 0 #[] = (s.toList.map some).toArray := by simpa using h
  rw [units, h]

theorem toByteArray_octets (s : String) : (octets s).toByteArray = s.toUTF8 := by
  simp [octets, ← List.utf8Encode.eq_def, ← String.utf8Encode_toList]

theorem ofOctets?_octets (s : String) : ofOctets? (octets s) = some s := by
  rw [ofOctets?, toByteArray_octets]
  simp only [String.fromUTF8?, String.toUTF8_eq_toByteArray, Option.dite_none_right_eq_some,
    Option.some.injEq]
  exact ⟨s.isValidUTF8, rfl⟩

theorem length_octets (s : String) : (octets s).length = s.utf8ByteSize := by
  rw [← List.size_toByteArray, toByteArray_octets]
  rfl

/-- No text has fewer octets than characters. -/
theorem length_le_utf8ByteSize (s : String) : s.toList.length ≤ s.utf8ByteSize := by
  have h (cs : List Char) : cs.length ≤ (octets (String.ofList cs)).length := by
    induction cs with
    | nil => exact Nat.zero_le _
    | cons c cs ih =>
        have hc := Char.utf8Size_pos c
        rw [octets_ofList_cons, List.length_append, String.length_utf8EncodeChar, List.length_cons]
        omega
  have hs := h s.toList
  rwa [String.ofList_toList, length_octets] at hs

/-- A character of ASCII is its own octet. -/
theorem utf8EncodeChar_ascii {c : Char} (h : c.toNat < 0x80) :
    String.utf8EncodeChar c = [UInt8.ofNat c.toNat] := by
  have hall : ∀ n ∈ List.range 0x80,
      String.utf8EncodeChar (Char.ofNat n) = [UInt8.ofNat n] := by decide +kernel
  simpa using hall c.toNat (List.mem_range.2 h)

/-- The character of an octet below 128 is written as that octet. -/
theorem utf8EncodeChar_asciiChar {b : UInt8} (h : b.toNat < 0x80) :
    String.utf8EncodeChar (Percent.asciiChar b) = [b] := by
  have hb : (Percent.asciiChar b).toNat = b.toNat := by
    have hall : ∀ n ∈ List.range 0x80, (Char.ofNat n).toNat = n := by decide +kernel
    exact hall b.toNat (List.mem_range.2 h)
  rw [utf8EncodeChar_ascii (by omega), hb, UInt8.ofNat_toNat]

/-- Beyond ASCII, no octet of a character is below 128. -/
theorem le_of_mem_utf8EncodeChar {c : Char} {b : UInt8} (hc : 0x80 ≤ c.toNat)
    (hb : b ∈ String.utf8EncodeChar c) : 0x80 ≤ b.toNat := by
  have hc : 127 < c.val.toNat := hc
  simp only [String.utf8EncodeChar] at hb
  split at hb
  · omega
  · split at hb
    · simp only [List.mem_cons, List.not_mem_nil, or_false] at hb
      rcases hb with rfl | rfl <;> rw [UInt8.toNat_ofNat'] <;> omega
    · split at hb
      · simp only [List.mem_cons, List.not_mem_nil, or_false] at hb
        rcases hb with rfl | rfl | rfl <;> rw [UInt8.toNat_ofNat'] <;> omega
      · simp only [List.mem_cons, List.not_mem_nil, or_false] at hb
        rcases hb with rfl | rfl | rfl | rfl <;> rw [UInt8.toNat_ofNat'] <;> omega

/-- An octet below 128 is a character of the text. -/
theorem asciiChar_mem {s : String} {b : UInt8} (hb : b ∈ octets s) (hlt : b.toNat < 0x80) :
    Percent.asciiChar b ∈ s.toList := by
  obtain ⟨c, hc, hbc⟩ := List.mem_flatMap.1 hb
  rcases Nat.lt_or_ge c.toNat 0x80 with hascii | hge
  · rw [utf8EncodeChar_ascii hascii, List.mem_singleton] at hbc
    have hchar : Percent.asciiChar b = c := by
      rw [hbc, Percent.asciiChar, UInt8.toNat_ofNat', Nat.mod_eq_of_lt (by omega),
        Char.ofNat_toNat]
    rwa [hchar]
  · have := le_of_mem_utf8EncodeChar hge hbc
    omega

/-! ### Percent escapes -/

namespace Percent

/-- The digits of an escape are letters or digits. -/
theorem isAlphanumeric_upper {n : Nat} (h : n < 16) : isAlphanumeric (Hex.upper n) = true := by
  have hall : ∀ m ∈ List.range 16, isAlphanumeric (Hex.upper m) = true := by decide
  exact hall n (List.mem_range.2 h)

/-- What is written are characters of the text that stand for themselves, and escapes. -/
theorem mem_encode {plain : Char → Bool} {s : String} {c : Char} (h : c ∈ encode plain s) :
    (c ∈ s.toList ∧ plain c = true) ∨ c = '%' ∨ isAlphanumeric c = true := by
  obtain ⟨b, hb, hc⟩ := List.mem_flatMap.1 h
  have hlt := b.toNat_lt
  unfold encodeOctet at hc
  split at hc
  · rename_i hplain
    rw [List.mem_singleton.1 hc]
    exact .inl ⟨asciiChar_mem hb hplain.1, hplain.2⟩
  · simp only [escape, List.mem_cons, List.not_mem_nil, or_false] at hc
    rcases hc with rfl | rfl | rfl
    · exact .inr (.inl rfl)
    · exact .inr (.inr (isAlphanumeric_upper (by omega)))
    · exact .inr (.inr (isAlphanumeric_upper (by omega)))

theorem encodeOctet_ne_nil (plain : Char → Bool) (b : UInt8) : encodeOctet plain b ≠ [] := by
  unfold encodeOctet
  split <;> simp [escape]

/-- No text is written with fewer characters than it has. -/
theorem length_le_encode (plain : Char → Bool) (s : String) :
    s.toList.length ≤ (encode plain s).length := by
  have h (bs : List UInt8) : bs.length ≤ (bs.flatMap (encodeOctet plain)).length := by
    induction bs with
    | nil => exact Nat.zero_le _
    | cons b bs ih =>
        have hb := List.length_pos_iff.2 (encodeOctet_ne_nil plain b)
        rw [List.flatMap_cons, List.length_append, List.length_cons]
        omega
  have hs := length_le_utf8ByteSize s
  rw [← length_octets] at hs
  exact Nat.le_trans hs (h (octets s))

theorem encode_cons_ne_nil (plain : Char → Bool) (c : Char) (cs : List Char) :
    encode plain (String.ofList (c :: cs)) ≠ [] := by
  intro hnil
  have hlength := length_le_encode plain (String.ofList (c :: cs))
  rw [hnil] at hlength
  simp at hlength

/-- Characters of ASCII that stand for themselves are written as they are. -/
theorem encode_of_plain {plain : Char → Bool} {cs : List Char}
    (h : ∀ c ∈ cs, c.toNat < 0x80 ∧ plain c = true) :
    encode plain (String.ofList cs) = cs := by
  induction cs with
  | nil => rfl
  | cons c cs ih =>
      obtain ⟨hascii, hplain⟩ := h c (by simp)
      have hoctet : (UInt8.ofNat c.toNat).toNat = c.toNat := by
        rw [UInt8.toNat_ofNat']
        omega
      have hc : encodeOctet plain (UInt8.ofNat c.toNat) = [c] := by
        simp [encodeOctet, asciiChar, hoctet, hascii, hplain]
      have ih := ih fun d hd => h d (by simp [hd])
      unfold encode at ih ⊢
      rw [octets_ofList_cons, List.flatMap_append, ih, utf8EncodeChar_ascii hascii]
      simp [hc]

/-- An octet is read back, whether it stands for itself or is escaped. -/
theorem decode_encodeOctet {plain : Char → Bool} (hplain : plain '%' = false) (b : UInt8)
    (rest : List Char) : decode (encodeOctet plain b ++ rest) = b :: decode rest := by
  have hlt := b.toNat_lt
  unfold encodeOctet
  split
  · rename_i hb
    have hne : asciiChar b ≠ '%' := by
      intro he
      rw [he, hplain] at hb
      cases hb.2
    rw [List.singleton_append, decode, utf8EncodeChar_asciiChar hb.1]
    · rfl
    · intro hi lo rest' he
      exact absurd he hne
  · have hhi := Hex.value?_upper (show b.toNat / 16 < 16 by omega)
    have hlo := Hex.value?_upper (show b.toNat % 16 < 16 by omega)
    have hb : b.toNat / 16 * 16 + b.toNat % 16 = b.toNat := by omega
    simp [escape, decode, octet?, hhi, hlo, hb]

/-- Escapes are undone, octet by octet. -/
theorem decode_encode {plain : Char → Bool} (hplain : plain '%' = false) (s : String) :
    decode (encode plain s) = octets s := by
  unfold encode
  induction octets s with
  | nil => rfl
  | cons b bs ih => rw [List.flatMap_cons, decode_encodeOctet hplain, ih]

/-- **Escapes are undone.** -/
theorem decodeText?_encode {plain : Char → Bool} (hplain : plain '%' = false) (s : String) :
    decodeText? (encode plain s) = some s := by
  rw [decodeText?, decode_encode hplain, ofOctets?_octets]

/-- No two texts are written as one segment. -/
theorem segment_injective {s t : String} (h : segment s = segment t) : s = t := by
  have hs : encode isUnreserved s = encode isUnreserved t := String.ofList_injective h
  have hs := congrArg decodeText? hs
  rw [decodeText?_encode rfl, decodeText?_encode rfl] at hs
  exact Option.some.inj hs

/-- A text of unreserved characters and escapes, each of them a percent sign and two digits. -/
inductive IsSegment : List Char → Prop where
  | nil : IsSegment []
  | plain {c : Char} {cs : List Char} : isUnreserved c = true → IsSegment cs → IsSegment (c :: cs)
  | escape {hi lo : Char} {cs : List Char} : (Hex.value? hi).isSome → (Hex.value? lo).isSome →
      IsSegment cs → IsSegment ('%' :: hi :: lo :: cs)

/-- An octet is written as an unreserved character or as an escape. -/
theorem isSegment_encodeOctet (b : UInt8) {cs : List Char} (h : IsSegment cs) :
    IsSegment (encodeOctet isUnreserved b ++ cs) := by
  have hlt := b.toNat_lt
  unfold encodeOctet
  split
  · rename_i hb
    exact .plain hb.2 h
  · refine .escape ?_ ?_ h
    · rw [Hex.value?_upper (by omega)]
      rfl
    · rw [Hex.value?_upper (by omega)]
      rfl

/-- **What is written as a segment** are unreserved characters and escapes. -/
theorem isSegment_segment (s : String) : IsSegment (segment s).toList := by
  rw [segment, String.toList_ofList, encode]
  induction octets s with
  | nil => exact .nil
  | cons b bs ih =>
      rw [List.flatMap_cons]
      exact isSegment_encodeOctet b ih

@[simp] theorem toList_segment (s : String) : (segment s).toList = encode isUnreserved s :=
  String.toList_ofList

end Percent

/-! ### Forms -/

namespace Form

/-- The characters that stand for themselves once the plus signs of a form are read. -/
def spacedPlain (c : Char) : Bool := c == ' ' || isPlain c

/-- What is written are plain characters, plus signs and escapes. -/
theorem mem_encodeChars {s : String} {c : Char} (h : c ∈ encodeChars s) :
    c = '+' ∨ c = '%' ∨ isPlain c = true := by
  obtain ⟨b, -, hc⟩ := List.mem_flatMap.1 h
  have hlt := b.toNat_lt
  unfold encodeOctet Percent.encodeOctet at hc
  split at hc
  · exact .inl (List.mem_singleton.1 hc)
  · split at hc
    · rename_i hplain
      rw [List.mem_singleton.1 hc]
      exact .inr (.inr hplain.2)
    · simp only [Percent.escape, List.mem_cons, List.not_mem_nil, or_false] at hc
      rcases hc with rfl | rfl | rfl
      · exact .inr (.inl rfl)
      · simp [isPlain, Percent.isAlphanumeric_upper (show b.toNat / 16 < 16 by omega)]
      · simp [isPlain, Percent.isAlphanumeric_upper (show b.toNat % 16 < 16 by omega)]

/-- No name and no value holds a separator. -/
theorem not_separator_of_mem {s : String} {c : Char} (h : c ∈ encodeChars s) :
    c ≠ '&' ∧ c ≠ '=' := by
  rcases mem_encodeChars h with rfl | rfl | hplain
  · decide
  · decide
  · constructor <;> rintro rfl <;> revert hplain <;> decide

/-- With its plus signs read, an octet of a form is an octet between percent escapes. -/
theorem spaced_encodeOctet (b : UInt8) :
    spaced (encodeOctet b) = Percent.encodeOctet spacedPlain b := by
  have hall : ∀ n ∈ List.range 0x100,
      spaced (encodeOctet (UInt8.ofNat n)) = Percent.encodeOctet spacedPlain (UInt8.ofNat n) := by
    decide +kernel
  have hb := hall b.toNat (List.mem_range.2 b.toNat_lt)
  simpa using hb

theorem spaced_encodeChars (s : String) :
    spaced (encodeChars s) = Percent.encode spacedPlain s := by
  unfold encodeChars Percent.encode
  induction octets s with
  | nil => rfl
  | cons b bs ih =>
      rw [List.flatMap_cons, List.flatMap_cons, ← spaced_encodeOctet, ← ih]
      exact List.map_append

/-- **Names and values are read back.** -/
theorem decode?_encodeChars (s : String) : decode? (encodeChars s) = some s := by
  rw [decode?, spaced_encodeChars, Percent.decodeText?_encode (by decide)]

/-- A pair is read back. -/
theorem decodePair?_encodePair (p : String × String) : decodePair? (encodePair p) = some p := by
  have hname : ∀ c ∈ encodeChars p.1, (c != '=') = true := fun c hc => by
    simp [(not_separator_of_mem hc).2]
  have hfront : (encodePair p).takeWhile (· != '=') = encodeChars p.1 := by
    rw [encodePair, List.takeWhile_append_of_pos hname]
    simp
  have hback : (encodePair p).dropWhile (· != '=') = '=' :: encodeChars p.2 := by
    rw [encodePair, List.dropWhile_append_of_pos hname]
    simp
  unfold decodePair?
  rw [hfront, hback]
  simp [decode?_encodeChars]

theorem not_mem_encodePair (p : String × String) : '&' ∉ encodePair p := by
  intro h
  rcases List.mem_append.1 h with h | h
  · exact (not_separator_of_mem h).1 rfl
  · rcases List.mem_cons.1 h with h | h
    · cases h
    · exact (not_separator_of_mem h).1 rfl

theorem splitAll_of_not_mem {sep : Char} {cs : List Char} (h : sep ∉ cs) :
    splitAll sep cs = [cs] := by
  induction cs with
  | nil => rfl
  | cons c cs ih =>
      simp only [List.mem_cons, not_or] at h
      simp [splitAll, ih h.2, Ne.symm h.1]

theorem splitAll_append {sep : Char} {cs : List Char} (h : sep ∉ cs) (rest : List Char) :
    splitAll sep (cs ++ sep :: rest) = cs :: splitAll sep rest := by
  induction cs with
  | nil => simp [splitAll]
  | cons c cs ih =>
      simp only [List.mem_cons, not_or] at h
      simp [splitAll, ih h.2, Ne.symm h.1]

/-- The parts between separators are those that were joined. -/
theorem splitAll_intercalate {sep : Char} {parts : List (List Char)} (hne : parts ≠ [])
    (h : ∀ p ∈ parts, sep ∉ p) : splitAll sep ([sep].intercalate parts) = parts := by
  induction parts with
  | nil => exact absurd rfl hne
  | cons p ps ih =>
      cases ps with
      | nil => simpa using splitAll_of_not_mem (h p (by simp))
      | cons q qs =>
          rw [List.intercalate_cons_cons, List.append_assoc, List.singleton_append,
            splitAll_append (h p (by simp)), ih (by simp) fun r hr => h r (by simp [hr])]

/-- **Pairs are read back in order.** -/
theorem decodePairs?_encodePairs (ps : List (String × String)) :
    decodePairs? (encodePairs ps) = some ps := by
  have hread : ∀ qs : List (String × String), (qs.map encodePair).mapM decodePair? = some qs := by
    intro qs
    induction qs with
    | nil => rfl
    | cons q qs ih => simp [decodePair?_encodePair, ih]
  have hkept : (ps.map encodePair).filter (!·.isEmpty) = ps.map encodePair := by
    rw [List.filter_eq_self]
    intro part hpart
    obtain ⟨p, -, rfl⟩ := List.mem_map.1 hpart
    simp [encodePair]
  unfold decodePairs? encodePairs
  rw [String.toList_ofList]
  cases ps with
  | nil => rfl
  | cons p ps =>
      have hsep : ∀ part ∈ (p :: ps).map encodePair, '&' ∉ part := by
        intro part hpart
        obtain ⟨q, -, rfl⟩ := List.mem_map.1 hpart
        exact not_mem_encodePair q
      rw [splitAll_intercalate (by simp) hsep, hkept, hread]

/-- No two lists of pairs are written alike. -/
theorem encodePairs_injective {ps qs : List (String × String)}
    (h : encodePairs ps = encodePairs qs) : ps = qs := by
  have h := congrArg decodePairs? h
  rw [decodePairs?_encodePairs, decodePairs?_encodePairs] at h
  exact Option.some.inj h

end Form

end MediaTree.Text
