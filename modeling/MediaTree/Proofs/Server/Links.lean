/-
**What streams and artwork are found at.**

The addresses of streams and artwork are made to be handed on, so whatever an id, a user, a device
or a token is made of must end up in its own place and be found there again.  The id is a single
segment, in which nothing separates; what follows behind the question mark is a form, which is read
back pair by pair.  A slash stands behind the segment and none in it, so the segment ends where it
was meant to end, and two addresses of one kind are the same only for the same id.

Main definitions:

* `MediaTree.Session.IsLink` — an address of a host, an id and pairs.

Main results:

* `MediaTree.Session.isLink_audio`, `MediaTree.Session.isLink_video`,
  `MediaTree.Session.isLink_artwork` — the three kinds of addresses;
* `MediaTree.Session.IsLink.unique` — an address is that of one id and one list of pairs;
* `MediaTree.Session.links_keep_their_parts` — **nothing is lost, and nothing runs into anything
  else**.
-/

import MediaTree.Proofs.Url.Extend
import MediaTree.Server.Session

set_option autoImplicit false
set_option relaxedAutoImplicit false

namespace MediaTree.Session

open Text.Percent (IsSegment decodeText? segment)
open Text.Form (decodePairs? encodePairs)

/-! ### Links -/

/-- An address that consists of a host, a word, a segment that stands for an id, what is asked for
there, and pairs. -/
def IsLink (host word what id : String) (ps : List (String × String)) (address : String) : Prop :=
  ∃ seg form,
    address = host ++ "/" ++ word ++ "/" ++ seg ++ "/" ++ what ++ "?" ++ form ∧
      IsSegment seg.toList ∧ decodeText? seg.toList = some id ∧ decodePairs? form = some ps

theorem isLink_of_eq {host word what id address : String} {ps : List (String × String)}
    (h : address = host ++ "/" ++ word ++ "/" ++ segment id ++ "/" ++ what ++ "?" ++
      encodePairs ps) : IsLink host word what id ps address := by
  refine ⟨segment id, encodePairs ps, h, Text.Percent.isSegment_segment id, ?_,
    Text.Form.decodePairs?_encodePairs ps⟩
  rw [Text.Percent.toList_segment]
  exact Text.Percent.decodeText?_encode rfl id

/-- Nothing separates in a segment. -/
theorem not_slash_of_isSegment {cs : List Char} (h : IsSegment cs) :
    ∀ c ∈ cs, (c == '/') = false := by
  have hdigit {c : Char} (hc : (Text.Hex.value? c).isSome = true) : (c == '/') = false := by
    rw [beq_eq_false_iff_ne]
    rintro rfl
    revert hc
    decide
  induction h with
  | nil => exact List.forall_mem_nil _
  | plain hc _ ih =>
      refine List.forall_mem_cons.2 ⟨?_, ih⟩
      rw [beq_eq_false_iff_ne]
      rintro rfl
      revert hc
      decide
  | escape hhi hlo _ ih =>
      exact List.forall_mem_cons.2 ⟨rfl, List.forall_mem_cons.2 ⟨hdigit hhi,
        List.forall_mem_cons.2 ⟨hdigit hlo, ih⟩⟩⟩

/-- **An address is that of one id and of one list of pairs.** -/
theorem IsLink.unique {host word what id id' address address' : String}
    {ps ps' : List (String × String)} (h : IsLink host word what id ps address)
    (h' : IsLink host word what id' ps' address') (heq : address = address') :
    id = id' ∧ ps = ps' := by
  obtain ⟨seg, form, haddress, hseg, hid, hps⟩ := h
  obtain ⟨seg', form', haddress', hseg', hid', hps'⟩ := h'
  rw [haddress, haddress'] at heq
  simp only [String.append_assoc, String.append_right_inj] at heq
  have htext := congrArg String.toList heq
  simp only [String.toList_append] at htext
  -- the slash behind the segment is the first one, so both texts are cut there
  have hcut (seg : String) (hseg : IsSegment seg.toList) (back : List Char) :
      Url.cut (· == '/') (seg.toList ++ ('/' :: back)) = (seg.toList, some back) :=
    Url.cut_append_of_forall (not_slash_of_isSegment hseg) rfl back
  have hslash : "/".toList = ['/'] := rfl
  rw [hslash, List.singleton_append, List.singleton_append] at htext
  have hsame := congrArg (Url.cut (· == '/')) htext
  rw [hcut seg hseg, hcut seg' hseg'] at hsame
  simp only [Prod.mk.injEq, Option.some.injEq, String.toList_inj, List.append_cancel_left_eq]
    at hsame
  obtain ⟨rfl, rfl⟩ := hsame
  rw [hid] at hid'
  rw [hps] at hps'
  exact ⟨Option.some.inj hid', Option.some.inj hps'⟩

/-! ### The three kinds -/

variable (s : Session)

/-- The address of a sound is a link. -/
theorem isLink_audio (id : String) :
    IsLink s.host "Audio" "universal" id s.audioPairs (s.audioAddress id) := by
  refine isLink_of_eq ?_
  rw [← String.toList_inj]
  simp [audioAddress]

/-- The address of a film is a link. -/
theorem isLink_video (id : String) :
    IsLink s.host "Videos" "stream" id s.videoPairs (s.videoAddress id) := by
  refine isLink_of_eq ?_
  rw [← String.toList_inj]
  simp [videoAddress]

/-- The address of an image is a link. -/
theorem isLink_artwork (id image : String) (width : Nat) :
    IsLink s.host "Items" ("Images/" ++ image) id (artworkPairs width)
      (s.artworkAddress id image width) := by
  refine isLink_of_eq ?_
  rw [← String.toList_inj]
  simp [artworkAddress]

/-- A number is read back from its digits. -/
theorem ofDigitChars_toString (n : Nat) : Nat.ofDigitChars 10 (toString n).toList 0 = n := by
  have hdigits : (toString n).toList = Nat.toDigits 10 n := Nat.toList_repr
  rw [hdigits, Nat.ofDigitChars_ten_toDigits]

/-- **Nothing is lost in a link, and nothing runs into anything else.**  A session is opened with the
host that is given, without the slashes at its end, and its links begin with it.  Behind a word that
tells their kind comes a segment of unreserved characters and escapes that reads as the id, then what
is asked for, and behind the question mark a form that reads as the pairs, in order; among these are
user, device and token as they were given, and the width, which is read back from its digits.  So two
links of one kind are the same only for the same id, and for the same width if they have one. -/
theorem links_keep_their_parts {host token user device : String} {s : Session}
    (hs : open? host token user device = .ok s) :
    (∃ n, host.toList = s.host.toList ++ List.replicate n '/') ∧
    s.host.toList.getLast? ≠ some '/' ∧
    (∀ id, IsLink s.host "Audio" "universal" id
      [("UserId", user), ("DeviceId", device), ("MaxStreamingBitrate", "140000000"),
        ("Container", "opus,webm|opus,mp3,aac,m4a|aac,m4b|aac,flac,webma,webm|webma,wav,ogg"),
        ("TranscodingContainer", "ts"), ("TranscodingProtocol", "hls"), ("AudioCodec", "aac"),
        ("api_key", token), ("StartTimeTicks", "0"), ("EnableRedirection", "true"),
        ("EnableRemoteMedia", "false")] (s.links.audio id)) ∧
    (∀ id, IsLink s.host "Videos" "stream" id
      [("static", "true"), ("DeviceId", device), ("api_key", token)] (s.links.video id)) ∧
    (∀ id width, IsLink s.host "Items" "Images/Primary" id
      [("MaxWidth", toString width), ("format", "jpg")] (s.links.artwork id "Primary" width) ∧
      Nat.ofDigitChars 10 (toString width).toList 0 = width) ∧
    (∀ id id', s.links.audio id = s.links.audio id' → id = id') ∧
    (∀ id id', s.links.video id = s.links.video id' → id = id') ∧
    ∀ id id' width width', s.links.artwork id "Primary" width =
      s.links.artwork id' "Primary" width' → id = id' ∧ width = width' := by
  obtain ⟨hhost, rfl, rfl, rfl⟩ := open?_eq_ok_iff.1 hs
  have hbitrate : toString maxBitrate = "140000000" := by decide
  refine ⟨?_, ?_, ?_, ?_, ?_, ?_, ?_, ?_⟩
  · exact hhost ▸ toList_eq_trimSlashes_append host
  · exact hhost ▸ getLast?_trimSlashes host
  · intro id
    have h := s.isLink_audio id
    rwa [audioPairs, hbitrate] at h
  · exact s.isLink_video
  · intro id width
    exact ⟨s.isLink_artwork id "Primary" width, ofDigitChars_toString width⟩
  · intro id id' h
    exact ((s.isLink_audio id).unique (s.isLink_audio id') h).1
  · intro id id' h
    exact ((s.isLink_video id).unique (s.isLink_video id') h).1
  · intro id id' width width' h
    obtain ⟨hid, hps⟩ := (s.isLink_artwork id "Primary" width).unique
      (s.isLink_artwork id' "Primary" width') h
    refine ⟨hid, ?_⟩
    simp only [artworkPairs, List.cons.injEq, Prod.mk.injEq, true_and, and_true] at hps
    rw [← ofDigitChars_toString width, hps, ofDigitChars_toString]

/-- A session in whose parts all kinds of separators stand. -/
def separatedSession : Session where
  host := "https://films.test"
  token := "t&k=+ %"
  user := "u/\u00fc"
  device := "d#1"
  host_ne := by decide
  user_ne := by decide

/-- All separators are found again where they stood, and an id that spells an escape is another one
than what it spells. -/
theorem separators_stay_in_their_parts :
    open? "https://films.test//" "t&k=+ %" "u/\u00fc" "d#1" = .ok separatedSession ∧
    separatedSession.links.video "a/b %2F" =
      "https://films.test/Videos/a%2Fb%20%252F/stream?static=true&DeviceId=d%231" ++
        "&api_key=t%26k%3D%2B+%25" ∧
    IsLink "https://films.test" "Videos" "stream" "a/b %2F"
      [("static", "true"), ("DeviceId", "d#1"), ("api_key", "t&k=+ %")]
      (separatedSession.links.video "a/b %2F") ∧
    separatedSession.links.artwork "a/b" "Primary" 500 ≠
      separatedSession.links.artwork "a%2Fb" "Primary" 500 := by
  have hopen : open? "https://films.test//" "t&k=+ %" "u/\u00fc" "d#1" = .ok separatedSession :=
    open?_eq_ok_iff.2 ⟨by decide, rfl, rfl, rfl⟩
  obtain ⟨-, -, -, hvideo, -, -, -, hartwork⟩ := links_keep_their_parts hopen
  refine ⟨hopen, by decide +kernel, hvideo "a/b %2F", fun h => ?_⟩
  exact absurd (hartwork _ _ _ _ h).1 (by decide)

end MediaTree.Session
