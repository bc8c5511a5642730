/-
**Sessions on a server.**

A session is what is needed to ask a server on behalf of a user: where it is, the token that lets
one in, the user, and the device that asks.  It knows the addresses of the user's folders, items
and single items, of streams and of artwork.  In paths, ids and names are single segments; behind
the question mark they are form-encoded.

Main definitions:

* `MediaTree.Session` — a session, opened by `Session.open?`;
* `MediaTree.Session.links` — the addresses of streams and artwork;
* `MediaTree.Session.request` — the request for a call;
* `MediaTree.Session.toCatalog` — the catalog that a session makes of a server behind a link.
-/

import MediaTree.Catalog.Call
import MediaTree.Catalog.Codec

set_option autoImplicit false
set_option relaxedAutoImplicit false

namespace MediaTree

/-- A text without the slashes at its end. -/
def trimSlashes (s : String) : String :=
  String.ofList (s.toList.reverse.dropWhile (· == '/')).reverse

/-- Nothing but slashes at the end is taken away. -/
theorem toList_eq_trimSlashes_append (s : String) :
    ∃ n, s.toList = (trimSlashes s).toList ++ List.replicate n '/' := by
  have hslashes : ∀ c ∈ s.toList.reverse.takeWhile (· == '/'), c = '/' := fun c hc => by
    simpa using List.all_eq_true.1 List.all_takeWhile c hc
  refine ⟨(s.toList.reverse.takeWhile (· == '/')).length, ?_⟩
  calc s.toList
    _ = (s.toList.reverse.takeWhile (· == '/') ++ s.toList.reverse.dropWhile (· == '/')).reverse := by
      rw [List.takeWhile_append_dropWhile, List.reverse_reverse]
    _ = (trimSlashes s).toList ++ (s.toList.reverse.takeWhile (· == '/')).reverse := by
      rw [List.reverse_append, trimSlashes, String.toList_ofList]
    _ = _ := by
      rw [List.eq_replicate_of_mem hslashes, List.reverse_replicate, List.length_replicate]

/-- No slash is left at the end. -/
theorem getLast?_trimSlashes (s : String) : (trimSlashes s).toList.getLast? ≠ some '/' := by
  rw [trimSlashes, String.toList_ofList, List.getLast?_reverse]
  intro hslash
  have hfirst := List.head?_dropWhile_not (· == '/') s.toList.reverse
  rw [hslash] at hfirst
  simp at hfirst

/-- What is needed to ask a server. -/
structure Session where
  /-- Where the server is, without a slash at the end. -/
  host : String
  token : String
  user : String
  device : String
  host_ne : host ≠ ""
  user_ne : user ≠ ""

namespace Session

/-- Opens a session; it needs a host and a user. -/
def open? (host token user device : String) : Except CatalogError Session :=
  if hh : trimSlashes host ≠ "" then
    if hu : user ≠ "" then .ok ⟨trimSlashes host, token, user, device, hh, hu⟩
    else .error (.invalidConfig "Missing user_id")
  else .error (.invalidConfig "Missing host")

/-- A session is opened with what is given, the slashes at the end of its host apart. -/
theorem open?_eq_ok_iff {host token user device : String} {s : Session} :
    open? host token user device = .ok s ↔
      s.host = trimSlashes host ∧ s.token = token ∧ s.user = user ∧ s.device = device := by
  unfold open?
  constructor
  · intro h
    split at h
    · split at h
      · cases h
        exact ⟨rfl, rfl, rfl, rfl⟩
      · cases h
    · cases h
  · rintro ⟨hhost, rfl, rfl, rfl⟩
    rw [dif_pos (hhost ▸ s.host_ne), dif_pos s.user_ne]
    obtain ⟨_, _, _, _, _, _⟩ := s
    cases hhost
    rfl

/-! ### Addresses -/

/-- An address below the user. -/
def userAddress (s : Session) (suffix : String) : String :=
  s.host ++ "/Users/" ++ Text.Percent.segment s.user ++ suffix

/-- The containers in which sound is taken as it is stored. -/
def audioContainers : String :=
  "opus,webm|opus,mp3,aac,m4a|aac,m4b|aac,flac,webma,webm|webma,wav,ogg"

/-- The bit rate up to which sound is taken as it is stored. -/
def maxBitrate : Nat := 140000000

/-- The pairs of the address of a sound. -/
def audioPairs (s : Session) : List (String × String) := [
  ("UserId", s.user), ("DeviceId", s.device), ("MaxStreamingBitrate", toString maxBitrate),
  ("Container", audioContainers), ("TranscodingContainer", "ts"),
  ("TranscodingProtocol", "hls"), ("AudioCodec", "aac"), ("api_key", s.token),
  ("StartTimeTicks", "0"), ("EnableRedirection", "true"), ("EnableRemoteMedia", "false")]

/-- The address of a sound; the server decides how to send it. -/
def audioAddress (s : Session) (id : String) : String :=
  s.host ++ "/Audio/" ++ Text.Percent.segment id ++ "/universal?"
    ++ Text.Form.encodePairs s.audioPairs

/-- The pairs of the address of a film. -/
def videoPairs (s : Session) : List (String × String) :=
  [("static", "true"), ("DeviceId", s.device), ("api_key", s.token)]

/-- The address of a film as it is stored. -/
def videoAddress (s : Session) (id : String) : String :=
  s.host ++ "/Videos/" ++ Text.Percent.segment id ++ "/stream?"
    ++ Text.Form.encodePairs s.videoPairs

/-- The pairs of the address of an image. -/
def artworkPairs (width : Nat) : List (String × String) :=
  [("MaxWidth", toString width), ("format", "jpg")]

/-- The address of an image, scaled to a width. -/
def artworkAddress (s : Session) (id image : String) (width : Nat) : String :=
  s.host ++ "/Items/" ++ Text.Percent.segment id ++ "/Images/" ++ image ++ "?"
    ++ Text.Form.encodePairs (artworkPairs width)

/-- The addresses of streams and artwork. -/
def links (s : Session) : Links where
  base := s.host
  audio := s.audioAddress
  video := s.videoAddress
  artwork := s.artworkAddress

/-! ### Calls -/

/-- The address that a call asks, its pairs apart. -/
def address (s : Session) : Call → String
  | .folders => s.userAddress "/Views"
  | .query _ => s.userAddress "/Items"
  | .get id => s.userAddress ("/Items/" ++ Text.Percent.segment id)

/-- The pairs of a call. -/
def pairs : Call → Option (List (String × String))
  | .query q => some q.params
  | _ => none

/-- The request for a call, if one can be made. -/
def request (s : Session) (c : Call) : Except CatalogError Http.Request :=
  Http.prepare s.token (s.address c) (pairs c)

/-- The item that a call is about, if it is about a single one. -/
def itemOf : Call → Option String
  | .get id => some id
  | _ => none

/-- Reads the record that answers a call. -/
def decodeAnswer : (c : Call) → ByteArray → Except Json.Problem c.Answer
  | .folders, b => Json.decodeBytes ItemList.decode b
  | .query _, b => Json.decodeBytes ItemList.decode b
  | .get _, b => Json.decodeBytes Item.decode b

/-- Pairs as they are shown: quoted, and between brackets. -/
def shownPairs (pairs : List (String × String)) : String :=
  "[" ++ ", ".intercalate (pairs.map fun (name, value) =>
    "(" ++ Text.quoted name ++ ", " ++ Text.quoted value ++ ")") ++ "]"

/-- What a session says when it makes a call: the address that it asks, its pairs apart. -/
def announcement (s : Session) (c : Call) : Log.Entry :=
  let message := match c with
    | .folders => "Fetching Jellyfin media folders"
    | .query _ => "Querying Jellyfin items"
    | .get _ => "Fetching Jellyfin item"
  let shown := match pairs c with
    | some ps => [("params", .shown (shownPairs ps))]
    | none => []
  ⟨.debug, "jellyfin_client::client", message, ("url", .shown (s.address c)) :: shown⟩

/-- The outcome of a request that met a reply. -/
def outcome (c : Call) (r : Http.Request) (reply : Http.Reply) :
    Except CatalogError c.Answer := do
  let body ← Http.receive (itemOf c) r reply
  match decodeAnswer c body with
  | .ok a => .ok a
  | .error p => .error (.parse p.message)

/-- Makes a call over a link. -/
def perform (s : Session) (link : Http.Link) (c : Call) : Handled c :=
  match s.request c with
  | .error e => ⟨[.logged (s.announcement c)], .error e⟩
  | .ok r => ⟨[.logged (s.announcement c), .sent r], outcome c r (link r)⟩

/-- The catalog that a session makes of the server behind a link. -/
def toCatalog (s : Session) (link : Http.Link) : Catalog := ⟨s.links, s.perform link⟩

end Session

end MediaTree
