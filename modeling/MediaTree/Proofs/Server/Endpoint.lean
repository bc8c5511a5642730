/-
**Where the segments of a call lead.**

Ids and users are written as single segments, and every text but two is read back as the segment
that it was written as.  The two are one dot and two dots: nothing is escaped in them, and as
segments they do not stand for themselves.  A dot adds nothing to the path, and two dots take back
the segment in front of them; so an item with such an id is asked for at the list of items or at the
user, and the items of such a user are asked for below the users or below the server.

What an id leads to is told here for every id and every user.  The address of a call is then a
function of the call alone, no two items share an address, and none is asked for where folders or
lists are; only the form of the address is kept by names alone.

Main definitions:

* `MediaTree.Session.userPart`, `MediaTree.Session.callPart` — what is left of the segments of a
  user and of a call;
* `MediaTree.Session.reachedAddress` — the text of the address that a call reaches.

Main results:

* `MediaTree.Session.reached_names` — the segments of a call, dot segments carried out;
* `MediaTree.Session.toString_sought` — the text of its address;
* `MediaTree.Session.requests_addressed_exactly` — **the address of every call**, and which items
  are asked for at the address of an item.
-/

import MediaTree.Proofs.Server.Request

set_option autoImplicit false
set_option relaxedAutoImplicit false

namespace MediaTree.Session

open Text.Percent (segment)

/-! ### Segments that are left -/

/-- What is left of the segments of a user when others follow. -/
def userPart (user : String) : List String :=
  if user = "." then ["Users"]
  else if user = ".." then []
  else ["Users", segment user]

/-- What is left of the segments of an item; behind a dot segment that comes last there is a
slash. -/
def itemPart (id : String) : List String :=
  if id = "." then ["Items", ""]
  else if id = ".." then [""]
  else ["Items", segment id]

/-- What is left of the segments that a call has behind those of the user. -/
def callPart : Call → List String
  | .folders => ["Views"]
  | .query _ => ["Items"]
  | .get id => itemPart id

/-- The pairs of a call, behind a question mark if there are any. -/
def queryText (c : Call) : String :=
  let text := Text.Form.encodePairs ((pairs c).getD [])
  if text = "" then "" else "?" ++ text

/-- The text of the address that a call reaches. -/
def reachedAddress (s : Session) (c : Call) : String :=
  s.host ++ (Url.Path.segments (userPart s.user ++ callPart c)).text ++ queryText c

/-! ### Carrying out the segments of a call -/

/-- What the words of addresses and the dots do to a path. -/
theorem of_words :
    Url.Segment.of (segment "Users").toList = .down "Users" ∧
      Url.Segment.of (segment "Views").toList = .down "Views" ∧
      Url.Segment.of (segment "Items").toList = .down "Items" ∧
      Url.Segment.of (segment ".").toList = .here ∧
      Url.Segment.of (segment "..").toList = .up := by
  decide

/-- None of the words is a drive, so dots lead out of it. -/
theorem up_words (path : List String) :
    Url.up ("Users" :: path) = path ∧ Url.up ("Items" :: path) = path := by
  have husers : Url.staysInside "Users" = false := by decide
  have hitems : Url.staysInside "Items" = false := by decide
  simp [Url.up, husers, hitems]

/-- Behind the segments of a user that is a dot segment, less of them is left. -/
theorem walk_user (path : List String) (user : String) :
    Url.walk path [(segment "Users").toList, (segment user).toList] =
      (userPart user).reverse ++ path := by
  obtain ⟨husers, -, -, hdot, hdots⟩ := of_words
  have hfirst : Url.step path (segment "Users").toList = "Users" :: path := by
    rw [Url.step, husers]
  rw [Url.walk, List.foldl_cons, List.foldl_cons, List.foldl_nil, hfirst, Url.step, userPart]
  rcases Url.name_cases user with rfl | rfl | hname
  · rw [hdot, if_pos rfl]
    rfl
  · rw [hdots, if_neg (by decide), if_pos rfl]
    exact (up_words path).1
  · rw [Url.Segment.of_segment hname, if_neg hname.1, if_neg hname.2]
    simp only [List.reverse_cons, List.reverse_nil, List.nil_append, List.cons_append]

/-- An item comes last, so a dot segment leaves a slash behind it. -/
theorem addSegments_item (path : List String) (id : String) :
    Url.addSegments path [(segment "Items").toList, (segment id).toList] =
      (itemPart id).reverse ++ path := by
  obtain ⟨-, -, hitems, hdot, hdots⟩ := of_words
  have hfirst : Url.addSegments path [(segment "Items").toList, (segment id).toList] =
      Url.addSegments (Url.walk path [(segment "Items").toList]) [(segment id).toList] :=
    Url.addSegments_append path [(segment "Items").toList] (List.cons_ne_nil _ _)
  rw [hfirst, Url.walk, List.foldl_cons, List.foldl_nil, Url.step, hitems, Url.addSegments,
    itemPart]
  rcases Url.name_cases id with rfl | rfl | hname
  · rw [hdot, if_pos rfl]
    rfl
  · rw [hdots, if_neg (by decide), if_pos rfl]
    exact congrArg ("" :: ·) (up_words path).2
  · rw [Url.Segment.of_segment hname, if_neg hname.1, if_neg hname.2]
    simp only [List.reverse_cons, List.reverse_nil, List.nil_append, List.cons_append]

/-- **The segments of a call, dot segments carried out.**  None of them leads in front of the
server's own path. -/
theorem reached_names (s : Session) (front : List String) (c : Call) :
    Url.reached front (s.names c) = front ++ (userPart s.user ++ callPart c) := by
  obtain ⟨-, hviews, hitems, -, -⟩ := of_words
  have hsplit (rest : List (List Char)) (hrest : rest ≠ []) :
      Url.addSegments front.reverse
          ([(segment "Users").toList, (segment s.user).toList] ++ rest) =
        Url.addSegments ((userPart s.user).reverse ++ front.reverse) rest := by
    rw [Url.addSegments_append _ _ hrest, walk_user]
  have hword (path : List String) {cs : List Char} {n : String}
      (h : Url.Segment.of cs = .down n) : Url.addSegments path [cs] = n :: path := by
    rw [Url.addSegments, h]
  rw [Url.reached]
  cases c with
  | folders =>
      have h := hsplit [(segment "Views").toList] (by simp)
      rw [hword _ hviews] at h
      simpa [names, callPart] using congrArg List.reverse h
  | query q =>
      have h := hsplit [(segment "Items").toList] (by simp)
      rw [hword _ hitems] at h
      simpa [names, callPart] using congrArg List.reverse h
  | get id =>
      have h := hsplit [(segment "Items").toList, (segment id).toList] (by simp)
      rw [addSegments_item] at h
      simpa [names, callPart] using congrArg List.reverse h

/-! ### Texts of addresses -/

variable {s : Session} {u : Url}

/-- A call changes nothing of the address of the server but its path and what stands behind it. -/
theorem sought_parts (s : Session) (u : Url) (c : Call) :
    (s.sought u c).scheme = u.scheme ∧ (s.sought u c).host = u.host ∧
      (s.sought u c).port = u.port ∧
      (s.sought u c).path = .segments (u.front ++ (userPart s.user ++ callPart c)) := by
  have hpath : (u.behind (s.names c)).path =
      .segments (u.front ++ (userPart s.user ++ callPart c)) := by
    rw [Url.behind, reached_names]
  cases c <;> exact ⟨rfl, rfl, rfl, hpath⟩

/-- Behind the path stand the pairs of the call. -/
theorem tailText_sought (hs : Url.IsAddress s.host u) (c : Call) :
    (s.sought u c).tailText = queryText c := by
  cases c with
  | query q =>
      have hquery : (u.behind (s.names (.query q))).query = none := hs.query
      have hfragment : (u.behind (s.names (.query q))).fragment = none := hs.fragment
      show ((u.behind (s.names (.query q))).withPairs q.params).tailText = _
      by_cases hempty : Text.Form.encodePairs q.params = ""
      · simp [Url.tailText, Url.withPairs, queryText, pairs, hquery, hfragment, hempty]
      · simp [Url.tailText, Url.withPairs, queryText, pairs, hquery, hfragment, hempty]
  | _ => exact hs.tailText_eq

/-- **The text of the address that a call seeks.** -/
theorem toString_sought (hs : Url.IsNormal s.host u) (c : Call) :
    (s.sought u c).toString = s.reachedAddress c := by
  obtain ⟨host, -, hhost, -⟩ := hs.parts
  obtain ⟨hscheme, hsame, hport, hpath⟩ := s.sought_parts u c
  have hfront (ss : List String) : (s.sought u c).textWith ss = u.textWith ss := by
    simp only [Url.textWith, Url.authorityText, hscheme, hsame, hport]
  rw [Url.toString_eq (hsame.trans hhost) hpath, tailText_sought hs.toIsAddress, hfront,
    Url.textWith_append, reachedAddress, ← Url.base, hs.base_eq]

/-- Whether a call can be sent depends on host and length of that address. -/
theorem isSendable_sought (hs : Url.IsNormal s.host u) (c : Call) :
    Http.isSendable (s.sought u c) = true ↔ Http.Reaches u (s.reachedAddress c) := by
  obtain ⟨hscheme, hhost, -⟩ := s.sought_parts u c
  rw [← toString_sought hs]
  exact Http.isSendable_iff hs.web hscheme hhost

/-! ### Different addresses -/

/-- What stands behind the user in the address of a call. -/
def callText (c : Call) : String := (Url.Path.segments (callPart c)).text ++ queryText c

theorem reachedAddress_eq (s : Session) (c : Call) :
    s.reachedAddress c = s.host ++ (Url.Path.segments (userPart s.user)).text ++ callText c := by
  rw [reachedAddress, callText, Url.text_append]
  simp only [String.append_assoc]

/-- The addresses of two calls differ where they differ behind the user. -/
theorem reachedAddress_inj {c d : Call} :
    s.reachedAddress c = s.reachedAddress d ↔ callText c = callText d := by
  rw [reachedAddress_eq, reachedAddress_eq, String.append_right_inj]

/-- Behind the user an item has its segment on the list of items, or the list with a slash behind it,
or nothing but the slash. -/
theorem callText_get (id : String) :
    callText (.get id) =
      if id = "." then "/Items/" else if id = ".." then "/" else "/Items/" ++ segment id := by
  have htail : queryText (.get id) = "" := rfl
  rw [callText, htail, callPart, itemPart, String.append_empty]
  split
  · rfl
  · split
    · rfl
    · rw [← String.toList_inj, Url.toList_text]
      simp

/-- A user is kept as written exactly if it is a name; dots leave less of it. -/
theorem userText (user : String) :
    (Url.IsName user →
      (Url.Path.segments (userPart user)).text = "/Users/" ++ segment user) ∧
    (¬ Url.IsName user →
      (Url.Path.segments (userPart user)).text.length < ("/Users/" ++ segment user).length) := by
  constructor
  · intro h
    rw [userPart, if_neg h.1, if_neg h.2, ← String.toList_inj, Url.toList_text]
    simp
  · intro h
    rcases Url.name_cases user with rfl | rfl | hname
    · decide
    · decide
    · exact absurd hname h

/-- An item is kept as written exactly if its id is a name; dots leave less of it. -/
theorem itemText (id : String) :
    (Url.IsName id → callText (.get id) = "/Items/" ++ segment id) ∧
    (¬ Url.IsName id → (callText (.get id)).length < ("/Items/" ++ segment id).length) := by
  rw [callText_get]
  constructor
  · intro h
    rw [if_neg h.1, if_neg h.2]
  · intro h
    rcases Url.name_cases id with rfl | rfl | hname
    · decide
    · decide
    · exact absurd hname h

/-- **An item is asked for at the address of an item** exactly if user and id are names. -/
theorem reachedAddress_item_iff (s : Session) (id : String) :
    s.reachedAddress (.get id) =
        s.host ++ "/Users/" ++ segment s.user ++ "/Items/" ++ segment id ↔
      Url.IsName s.user ∧ Url.IsName id := by
  obtain ⟨hkept, hshort⟩ := userText s.user
  obtain ⟨hkept', hshort'⟩ := itemText id
  have hassoc : s.host ++ "/Users/" ++ segment s.user ++ "/Items/" ++ segment id =
      s.host ++ ("/Users/" ++ segment s.user ++ ("/Items/" ++ segment id)) := by
    simp only [String.append_assoc]
  rw [reachedAddress_eq, String.append_assoc, hassoc, String.append_right_inj]
  constructor
  · intro h
    -- what is left is never longer than what was written, so neither part may be shorter
    have hlength := congrArg String.length h
    rw [String.length_append, String.length_append] at hlength
    by_cases huser : Url.IsName s.user
    · by_cases hid : Url.IsName id
      · exact ⟨huser, hid⟩
      · have hid := hshort' hid
        rw [hkept huser] at hlength
        omega
    · have huser := hshort huser
      by_cases hid : Url.IsName id
      · rw [hkept' hid] at hlength
        omega
      · have hid := hshort' hid
        omega
  · rintro ⟨huser, hid⟩
    rw [hkept huser, hkept' hid]

/-- **No two items share an address.** -/
theorem callText_item_inj {id id' : String} (hid : id ≠ "") (hid' : id' ≠ "")
    (h : callText (.get id) = callText (.get id')) : id = id' := by
  have hempty {n : String} (hn : n ≠ "") : "/Items/" ≠ "/Items/" ++ segment n := by
    intro heq
    have hnil : segment "" = segment n :=
      (String.append_right_inj "/Items/").1 (String.append_empty.trans heq)
    exact hn (Text.Percent.segment_injective hnil).symm
  have hslash (t : String) : "/" ≠ "/Items/" ++ t := by
    intro heq
    have heq := congrArg String.toList heq
    simp at heq
  have hhere : callText (.get ".") = "/Items/" := callText_get "."
  have hup : callText (.get "..") = "/" := callText_get ".."
  have hdown {n : String} (hn : Url.IsName n) : callText (.get n) = "/Items/" ++ segment n :=
    (itemText n).1 hn
  rcases Url.name_cases id with rfl | rfl | hname
  · rcases Url.name_cases id' with rfl | rfl | hname'
    · rfl
    · rw [hhere, hup] at h
      exact absurd h (by decide)
    · rw [hhere, hdown hname'] at h
      exact absurd h (hempty hid')
  · rcases Url.name_cases id' with rfl | rfl | hname'
    · rw [hhere, hup] at h
      exact absurd h (by decide)
    · rfl
    · rw [hup, hdown hname'] at h
      exact absurd h (hslash _)
  · rcases Url.name_cases id' with rfl | rfl | hname'
    · rw [hhere, hdown hname] at h
      exact absurd h.symm (hempty hid)
    · rw [hup, hdown hname] at h
      exact absurd h.symm (hslash _)
    · rw [hdown hname, hdown hname'] at h
      exact Text.Percent.segment_injective ((String.append_right_inj "/Items/").1 h)

/-- No item is asked for where folders or lists are. -/
theorem callText_get_ne (id : String) {c : Call} (hc : ∀ id', c ≠ .get id') :
    callText (.get id) ≠ callText c := by
  have hitem : callText (.get id) = "/" ∨ ∃ t, callText (.get id) = "/Items/" ++ t := by
    rcases Url.name_cases id with rfl | rfl | hname
    · exact .inr ⟨"", callText_get "."⟩
    · exact .inl (callText_get "..")
    · exact .inr ⟨segment id, (itemText id).1 hname⟩
  cases c with
  | folders =>
      have hviews : callText .folders = "/Views" := by decide
      rw [hviews]
      rcases hitem with h | ⟨t, h⟩
      · rw [h]
        decide
      · rw [h]
        intro heq
        have heq := congrArg String.toList heq
        simp at heq
  | query q =>
      have hlist : callText (.query q) = "/Items" ++ queryText (.query q) := rfl
      have hmark : queryText (.query q) = "" ∨ ∃ t, queryText (.query q) = "?" ++ t := by
        rw [queryText]
        split
        · exact .inl rfl
        · exact .inr ⟨_, rfl⟩
      intro heq
      have heq := congrArg String.toList heq
      rw [hlist] at heq
      rcases hitem with h | ⟨t, h⟩ <;> rcases hmark with h' | ⟨t', h'⟩ <;> rw [h, h'] at heq <;>
        simp at heq
  | get id' => exact absurd rfl (hc id')

/-! ### All calls -/

/-- **The address of every call.**  A session whose host is in normal form sends one request for
each call, over whatever link, to the host, the segments that are left of user and call, and the
pairs; or it says which address cannot be sent, or that its token is no header.  An item is asked for
at the address that user and id are written into exactly if both are names: dots are not escaped,
and are carried out.  Still no two items share an address, and none has that of the folders or of a
list. -/
theorem requests_addressed_exactly (s : Session) (u : Url) (hs : Url.IsNormal s.host u) :
    (∀ c link,
      (Http.isHeaderText s.token = true → Http.Reaches u (s.reachedAddress c) →
        ∃ r, s.perform link c = ⟨[.logged (s.announcement c), .sent r], outcome c r (link r)⟩ ∧
          r.url.toString = s.reachedAddress c ∧ r.url.origin = u.origin ∧
          r.url.path = .segments (u.front ++ (userPart s.user ++ callPart c))) ∧
      (Http.isHeaderText s.token = true → ¬ Http.Reaches u (s.reachedAddress c) →
        s.perform link c = ⟨[.logged (s.announcement c)],
          .error (.network ("builder error for url (" ++ s.reachedAddress c ++ ")"))⟩) ∧
      (Http.isHeaderText s.token = false →
        s.perform link c = ⟨[.logged (s.announcement c)],
          .error (.invalidHeader "failed to parse header value")⟩)) ∧
    (∀ id, s.reachedAddress (.get id) =
        s.host ++ "/Users/" ++ segment s.user ++ "/Items/" ++ segment id ↔
      Url.IsName s.user ∧ Url.IsName id) ∧
    (∀ id id', id ≠ "" → id' ≠ "" →
      s.reachedAddress (.get id) = s.reachedAddress (.get id') → id = id') ∧
    ∀ id c, (∀ id', c ≠ .get id') → s.reachedAddress (.get id) ≠ s.reachedAddress c := by
  refine ⟨fun c link => ⟨?_, ?_, ?_⟩, s.reachedAddress_item_iff, ?_, ?_⟩
  · intro ht hreach
    obtain ⟨hscheme, hhost, hport, hpath⟩ := s.sought_parts u c
    have hrequest := request_of_locates hs.locates ht c
    rw [if_pos ((isSendable_sought hs c).2 hreach)] at hrequest
    refine ⟨_, perform_of_ok hrequest link, toString_sought hs c, ?_, hpath⟩
    rw [Url.origin, Url.origin, hscheme, hhost, hport]
  · intro ht hreach
    have hrequest := request_of_locates hs.locates ht c
    rw [if_neg fun h => hreach ((isSendable_sought hs c).1 h), Http.unaskable,
      toString_sought hs] at hrequest
    exact perform_of_error hrequest link
  · intro ht
    exact perform_of_error (request_of_token ht c) link
  · intro id id' hid hid' h
    exact callText_item_inj hid hid' (reachedAddress_inj.1 h)
  · intro id c hc h
    exact callText_get_ne id hc (reachedAddress_inj.1 h)

/-- A session of a guest. -/
def guestSession : Session where
  host := "http://jf.test"
  token := "secret"
  user := "u1"
  device := "d1"
  host_ne := by decide
  user_ne := by decide

/-- The address of its server. -/
def guestUrl : Url where
  scheme := "http"
  host := some "jf.test"
  port := none
  path := .segments [""]
  query := none
  fragment := none

theorem isNormal_guest : Url.IsNormal guestSession.host guestUrl where
  parsed := by rfl
  web := by decide
  query := rfl
  fragment := rfl
  text := by decide +kernel
  noSlash := by decide

/-- An id with a slash is one segment; an item of two dots is asked for at its user, which is not the
address that it is written into. -/
theorem dots_lead_to_user :
    (∃ r, (guestSession.perform .down (.get "a/..")).events =
        [.logged (guestSession.announcement (.get "a/..")), .sent r] ∧
      r.url.toString = "http://jf.test/Users/u1/Items/a%2F..") ∧
    (∃ r, (guestSession.perform .down (.get "..")).events =
        [.logged (guestSession.announcement (.get "..")), .sent r] ∧
      r.url.toString = "http://jf.test/Users/u1/") ∧
    guestSession.reachedAddress (.get "..") ≠
      guestSession.host ++ "/Users/" ++ segment guestSession.user ++ "/Items/" ++ segment ".." := by
  obtain ⟨hperform, hitem, -⟩ :=
    requests_addressed_exactly guestSession guestUrl isNormal_guest
  have htoken : Http.isHeaderText guestSession.token = true := by decide +kernel
  refine ⟨?_, ?_, ?_⟩
  · obtain ⟨r, hr, htext, -⟩ :=
      (hperform (.get "a/..") .down).1 htoken ⟨by decide, by decide +kernel⟩
    exact ⟨r, by rw [hr], htext.trans (by decide +kernel)⟩
  · obtain ⟨r, hr, htext, -⟩ := (hperform (.get "..") .down).1 htoken ⟨by decide, by decide +kernel⟩
    exact ⟨r, by rw [hr], htext.trans (by decide +kernel)⟩
  · intro h
    exact ((hitem "..").1 h).2.2 rfl

end MediaTree.Session
