/-
**Whom a session asks.**

A session shows its token to whoever it asks.  Users, items, parents and kinds come from elsewhere,
so none of them may choose who that is.  The address of a call is the host, the word for users, and
segments; therefore all calls of all users on one host have one addressee, or none of them has one.
Besides the addressee, only the length of an address decides whether it is asked: one that is too
long is refused, and that can be brought about by an id.

Main definitions:

* `MediaTree.Session.addressee?` — who is asked by all calls of a session;
* `MediaTree.Session.Fits` — the address of a call is not too long;
* `MediaTree.Session.sent` — what is sent with given credentials for a call, and
  `MediaTree.Session.FitsFor`, its address is not too long.

Main results:

* `MediaTree.Session.asked?_address` — every call asks the addressee;
* `MediaTree.Session.url?_isSome_iff` — a call has an address exactly if there is an addressee that
  can be asked, and the address is not too long;
* `MediaTree.Session.identifiers_keep_addressee` — **no identifier changes who gets the token**.
-/

import MediaTree.Proofs.Server.Classification
import MediaTree.Proofs.Server.Refinement
import MediaTree.Proofs.Url.Origin

set_option autoImplicit false
set_option relaxedAutoImplicit false

namespace MediaTree

/-- An addressee can be asked if it has a name without quotes and braces. -/
structure Url.Origin.IsAskable (o : Url.Origin) : Prop where
  named : o.host.getD "" ≠ ""
  plain : (o.host.getD "").toList.any ['"', '\x60', '\x7b', '\x7d'].contains = false

namespace Session

/-! ### The addressee -/

/-- Who is asked by all calls of a session. -/
def addressee? (s : Session) : Option Url.Origin := Url.asked? (s.host ++ "/Users/")

/-- **Every call asks the addressee**, whatever its user and its ids are. -/
theorem asked?_address (s : Session) (c : Call) : Url.asked? (s.address c) = s.addressee? := by
  have hword : String.ofList (Url.slashed ["Users", ""]) = "/Users/" := by decide
  have hnames : ∃ names ≠ [], s.names c = "Users" :: names := by
    cases c <;> exact ⟨_, List.cons_ne_nil _ _, rfl⟩
  obtain ⟨names, hne, hnames⟩ := hnames
  rw [address_eq, hnames, addressee?, ← hword]
  exact Url.asked?_slashed s.host (by decide) hne (by simp)

/-- The address that is read for a call, with the pairs of the call. -/
def read? (s : Session) (c : Call) : Option Url :=
  (Url.parse (s.address c)).toOption.map fun u => (pairs c).elim u u.withPairs

/-- The address of a call is not too long. -/
def Fits (s : Session) (c : Call) : Prop := ∀ u ∈ s.read? c, u.toString.utf8ByteSize ≤ 65534

/-- Pairs do not change who is asked. -/
theorem origin_elim (u : Url) (c : Call) : ((pairs c).elim u u.withPairs).origin = u.origin := by
  cases c <;> rfl

/-- Only addresses of the web are sent. -/
theorem isWeb_of_isSendable {u v : Url} (h : Http.isSendable v = true)
    (horigin : v.origin = u.origin) : u.IsWeb := by
  have hscheme : v.scheme = u.scheme := congrArg Url.Origin.scheme horigin
  simp only [Http.isSendable, Bool.and_eq_true, Bool.or_eq_true, beq_iff_eq] at h
  rw [Url.IsWeb, ← hscheme]
  exact h.1.1

variable {s : Session} {c : Call}

/-- What is sent goes to the addressee. -/
theorem addressee?_of_url? {u : Url} (h : s.url? c = some u) : s.addressee? = some u.origin := by
  obtain ⟨v, hv, -, hsend, rfl⟩ := url?_eq_some_iff.1 h
  have horigin := origin_elim v c
  rw [← asked?_address s c, Url.asked?_eq_some_iff]
  exact ⟨v, hv, isWeb_of_isSendable hsend horigin, horigin.symm⟩

/-- **A call has an address** exactly if there is an addressee that can be asked, and the address is
not too long. -/
theorem url?_isSome_iff (s : Session) (c : Call) :
    (s.url? c).isSome = true ↔ (∃ o ∈ s.addressee?, o.IsAskable) ∧ s.Fits c := by
  rw [← asked?_address s c, Option.isSome_iff_exists]
  have hfits {u : Url} (hparse : Url.parse (s.address c) = .ok u) :
      s.Fits c ↔ ((pairs c).elim u u.withPairs).toString.utf8ByteSize ≤ Http.maxAddress := by
    simp [Fits, read?, hparse, Except.toOption, Http.maxAddress]
  have hsendable {u : Url} (hweb : u.IsWeb) :
      Http.isSendable ((pairs c).elim u u.withPairs) = true ↔
        Http.Reaches u ((pairs c).elim u u.withPairs).toString :=
    Http.isSendable_iff hweb (congrArg Url.Origin.scheme (origin_elim u c))
      (congrArg Url.Origin.host (origin_elim u c))
  constructor
  · rintro ⟨v, hurl⟩
    obtain ⟨u, hparse, hhost, hsend, rfl⟩ := url?_eq_some_iff.1 hurl
    have hweb := isWeb_of_isSendable hsend (origin_elim u c)
    have hreach := (hsendable hweb).1 hsend
    exact ⟨⟨u.origin, (Url.asked?_eq_some_iff _ _).2 ⟨u, hparse, hweb, rfl⟩, hhost, hreach.host⟩,
      (hfits hparse).2 hreach.length⟩
  · rintro ⟨⟨o, ho, haskable⟩, hlength⟩
    obtain ⟨u, hparse, hweb, rfl⟩ := (Url.asked?_eq_some_iff _ o).1 ho
    have hsend := (hsendable hweb).2 ⟨haskable.plain, (hfits hparse).1 hlength⟩
    exact ⟨_, url?_eq_some_iff.2 ⟨u, hparse, haskable.named, hsend, rfl⟩⟩

/-! ### What is sent -/

/-- What is sent with given credentials for a call over a link. -/
def sent (host token user device : String) (link : Http.Link) (c : Call) : List Http.Request :=
  match open? host token user device with
  | .ok s => Event.requests (s.perform link c).events
  | .error _ => []

/-- The address of a call is not too long for a session with given credentials. -/
def FitsFor (host token user device : String) (c : Call) : Prop :=
  ∀ s, open? host token user device = .ok s → s.Fits c

/-- A request is made if the token can be shown and there is an address to show it at. -/
theorem toOption_request (s : Session) (c : Call) :
    (s.request c).toOption =
      if Http.isHeaderText s.token then (s.url? c).map (⟨·, s.token, "application/json"⟩)
      else none := by
  cases htoken : Http.isHeaderText s.token with
  | false =>
      rw [request_of_token htoken]
      rfl
  | true =>
      cases hurl : s.url? c with
      | some u =>
          rw [request_of_url? htoken hurl]
          rfl
      | none =>
          obtain ⟨text, hrequest⟩ := request_of_no_url htoken hurl
          rw [hrequest]
          rfl

variable {host token user device : String}

/-- At most one request is sent, and what becomes of it does not matter. -/
theorem sent_of_open {s : Session} (h : open? host token user device = .ok s) (link : Http.Link)
    (c : Call) :
    sent host token user device link c =
      (if Http.isHeaderText token then (s.url? c).map (⟨·, token, "application/json"⟩)
        else none).toList := by
  rw [sent, h, ← (open?_eq_ok_iff.1 h).2.1, ← toOption_request]
  exact requests_perform s link c

/-- What is sent shows the token at the address of the call. -/
theorem of_mem_sent {link : Http.Link} {c : Call} {r : Http.Request}
    (h : r ∈ sent host token user device link c) :
    ∃ s, open? host token user device = .ok s ∧ s.url? c = some r.url ∧ r.token = token := by
  cases hopen : open? host token user device with
  | error e =>
      rw [sent, hopen] at h
      cases h
  | ok s =>
      rw [sent_of_open hopen, Option.mem_toList] at h
      split at h
      · obtain ⟨u, hurl, rfl⟩ := Option.map_eq_some_iff.1 h
        exact ⟨s, rfl, hurl, rfl⟩
      · cases h

/-- **Something is sent** exactly if a session can be opened, its token can be shown, there is an
addressee that can be asked, and the address is not too long. -/
theorem sent_ne_nil_iff (link : Http.Link) (c : Call) :
    sent host token user device link c ≠ [] ↔
      ∃ s, open? host token user device = .ok s ∧ Http.isHeaderText token = true ∧
        (∃ o ∈ s.addressee?, o.IsAskable) ∧ s.Fits c := by
  cases hopen : open? host token user device with
  | error e => simp [sent, hopen]
  | ok s =>
      rw [sent_of_open hopen]
      simp only [Except.ok.injEq, exists_eq_left', ← url?_isSome_iff]
      cases Http.isHeaderText token with
      | false => simp
      | true => cases s.url? c <;> simp

/-- Sessions on one host have one addressee. -/
theorem addressee?_congr {s s' : Session} (h : s.host = s'.host) :
    s.addressee? = s'.addressee? := by
  rw [addressee?, addressee?, h]

/-- Whether a session can be opened is settled by the host, if there is a user. -/
theorem exists_open (token device : String) (h : trimSlashes host ≠ "") (hu : user ≠ "") :
    ∃ s, open? host token user device = .ok s :=
  ⟨⟨trimSlashes host, token, user, device, h, hu⟩, open?_eq_ok_iff.2 ⟨rfl, rfl, rfl, rfl⟩⟩

/-- What is sent for one user and call is sent for every other one, if it is not too long. -/
theorem sent_ne_nil_congr {user' device' : String} (hu' : user' ≠ "") {c c' : Call}
    (hfits' : FitsFor host token user' device' c') (link link' : Http.Link)
    (h : sent host token user device link c ≠ []) :
    sent host token user' device' link' c' ≠ [] := by
  obtain ⟨s, hopen, htoken, haddressee, -⟩ := (sent_ne_nil_iff link c).1 h
  have hhost : s.host = trimSlashes host := (open?_eq_ok_iff.1 hopen).1
  obtain ⟨s', hopen'⟩ := exists_open token device' (hhost ▸ s.host_ne) hu'
  have hsame : s.host = s'.host := hhost.trans (open?_eq_ok_iff.1 hopen').1.symm
  rw [addressee?_congr hsame] at haddressee
  exact (sent_ne_nil_iff link' c').2 ⟨s', hopen', htoken, haddressee, hfits' s' hopen'⟩

/-- **No identifier changes who gets the token.**  Two sessions may differ in user and device, and
make any two calls, over links that answer as they like.  Each of them sends one request at most, to
the same scheme, host and port, with the token that was given and no other; and the one sends none
exactly if the other sends none, as long as neither address is longer than what can be sent.  One
that is longer is not sent at all. -/
theorem identifiers_keep_addressee (host token : String) {user user' : String} (hu : user ≠ "")
    (hu' : user' ≠ "") (device device' : String) (c c' : Call) (link link' : Http.Link) :
    (sent host token user device link c).length ≤ 1 ∧
    (∀ r ∈ sent host token user device link c, ∀ r' ∈ sent host token user' device' link' c',
      r'.url.origin = r.url.origin ∧ r.token = token ∧ r'.token = token) ∧
    (FitsFor host token user device c → FitsFor host token user' device' c' →
      (sent host token user device link c = [] ↔
        sent host token user' device' link' c' = [])) ∧
    (¬ FitsFor host token user device c → sent host token user device link c = []) := by
  refine ⟨?_, ?_, ?_, ?_⟩
  · cases hopen : open? host token user device with
    | error e => simp [sent, hopen]
    | ok s =>
        rw [sent_of_open hopen]
        exact Option.length_toList_le
  · intro r hr r' hr'
    obtain ⟨s, hopen, hurl, htoken⟩ := of_mem_sent hr
    obtain ⟨s', hopen', hurl', htoken'⟩ := of_mem_sent hr'
    have hsame : s.host = s'.host :=
      (open?_eq_ok_iff.1 hopen).1.trans (open?_eq_ok_iff.1 hopen').1.symm
    have haddressee := addressee?_of_url? hurl
    rw [addressee?_congr hsame, addressee?_of_url? hurl'] at haddressee
    exact ⟨Option.some.inj haddressee, htoken, htoken'⟩
  · intro hfits hfits'
    constructor
    · intro hnil
      by_contra hne
      exact sent_ne_nil_congr hu hfits link' link hne hnil
    · intro hnil
      by_contra hne
      exact sent_ne_nil_congr hu' hfits' link link' hne hnil
  · intro hlong
    by_contra hne
    obtain ⟨s, hopen, -, -, hfits⟩ := (sent_ne_nil_iff link c).1 hne
    refine hlong fun s' hopen' => ?_
    rw [hopen] at hopen'
    cases hopen'
    exact hfits

/-- An item whose id looks like an address of its own, and a query below two dots for a user of two
dots: both are asked of the one server that was given. -/
theorem strange_ids_reach_the_server :
    let get := sent "http://jf.test:80/" "secret" "u1" "d1" .down (.get "//evil.test:1/@x#?")
    let list := sent "http://jf.test:80/" "secret" ".." "d2" .down
      (.query (Query.descendantsOf "http://evil.test/.."))
    get ≠ [] ∧ (get = [] ↔ list = []) ∧
      ∀ r ∈ get, ∀ r' ∈ list, r'.url.origin = r.url.origin ∧ r.token = "secret" ∧
        r'.token = "secret" := by
  intro get list
  have huser : "u1" ≠ "" := by decide
  have huser' : ".." ≠ "" := by decide
  have hlaw := identifiers_keep_addressee "http://jf.test:80/" "secret" huser huser' "d1" "d2"
    (.get "//evil.test:1/@x#?") (.query (Query.descendantsOf "http://evil.test/..")) .down .down
  have hlaw' := identifiers_keep_addressee "http://jf.test:80/" "secret" huser' huser "d2" "d1"
    (.query (Query.descendantsOf "http://evil.test/..")) (.get "//evil.test:1/@x#?") .down .down
  have hget : get ≠ [] := by decide +kernel
  have hlist : list ≠ [] := by decide +kernel
  refine ⟨hget, hlaw.2.2.1 ?_ ?_, hlaw.2.1⟩
  · by_contra hlong
    exact hget (hlaw.2.2.2 hlong)
  · by_contra hlong
    exact hlist (hlaw'.2.2.2 hlong)

/-- What an id can do is to make its own address too long: an item with an id of 65535 letters is not
asked for, while its neighbour is. -/
theorem long_id_is_not_asked_for :
    sent "http://jf.test" "secret" "u1" "d1" .down (.get "a") ≠ [] ∧
      sent "http://jf.test" "secret" "u1" "d1" .down (.get (longId 65535)) = [] := by
  have hready : guestSession.Ready guestUrl :=
    ⟨isNormal_guest.locates, by decide, by decide +kernel⟩
  have hname := isName_longId (show 2 < 65535 by decide)
  have hlong : Http.maxAddress < (longId 65535).toList.length := by
    rw [length_longId]
    exact Nat.lt_succ_self 65534
  have hrequest : guestSession.request (.get (longId 65535)) = .error _ :=
    request_error hready hname (guestSession.not_reaches_of_long guestUrl guestUrl.base hlong)
  have hopen : open? "http://jf.test" "secret" "u1" "d1" = .ok guestSession :=
    open?_eq_ok_iff.2 ⟨by decide, rfl, rfl, rfl⟩
  refine ⟨by decide +kernel, ?_⟩
  rw [sent, hopen]
  exact (requests_perform guestSession .down _).trans (by rw [hrequest]; rfl)

end Session

end MediaTree
