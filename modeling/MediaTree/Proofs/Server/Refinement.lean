/-
**A server answers as its catalog does.**

A session over a server that keeps a catalog is that catalog: each call finds its own address there,
the JSON behind it is read as the record that it was written from, and an item that does not exist
is named as such.  So every request has the same result over the session as over the catalog with
the session's addresses of streams and artwork.  The one thing that a catalog in memory does not
know of are addresses that cannot be sent: the first call at such an address ends the request.

Main definitions:

* `MediaTree.Http.Response.Spells` — all of a response with the JSON of a record;
* `MediaTree.Catalog.ServedAt` — behind a link there is a server that keeps a catalog.

Main results:

* `MediaTree.Session.result_handle`, `MediaTree.Session.refused_handle` — a call that can be sent is
  answered as by the catalog, and any other one is refused;
* `MediaTree.Session.result_run` — so is every request;
* `MediaTree.Catalog.exists_servedAt` — there is such a server for every catalog whose records are
  small enough to be read;
* `MediaTree.session_refines_catalog` — **every request has the result it has over the catalog**.
-/

import MediaTree.Proofs.Catalog.Complete
import MediaTree.Proofs.Catalog.Spelling
import MediaTree.Proofs.Server.Request
import MediaTree.Proofs.Tree.Calls

set_option autoImplicit false
set_option relaxedAutoImplicit false

namespace MediaTree

/-! ### Servers that keep a catalog -/

/-- All of a response with the JSON of a record, in either layout. -/
structure Http.Response.Spells (resp : Http.Response) (j : Json) : Prop where
  status : resp.status = 200
  octets : resp.octets = j.compact.toUTF8 ∨ resp.octets = j.pretty.toUTF8
  extent : resp.extent = .told true ∨ resp.extent = .announced resp.octets.size
  small : resp.octets.size ≤ maxResponseSize

namespace Catalog

/-- What a server that keeps the catalog replies to a call: the record, or that there is none. -/
def Replies (k : Catalog) (c : Call) (reply : Http.Reply) : Prop :=
  ∃ resp, reply = .response resp ∧
    match (k.handle c).result with
    | .ok a => resp.Spells (c.json a)
    | .error _ => resp.status = Http.Status.notFound

/-- Behind the link, at addresses that begin so, there is a server that keeps the catalog for the
user of the session: it replies to every request that the session makes for a call. -/
def ServedAt (k : Catalog) (s : Session) (base : String) (link : Http.Link) : Prop :=
  ∀ c : Call, c.IsAsked → ∀ r : Http.Request, r.token = s.token → r.accept = "application/json" →
    r.url.toString = s.target base c → k.Replies c (link r)

/-- Small records can be replied. -/
theorem exists_replies {k : Catalog} (hk : k.Small) (c : Call) : ∃ reply, k.Replies c reply := by
  cases h : (k.handle c).result with
  | ok a =>
      have hsmall := hk c a h
      refine ⟨.response ⟨200, .told true, (c.json a).compact.toUTF8⟩, _, rfl, ?_⟩
      rw [h]
      exact ⟨rfl, .inl rfl, .inl rfl, hsmall⟩
  | error e =>
      refine ⟨.response ⟨Http.Status.notFound, .told true, .empty⟩, _, rfl, ?_⟩
      rw [h]

/-- **There is a server for every catalog of small records**, since no two calls are asked at one
address. -/
theorem exists_servedAt {k : Catalog} (hk : k.Small) (s : Session) (base : String) :
    ∃ link, k.ServedAt s base link := by
  have hreply (r : Http.Request) : ∃ reply, ∀ c : Call, c.IsAsked →
      r.url.toString = s.target base c → k.Replies c reply := by
    by_cases hcall : ∃ c : Call, c.IsAsked ∧ r.url.toString = s.target base c
    -- no other call has this address, so the reply to this one will do
    · obtain ⟨c, hc, hurl⟩ := hcall
      obtain ⟨reply, hreply⟩ := exists_replies hk c
      refine ⟨reply, fun d hd hurl' => ?_⟩
      rw [← s.target_injective hc hd (hurl.symm.trans hurl')]
      exact hreply
    · exact ⟨.lost, fun d hd hurl => absurd ⟨d, hd, hurl⟩ hcall⟩
  refine ⟨fun r => Classical.choose (hreply r), fun c hc r _ _ hurl => ?_⟩
  exact Classical.choose_spec (hreply r) c hc hurl

end Catalog

/-! ### One call -/

/-- All of it is its body. -/
theorem Http.Response.Spells.body_eq {resp : Http.Response} {j : Json} (h : resp.Spells j) :
    resp.body = resp.octets := by
  have hbody : Status.hasBody resp.status = true := by rw [h.status]; rfl
  unfold Response.body
  rcases h.extent with he | he
  · simp [hbody, he]
  · simp [hbody, he]

/-- All of a response is received. -/
theorem Http.receive_spells {resp : Http.Response} {j : Json} (h : resp.Spells j)
    (item : Option String) (r : Http.Request) :
    Http.receive item r (.response resp) = .ok resp.body := by
  have hfinal : Status.isFinal resp.status = true := by rw [h.status]; rfl
  have hbody : Status.hasBody resp.status = true := by rw [h.status]; rfl
  have hfound : (resp.status == Status.notFound) = false := by rw [h.status]; rfl
  have hfailure : Status.isFailure resp.status = false := by rw [h.status]; rfl
  have hsize : ¬ maxResponseSize < resp.body.size := Nat.not_lt.2 (h.body_eq ▸ h.small)
  have hannounced : ¬ maxResponseSize < resp.announced?.getD 0 := by
    unfold Response.announced?
    rcases h.extent with he | he
    · simp [hbody, he]
    · simpa [hbody, he] using h.small
  have hshort : resp.isShort = false := by
    unfold Response.isShort
    rcases h.extent with he | he <;> simp [hbody, he]
  cases item <;> simp [receive, hfinal, hfound, hfailure, hannounced, hshort, hsize]

/-- A decoder finds the record in such a response. -/
theorem Http.Response.Spells.decode {α : Type} {resp : Http.Response} {j : Json}
    (h : resp.Spells j) {d : Json.Decoder α} {a : α} {room : Nat} (hd : d.Finds j a room)
    (hroom : room ≤ Json.nestingLimit) (hj : j.Fits) : Json.decodeBytes d resp.body = .ok a := by
  rw [h.body_eq]
  rcases h.octets with hoctets | hoctets
  · rw [hoctets]
    exact hd.decodeBytes hroom hj Json.Style.isBlank_compact 0
  · rw [hoctets]
    exact hd.decodeBytes hroom hj Json.Style.isBlank_pretty 0

namespace Session

/-- The record of an answer is read as the answer. -/
theorem decodeAnswer_spells {c : Call} {a : c.Answer} (ha : c.IsFaithful a) {resp : Http.Response}
    (h : resp.Spells (c.json a)) : decodeAnswer c resp.body = .ok a := by
  cases c with
  | folders => exact h.decode (ItemList.finds_decode ha) (by decide) (ItemList.fits_toJson a)
  | query q => exact h.decode (ItemList.finds_decode ha) (by decide) (ItemList.fits_toJson a)
  | get id => exact h.decode (Item.finds_decode ha) (by decide) (Item.fits_toJson a)

/-- **What a server replies is read as the catalog answers.** -/
theorem outcome_eq {k : Catalog} (hk : k.Complete) {c : Call} {reply : Http.Reply}
    (h : k.Replies c reply) (r : Http.Request) : outcome c r reply = (k.handle c).result := by
  obtain ⟨resp, rfl, h⟩ := h
  cases ha : (k.handle c).result with
  | ok a =>
      rw [ha] at h
      have hread := decodeAnswer_spells (hk.faithful c a ha) h
      simp [outcome, Http.receive_spells h, hread, bind, Except.bind]
  | error e =>
      rw [ha] at h
      have hmissing := hk.misses c e ha
      cases c with
      | folders => cases hmissing
      | query q => cases hmissing
      -- only a single item may be missed, and its status names it
      | get id =>
          cases hmissing
          have hfinal : Http.Status.isFinal Http.Status.notFound = true := rfl
          simp [outcome, Http.receive, itemOf, h, hfinal, bind, Except.bind]

variable {k : Catalog} {s : Session} {u : Url} {link : Http.Link}

/-- A call that can be sent is answered as by the catalog. -/
theorem result_handle (hk : k.Complete) (hs : s.Ready u) (hserved : k.ServedAt s u.base link)
    {c : Call} (hc : c.IsAsked) (hreach : Http.Reaches u (s.target u.base c)) :
    ((s.toCatalog link).handle c).result = (k.handle c).result := by
  obtain ⟨r, hrequest, htoken, haccept, hurl⟩ := request_ok hs hc hreach
  have hreply := hserved c hc r htoken haccept hurl
  simp only [toCatalog, perform, hrequest]
  exact outcome_eq hk hreply r

/-- Any other call is refused. -/
theorem refused_handle (hs : s.Ready u) {c : Call} (hc : c.IsAsked)
    (hreach : ¬ Http.Reaches u (s.target u.base c)) :
    ((s.toCatalog link).handle c).result = .error (s.refusal u.base c) := by
  simp only [toCatalog, perform, request_error hs hc hreach]

/-! ### Requests -/

/-- **A request has the result it has over the catalog**, unless a call cannot be sent: then the
first such call ends it. -/
theorem result_run {α : Type} (hk : k.Complete) (hs : s.Ready u)
    (hserved : k.ServedAt s u.base link) {t : Attempt α} (ht : t.Prompt)
    (hasked : ∀ c ∈ t.calls k, c.IsAsked) :
    ((∀ c ∈ t.calls k, Http.Reaches u (s.target u.base c)) →
      (Attempt.run (s.toCatalog link) t).2 = (Attempt.run k t).2) ∧
    ∀ front c back, t.calls k = front ++ c :: back →
      (∀ d ∈ front, Http.Reaches u (s.target u.base d)) →
      ¬ Http.Reaches u (s.target u.base c) →
      (Attempt.run (s.toCatalog link) t).2 = .error (.catalog (s.refusal u.base c)) := by
  constructor
  · intro hreach
    refine Plan.result_congr _ fun c hc => ?_
    exact result_handle hk hs hserved (hasked c hc) (hreach c hc)
  · intro front c back hcalls hfront hreach
    rw [hcalls] at hasked
    -- the calls in front are answered alike, so this one is made as well
    obtain ⟨rest, hrest⟩ := Plan.calls_congr hcalls fun d hd =>
      result_handle hk hs hserved (hasked d (by simp [hd])) (hfront d hd)
    have hrefused : ((s.toCatalog link).handle c).result = _ :=
      refused_handle hs (hasked c (by simp)) hreach
    exact (Plan.Prompt.ends_at_failure ht hrest hrefused).2

end Session

/-- Browsing and resolving make such calls, unless they are asked for a dot segment. -/
theorem Catalog.isAsked_of_mem_browseCalls (k : Catalog) {id : Option String}
    (hid : ∀ i ∈ id, Url.IsName i) : ∀ c ∈ k.browseCalls id, c.IsAsked := by
  intro c hc
  unfold browseCalls at hc
  split at hc
  · rw [List.mem_singleton.1 hc]
    trivial
  · rename_i hne
    rcases List.mem_cons.1 hc with rfl | hc
    · cases id with
      | none => exact absurd rfl hne
      | some i => exact ⟨hne, hid i rfl⟩
    · split at hc
      · rename_i i hi
        unfold callsBelow at hc
        split at hc
        · cases hc
        · rename_i kind hkind
          rcases List.mem_cons.1 hc with rfl | hc
          · exact ⟨_, _, rfl⟩
          · split at hc
            · rw [List.mem_singleton.1 hc]
              exact ⟨_, _, rfl⟩
            · cases hc
      · cases hc

section Requests

variable [Mime.Table] {k : Catalog} {s : Session} {u : Url} {link : Http.Link}

/-- Browsing over a session. -/
theorem Session.result_browse (hk : k.Complete) (hs : s.Ready u)
    (hserved : k.ServedAt s u.base link) (name : String) {id : Option String}
    (hid : ∀ i ∈ id, Url.IsName i) :
    ((∀ c ∈ k.browseCalls id, Http.Reaches u (s.target u.base c)) →
      (((Source.new name).attach (s.toCatalog link)).browse id).2 =
        (((Source.new name).attach (k.linked s.links)).browse id).2) ∧
    ∀ front c back, k.browseCalls id = front ++ c :: back →
      (∀ d ∈ front, Http.Reaches u (s.target u.base d)) →
      ¬ Http.Reaches u (s.target u.base c) →
      (((Source.new name).attach (s.toCatalog link)).browse id).2 =
        .error (.catalog (s.refusal u.base c)) := by
  have hcalls := calls_browsePlan (k.linked s.links) s.links name id
  have hasked : ∀ c ∈ (browsePlan s.links name id).calls (k.linked s.links), c.IsAsked := by
    rw [hcalls]
    exact (k.linked s.links).isAsked_of_mem_browseCalls hid
  have hrun := result_run (hk.linked s.links) hs hserved (prompt_browsePlan s.links name id) hasked
  rw [hcalls] at hrun
  exact hrun

/-- Resolving over a session. -/
theorem Session.result_resolve (hk : k.Complete) (hs : s.Ready u)
    (hserved : k.ServedAt s u.base link) (name : String) {id : String} (hne : id ≠ "")
    (hid : Url.IsName id) :
    (Http.Reaches u (s.target u.base (.get id)) →
      (((Source.new name).attach (s.toCatalog link)).resolve id).2 =
        (((Source.new name).attach (k.linked s.links)).resolve id).2) ∧
    (¬ Http.Reaches u (s.target u.base (.get id)) →
      (((Source.new name).attach (s.toCatalog link)).resolve id).2 =
        .error (.catalog (s.refusal u.base (.get id)))) := by
  have hcalls := calls_resolvePlan (k.linked s.links) s.links id
  have hasked : ∀ c ∈ (resolvePlan s.links id).calls (k.linked s.links), c.IsAsked := by
    rw [hcalls]
    intro c hc
    rw [List.mem_singleton.1 hc]
    exact ⟨hne, hid⟩
  have hrun := result_run (hk.linked s.links) hs hserved (prompt_resolvePlan s.links id) hasked
  rw [hcalls] at hrun
  refine ⟨fun hreach => hrun.1 ?_, fun hreach => ?_⟩
  · intro c hc
    rw [List.mem_singleton.1 hc]
    exact hreach
  · exact hrun.2 [] (.get id) [] rfl (List.forall_mem_nil _) hreach

end Requests

/-- **Every request has the result it has over the catalog.**  Let a server keep a complete catalog,
as all data in memory make one unless calls are made to fail, and let a session ask it whose host is
in normal form, whose user is no dot segment and whose token can stand in a header.  Then browsing
and resolving over the session yield what they yield over the catalog with the session's addresses:
the same node or stream, and the same error.  This holds as long as the addresses of the calls can
be sent; the first one that cannot is named by the error. -/
theorem session_refines_catalog [Mime.Table] {k : Catalog} (hk : k.Complete) {s : Session} {u : Url}
    (hhost : Url.IsNormal s.host u) (huser : Url.IsName s.user)
    (htoken : Http.isHeaderText s.token = true) {link : Http.Link}
    (hserved : k.ServedAt s s.host link) (name : String) :
    (∀ id : Option String, (∀ i ∈ id, Url.IsName i) →
      ((∀ c ∈ k.browseCalls id, Http.Reaches u (s.target s.host c)) →
        (((Source.new name).attach (s.toCatalog link)).browse id).2 =
          (((Source.new name).attach (k.linked s.links)).browse id).2) ∧
      ∀ front c back, k.browseCalls id = front ++ c :: back →
        (∀ d ∈ front, Http.Reaches u (s.target s.host d)) →
        ¬ Http.Reaches u (s.target s.host c) →
        (((Source.new name).attach (s.toCatalog link)).browse id).2 =
          .error (.catalog (s.refusal s.host c))) ∧
    ∀ id : String, id ≠ "" → Url.IsName id →
      (Http.Reaches u (s.target s.host (.get id)) →
        (((Source.new name).attach (s.toCatalog link)).resolve id).2 =
          (((Source.new name).attach (k.linked s.links)).resolve id).2) ∧
      (¬ Http.Reaches u (s.target s.host (.get id)) →
        (((Source.new name).attach (s.toCatalog link)).resolve id).2 =
          .error (.catalog (s.refusal s.host (.get id)))) := by
  have hs : s.Ready u := ⟨hhost.locates, huser, htoken⟩
  rw [← hhost.base_eq] at hserved ⊢
  constructor
  · intro id hid
    exact Session.result_browse hk hs hserved name hid
  · intro id hne hid
    exact Session.result_resolve hk hs hserved name hne hid

/-! ### A library of one film -/

/-- A film with an id that holds a slash and a question mark. -/
def slashedFilm : Item :=
  { Item.bare "a/b?c" (.known .movie) with
    name := some "Dogs & \"cats\""
    medium := some (.known .video)
    sources := some [⟨none, some "/films/f.mkv", none⟩] }

/-- A library that holds this film. -/
def slashedShelf : Memory :=
  { Memory.empty "memory" with
    folders := [{ Item.bare "l" (.known .library) with collection := some (.known .movies) }]
    listings := [⟨"l", "Movie", [slashedFilm]⟩] }

theorem sound_slashedShelf : slashedShelf.Sound where
  folders := rfl
  gets := rfl
  queries := rfl
  faithful := by
    intro i hi
    have hi : i ∈ slashedShelf.folders ++ [slashedFilm] := hi
    rcases List.mem_append.1 hi with hi | hi
    · rw [List.mem_singleton.1 hi]
      exact ⟨trivial, by rintro c ⟨⟩; trivial, nofun⟩
    · rw [List.mem_singleton.1 hi]
      exact ⟨trivial, nofun, by rintro c ⟨⟩; trivial⟩

theorem small_slashedShelf : slashedShelf.toCatalog.Small :=
  sound_slashedShelf.small (by decide +kernel) (by decide +kernel)

/-- A session on a server below a path. -/
def houseSession : Session where
  host := "https://media.example:8096/house"
  token := "secret"
  user := "me"
  device := "tv"
  host_ne := by decide
  user_ne := by decide

/-- The address of that server. -/
def houseUrl : Url where
  scheme := "https"
  host := some "media.example"
  port := some 8096
  path := .segments ["house"]
  query := none
  fragment := none

theorem isNormal_house : Url.IsNormal houseSession.host houseUrl where
  parsed := by rfl
  web := by decide
  query := rfl
  fragment := rfl
  text := by decide +kernel
  noSlash := by decide

/-- The film is found behind its id in the library, resolves to the stream of the session, and what
does not exist is named, all over the session. -/
theorem house_refines_slashedShelf : ∃ link,
    slashedShelf.toCatalog.ServedAt houseSession houseSession.host link ∧
    (((Source.new "Media").attach (houseSession.toCatalog link)).browse (some "l")).2 =
      .ok ((Node.container (some "l") .directory "" none).withChildren .movie
        [Node.playable "a/b?c" .movie "video/x-matroska" "Dogs & \"cats\"" none]) ∧
    (((Source.new "Media").attach (houseSession.toCatalog link)).browse (some "x")).2 =
      .error (.catalog (.notFound "x")) ∧
    (((Source.new "Media").attach (houseSession.toCatalog link)).resolve "a/b?c").2 =
      .ok ⟨"https://media.example:8096/house/Videos/a%2Fb%3Fc/stream" ++
        "?static=true&DeviceId=tv&api_key=secret", "video/x-matroska"⟩ := by
  obtain ⟨link, hserved⟩ :=
    Catalog.exists_servedAt small_slashedShelf houseSession houseSession.host
  obtain ⟨hbrowse, hresolve⟩ := session_refines_catalog sound_slashedShelf.complete
    isNormal_house (by decide) (by decide +kernel) hserved "Media"
  have hlengths : ∀ id ∈ [some "l", some "x"], ∀ c ∈ slashedShelf.toCatalog.browseCalls id,
      (houseSession.target houseSession.host c).utf8ByteSize ≤ Http.maxAddress := by
    decide +kernel
  have hreach : ∀ id ∈ [some "l", some "x"], ∀ c ∈ slashedShelf.toCatalog.browseCalls id,
      Http.Reaches houseUrl (houseSession.target houseSession.host c) := fun id hid c hc =>
    ⟨by decide, hlengths id hid c hc⟩
  refine ⟨link, hserved, ?_, ?_, ?_⟩
  · refine ((hbrowse (some "l") (by decide)).1 (hreach _ (by decide))).trans ?_
    have hid : (some "l").getD "" ≠ "" := by decide
    exact (result_browsePlan_shown (l := .movies) (slashedShelf.toCatalog.linked houseSession.links)
      houseSession.links "Media" hid rfl rfl rfl (List.pairwise_singleton _ _)).trans rfl
  · refine ((hbrowse (some "x") (by decide)).1 (hreach _ (by decide))).trans ?_
    rfl
  · have hsent : Http.Reaches houseUrl (houseSession.target houseSession.host (.get "a/b?c")) :=
      ⟨by decide, by decide +kernel⟩
    refine ((hresolve "a/b?c" (by decide) (by decide)).1 hsent).trans ?_
    rfl

/-! ### Addresses that cannot be sent -/

/-- An id of so many letters. -/
def longId (n : Nat) : String := String.ofList (List.replicate n 'a')

@[simp] theorem length_longId (n : Nat) : (longId n).toList.length = n := by
  rw [longId, String.toList_ofList, List.length_replicate]

/-- An id of some letters is a name. -/
theorem isName_longId {n : Nat} (h : 2 < n) : longId n ≠ "" ∧ Url.IsName (longId n) := by
  have hne (s : String) (hs : s.toList.length ≤ 2) : longId n ≠ s := by
    intro heq
    rw [← heq, length_longId] at hs
    omega
  exact ⟨hne "" (by decide), hne "." (by decide), hne ".." (by decide)⟩

/-- A session on a server whose name holds a quote. -/
def quotedSession : Session where
  host := "http://a\x60b"
  token := "secret"
  user := "me"
  device := "tv"
  host_ne := by decide
  user_ne := by decide

/-- The address of that server. -/
def quotedUrl : Url where
  scheme := "http"
  host := some "a\x60b"
  port := none
  path := .segments [""]
  query := none
  fragment := none

theorem isNormal_quoted : Url.IsNormal quotedSession.host quotedUrl where
  parsed := by rfl
  web := by decide
  query := rfl
  fragment := rfl
  text := by decide +kernel
  noSlash := by decide

/-- Without any data, no id is found. -/
theorem resolve_empty [Mime.Table] (base : String) (links : Links) (name id : String) :
    (((Source.new name).attach ((Memory.empty base).toCatalog.linked links)).resolve id).2 =
      .error (.catalog (.notFound id)) :=
  result_resolvePlan _ links id

/-- Where an address cannot be sent, session and catalog differ: an id that is too long is not
missed, and a host with a quote has no root, although the server keeps the catalog. -/
theorem refused_where_catalog_answers :
    (Url.IsNormal houseSession.host houseUrl ∧ houseSession.Ready houseUrl ∧
      Url.IsName (longId 65535) ∧
      ∃ link, (Memory.empty "memory").toCatalog.ServedAt houseSession houseSession.host link ∧
        (((Source.new "Media").attach (houseSession.toCatalog link)).resolve (longId 65535)).2 =
          .error (.catalog (houseSession.refusal houseSession.host (.get (longId 65535)))) ∧
        (((Source.new "Media").attach ((Memory.empty "memory").toCatalog.linked
            houseSession.links)).resolve (longId 65535)).2 =
          .error (.catalog (.notFound (longId 65535)))) ∧
    Url.IsNormal quotedSession.host quotedUrl ∧ quotedSession.Ready quotedUrl ∧
      ∃ link, (Memory.empty "memory").toCatalog.ServedAt quotedSession quotedSession.host link ∧
        (((Source.new "Media").attach (quotedSession.toCatalog link)).browse none).2 =
          .error (.catalog (.network "builder error for url (http://a\x60b/Users/me/Views)")) ∧
        (((Source.new "Media").attach ((Memory.empty "memory").toCatalog.linked
            quotedSession.links)).browse none).2 =
          .ok ((Node.container none .directory "Media" none).withChildren .directory []) := by
  have hk := (Memory.sound_empty "memory").complete
  have hsmall : (Memory.empty "memory").toCatalog.Small :=
    (Memory.sound_empty "memory").small (by decide +kernel) (by decide +kernel)
  have hhouse : houseSession.Ready houseUrl :=
    ⟨isNormal_house.locates, by decide, by decide +kernel⟩
  have hquoted : quotedSession.Ready quotedUrl :=
    ⟨isNormal_quoted.locates, by decide, by decide +kernel⟩
  have hname := isName_longId (show 2 < 65535 by decide)
  constructor
  · obtain ⟨link, hserved⟩ := Catalog.exists_servedAt hsmall houseSession houseSession.host
    refine ⟨isNormal_house, hhouse, hname.2, link, hserved, ?_, ?_⟩
    · have hlong : Http.maxAddress < (longId 65535).toList.length := by
        rw [length_longId]
        exact Nat.lt_succ_self 65534
      rw [← isNormal_house.base_eq] at hserved ⊢
      exact (Session.result_resolve hk hhouse hserved "Media" hname.1 hname.2).2
        (houseSession.not_reaches_of_long houseUrl houseUrl.base hlong)
    · exact resolve_empty "memory" houseSession.links "Media" (longId 65535)
  · obtain ⟨link, hserved⟩ := Catalog.exists_servedAt hsmall quotedSession quotedSession.host
    refine ⟨isNormal_quoted, hquoted, link, hserved, ?_, rfl⟩
    rw [← isNormal_quoted.base_eq] at hserved
    have hquote : ¬ Http.Reaches quotedUrl (quotedSession.target quotedUrl.base .folders) :=
      fun hreach => absurd hreach.host (by decide)
    have hroot : ∀ i ∈ (none : Option String), Url.IsName i := by decide
    refine ((Session.result_browse hk hquoted hserved "Media" hroot).2 [] .folders [] rfl
      (List.forall_mem_nil _) hquote).trans ?_
    rw [isNormal_quoted.base_eq]
    rfl

end MediaTree
