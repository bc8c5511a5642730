/-
**The requests of a session.**

A session that is ready asks for each call at an address that can be told in advance: the base of
the server's address, the segments of the call, and the pairs of a query behind them.  Whether the
request can be sent is decided by the host and by the length of that address alone.  Calls that
differ ask at different addresses, since neither segments nor pairs run into each other.

Main definitions:

* `MediaTree.Call.IsAsked` — the calls that browsing and resolving make;
* `MediaTree.Session.Ready` — a session that can ask a server;
* `MediaTree.Session.sought` — where the segments of a call lead;
* `MediaTree.Session.target` — the address at which a call is asked;
* `MediaTree.Session.refusal` — what is said of a call whose address cannot be sent;
* `MediaTree.Http.Reaches` — an address of a server can be sent.

Main results:

* `MediaTree.Session.request_of_locates`, `MediaTree.Session.request_eq` — the request for a call;
* `MediaTree.Session.request_ok`, `MediaTree.Session.request_error` — **the request is made, or
  there is none**, depending on host and length;
* `MediaTree.Session.target_injective` — no two calls are asked at one address.
-/

import MediaTree.Proofs.Tree.Listing
import MediaTree.Proofs.Url.Base
import MediaTree.Server.Session

set_option autoImplicit false
set_option relaxedAutoImplicit false

namespace MediaTree

/-- The calls that browsing and resolving make: an item that is asked for has an id that is a
name. -/
def Call.IsAsked : Call → Prop
  | .folders => True
  | .query q => ∃ parent kind, q = Query.below parent kind
  | .get id => id ≠ "" ∧ Url.IsName id

/-- An address can be sent if its host has neither quotes nor braces and it is not too long. -/
structure Http.Reaches (u : Url) (address : String) : Prop where
  host : (u.host.getD "").toList.any ['"', '\x60', '\x7b', '\x7d'].contains = false
  length : address.utf8ByteSize ≤ Http.maxAddress

/-- Whether an address of a server can be sent depends on host and length. -/
theorem Http.isSendable_iff {u v : Url} (hu : u.IsWeb) (hscheme : v.scheme = u.scheme)
    (hhost : v.host = u.host) : Http.isSendable v = true ↔ Http.Reaches u v.toString := by
  have hweb : (u.scheme == "http" || u.scheme == "https") = true := by
    rcases hu with h | h <;> simp [h]
  rw [Http.isSendable, hscheme, hhost, hweb]
  simp only [Bool.true_and, Bool.and_eq_true, Bool.not_eq_true', decide_eq_true_eq]
  exact ⟨fun h => ⟨h.1, h.2⟩, fun h => ⟨h.1, h.2⟩⟩

namespace Session

/-- A session is ready: its host is the address of a server, its user is a name, and its token can
stand in a header. -/
structure Ready (s : Session) (u : Url) : Prop where
  host : Url.Locates s.host u
  user : Url.IsName s.user
  token : Http.isHeaderText s.token = true

/-- The address at which a call is asked, given what all addresses of the server begin with. -/
def target (s : Session) (base : String) : Call → String
  | .folders => base ++ "/Users/" ++ Text.Percent.segment s.user ++ "/Views"
  | .query q =>
    base ++ "/Users/" ++ Text.Percent.segment s.user ++ "/Items" ++ "?"
      ++ Text.Form.encodePairs q.params
  | .get id =>
    base ++ "/Users/" ++ Text.Percent.segment s.user ++ "/Items/" ++ Text.Percent.segment id

/-- What is said of a call whose address cannot be sent. -/
def refusal (s : Session) (base : String) (c : Call) : CatalogError :=
  .network ("builder error for url (" ++ s.target base c ++ ")")

/-- The segments of the address that a call asks. -/
def names (s : Session) : Call → List String
  | .folders => ["Users", s.user, "Views"]
  | .query _ => ["Users", s.user, "Items"]
  | .get id => ["Users", s.user, "Items", id]

/-! ### Preparing and performing -/

/-- The token is looked at first. -/
theorem request_of_token {s : Session} (h : Http.isHeaderText s.token = false) (c : Call) :
    s.request c = .error (.invalidHeader "failed to parse header value") := by
  rw [request, Http.prepare, h]
  rfl

/-- The request for an address that was read. -/
theorem prepare_of_parsed {token address : String} {ps : Option (List (String × String))}
    {u : Url} (ht : Http.isHeaderText token = true) (hu : Url.parse address = .ok u) :
    Http.prepare token address ps =
      if u.host.getD "" = "" then .error (Http.unaskable u)
      else if Http.isSendable (ps.elim u u.withPairs) then
        .ok ⟨ps.elim u u.withPairs, token, "application/json"⟩
      else .error (Http.unaskable (ps.elim u u.withPairs)) := by
  rw [Http.prepare, ht, hu]
  cases ps <;> rfl

/-- One request is sent, and its outcome is the result. -/
theorem perform_of_ok {s : Session} {c : Call} {r : Http.Request} (h : s.request c = .ok r)
    (link : Http.Link) :
    s.perform link c = ⟨[.logged (s.announcement c), .sent r], outcome c r (link r)⟩ := by
  simp only [perform, h]

/-- No request is sent, and the reason is the result. -/
theorem perform_of_error {s : Session} {c : Call} {e : CatalogError} (h : s.request c = .error e)
    (link : Http.Link) : s.perform link c = ⟨[.logged (s.announcement c)], .error e⟩ := by
  simp only [perform, h]

/-! ### Addresses -/

theorem segment_words : Text.Percent.segment "Users" = "Users" ∧
    Text.Percent.segment "Views" = "Views" ∧ Text.Percent.segment "Items" = "Items" := by
  decide

/-- A call asks at segments below the host. -/
theorem address_eq (s : Session) (c : Call) :
    s.address c = s.host ++ String.ofList (Url.slashed (s.names c)) := by
  obtain ⟨husers, hviews, hitems⟩ := segment_words
  rw [← String.toList_inj]
  cases c <;> simp [address, userAddress, names, Url.slashed_cons, husers, hviews, hitems]

theorem isName_of_mem_names {s : Session} (hs : Url.IsName s.user) {c : Call} (hc : c.IsAsked) :
    ∀ n ∈ s.names c, Url.IsName n := by
  have hwords : Url.IsName "Users" ∧ Url.IsName "Views" ∧ Url.IsName "Items" := by decide
  intro n hn
  cases c with
  | get id =>
      simp only [names, List.mem_cons, List.not_mem_nil, or_false] at hn
      rcases hn with rfl | rfl | rfl | rfl
      · exact hwords.1
      · exact hs
      · exact hwords.2.2
      · exact hc.2
  | _ =>
      simp only [names, List.mem_cons, List.not_mem_nil, or_false] at hn
      rcases hn with rfl | rfl | rfl
      · exact hwords.1
      · exact hs
      · first | exact hwords.2.1 | exact hwords.2.2

/-- The address that a call asks, with its pairs. -/
def located (s : Session) (u : Url) (c : Call) : Url :=
  match pairs c with
  | some ps => (u.below (s.names c)).withPairs ps
  | none => u.below (s.names c)

theorem located_parts (s : Session) (u : Url) (c : Call) :
    (s.located u c).scheme = u.scheme ∧ (s.located u c).host = u.host := by
  cases c <;> exact ⟨rfl, rfl⟩

/-- Where a call leads, whatever its segments are. -/
def sought (s : Session) (u : Url) (c : Call) : Url :=
  match pairs c with
  | some ps => (u.behind (s.names c)).withPairs ps
  | none => u.behind (s.names c)

theorem sought_eq_located {s : Session} (u : Url) {c : Call} (hs : Url.IsName s.user)
    (hc : c.IsAsked) : s.sought u c = s.located u c := by
  rw [sought, located, u.behind_of_names (isName_of_mem_names hs hc)]

theorem params_below_ne_nil (parent : String) (kind : ItemKind) :
    (Query.below parent kind).params ≠ [] := by
  simp [Query.params, Query.below]

variable {s : Session} {u : Url}

/-- The text of that address is the target of the call. -/
theorem toString_located (hs : s.Ready u) {c : Call} (hc : c.IsAsked) :
    (s.located u c).toString = s.target u.base c := by
  obtain ⟨husers, hviews, hitems⟩ := segment_words
  cases c with
  | folders =>
      have hplain : s.located u .folders = u.below (s.names .folders) := rfl
      rw [hplain, hs.host.toString_below, ← String.toList_inj]
      simp [target, names, Url.slashed_cons, husers, hviews]
  | query q =>
      obtain ⟨parent, kind, rfl⟩ := hc
      have hpaired : s.located u (.query (Query.below parent kind)) =
          (u.below (s.names (.query (Query.below parent kind)))).withPairs
            (Query.below parent kind).params := rfl
      rw [hpaired, hs.host.toString_withPairs _ (params_below_ne_nil parent kind),
        ← String.toList_inj]
      simp [target, names, Url.slashed_cons, husers, hitems]
  | get id =>
      have hplain : s.located u (.get id) = u.below (s.names (.get id)) := rfl
      rw [hplain, hs.host.toString_below, ← String.toList_inj]
      simp [target, names, Url.slashed_cons, husers, hitems]

/-- The request for a call: it is made if the address can be sent that its segments lead to. -/
theorem request_of_locates (hs : Url.Locates s.host u) (ht : Http.isHeaderText s.token = true)
    (c : Call) :
    s.request c =
      if Http.isSendable (s.sought u c) then .ok ⟨s.sought u c, s.token, "application/json"⟩
      else .error (Http.unaskable (s.sought u c)) := by
  have hnames : s.names c ≠ [] := by cases c <;> simp [names]
  have hparsed := hs.parse_behind hnames
  have hhost : (u.behind (s.names c)).host.getD "" ≠ "" := by
    obtain ⟨host, -, hhost, hsolid, -⟩ := hs.parts
    have hbehind : (u.behind (s.names c)).host = some host := hhost
    rw [hbehind]
    exact hsolid.1
  rw [request, address_eq, prepare_of_parsed ht hparsed, if_neg hhost]
  cases c <;> rfl

/-- **The request for a call**: it is made if its address can be sent. -/
theorem request_eq (hs : s.Ready u) {c : Call} (hc : c.IsAsked) :
    s.request c =
      if Http.isSendable (s.located u c) then
        .ok ⟨s.located u c, s.token, "application/json"⟩
      else .error (Http.unaskable (s.located u c)) := by
  rw [request_of_locates hs.host hs.token, sought_eq_located u hs.user hc]

/-- Whether a call can be sent depends on the host and on its target. -/
theorem isSendable_located (hs : s.Ready u) {c : Call} (hc : c.IsAsked) :
    Http.isSendable (s.located u c) = true ↔ Http.Reaches u (s.target u.base c) := by
  obtain ⟨hscheme, hhost⟩ := s.located_parts u c
  rw [← toString_located hs hc]
  exact Http.isSendable_iff hs.host.web hscheme hhost

/-- **The request is made**, at the target of the call. -/
theorem request_ok (hs : s.Ready u) {c : Call} (hc : c.IsAsked)
    (hreach : Http.Reaches u (s.target u.base c)) :
    ∃ r, s.request c = .ok r ∧ r.token = s.token ∧ r.accept = "application/json" ∧
      r.url.toString = s.target u.base c := by
  rw [request_eq hs hc, if_pos ((isSendable_located hs hc).2 hreach)]
  exact ⟨_, rfl, rfl, rfl, toString_located hs hc⟩

/-- **There is no request**: the address cannot be sent. -/
theorem request_error (hs : s.Ready u) {c : Call} (hc : c.IsAsked)
    (hreach : ¬ Http.Reaches u (s.target u.base c)) :
    s.request c = .error (s.refusal u.base c) := by
  rw [request_eq hs hc, if_neg fun h => hreach ((isSendable_located hs hc).1 h),
    Http.unaskable, toString_located hs hc, refusal]

/-- The address of an item is at least as long as its id, so no item with an id that is too long
can be asked for. -/
theorem not_reaches_of_long (s : Session) (u : Url) (base : String) {id : String}
    (h : Http.maxAddress < id.toList.length) : ¬ Http.Reaches u (s.target base (.get id)) := by
  intro hreach
  have hid := Text.Percent.length_le_encode Text.Percent.isUnreserved id
  have htext : (Text.Percent.encode Text.Percent.isUnreserved id).length ≤
      (s.target base (.get id)).toList.length := by
    rw [target, String.toList_append, List.length_append, Text.Percent.toList_segment]
    exact Nat.le_add_left _ _
  have hsize := Text.length_le_utf8ByteSize (s.target base (.get id))
  have hlength := hreach.length
  omega

/-! ### Different calls -/

/-- The pairs of a query say what it asks for. -/
theorem below_of_params {p q : String} {k l : ItemKind}
    (h : (Query.below p k).params = (Query.below q l).params) :
    Query.below p k = Query.below q l := by
  simp only [Query.params, Query.below, Query.listParam, List.map_cons, List.map_nil,
    List.isEmpty_cons, String.intercalate_singleton, Option.map_some, Option.toList_some, if_true,
    Bool.false_eq_true, if_false, List.cons_append, List.nil_append, List.cons.injEq,
    Prod.mk.injEq, true_and, Named.word_known] at h
  rw [h.1, Vocabulary.word_injective k l h.2.1]

/-- **No two calls are asked at one address.** -/
theorem target_injective (s : Session) {base : String} {c d : Call} (hc : c.IsAsked)
    (hd : d.IsAsked) (h : s.target base c = s.target base d) : c = d := by
  -- base and user are the same, and the words behind them tell the kinds of calls apart
  have hquery (q : Query) (rest : String) :
      "/Views" ≠ "/Items" ++ ("?" ++ Text.Form.encodePairs q.params) ∧
        "/Items/" ++ rest ≠ "/Items" ++ ("?" ++ Text.Form.encodePairs q.params) ∧
        "/Views" ≠ "/Items/" ++ rest := by
    refine ⟨?_, ?_, ?_⟩ <;> intro h <;> have h := congrArg String.toList h <;> simp at h
  cases c with
  | folders =>
      cases d with
      | folders => rfl
      | query q =>
          simp only [target, String.append_assoc, String.append_right_inj] at h
          exact absurd h (hquery q "").1
      | get id =>
          simp only [target, String.append_assoc, String.append_right_inj] at h
          exact absurd h (hquery Query.all _).2.2
  | query q =>
      cases d with
      | folders =>
          simp only [target, String.append_assoc, String.append_right_inj] at h
          exact absurd h.symm (hquery q "").1
      | query q' =>
          simp only [target, String.append_assoc, String.append_right_inj] at h
          obtain ⟨p, k, rfl⟩ := hc
          obtain ⟨p', k', rfl⟩ := hd
          rw [below_of_params (Text.Form.encodePairs_injective h)]
      | get id =>
          simp only [target, String.append_assoc, String.append_right_inj] at h
          exact absurd h.symm (hquery q _).2.1
  | get id =>
      cases d with
      | folders =>
          simp only [target, String.append_assoc, String.append_right_inj] at h
          exact absurd h.symm (hquery Query.all _).2.2
      | query q =>
          simp only [target, String.append_assoc, String.append_right_inj] at h
          exact absurd h (hquery q _).2.1
      | get id' =>
          simp only [target, String.append_assoc, String.append_right_inj] at h
          rw [Text.Percent.segment_injective h]

end Session

end MediaTree
