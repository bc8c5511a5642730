/-
**Queries survive the wire.**

What a query asks for is sent as the query part of an address.  On a server whose address has
neither query nor fragment, the part is the form of the query's parameters and nothing else: users
and hosts bring no mark into the address, and without parameters there is no question mark.  Whoever
receives the address can therefore read what was asked for, as long as no word of a kind holds a
comma, and two queries that say different things are never asked at one address, whoever asks them.

Main definitions:

* `MediaTree.Query.Terms.ofAddress?` — what the query part of an address says.

Main results:

* `MediaTree.Session.isAddress_of_mem_sent` — what is sent goes to an address without query and
  fragment, with the pairs of the call behind it;
* `MediaTree.Session.queries_survive_the_wire` — **a query is read back from the address that it is
  sent to**.
-/

import MediaTree.Proofs.Catalog.Parameters
import MediaTree.Proofs.Server.Origin
import MediaTree.Proofs.Url.QueryPart

set_option autoImplicit false
set_option relaxedAutoImplicit false

namespace MediaTree

/-- What the query part of an address says; without one, nothing in particular. -/
def Query.Terms.ofAddress? (address : String) : Option Query.Terms :=
  Query.Terms.read? ((Url.queryPart address).getD "")

/-- What is left of a text without marks has none. -/
theorem isUnmarked_trimSlashes {s : String} (h : Url.IsUnmarked s.toList) :
    Url.IsUnmarked (trimSlashes s).toList := by
  obtain ⟨n, hs⟩ := toList_eq_trimSlashes_append s
  rw [hs, Url.isUnmarked_append] at h
  exact h.1

namespace Session

variable {host token user device : String}

/-- **What is sent for a call** goes to an address without query and fragment, with the pairs of the
call behind it. -/
theorem isAddress_of_mem_sent {u : Url} (hhost : Url.IsAddress host u) {link : Http.Link} {c : Call}
    {r : Http.Request} (h : r ∈ sent host token user device link c) :
    ∃ address v, Url.IsAddress address v ∧ r.url = (pairs c).elim v v.withPairs := by
  obtain ⟨s, hopen, hurl, -⟩ := of_mem_sent h
  obtain ⟨v, hparse, -, hsend, hv⟩ := url?_eq_some_iff.1 hurl
  -- neither the host nor the segments of a call hold a mark
  have hfront : Url.IsUnmarked s.host.toList := by
    rw [(open?_eq_ok_iff.1 hopen).1]
    exact isUnmarked_trimSlashes (Url.isAddress_iff.1 hhost).2.2
  have hsegments : Url.IsUnmarked (Url.slashed (s.names c)) := fun _ hc =>
    ⟨(Url.bounds_of_mem_slashed hc).2.1, (Url.bounds_of_mem_slashed hc).2.2.1⟩
  refine ⟨s.address c, v, Url.isAddress_iff.2 ⟨hparse, ?_, ?_⟩, hv⟩
  · exact isWeb_of_isSendable hsend (hv ▸ origin_elim v c)
  · rw [address_eq, String.toList_append, String.toList_ofList, Url.isUnmarked_append]
    exact ⟨hfront, hsegments⟩

/-- The address that a query is sent to says what the query says. -/
theorem ofAddress?_of_mem_sent {u : Url} (hhost : Url.IsAddress host u) {link : Http.Link}
    {q : Query} (hq : q.IsSeparable) {r : Http.Request}
    (h : r ∈ sent host token user device link (.query q)) :
    Query.Terms.ofAddress? r.url.toString = some q.terms := by
  obtain ⟨address, v, hv, hurl⟩ := isAddress_of_mem_sent hhost h
  have hurl : r.url = v.withPairs q.params := hurl
  rw [Query.Terms.ofAddress?, hurl, (hv.queryPart_withPairs q.params).1,
    ← Query.read?_encodePairs hq]
  split
  · rename_i hnone
    rw [hnone]
    rfl
  · rfl

/-- **Queries survive the wire.**  Let a session be opened on a host that is the address of a server,
without query and fragment.  Whatever query it sends over whatever link, the query part of the address
decodes as a form, and its pairs say what the query says: `Recursive` is there as `true` exactly if the
query is recursive, `ParentId` exactly if there is a parent, with its id, and the words of kinds and
fields are found between the commas of their parameters, in order, and no word only where the
parameter is left out.  There is a question mark exactly if the query says anything.  So no two queries
that say different things are sent to one address, not even by different sessions.  Words with commas
apart, this holds of every query. -/
theorem queries_survive_the_wire {u : Url} (hhost : Url.IsAddress host u)
    (token user device : String) (link : Http.Link) (q : Query) (hq : q.IsSeparable) :
    (∀ r ∈ sent host token user device link (.query q),
      (∃ ps, Text.Form.decodePairs? ((Url.queryPart r.url.toString).getD "") = some ps ∧
        (("Recursive", "true") ∈ ps ↔ q.recursive = true) ∧
        ps.lookup "ParentId" = q.parent ∧
        Query.wordsOf "IncludeItemTypes" ps = q.kinds.map Named.word ∧
        Query.wordsOf "Fields" ps = q.fields.map OnDemand.name) ∧
      ('?' ∈ r.url.toString.toList ↔ q ≠ Query.all)) ∧
    ∀ host' token' user' device' u', Url.IsAddress host' u' → ∀ link' q', q'.IsSeparable →
      ∀ r ∈ sent host token user device link (.query q),
      ∀ r' ∈ sent host' token' user' device' link' (.query q'),
        r.url.toString = r'.url.toString →
          q.recursive = q'.recursive ∧ q.parent = q'.parent ∧
            q.kinds.map Named.word = q'.kinds.map Named.word ∧ q.fields = q'.fields := by
  constructor
  · intro r hr
    obtain ⟨address, v, hv, hurl⟩ := isAddress_of_mem_sent hhost hr
    have hurl : r.url = v.withPairs q.params := hurl
    constructor
    · have hterms := ofAddress?_of_mem_sent hhost hq hr
      rw [Query.Terms.ofAddress?, Query.Terms.read?] at hterms
      obtain ⟨ps, hps, hterms⟩ := Option.map_eq_some_iff.1 hterms
      simp only [Query.Terms.ofPairs, Query.terms, Query.Terms.mk.injEq] at hterms
      obtain ⟨hrecursive, hparent, hkinds, hfields⟩ := hterms
      exact ⟨ps, hps, by rw [← hrecursive, List.contains_iff_mem], hparent, hkinds, hfields⟩
    · rw [hurl, (hv.queryPart_withPairs q.params).2, ne_eq, Query.params_eq_nil_iff]
  · intro host' token' user' device' u' hhost' link' q' hq' r hr r' hr' hsame
    have hterms := ofAddress?_of_mem_sent hhost hq hr
    rw [hsame, ofAddress?_of_mem_sent hhost' hq' hr'] at hterms
    exact Query.terms_eq_iff.1 (Option.some.inj hterms).symm

/-- An empty parent and one kind without a name are asked for with a question mark, and are read back;
what asks for nothing in particular has none, and goes elsewhere. -/
theorem empty_words_are_read_back :
    let query : Query := ⟨some "", [.other ""], false, []⟩
    (∃ r ∈ sent "http://jf.test/" "secret" "u1" "d1" .down (.query query),
      r.url.toString = "http://jf.test/Users/u1/Items?ParentId=&IncludeItemTypes=" ∧
      ∃ ps, Text.Form.decodePairs? ((Url.queryPart r.url.toString).getD "") = some ps ∧
        ps.lookup "ParentId" = some "" ∧ Query.wordsOf "IncludeItemTypes" ps = [""] ∧
        Query.wordsOf "Fields" ps = []) ∧
    ∃ r ∈ sent "http://jf.test/" "secret" "u1" "d1" .down (.query query),
      ∃ r' ∈ sent "http://jf.test" "secret" "u1" "d1" .down (.query Query.all),
        r'.url.toString = "http://jf.test/Users/u1/Items" ∧
        '?' ∉ r'.url.toString.toList ∧ r.url.toString ≠ r'.url.toString := by
  intro query
  have hhost : Url.IsAddress "http://jf.test/" guestUrl := ⟨by rfl, by decide, rfl, rfl⟩
  have hhost' : Url.IsAddress "http://jf.test" guestUrl := isNormal_guest.toIsAddress
  have hquery : query.IsSeparable := by
    intro k hk
    rw [List.mem_singleton.1 hk]
    decide
  obtain ⟨r, hr, htext⟩ : ∃ r ∈ sent "http://jf.test/" "secret" "u1" "d1" .down (.query query),
      r.url.toString = "http://jf.test/Users/u1/Items?ParentId=&IncludeItemTypes=" := by
    decide +kernel
  obtain ⟨r', hr', htext'⟩ :
      ∃ r' ∈ sent "http://jf.test" "secret" "u1" "d1" .down (.query Query.all),
        r'.url.toString = "http://jf.test/Users/u1/Items" := by
    decide +kernel
  obtain ⟨hread, hapart⟩ :=
    queries_survive_the_wire hhost "secret" "u1" "d1" .down query hquery
  obtain ⟨hread', -⟩ :=
    queries_survive_the_wire hhost' "secret" "u1" "d1" .down Query.all (List.forall_mem_nil _)
  obtain ⟨⟨ps, hps, -, hparent, hkinds, hfields⟩, -⟩ := hread r hr
  have hplain := (hread' r' hr').2
  refine ⟨⟨r, hr, htext, ps, hps, hparent, hkinds, hfields⟩, r, hr, r', hr', htext', ?_, ?_⟩
  · exact fun hmark => hplain.1 hmark rfl
  · intro hsame
    have hsays := hapart _ _ _ _ _ hhost' .down Query.all (List.forall_mem_nil _) r hr r' hr' hsame
    exact absurd hsays.2.1 (by decide)

end Session

end MediaTree
