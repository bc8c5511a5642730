/-
**How a call ends.**

Whether a request is sent at all is settled before anything is heard of the server: the token must
be the value of a header, and then the address must be one that can be sent.  A request that is sent
passes a row of stages, and each of them looks at its own part of what comes back.  Told one by one,
the stages do not know of each other; the outcome of the call is that of the first one that fails,
and the answer is what the last one reads, if none does.

A session keeps nothing of a call.  So the calls of a conversation send the requests that they would
send alone, and each of them ends as its own reply says, even if a server gives its replies in view
of everything that it was asked before.

Main definitions:

* `MediaTree.Stage`, `MediaTree.Stage.failure?` — the stages, and how a call fails at each;
* `MediaTree.Session.firstFailure?` — the failure of the first stage that fails;
* `MediaTree.Session.url?` — the address that a call is sent to, if there is one;
* `MediaTree.Session.converse` — call after call.

Main results:

* `MediaTree.Session.outcome_error_iff`, `MediaTree.Session.outcome_ok_iff` — a call ends at the first
  stage that fails;
* `MediaTree.Session.request_of_url?`, `MediaTree.Session.request_of_no_url` — when a request is
  made;
* `MediaTree.Session.converse_append` — a conversation call by call;
* `MediaTree.calls_end_at_first_failure` — **how every call ends, in every conversation**.
-/

import MediaTree.Proofs.Catalog.RoundTrip
import MediaTree.Proofs.Server.Endpoint

set_option autoImplicit false
set_option relaxedAutoImplicit false

namespace MediaTree

open Json (Document)

/-! ### Stages -/

/-- The stages that a request passes on its way to an answer. -/
inductive Stage where
  /-- The request gets through, and there is a response. -/
  | sending
  /-- The item that is asked for exists. -/
  | finding
  /-- The server reports no failure. -/
  | serving
  /-- Not more is announced than is read. -/
  | announcing
  /-- The body arrives as far as it reaches. -/
  | receiving
  /-- Not more arrives than is read. -/
  | measuring
  /-- What arrives is the record. -/
  | decoding
deriving DecidableEq, Repr

namespace Stage

/-- The stages, in the order in which they are passed. -/
def all : List Stage :=
  [sending, finding, serving, announcing, receiving, measuring, decoding]

/-- How a call fails at a stage, if it does. -/
def failure? (c : Call) (r : Http.Request) : Http.Reply → Stage → Option CatalogError
  | .lost, sending => some (.network ("error sending request for url (" ++ r.url.toString ++ ")"))
  | .response resp, sending =>
    if resp.status = 101 ∨ 200 ≤ resp.status ∧ resp.status ≤ 999 then none
    else some (.network ("error sending request for url (" ++ r.url.toString ++ ")"))
  | .response resp, finding =>
    match c with
    | .get id => if resp.status = 404 then some (.notFound id) else none
    | _ => none
  | .response resp, serving =>
    if 400 ≤ resp.status ∧ resp.status ≤ 599 then some (.http resp.status r.url.toString) else none
  | .response resp, announcing =>
    resp.announced?.bind fun n => if 16777216 < n then some (.tooLarge n) else none
  | .response resp, receiving =>
    if resp.isShort then
      some (.network ("error decoding response body for url (" ++ r.url.toString ++ ")"))
    else none
  | .response resp, measuring =>
    if 16777216 < resp.body.size then some (.tooLarge resp.body.size) else none
  | .response resp, decoding =>
    match Session.decodeAnswer c resp.body with
    | .ok _ => none
    | .error p => some (.parse p.message)
  | _, _ => none

/-- Passes stages one after the other, given how each of them fails, with something behind them. -/
def pass {α : Type} (failure? : Stage → Option CatalogError) :
    List Stage → Except CatalogError α → Except CatalogError α
  | [], answer => answer
  | st :: stages, answer =>
    match failure? st with
    | some e => .error e
    | none => pass failure? stages answer

/-- Who passes stages ends at the first that fails, or gets through. -/
theorem pass_eq {α : Type} (failure? : Stage → Option CatalogError) (stages : List Stage)
    (answer : Except CatalogError α) :
    pass failure? stages answer =
      match stages.findSome? failure? with
      | some e => .error e
      | none => answer := by
  induction stages with
  | nil => rfl
  | cons st stages ih =>
      rw [pass, List.findSome?_cons]
      cases failure? st with
      | some e => rfl
      | none => exact ih

theorem pass_append {α : Type} (failure? : Stage → Option CatalogError) (front back : List Stage)
    (answer : Except CatalogError α) :
    pass failure? (front ++ back) answer = pass failure? front (pass failure? back answer) := by
  induction front with
  | nil => rfl
  | cons st front ih =>
      rw [List.cons_append, pass, pass]
      cases failure? st with
      | some e => rfl
      | none => exact ih

/-- What is done with an answer is done behind the stages. -/
theorem pass_bind {α β : Type} (failure? : Stage → Option CatalogError) (stages : List Stage)
    (answer : Except CatalogError α) (f : α → Except CatalogError β) :
    (pass failure? stages answer).bind f = pass failure? stages (answer.bind f) := by
  induction stages with
  | nil => rfl
  | cons st stages ih =>
      rw [pass, pass]
      cases failure? st with
      | some e => rfl
      | none => exact ih

end Stage

namespace Session

/-- The failure of the first stage that fails. -/
def firstFailure? (c : Call) (r : Http.Request) (reply : Http.Reply) : Option CatalogError :=
  Stage.all.findSome? (Stage.failure? c r reply)

/-- What the last stage makes of a body. -/
def decoded (c : Call) (body : ByteArray) : Except CatalogError c.Answer :=
  match decodeAnswer c body with
  | .ok a => .ok a
  | .error p => .error (.parse p.message)

variable (c : Call) (r : Http.Request) (resp : Http.Response)

/-- What is only sent ahead of a response is none. -/
theorem failure?_sending :
    Stage.failure? c r (.response resp) .sending =
      if Http.Status.isFinal resp.status then none else some (Http.unsent r) := by
  have hfinal : Http.Status.isFinal resp.status = true ↔
      resp.status = 101 ∨ 200 ≤ resp.status ∧ resp.status ≤ 999 := by
    simp only [Http.Status.isFinal, Http.Status.switching, Bool.or_eq_true, Bool.and_eq_true,
      beq_iff_eq, decide_eq_true_eq]
    omega
  simp only [Stage.failure?, hfinal]
  rfl

/-- What arrives of a body is judged behind how far it arrives. -/
theorem pass_measuring :
    (if resp.isShort then Except.error (CatalogError.network
        ("error decoding response body for url (" ++ r.url.toString ++ ")"))
      else if 16777216 < resp.body.size then .error (.tooLarge resp.body.size)
      else .ok resp.body) =
    Stage.pass (Stage.failure? c r (.response resp)) [.receiving, .measuring] (.ok resp.body) := by
  simp only [Stage.pass, Stage.failure?]
  by_cases hshort : resp.isShort = true
  · simp only [hshort, if_true]
  · by_cases hlarge : 16777216 < resp.body.size
    · simp only [hshort, hlarge, if_true, if_false, Bool.false_eq_true]
    · simp only [hshort, hlarge, if_false, Bool.false_eq_true]

variable {resp} in
/-- Whatever is asked for, a body that is received has passed four stages. -/
theorem receive_none (hfinal : Http.Status.isFinal resp.status = true) :
    Http.receive none r (.response resp) =
      Stage.pass (Stage.failure? c r (.response resp))
        [.serving, .announcing, .receiving, .measuring] (.ok resp.body) := by
  have hserving : Http.Status.isFailure resp.status = true ↔
      400 ≤ resp.status ∧ resp.status ≤ 599 := by
    simp only [Http.Status.isFailure, Bool.and_eq_true, decide_eq_true_eq]
    omega
  have hlimit : maxResponseSize = 16777216 := rfl
  simp only [Http.receive, Stage.pass, Stage.failure?, hfinal, hserving, hlimit, Bool.not_true,
    Bool.false_eq_true, if_false]
  by_cases hfails : 400 ≤ resp.status ∧ resp.status ≤ 599
  · simp only [hfails, and_self, if_true]
  simp only [hfails, if_false, pass_measuring c]
  cases resp.announced? with
  | none => rfl
  | some n =>
      simp only [Option.getD_some, Option.bind_some]
      by_cases hlarge : 16777216 < n
      · simp only [hlarge, if_true]
      · simp only [hlarge, if_false]
        rfl

variable {resp} in
/-- Before that, an item has to exist. -/
theorem receive_itemOf (hfinal : Http.Status.isFinal resp.status = true) :
    Http.receive (itemOf c) r (.response resp) =
      Stage.pass (Stage.failure? c r (.response resp)) [.finding]
        (Http.receive none r (.response resp)) := by
  cases c with
  | get id =>
      by_cases hmissing : resp.status = 404
      · simp [Http.receive, Stage.pass, Stage.failure?, itemOf, Http.Status.notFound, hmissing,
          Http.Status.isFinal]
      · simp [Http.receive, Stage.pass, Stage.failure?, itemOf, Http.Status.notFound, hmissing,
          hfinal]
  | _ => rfl

/-- **A response passes the stages**, in their order. -/
theorem outcome_response :
    outcome c r (.response resp) =
      Stage.pass (Stage.failure? c r (.response resp)) Stage.all (decoded c resp.body) := by
  have hdecoded : decoded c resp.body =
      Stage.pass (Stage.failure? c r (.response resp)) [.decoding] (decoded c resp.body) := by
    rw [Stage.pass, Stage.failure?, decoded]
    cases decodeAnswer c resp.body <;> rfl
  have hstages : Stage.all = .sending :: ([.finding] ++
      ([.serving, .announcing, .receiving, .measuring] ++ [.decoding])) := rfl
  show (Http.receive (itemOf c) r (.response resp)).bind (decoded c) = _
  rw [hstages, Stage.pass, failure?_sending]
  by_cases hfinal : Http.Status.isFinal resp.status = true
  · rw [if_pos hfinal, receive_itemOf c r hfinal, receive_none c r hfinal, Stage.pass_bind,
      Stage.pass_bind, Stage.pass_append, Stage.pass_append, ← hdecoded]
    rfl
  · have hunsent : Http.receive (itemOf c) r (.response resp) = .error (Http.unsent r) :=
      if_pos (by simpa using hfinal)
    rw [if_neg hfinal, hunsent]
    rfl

/-! ### Outcomes -/

/-- The failure of the first stage that fails is the outcome. -/
theorem outcome_of_failure {reply : Http.Reply} {e : CatalogError}
    (h : firstFailure? c r reply = some e) : outcome c r reply = .error e := by
  cases reply with
  | lost =>
      cases h
      rfl
  | response resp =>
      rw [firstFailure?] at h
      rw [outcome_response, Stage.pass_eq, h]

/-- If no stage fails, the whole body is read. -/
theorem outcome_of_none {reply : Http.Reply} (h : firstFailure? c r reply = none) :
    ∃ resp v, reply = .response resp ∧ decodeAnswer c resp.body = .ok v ∧
      outcome c r reply = .ok v := by
  cases reply with
  | lost => cases h
  | response resp =>
      have hdecoding : Stage.failure? c r (.response resp) .decoding = none :=
        List.findSome?_eq_none_iff.1 h .decoding (by decide)
      rw [firstFailure?] at h
      rw [outcome_response, Stage.pass_eq, h]
      cases hread : decodeAnswer c resp.body with
      | ok v => exact ⟨resp, v, rfl, hread, by simp only [decoded, hread]⟩
      | error p => simp [Stage.failure?, hread] at hdecoding

/-- **A call fails as the first stage that fails**, and only then. -/
theorem outcome_error_iff (reply : Http.Reply) (e : CatalogError) :
    outcome c r reply = .error e ↔ firstFailure? c r reply = some e := by
  constructor
  · intro h
    cases hfirst : firstFailure? c r reply with
    | some e' =>
        rw [outcome_of_failure c r hfirst] at h
        cases h
        rfl
    | none =>
        obtain ⟨resp, v, -, -, hok⟩ := outcome_of_none c r hfirst
        rw [hok] at h
        cases h
  · exact outcome_of_failure c r

/-- **A call is answered if no stage fails**, with what the whole body is read as. -/
theorem outcome_ok_iff (reply : Http.Reply) (v : c.Answer) :
    outcome c r reply = .ok v ↔ firstFailure? c r reply = none ∧
      ∃ resp, reply = .response resp ∧ decodeAnswer c resp.body = .ok v := by
  constructor
  · intro h
    cases hfirst : firstFailure? c r reply with
    | some e =>
        rw [outcome_of_failure c r hfirst] at h
        cases h
    | none =>
        obtain ⟨resp, v', hreply, hread, hok⟩ := outcome_of_none c r hfirst
        rw [hok] at h
        cases h
        exact ⟨rfl, resp, hreply, hread⟩
  · rintro ⟨hfirst, resp, rfl, hread⟩
    obtain ⟨resp', v', hreply, hread', hok⟩ := outcome_of_none c r hfirst
    cases hreply
    rw [hread] at hread'
    cases hread'
    exact hok

/-- Behind a stage that fails nothing is looked at: two replies that are the same to the stages up to
there have one outcome. -/
theorem outcome_congr {reply reply' : Http.Reply} (front back : List Stage)
    (hall : Stage.all = front ++ back)
    (hsame : ∀ st ∈ front, Stage.failure? c r reply' st = Stage.failure? c r reply st)
    (hfails : ∃ st ∈ front, (Stage.failure? c r reply st).isSome) :
    outcome c r reply' = outcome c r reply := by
  have hfront : front.findSome? (Stage.failure? c r reply') =
      front.findSome? (Stage.failure? c r reply) := by
    rw [← List.head?_filterMap, ← List.head?_filterMap, List.filterMap_congr hsame]
  obtain ⟨e, he⟩ := Option.isSome_iff_exists.1 (List.findSome?_isSome_iff.2 hfails)
  have hfirst (x : Http.Reply) (h : front.findSome? (Stage.failure? c r x) = some e) :
      outcome c r x = .error e := by
    refine outcome_of_failure c r ?_
    rw [firstFailure?, hall, List.findSome?_append, h]
    rfl
  rw [hfirst reply' (hfront.trans he), hfirst reply he]

/-- A failure of the server is one whatever else comes with it. -/
theorem outcome_of_refused {resp resp' : Http.Response} (hlow : 400 ≤ resp.status)
    (hhigh : resp.status ≤ 599) (hstatus : resp'.status = resp.status) :
    outcome c r (.response resp') = outcome c r (.response resp) := by
  refine outcome_congr c r [.sending, .finding, .serving]
    [.announcing, .receiving, .measuring, .decoding] rfl ?_ ?_
  · intro st hst
    simp only [List.mem_cons, List.not_mem_nil, or_false] at hst
    rcases hst with rfl | rfl | rfl <;> simp only [Stage.failure?, hstatus]
  · exact ⟨.serving, by simp, by simp [Stage.failure?, hlow, hhigh]⟩

/-- Too long an announcement is one whatever arrives. -/
theorem outcome_of_announced {n : Nat} (octets : ByteArray) (hn : resp.announced? = some n)
    (hlarge : 16777216 < n) :
    outcome c r (.response { resp with octets := octets }) = outcome c r (.response resp) := by
  refine outcome_congr c r [.sending, .finding, .serving, .announcing]
    [.receiving, .measuring, .decoding] rfl ?_ ?_
  · intro st hst
    simp only [List.mem_cons, List.not_mem_nil, or_false] at hst
    rcases hst with rfl | rfl | rfl | rfl <;> rfl
  · exact ⟨.announcing, by simp, by simp [Stage.failure?, hn, hlarge]⟩

/-- A list of items is not read if one of them is not. -/
theorem decodeAnswer_of_item {c : Call} (hc : ∀ id, c ≠ .get id) {body : ByteArray}
    {v : Json.Reading} {p : Json.Problem} (hv : v ∈ ItemList.sent (Document.ofBytes body).value)
    (hp : Item.decode (Json.nestingLimit - 2) v = .error p) :
    ∃ p', decodeAnswer c body = .error p' := by
  have hlist : ∃ p', Json.decodeBytes ItemList.decode body = .error p' := by
    cases h : Json.decodeBytes ItemList.decode body with
    | error p' => exact ⟨p', rfl⟩
    | ok l =>
        have hread := ItemList.forall₂_of_decode (Json.of_decodeBytes_eq_ok h)
        obtain ⟨n, rfl⟩ := List.mem_iff_get.1 hv
        have hn := hread.get n.2 (hread.length_eq ▸ n.2)
        rw [hp] at hn
        cases hn
  cases c with
  | get id => exact absurd rfl (hc id)
  | _ => exact hlist

/-- So a response with such a list ends in its last stage, if it comes so far. -/
theorem outcome_of_item {c : Call} (hc : ∀ id, c ≠ .get id) {resp : Http.Response}
    (hstages : ∀ st, st ≠ .decoding → Stage.failure? c r (.response resp) st = none)
    {v : Json.Reading} {p : Json.Problem}
    (hv : v ∈ ItemList.sent (Document.ofBytes resp.body).value)
    (hp : Item.decode (Json.nestingLimit - 2) v = .error p) :
    ∃ text, outcome c r (.response resp) = .error (.parse text) := by
  obtain ⟨p', hread⟩ := decodeAnswer_of_item hc hv hp
  have hall : Stage.all =
    [.sending, .finding, .serving, .announcing, .receiving, .measuring] ++ [.decoding] := rfl
  refine ⟨p'.message, outcome_of_failure c r ?_⟩
  rw [firstFailure?, hall, List.findSome?_append, List.findSome?_eq_none_iff.2, Option.none_or]
  · simp [Stage.failure?, hread]
  · intro st hst
    refine hstages st ?_
    rintro rfl
    exact absurd hst (by decide)

/-! ### Requests -/

/-- The address that a call is sent to: it is read, names somebody, gets the pairs of the call, and
can be sent. -/
def url? (s : Session) (c : Call) : Option Url :=
  match Url.parse (s.address c) with
  | .error _ => none
  | .ok u =>
    if u.host.getD "" ≠ "" ∧ Http.isSendable ((pairs c).elim u u.withPairs) then
      some ((pairs c).elim u u.withPairs)
    else none

variable {s : Session} {c : Call}

/-- What such an address is. -/
theorem url?_eq_some_iff {v : Url} :
    s.url? c = some v ↔ ∃ u, Url.parse (s.address c) = .ok u ∧ u.host.getD "" ≠ "" ∧
      Http.isSendable v = true ∧ v = (pairs c).elim u u.withPairs := by
  cases hparse : Url.parse (s.address c) with
  | error e => simp [url?, hparse]
  | ok u =>
      simp only [url?, hparse, Except.ok.injEq, exists_eq_left']
      constructor
      · intro h
        split at h
        · rename_i hsend
          cases h
          exact ⟨hsend.1, hsend.2, rfl⟩
        · cases h
      · rintro ⟨hhost, hsend, rfl⟩
        rw [if_pos ⟨hhost, hsend⟩]

/-- Otherwise the request goes to that address. -/
theorem request_of_url? (ht : Http.isHeaderText s.token = true) {v : Url}
    (h : s.url? c = some v) : s.request c = .ok ⟨v, s.token, "application/json"⟩ := by
  obtain ⟨u, hparse, hhost, hsend, rfl⟩ := url?_eq_some_iff.1 h
  rw [request, prepare_of_parsed ht hparse, if_neg hhost, if_pos hsend]

/-- Without one there is no request. -/
theorem request_of_no_url (ht : Http.isHeaderText s.token = true) (h : s.url? c = none) :
    ∃ text, s.request c = .error (.network text) := by
  cases hparse : Url.parse (s.address c) with
  | error e =>
      refine ⟨"builder error", ?_⟩
      rw [request, Http.prepare, ht, hparse]
      rfl
  | ok u =>
      rw [request, prepare_of_parsed ht hparse]
      by_cases hhost : u.host.getD "" = ""
      · rw [if_pos hhost]
        exact ⟨_, rfl⟩
      · by_cases hsend : Http.isSendable ((pairs c).elim u u.withPairs) = true
        · rw [url?, hparse] at h
          simp only [hhost, hsend, ne_eq, not_false_iff, and_self, if_true] at h
          cases h
        · rw [if_neg hhost, if_neg hsend]
          exact ⟨_, rfl⟩

/-! ### Conversations -/

/-- A server, whose replies may depend on everything that it was asked before. -/
abbrev Server := List Http.Request → Http.Link

/-- Call after call, given what the server was asked before. -/
def converse (s : Session) (server : Server) :
    List Http.Request → List Call → List ((c : Call) × Handled c)
  | _, [] => []
  | past, c :: cs =>
    let h := s.perform (server past) c
    ⟨c, h⟩ :: s.converse server (past ++ Event.requests h.events) cs

/-- The requests that calls send. -/
def asked (s : Session) (cs : List Call) : List Http.Request :=
  cs.flatMap fun c => (s.request c).toOption.toList

/-- What a call sends is settled before it meets a reply. -/
theorem requests_perform (s : Session) (link : Http.Link) (c : Call) :
    Event.requests (s.perform link c).events = (s.request c).toOption.toList := by
  cases h : s.request c with
  | ok r =>
      rw [perform_of_ok h]
      rfl
  | error e =>
      rw [perform_of_error h]
      rfl

/-- **A conversation, call by call**: what comes later depends on the requests that were sent, and on
nothing else that was seen. -/
theorem converse_append (s : Session) (server : Server) (past : List Http.Request)
    (front back : List Call) :
    s.converse server past (front ++ back) =
      s.converse server past front ++ s.converse server (past ++ s.asked front) back := by
  induction front generalizing past with
  | nil => simp [converse, asked]
  | cons c front ih =>
      have hasked : s.asked (c :: front) = (s.request c).toOption.toList ++ s.asked front := rfl
      rw [List.cons_append, converse, converse, requests_perform, ih, hasked,
        List.append_assoc, List.cons_append]

theorem length_converse (s : Session) (server : Server) (past : List Http.Request)
    (cs : List Call) : (s.converse server past cs).length = cs.length := by
  induction cs generalizing past with
  | nil => rfl
  | cons c cs ih => simp [converse, ih]

/-- Each call of a conversation is the call alone, with the server as it is then. -/
theorem converse_at (s : Session) (server : Server) (front back : List Call) (c : Call) :
    (s.converse server [] (front ++ c :: back))[front.length]? =
      some ⟨c, s.perform (server (s.asked front)) c⟩ := by
  rw [converse_append, ← length_converse s server [] front, List.getElem?_append_right (Nat.le_refl _),
    Nat.sub_self]
  rfl

/-- All requests of a conversation are those that its calls send alone. -/
theorem requests_converse (s : Session) (server : Server) (past : List Http.Request)
    (cs : List Call) :
    (s.converse server past cs).flatMap (fun h => Event.requests h.2.events) = s.asked cs := by
  induction cs generalizing past with
  | nil => rfl
  | cons c cs ih =>
      rw [converse, List.flatMap_cons, requests_perform, ih]
      rfl

end Session

open Session (decodeAnswer firstFailure? outcome)

/-- **How every call ends, in every conversation.**  A call sends one request, unless the token is
no header, or else there is no address to send it to.  A request that is sent ends as the first
stage says that fails, or with what the whole body is read as if none does: a failure of the server
whatever else comes with it, too long an announcement whatever arrives, and a list of items like its
worst item.  The calls of a conversation send what they would send alone, and each of them ends by
its own reply. -/
theorem calls_end_at_first_failure (s : Session) :
    (∀ c link,
      (Http.isHeaderText s.token = false →
        s.perform link c = ⟨[.logged (s.announcement c)],
          .error (.invalidHeader "failed to parse header value")⟩) ∧
      (Http.isHeaderText s.token = true → s.url? c = none →
        ∃ text, s.perform link c = ⟨[.logged (s.announcement c)], .error (.network text)⟩) ∧
      (Http.isHeaderText s.token = true → ∀ u, s.url? c = some u →
        ∃ r : Http.Request, r.url = u ∧ r.method = "GET" ∧
          s.perform link c = ⟨[.logged (s.announcement c), .sent r], outcome c r (link r)⟩)) ∧
    (∀ c r reply,
      (∀ e, outcome c r reply = .error e ↔ firstFailure? c r reply = some e) ∧
      ∀ v, outcome c r reply = .ok v ↔ firstFailure? c r reply = none ∧
        ∃ resp, reply = .response resp ∧ decodeAnswer c resp.body = .ok v) ∧
    (∀ c r resp resp', 400 ≤ resp.status → resp.status ≤ 599 → resp'.status = resp.status →
      outcome c r (.response resp') = outcome c r (.response resp)) ∧
    (∀ c r resp octets n, resp.announced? = some n → 16777216 < n →
      outcome c r (.response { resp with octets := octets }) = outcome c r (.response resp)) ∧
    (∀ c r resp v p, (∀ id, c ≠ .get id) →
      (∀ st, st ≠ .decoding → Stage.failure? c r (.response resp) st = none) →
      v ∈ ItemList.sent (Document.ofBytes resp.body).value →
      Item.decode (Json.nestingLimit - 2) v = .error p →
      ∃ text, outcome c r (.response resp) = .error (.parse text)) ∧
    (∀ server cs, (s.converse server [] cs).flatMap (fun h => Event.requests h.2.events) =
      s.asked cs) ∧
    (∀ server front back c, (s.converse server [] (front ++ c :: back))[front.length]? =
      some ⟨c, s.perform (server (s.asked front)) c⟩) ∧
    ∀ server server' front front' back back' c,
      (∀ r, s.request c = .ok r → server (s.asked front) r = server' (s.asked front') r) →
      (s.converse server [] (front ++ c :: back))[front.length]? =
        (s.converse server' [] (front' ++ c :: back'))[front'.length]? := by
  refine ⟨fun c link => ⟨?_, ?_, ?_⟩, ?_, ?_, ?_, ?_, ?_, ?_, ?_⟩
  · intro ht
    exact Session.perform_of_error (Session.request_of_token ht c) link
  · intro ht hurl
    obtain ⟨text, hrequest⟩ := Session.request_of_no_url ht hurl
    exact ⟨text, Session.perform_of_error hrequest link⟩
  · intro ht u hurl
    exact ⟨_, rfl, rfl, Session.perform_of_ok (Session.request_of_url? ht hurl) link⟩
  · intro c r reply
    exact ⟨Session.outcome_error_iff c r reply, Session.outcome_ok_iff c r reply⟩
  · intro c r resp resp' hlow hhigh hstatus
    exact Session.outcome_of_refused c r hlow hhigh hstatus
  · intro c r resp octets n hn hlarge
    exact Session.outcome_of_announced c r resp octets hn hlarge
  · intro c r resp v p hc hstages hv hp
    exact Session.outcome_of_item r hc hstages hv hp
  · intro server cs
    exact s.requests_converse server [] cs
  · intro server front back c
    exact s.converse_at server front back c
  · intro server server' front front' back back' c hsame
    rw [s.converse_at, s.converse_at]
    cases hrequest : s.request c with
    | ok r =>
        rw [Session.perform_of_ok hrequest, Session.perform_of_ok hrequest, hsame r hrequest]
    | error e => rw [Session.perform_of_error hrequest, Session.perform_of_error hrequest]

/-- A response in pieces, with a text as its body. -/
def textResponse (status : Nat) (text : String) : Http.Response :=
  ⟨status, .told true, text.toUTF8⟩

/-- A list of one film. -/
def filmList : ItemList := ⟨[Item.bare "a" (.known .movie)], 1⟩

/-- Its text. -/
def filmListText : String :=
  "\x7b\"Items\":[\x7b\"Id\":\"a\",\"Type\":\"Movie\"\x7d],\"TotalRecordCount\":1\x7d"

/-- A list of two, of which the second one is no item but a number. -/
def mixedListText : String :=
  "\x7b\"Items\":[\x7b\"Id\":\"a\",\"Type\":\"Movie\"\x7d,7],\"TotalRecordCount\":2\x7d"

/-- Such a response comes as far as its last stage. -/
theorem failure?_textResponse (r : Http.Request) {text : String}
    (hsize : ¬ 16777216 < text.toUTF8.size) (st : Stage) (hst : st ≠ .decoding) :
    Stage.failure? .folders r (.response (textResponse 200 text)) st = none := by
  cases st with
  | decoding => exact absurd rfl hst
  | measuring => exact if_neg hsize
  | _ => rfl

/-- A server that answers once, then sends nonsense, then breaks off, and has nothing from there
on. -/
def fadingServer : Session.Server := fun past _ =>
  match past.length with
  | 0 => .response (textResponse 200 filmListText)
  | 1 => .response (textResponse 200 mixedListText)
  | 2 => .response ⟨200, .told false, filmListText.toUTF8⟩
  | _ => .response (textResponse 404 filmListText)

/-- The first list is read, the second is not, the third does not arrive as a whole, and the item that
is asked for in the end is missing, whatever comes with the status. -/
theorem guest_is_told_how_each_call_ends :
    let told := Session.guestSession.converse fadingServer []
      [.folders, .folders, .folders, .get "a"]
    (∃ es, told[0]? = some ⟨.folders, ⟨es, .ok filmList⟩⟩) ∧
    (∃ es text, told[1]? = some ⟨.folders, ⟨es, .error (.parse text)⟩⟩) ∧
    (∃ es text, told[2]? = some ⟨.folders, ⟨es, .error (.network text)⟩⟩) ∧
    ∃ es, told[3]? = some ⟨.get "a", ⟨es, .error (.notFound "a")⟩⟩ := by
  obtain ⟨hperform, houtcome, -, -, hitem, -, hat, -⟩ :=
    calls_end_at_first_failure Session.guestSession
  have htoken : Http.isHeaderText Session.guestSession.token = true := by decide +kernel
  -- Each call ends by the reply that it meets behind those in front of it.
  have htold (front back : List Call) (c : Call)
      (hurl : (Session.guestSession.url? c).isSome = true) :
      ∃ r es, (Session.guestSession.converse fadingServer [] (front ++ c :: back))[front.length]? =
        some ⟨c, ⟨es, outcome c r (fadingServer (Session.guestSession.asked front) r)⟩⟩ := by
    obtain ⟨u, hu⟩ := Option.isSome_iff_exists.1 hurl
    obtain ⟨r, -, -, hr⟩ :=
      (hperform c (fadingServer (Session.guestSession.asked front))).2.2 htoken u hu
    refine ⟨r, [.logged (Session.guestSession.announcement c), .sent r], ?_⟩
    exact (hat fadingServer front back c).trans (congrArg (fun h => some (Sigma.mk c h)) hr)
  have hfolders : (Session.guestSession.url? .folders).isSome = true := by decide +kernel
  refine ⟨?_, ?_, ?_, ?_⟩
  · obtain ⟨r, es, hr⟩ := htold [] [.folders, .folders, .get "a"] .folders hfolders
    have hlist : Json.decodeBytes ItemList.decode (textResponse 200 filmListText).body =
        .ok filmList := by decide +kernel
    have hread : decodeAnswer .folders (textResponse 200 filmListText).body = .ok filmList := hlist
    have hnone : firstFailure? .folders r (.response (textResponse 200 filmListText)) = none := by
      refine List.findSome?_eq_none_iff.2 fun st _ => ?_
      by_cases hst : st = .decoding
      · simp only [hst, Stage.failure?, hread]
      · exact failure?_textResponse r (by decide +kernel) st hst
    refine ⟨es, hr.trans ?_⟩
    rw [← ((houtcome .folders r _).2 _).2 ⟨hnone, _, rfl, hread⟩]
    rfl
  · obtain ⟨r, es, hr⟩ := htold [.folders] [.folders, .get "a"] .folders hfolders
    have hasked : (Session.guestSession.asked [.folders]).length = 1 := by decide +kernel
    obtain ⟨v, hv, hbad⟩ := List.any_eq_true.1
      (show (ItemList.sent (Document.ofBytes (textResponse 200 mixedListText).body).value).any
        (fun v => (Item.decode (Json.nestingLimit - 2) v).toOption.isNone) by decide +kernel)
    obtain ⟨p, hp⟩ : ∃ p, Item.decode (Json.nestingLimit - 2) v = .error p := by
      cases h : Item.decode (Json.nestingLimit - 2) v with
      | error p => exact ⟨p, rfl⟩
      | ok i =>
          rw [h] at hbad
          cases hbad
    obtain ⟨text, htext⟩ := hitem .folders r (textResponse 200 mixedListText) v p nofun
      (failure?_textResponse r (by decide +kernel)) hv hp
    refine ⟨es, text, hr.trans ?_⟩
    rw [← htext]
    simp only [fadingServer, hasked]
  · obtain ⟨r, es, hr⟩ := htold [.folders, .folders] [.get "a"] .folders hfolders
    have hasked : (Session.guestSession.asked [.folders, .folders]).length = 2 := by
      decide +kernel
    obtain ⟨text, hbroken⟩ : ∃ text, outcome .folders r
        (.response ⟨200, .told false, filmListText.toUTF8⟩) = .error (.network text) :=
      ⟨_, ((houtcome .folders r _).1 _).2 rfl⟩
    refine ⟨es, text, hr.trans ?_⟩
    rw [← hbroken]
    simp only [fadingServer, hasked]
  · obtain ⟨r, es, hr⟩ :=
      htold [.folders, .folders, .folders] [] (.get "a") (by decide +kernel)
    have hasked : (Session.guestSession.asked [.folders, .folders, .folders]).length = 3 := by
      decide +kernel
    have hmissing := ((houtcome (.get "a") r (.response (textResponse 404 filmListText))).1
      (.notFound "a")).2 rfl
    refine ⟨es, hr.trans ?_⟩
    rw [← hmissing]
    simp only [fadingServer, hasked]

end MediaTree
