/-
**Requests in flight.**

Any number of requests can be under way on one source.  A request looks into the slot once, when it
starts, and keeps the catalog that it finds there.  Then it makes one call at a time, and between
two of its calls anything may happen: other requests start and go on, catalogs are attached and
detached.  What a catalog answers may change from call to call, so an answer comes with the step
that asks for it and is no property of the catalog.

Nothing that happens in between reaches a request but the answers to its own calls
(`MediaTree.World.flight_run`).  What is left is one request alone, and the invariant
`MediaTree.Flight.OnTrack`: what it has seen, followed by what it would still see, is what the same
request sees on any catalog that answers as it was answered.  Since no call is made twice, there is
such a catalog.

Main definitions:

* `MediaTree.Plan.settle` — a plan up to its next call;
* `MediaTree.Flight` — a request in flight, with `Flight.start`, `Flight.advance`;
* `MediaTree.World`, `MediaTree.Move` — a source with requests in flight, and what can happen;
* `MediaTree.Flight.Replays` — a catalog that answers a request as it was answered in flight.

Main results:

* `MediaTree.World.flight_run` — a request in flight meets the answers to its own calls only;
* `MediaTree.Flight.onTrack_advances` — the invariant of a request in flight;
* `MediaTree.Flight.OnTrack.exists_replays` — some catalog answers as the request was answered;
* `MediaTree.requests_keep_snapshot` — **a request in flight comes to what it comes to alone.**
-/

import MediaTree.Catalog.Memory
import MediaTree.Proofs.Source.Slot
import MediaTree.Proofs.Tree.Ascent
import MediaTree.Proofs.Tree.Calls

set_option autoImplicit false
set_option relaxedAutoImplicit false

namespace MediaTree

/-! ### Plans up to the next call -/

namespace Plan

variable {α : Type}

/-- Goes on to the next call or to the end: what is logged on the way, and the plan from there. -/
def settle : Plan α → List Event × Plan α
  | log e rest => (.logged e :: rest.settle.1, rest.settle.2)
  | finish a => ([], finish a)
  | ask c next => ([], ask c next)

/-- A plan that has ended, or waits for the answer to a call. -/
def Waits : Plan α → Prop
  | log _ _ => False
  | finish _ | ask _ _ => True

theorem waits_settle (p : Plan α) : p.settle.2.Waits := by
  induction p with
  | finish a => trivial
  | log e rest ih => exact ih
  | ask c next ih => trivial

theorem run_settle (k : Catalog) (p : Plan α) :
    p.run k = (p.settle.1 ++ (p.settle.2.run k).1, (p.settle.2.run k).2) := by
  induction p with
  | finish a => rfl
  | log e rest ih => simp only [run, settle, ih, List.cons_append]
  | ask c next ih => rfl

@[simp] theorem calls_settle (k : Catalog) (p : Plan α) : p.settle.2.calls k = p.calls k := by
  induction p with
  | finish a => rfl
  | log e rest ih => exact ih
  | ask c next ih => rfl

theorem Climbs.settle {low high : Nat} {p : Plan α} (h : p.Climbs low high) :
    p.settle.2.Climbs low high := by
  induction p with
  | finish a => exact h
  | log e rest ih => exact ih h
  | ask c next ih => exact h

end Plan

/-! ### A request in flight -/

/-- What is done about every call at some moment. -/
abbrev Answering := (c : Call) → Handled c

/-- A call that was made: who was asked, the call, and what was done about it. -/
structure Exchange where
  catalog : Catalog
  call : Call
  handled : Handled call

/-- A request in flight. -/
structure Flight where
  request : Request
  /-- The catalog that was attached when the request started. -/
  snapshot : Option Catalog
  /-- What is left to do, from the next call on. -/
  rest : Plan (Except RequestError request.Yield)
  /-- What was seen so far. -/
  seen : List Event
  /-- The calls so far. -/
  exchanges : List Exchange

namespace Flight

/-- A request starts: it looks into the slot, and goes on to its first call. -/
def start [Mime.Table] (s : Source) (r : Request) : Flight :=
  match s.catalog with
  | none => ⟨r, none, .finish (.error r.refusal), [], []⟩
  | some k =>
    let p := Plan.settle (ExceptT.run (r.plan k.links s.name))
    ⟨r, some k, p.2, p.1, []⟩

/-- The call that a request waits for is made and answered, and the request goes on to its next one.
-/
def advance (f : Flight) (answering : Answering) : Flight :=
  match f.snapshot, f.rest with
  | some k, .ask c next =>
    let p := (next (answering c).result).settle
    { f with
      rest := p.2
      seen := f.seen ++ ((answering c).events ++ p.1)
      exchanges := f.exchanges ++ [⟨k, c, answering c⟩] }
  | _, _ => f

/-- What a request came to, if it has ended. -/
def result? (f : Flight) : Option (Except RequestError f.request.Yield) :=
  match f.rest with
  | .finish r => some r
  | _ => none

/-- Several answers, one after the other. -/
def advances (f : Flight) (answers : List Answering) : Flight := answers.foldl advance f

@[simp] theorem request_start [Mime.Table] (s : Source) (r : Request) :
    (start s r).request = r := by
  unfold start
  split <;> rfl

@[simp] theorem request_advance (f : Flight) (answering : Answering) :
    (f.advance answering).request = f.request := by
  unfold advance
  split <;> rfl

@[simp] theorem request_advances (f : Flight) (answers : List Answering) :
    (f.advances answers).request = f.request := by
  induction answers generalizing f with
  | nil => rfl
  | cons answering answers ih => exact (ih _).trans (request_advance f answering)

/-- A catalog has the addresses of another one, and answers every call that a request made as it was
answered. -/
structure Replays (f : Flight) (k l : Catalog) : Prop where
  links : l.links = k.links
  handle : ∀ x ∈ f.exchanges, l.handle x.call = x.handled

end Flight

/-! ### A source with requests in flight -/

/-- A source, and the requests that were started on it, in the order of their starts. -/
structure World where
  source : Source
  flights : List Flight

/-- What can happen next. -/
inductive Move where
  | attach (k : Catalog)
  | detach
  | start (r : Request)
  /-- A request in flight, by its number, makes its next call and is answered. -/
  | advance (i : Nat) (answering : Answering)

/-- The answer that a move has for the request with a number. -/
def Move.answerTo? (i : Nat) : Move → Option Answering
  | advance j answering => if j = i then some answering else none
  | _ => none

namespace World

variable [Mime.Table]

/-- A source with nothing in flight. -/
def idle (s : Source) : World := ⟨s, []⟩

/-- One thing happens. -/
def step (w : World) : Move → World
  | .attach k => { w with source := w.source.attach k }
  | .detach => { w with source := w.source.detach.1 }
  | .start r => { w with flights := w.flights ++ [Flight.start w.source r] }
  | .advance i answering => { w with flights := w.flights.modify i (·.advance answering) }

/-- Things happen one after the other. -/
def run (w : World) (moves : List Move) : World := moves.foldl step w

@[simp] theorem run_nil (w : World) : w.run [] = w := rfl

@[simp] theorem run_cons (w : World) (m : Move) (moves : List Move) :
    w.run (m :: moves) = (w.step m).run moves := rfl

@[simp] theorem run_append (w : World) (moves more : List Move) :
    w.run (moves ++ more) = (w.run moves).run more := by
  simp [run, List.foldl_append]

@[simp] theorem name_run (w : World) (moves : List Move) :
    (w.run moves).source.name = w.source.name := by
  induction moves generalizing w with
  | nil => rfl
  | cons m moves ih =>
      rw [run_cons, ih]
      cases m <;> rfl

/-- One move reaches a request only through the answer that it has for it. -/
theorem flight_step {w : World} {i : Nat} {f : Flight} (h : w.flights[i]? = some f) (m : Move) :
    (w.step m).flights[i]? = some (f.advances (m.answerTo? i).toList) := by
  cases m with
  | attach k => exact h
  | detach => exact h
  | start r =>
      have hi : i < w.flights.length := (List.getElem?_eq_some_iff.1 h).1
      simpa [step, Move.answerTo?, Flight.advances, List.getElem?_append_left hi] using h
  | advance j answering =>
      by_cases hj : j = i
      · simp [step, Move.answerTo?, Flight.advances, hj, h]
      · simp [step, Move.answerTo?, Flight.advances, hj, h]

/-- **A request in flight meets the answers to its own calls only.** -/
theorem flight_run {w : World} {i : Nat} {f : Flight} (h : w.flights[i]? = some f)
    (moves : List Move) :
    (w.run moves).flights[i]? = some (f.advances (moves.filterMap (Move.answerTo? i))) := by
  induction moves generalizing w f with
  | nil => exact h
  | cons m moves ih =>
      rw [run_cons, ih (flight_step h m)]
      cases hm : m.answerTo? i <;> simp [Flight.advances, hm]

end World

/-! ### One request alone -/

namespace Flight

variable [Mime.Table]

/-- How a request stands that was started on a source with a catalog, and was given `turns` answers.
It asks this catalog; on a catalog that answers as it was answered, it comes to what it has seen and
what is left; and it has made a call at every turn, as long as there was one to make. -/
structure OnTrack (s : Source) (k : Catalog) (turns : Nat) (f : Flight) : Prop where
  snapshot : f.snapshot = some k
  asked : ∀ x ∈ f.exchanges, x.catalog = k
  waits : f.rest.Waits
  /-- What was done and what is left make up the request. -/
  replayed : ∀ l, f.Replays k l →
    (s.attach l).answer f.request = (f.seen ++ (f.rest.run l).1, (f.rest.run l).2) ∧
    (f.request.plan l.links s.name).calls l = f.exchanges.map (·.call) ++ f.rest.calls l
  count : f.exchanges.length = turns ∨ f.exchanges.length ≤ turns ∧ ∃ r, f.rest = .finish r
  /-- The calls so far are different from each other and from all that may come. -/
  climbs : ∃ low, (∀ x ∈ f.exchanges, x.call.height < low) ∧ f.rest.Climbs low 3
  distinct : (f.exchanges.map (·.call)).Nodup

variable {s : Source} {k : Catalog}

/-- A request is on track when it starts. -/
theorem onTrack_start (h : s.catalog = some k) (r : Request) : (start s r).OnTrack s k 0 := by
  have hstart : start s r = ⟨r, some k, (Plan.settle (ExceptT.run (r.plan k.links s.name))).2,
      (Plan.settle (ExceptT.run (r.plan k.links s.name))).1, []⟩ := by
    simp only [start, h]
  rw [hstart]
  constructor
  case snapshot => rfl
  case asked => simp
  case waits => exact Plan.waits_settle _
  case replayed =>
    intro l hl
    refine ⟨?_, ?_⟩
    · rw [Source.answer_of_some (s := s.attach l) rfl]
      show Plan.run l (ExceptT.run (r.plan l.links s.name)) = _
      rw [hl.links]
      exact Plan.run_settle l _
    · rw [hl.links]
      exact (Plan.calls_settle l _).symm
  case count => exact .inl rfl
  case climbs =>
    refine ⟨0, by simp, Plan.Climbs.settle ?_⟩
    cases r with
    | browse id => exact climbs_browsePlan k.links s.name id
    | resolve id => exact climbs_resolvePlan k.links id
  case distinct => exact List.nodup_nil

/-- An answer keeps a request on track. -/
theorem OnTrack.advance {turns : Nat} {f : Flight} (h : f.OnTrack s k turns)
    (answering : Answering) : (f.advance answering).OnTrack s k (turns + 1) := by
  obtain ⟨request, snapshot, rest, seen, exchanges⟩ := f
  obtain ⟨hsnapshot, hasked, hwaits, hreplayed, hcount, ⟨low, hlow, hclimbs⟩, hdistinct⟩ := h
  obtain rfl : snapshot = some k := hsnapshot
  cases rest with
  | log e rest => exact absurd hwaits id
  | finish r =>
      -- the request has ended, and the answer is for nobody
      refine ⟨rfl, hasked, hwaits, hreplayed, .inr ⟨?_, r, rfl⟩, ⟨low, hlow, hclimbs⟩, hdistinct⟩
      rcases hcount with hcount | ⟨hcount, -⟩
      · exact Nat.le_succ_of_le (Nat.le_of_eq hcount)
      · exact Nat.le_succ_of_le hcount
  | ask c next =>
      obtain ⟨hc, -, hnext⟩ := hclimbs
      constructor
      case snapshot => rfl
      case asked =>
        intro x hx
        rcases List.mem_append.1 hx with hx | hx
        · exact hasked x hx
        · obtain rfl := List.mem_singleton.1 hx
          rfl
      case waits => exact Plan.waits_settle _
      case replayed =>
        intro l hl
        have hcall : l.handle c = answering c :=
          hl.handle ⟨k, c, answering c⟩ (List.mem_append_right _ (List.mem_singleton.2 rfl))
        obtain ⟨hanswer, hcalls⟩ :=
          hreplayed l ⟨hl.links, fun x hx => hl.handle x (List.mem_append_left _ hx)⟩
        have hrun := Plan.run_settle l (next (answering c).result)
        refine ⟨hanswer.trans ?_, hcalls.trans ?_⟩
        · simp only [Plan.run, hcall]
          rw [hrun]
          simp [Flight.advance]
        · simp [Flight.advance, Plan.calls, hcall]
      case count =>
        rcases hcount with hcount | ⟨-, r, hr⟩
        · exact .inl (by simp [Flight.advance, ← hcount])
        · cases hr
      case climbs =>
        refine ⟨c.height + 1, fun x hx => ?_, (hnext _).settle⟩
        rcases List.mem_append.1 hx with hx | hx
        · have hx : x.call.height < low := hlow x hx
          omega
        · obtain rfl := List.mem_singleton.1 hx
          exact Nat.lt_succ_self _
      case distinct =>
        simp only [Flight.advance, List.map_append, List.map_cons, List.map_nil]
        refine List.nodup_append.2 ⟨hdistinct, by simp, ?_⟩
        rintro d hd e he rfl
        obtain rfl := List.mem_singleton.1 he
        obtain ⟨x, hx, rfl⟩ := List.mem_map.1 hd
        have hx : x.call.height < low := hlow x hx
        omega

/-- **A request stays on track**, however many answers it is given. -/
theorem onTrack_advances (h : s.catalog = some k) (r : Request) (answers : List Answering) :
    ((start s r).advances answers).OnTrack s k answers.length := by
  induction answers using List.reverseRecOn with
  | nil => exact onTrack_start h r
  | append_singleton answers answering ih =>
      rw [advances, List.foldl_append, List.length_append]
      exact ih.advance answering

/-- Without a catalog a request has ended before any answer. -/
theorem advances_of_none (h : s.catalog = none) (r : Request) (answers : List Answering) :
    (start s r).advances answers = ⟨r, none, .finish (.error r.refusal), [], []⟩ := by
  induction answers using List.reverseRecOn with
  | nil => simp only [advances, List.foldl_nil, start, h]
  | append_singleton answers answering ih =>
      rw [advances, List.foldl_append]
      exact congrArg (·.advance answering) ih

/-! ### A catalog that answers alike -/

/-- A catalog with other answers to some calls. -/
def answeringAs (k : Catalog) : List Exchange → Catalog
  | [] => k
  | x :: xs =>
    ⟨k.links, fun c => if h : x.call = c then h ▸ x.handled else (answeringAs k xs).handle c⟩

omit [Mime.Table] in
theorem links_answeringAs (k : Catalog) (xs : List Exchange) :
    (answeringAs k xs).links = k.links := by
  cases xs <;> rfl

omit [Mime.Table] in
theorem handle_answeringAs (k : Catalog) {xs : List Exchange} (h : (xs.map (·.call)).Nodup) :
    ∀ x ∈ xs, (answeringAs k xs).handle x.call = x.handled := by
  induction xs with
  | nil => simp
  | cons y ys ih =>
      obtain ⟨hy, hys⟩ : y.call ∉ ys.map (·.call) ∧ (ys.map (·.call)).Nodup :=
        List.nodup_cons.1 h
      intro x hx
      rcases List.mem_cons.1 hx with rfl | hx
      · simp [answeringAs]
      · have hmem : x.call ∈ ys.map (·.call) := List.mem_map_of_mem hx
        have hne : y.call ≠ x.call := fun he => hy (by rwa [he])
        simp only [answeringAs, dif_neg hne]
        exact ih hys x hx

omit [Mime.Table] in
/-- A call in flight was made before, or is answered now. -/
theorem mem_exchanges_advance {f : Flight} {answering : Answering} {x : Exchange}
    (h : x ∈ (f.advance answering).exchanges) :
    x ∈ f.exchanges ∨ answering x.call = x.handled := by
  unfold advance at h
  split at h
  · rcases List.mem_append.1 h with h | h
    · exact .inl h
    · obtain rfl := List.mem_singleton.1 h
      exact .inr rfl
  · exact .inl h

/-- A catalog that answers for itself answers as the request was answered. -/
theorem replays_self (k : Catalog) (r : Request) {answers : List Answering}
    (h : ∀ answering ∈ answers, answering = k.handle) :
    ((start s r).advances answers).Replays k k := by
  refine ⟨rfl, ?_⟩
  induction answers using List.reverseRecOn with
  | nil =>
      intro x hx
      unfold advances start at hx
      split at hx <;> cases hx
  | append_singleton answers answering ih =>
      intro x hx
      rw [advances, List.foldl_append] at hx
      rcases mem_exchanges_advance hx with hx | hx
      · exact ih (fun a ha => h a (List.mem_append_left _ ha)) x hx
      · rw [← hx, h answering (by simp)]

/-- **Some catalog answers as a request was answered**, since it made no call twice. -/
theorem OnTrack.exists_replays {turns : Nat} {f : Flight} (h : f.OnTrack s k turns) :
    ∃ l, f.Replays k l :=
  ⟨answeringAs k f.exchanges, links_answeringAs k _, handle_answeringAs k h.distinct⟩

/-- The calls so far are the first ones of the request alone, one for each turn. -/
theorem OnTrack.calls_eq {turns : Nat} {f : Flight} (h : f.OnTrack s k turns) {l : Catalog}
    (hl : f.Replays k l) :
    f.exchanges.map (·.call) = ((f.request.plan l.links s.name).calls l).take turns := by
  rw [(h.replayed l hl).2]
  rcases h.count with hcount | ⟨hcount, r, hr⟩
  · rw [List.take_append_of_le_length (by simp [hcount]), List.take_of_length_le (by simp [hcount])]
  · rw [hr, List.take_of_length_le] <;> simp [Plan.calls, hcount]

/-- Given as many turns as it makes calls, a request has ended as it ends alone. -/
theorem OnTrack.ended {turns : Nat} {f : Flight} (h : f.OnTrack s k turns) {l : Catalog}
    (hl : f.Replays k l) (hturns : ((f.request.plan l.links s.name).calls l).length ≤ turns) :
    f.result? = some ((s.attach l).answer f.request).2 ∧
      f.seen = ((s.attach l).answer f.request).1 := by
  obtain ⟨hanswer, hcalls⟩ := h.replayed l hl
  have hwaits := h.waits
  have hcount := h.count
  rw [hcalls] at hturns
  rw [hanswer]
  unfold result?
  cases hrest : f.rest with
  | finish r => simp [Plan.run]
  | log e rest =>
      rw [hrest] at hwaits
      exact absurd hwaits id
  | ask c next =>
      -- there is a call left, so the turns do not reach
      rw [hrest] at hturns hcount
      simp [Plan.calls] at hturns hcount
      omega

/-- As long as it has not had as many turns as it makes calls, a request has not ended. -/
theorem OnTrack.waiting {turns : Nat} {f : Flight} (h : f.OnTrack s k turns) {l : Catalog}
    (hl : f.Replays k l) (hturns : turns < ((f.request.plan l.links s.name).calls l).length) :
    f.result? = none := by
  rw [(h.replayed l hl).2] at hturns
  unfold result?
  cases hrest : f.rest with
  | finish r =>
      rw [hrest] at hturns
      rcases h.count with hcount | ⟨hcount, -⟩ <;> simp [Plan.calls] at hturns <;> omega
  | log e rest => rfl
  | ask c next => rfl

end Flight

/-! ### Many requests -/

/-- **A request in flight comes to what it comes to alone.**  Let a request start on a source after
any moves `front`, and let any moves `back` follow: requests that start and go on, catalogs that are
attached and detached.  All its calls go to the catalog that was attached when it started.  If none
was, it has failed without any call, as it fails alone, whatever is attached later.  Otherwise some
catalog with the same addresses answers its calls as they were answered — the catalog itself, if it
answers equal calls alike — and on every such catalog the request alone makes the same calls, sees
the same, and comes to the same result; in flight it has made as many of these calls as it had
turns, and has ended as soon as there was a turn for each. -/
theorem requests_keep_snapshot [Mime.Table] (s : Source) (front back : List Move) (r : Request) :
    let w := (World.idle s).run front
    let answers := back.filterMap (Move.answerTo? w.flights.length)
    ∃ f, ((World.idle s).run (front ++ .start r :: back)).flights[w.flights.length]? = some f ∧
      f.request = r ∧
      (∀ x ∈ f.exchanges, w.source.catalog = some x.catalog) ∧
      (w.source.catalog = none →
        f.exchanges = [] ∧ f.seen = [] ∧ f.result? = some (.error f.request.refusal) ∧
        w.source.answer f.request = ([], .error f.request.refusal)) ∧
      ∀ k, w.source.catalog = some k → (∃ l, f.Replays k l) ∧
        ((∀ answering ∈ answers, answering = k.handle) → f.Replays k k) ∧ ∀ l, f.Replays k l →
        let alone := (w.source.attach l).answer f.request
        let calls := (f.request.plan l.links s.name).calls l
        f.exchanges.map (·.call) = calls.take answers.length ∧
        (calls.length ≤ answers.length → f.result? = some alone.2 ∧ f.seen = alone.1) ∧
        (answers.length < calls.length → f.result? = none) := by
  intro w answers
  refine ⟨(Flight.start w.source r).advances answers, ?_, by simp, ?_, ?_, ?_⟩
  · rw [World.run_append]
    refine World.flight_run (w := w.step (.start r)) ?_ back
    simp [World.step]
  · intro x hx
    cases hw : w.source.catalog with
    | none =>
        rw [Flight.advances_of_none hw] at hx
        cases hx
    | some k => rw [(Flight.onTrack_advances hw r answers).asked x hx]
  · intro hw
    rw [Flight.advances_of_none hw]
    exact ⟨rfl, rfl, rfl, Source.answer_of_none hw r⟩
  · intro k hw
    have htrack : ((Flight.start w.source r).advances answers).OnTrack w.source k answers.length :=
      Flight.onTrack_advances hw r answers
    have hname : w.source.name = s.name := World.name_run (World.idle s) front
    refine ⟨htrack.exists_replays, Flight.replays_self k r, fun l hl => ?_⟩
    rw [← hname]
    exact ⟨htrack.calls_eq hl, htrack.ended hl, htrack.waiting hl⟩

/-! ### A library that is detached while it is browsed -/

/-- A library of films that holds none. -/
def bareShelf : Catalog :=
  Memory.toCatalog { Memory.empty "memory" with
    folders := [{ Item.bare "l" (.known .library) with collection := some (.known .movies) }] }

/-- Between the two calls of browsing the library another catalog takes its place. -/
def overtaken : List Move := [.advance 0 bareShelf.handle, .detach,
  .attach (Memory.empty "other").toCatalog, .advance 0 bareShelf.handle]

/-- The library is browsed to its end on the catalog on which this began. -/
theorem overtaken_browse_keeps_shelf :
    ∃ f, ((World.idle (Source.new "Media")).run
        ([.attach bareShelf] ++ .start (.browse (some "l")) :: overtaken)).flights[0]? = some f ∧
      f.request = .browse (some "l") ∧ (∀ x ∈ f.exchanges, x.catalog = bareShelf) ∧
      f.exchanges.map (·.call) = [.get "l", .query (Query.below "l" .movie)] ∧
      f.result? = some (((Source.new "Media").attach bareShelf).answer f.request).2 := by
  obtain ⟨f, hf, hr, hasked, -, halone⟩ :=
    requests_keep_snapshot (Source.new "Media") [.attach bareShelf] overtaken (.browse (some "l"))
  obtain ⟨-, hself, hreplays⟩ := halone bareShelf rfl
  have hanswers : overtaken.filterMap (Move.answerTo? 0) =
      [bareShelf.handle, bareShelf.handle] := rfl
  have hshelf := hself (by simp [hanswers, World.idle, World.step])
  obtain ⟨hcalls, hended, -⟩ := hreplays bareShelf hshelf
  have hlone : (f.request.plan bareShelf.links (Source.new "Media").name).calls bareShelf =
      [.get "l", .query (Query.below "l" .movie)] := by
    rw [hr]
    exact (calls_browsePlan bareShelf bareShelf.links "Media" (some "l")).trans rfl
  refine ⟨f, hf, hr, fun x hx => (Option.some_inj.1 (hasked x hx)).symm, ?_, ?_⟩
  · exact hcalls.trans (by rw [hlone]; rfl)
  · exact (hended (by rw [hlone]; decide)).1

end MediaTree
