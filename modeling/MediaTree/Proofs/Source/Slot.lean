/-
**The slot of a source over a whole run.**

A source is used step by step: catalogs are attached and detached, sessions are opened and attached,
and between these steps the source is asked for its address, browsed, and asked to resolve items.
This module says what every step finds.  The catalog in the slot is the one of the last step that
attached one, unless a later step detached it; everything else about the run is forgotten.  So a
request is answered as by a source that is made anew with that catalog, and a step that only reads
can be put into a run or taken out of it at any place, without any other step noticing.

Main definitions:

* `MediaTree.Request`, `MediaTree.Source.answer` — the two kinds of request under one name;
* `MediaTree.Source.Action`, `MediaTree.Source.act` — one step of a run, and what it yields;
* `MediaTree.Source.after`, `MediaTree.Source.replies` — a whole run;
* `MediaTree.Source.LastAttached` — the catalog that was attached last and not detached since.

Main results:

* `MediaTree.Source.catalog_after_iff` — the slot holds the catalog that was attached last;
* `MediaTree.Source.eq_fresh` — a source is its name and its slot;
* `MediaTree.Source.replies_insert` — steps that only read change no other reply;
* `MediaTree.Source.runs_follow_last_attach` — **what every step of every run finds.**
-/

import Mathlib.Data.List.Induction
import MediaTree.Catalog.Memory
import MediaTree.Server.Session
import MediaTree.Tree.Source

set_option autoImplicit false
set_option relaxedAutoImplicit false

namespace MediaTree

/-! ### Requests -/

/-- A request to a source. -/
inductive Request where
  | browse (id : Option String)
  | resolve (id : String)
deriving DecidableEq, Repr

namespace Request

/-- What a request yields. -/
def Yield : Request → Type
  | browse _ => Node
  | resolve _ => Playback

/-- What a request does over given addresses, on behalf of a source with a name. -/
def plan [Mime.Table] (links : Links) (name : String) : (r : Request) → Attempt r.Yield
  | browse id => browsePlan links name id
  | resolve id => resolvePlan links id

/-- How a request fails while no catalog is attached. -/
def refusal : Request → RequestError
  | browse _ => .browse .noCatalog
  | resolve _ => .unresolvable .noCatalog

end Request

namespace Source

section Runs

variable [Mime.Table]

/-- The answer of a source to a request, behind what is seen meanwhile. -/
def answer (s : Source) : (r : Request) → List Event × Except RequestError r.Yield
  | .browse id => s.browse id
  | .resolve id => s.resolve id

/-- Without a catalog a request fails, and nothing is seen of it. -/
theorem answer_of_none {s : Source} (h : s.catalog = none) (r : Request) :
    s.answer r = ([], .error r.refusal) := by
  cases r <;> simp only [answer, browse, resolve, h] <;> rfl

/-- On a catalog a request runs its plan. -/
theorem answer_of_some {s : Source} {k : Catalog} (h : s.catalog = some k) (r : Request) :
    s.answer r = (r.plan k.links s.name).run k := by
  cases r <;> simp only [answer, browse, resolve, h] <;> rfl

/-- A new source, with a catalog attached if there is one. -/
def fresh (name : String) : Option Catalog → Source
  | none => new name
  | some k => (new name).attach k

omit [Mime.Table] in
/-- A source is its name and its slot. -/
theorem eq_fresh (s : Source) : s = fresh s.name s.catalog := by
  obtain ⟨name, catalog⟩ := s
  cases catalog <;> rfl

/-! ### Runs -/

/-- One step of a run. -/
inductive Action where
  | attach (k : Catalog)
  /-- Opens a session, and attaches the catalog that it makes of the server behind a link. -/
  | connect (host token user device : String) (link : Http.Link)
  | detach
  | url
  | ask (r : Request)

/-- What a step yields. -/
inductive Reply where
  | attached
  /-- No session could be opened. -/
  | refused (e : CatalogError)
  /-- The catalog that was in the slot. -/
  | detached (held : Option Catalog)
  | address (url : Option String)
  | answered (r : Request) (answer : List Event × Except RequestError r.Yield)

namespace Action

/-- The catalog that a step attaches, if it attaches any. -/
def attached? : Action → Option Catalog
  | attach k => some k
  | connect host token user device link =>
    match Session.open? host token user device with
    | .ok session => some (session.toCatalog link)
    | .error _ => none
  | _ => none

/-- The step asks for something and is not meant to change anything. -/
def IsReading : Action → Prop
  | url | ask _ => True
  | attach _ | connect _ _ _ _ _ | detach => False

end Action

/-- The source behind a step, and what the step yields. -/
def act (s : Source) : Action → Source × Reply
  | .attach k => (s.attach k, .attached)
  | .connect host token user device link =>
    match Session.open? host token user device with
    | .ok session => (s.attach (session.toCatalog link), .attached)
    | .error e => (s, .refused e)
  | .detach =>
    let (rest, held) := s.detach
    (rest, .detached held)
  | .url => (s, .address s.url?)
  | .ask r => (s, .answered r (s.answer r))

/-- The source behind a run. -/
def after (s : Source) (run : List Action) : Source := run.foldl (fun s a => (s.act a).1) s

/-- What the steps of a run yield, one by one. -/
def replies (s : Source) : List Action → List Reply
  | [] => []
  | a :: run => (s.act a).2 :: (s.act a).1.replies run

@[simp] theorem after_nil (s : Source) : s.after [] = s := rfl

@[simp] theorem after_cons (s : Source) (a : Action) (run : List Action) :
    s.after (a :: run) = (s.act a).1.after run := rfl

@[simp] theorem after_append (s : Source) (run more : List Action) :
    s.after (run ++ more) = (s.after run).after more := by
  simp [after, List.foldl_append]

@[simp] theorem length_replies (s : Source) (run : List Action) :
    (s.replies run).length = run.length := by
  induction run generalizing s with
  | nil => rfl
  | cons a run ih => simp [replies, ih]

@[simp] theorem replies_append (s : Source) (run more : List Action) :
    s.replies (run ++ more) = s.replies run ++ (s.after run).replies more := by
  induction run generalizing s with
  | nil => rfl
  | cons a run ih => simp [replies, ih]

/-- A step of a run finds the source that the steps in front of it leave. -/
theorem reply_at (s : Source) (front : List Action) (a : Action) (back : List Action) :
    (s.replies (front ++ a :: back))[front.length]? = some ((s.after front).act a).2 := by
  rw [replies_append, List.getElem?_append_right (by simp)]
  simp [replies]

/-! ### What one step does to the slot -/

/-- No step touches the name. -/
@[simp] theorem name_act (s : Source) (a : Action) : (s.act a).1.name = s.name := by
  cases a with
  | connect host token user device link => simp only [act]; split <;> rfl
  | _ => rfl

/-- A step attaches its catalog, or leaves the slot as it is; only detaching empties it. -/
theorem catalog_act {s : Source} {a : Action} (ha : a ≠ .detach) :
    (s.act a).1.catalog = a.attached?.or s.catalog := by
  cases a with
  | attach k => rfl
  | connect host token user device link =>
      simp only [act, Action.attached?]
      split <;> rfl
  | detach => exact absurd rfl ha
  | url => rfl
  | ask r => rfl

/-- A session that cannot be opened changes nothing. -/
theorem act_connect_of_error {host token user device : String} {e : CatalogError}
    (h : Session.open? host token user device = .error e) (s : Source) (link : Http.Link) :
    s.act (.connect host token user device link) = (s, .refused e) := by
  simp only [act, h]

/-- A step that reads changes nothing. -/
theorem act_of_isReading {a : Action} (h : a.IsReading) (s : Source) : (s.act a).1 = s := by
  cases a with
  | url => rfl
  | ask r => rfl
  | attach k => exact absurd h id
  | connect host token user device link => exact absurd h id
  | detach => exact absurd h id

/-! ### What a run does to the slot -/

@[simp] theorem name_after (s : Source) (run : List Action) : (s.after run).name = s.name := by
  induction run generalizing s with
  | nil => rfl
  | cons a run ih => rw [after_cons, ih, name_act]

/-- A run attached a catalog, and neither attached another one nor detached it since. -/
def LastAttached (run : List Action) (k : Catalog) : Prop :=
  ∃ front a back, run = front ++ a :: back ∧ a.attached? = some k ∧
    ∀ b ∈ back, b.attached? = none ∧ b ≠ .detach

omit [Mime.Table] in
theorem not_lastAttached_nil (k : Catalog) : ¬ LastAttached [] k := by
  rintro ⟨front, a, back, h, -⟩
  simp at h

omit [Mime.Table] in
/-- The last step attaches the catalog, or does not touch the one that was attached before. -/
theorem lastAttached_concat {run : List Action} {a : Action} {k : Catalog} :
    LastAttached (run ++ [a]) k ↔
      a.attached? = some k ∨ (a.attached? = none ∧ a ≠ .detach) ∧ LastAttached run k := by
  constructor
  · rintro ⟨front, b, back, h, hb, hback⟩
    cases back using List.reverseRecOn with
    | nil =>
        obtain rfl := List.singleton_inj.1 (List.append_inj' h rfl).2
        exact .inl hb
    | append_singleton back c =>
        rw [← List.cons_append, ← List.append_assoc] at h
        obtain ⟨rfl, hc⟩ := List.append_inj' h rfl
        obtain rfl := List.singleton_inj.1 hc
        refine .inr ⟨hback _ (by simp), front, b, back, rfl, hb, fun d hd => ?_⟩
        exact hback d (by simp [hd])
  · rintro (ha | ⟨ha, front, b, back, rfl, hb, hback⟩)
    · exact ⟨run, a, [], rfl, ha, by simp⟩
    · refine ⟨front, b, back ++ [a], by simp, hb, fun d hd => ?_⟩
      rcases List.mem_append.1 hd with hd | hd
      · exact hback d hd
      · obtain rfl := List.mem_singleton.1 hd
        exact ha

/-- **The slot holds the catalog that was attached last**, if none was detached since. -/
theorem catalog_after_iff (name : String) (run : List Action) (k : Catalog) :
    ((new name).after run).catalog = some k ↔ LastAttached run k := by
  induction run using List.reverseRecOn with
  | nil => simp [new, not_lastAttached_nil]
  | append_singleton run a ih =>
      rw [after_append, lastAttached_concat, ← ih]
      by_cases ha : a = .detach
      · subst ha
        simp [after, act, detach, Action.attached?]
      · simp only [after_cons, after_nil, catalog_act ha]
        cases a.attached? <;> simp [ha]

/-- Steps that read change nothing. -/
theorem after_of_isReading {run : List Action} (h : ∀ a ∈ run, a.IsReading) (s : Source) :
    s.after run = s := by
  induction run generalizing s with
  | nil => rfl
  | cons a run ih =>
      rw [after_cons, act_of_isReading (h a List.mem_cons_self)]
      exact ih (fun b hb => h b (List.mem_cons_of_mem a hb)) s

/-- **Steps that only read can be put in and taken out**: the replies in front and behind stay. -/
theorem replies_insert {inner : List Action} (h : ∀ a ∈ inner, a.IsReading) (s : Source)
    (front back : List Action) :
    s.replies (front ++ inner ++ back) =
      s.replies front ++ (s.after front).replies inner ++ (s.after front).replies back := by
  rw [replies_append, replies_append, after_append, after_of_isReading h]

/-- **What every step of every run finds.**  Behind any steps `front`, a source has its first name,
and its slot holds the catalog that these steps attached last and did not detach.  A session that
cannot be opened changes nothing; neither does a request, which is answered as by a new source with
that name and that catalog.  The address is that of this catalog, and detaching yields it, and
nothing the second time.  Steps that only read, put in behind `front`, change no reply in front of
them or behind them. -/
theorem runs_follow_last_attach (name : String) (front : List Action) :
    let s := (new name).after front
    (s.name = name ∧ ∀ k, s.catalog = some k ↔ LastAttached front k) ∧
    (∀ a back, ((new name).replies (front ++ a :: back))[front.length]? = some (s.act a).2) ∧
    (∀ host token user device link e, Session.open? host token user device = .error e →
      s.act (.connect host token user device link) = (s, .refused e)) ∧
    (∀ r, s.act (.ask r) = (s, .answered r ((fresh name s.catalog).answer r))) ∧
    s.act .url = (s, .address (s.catalog.map (·.links.base))) ∧
    (s.act .detach).2 = .detached s.catalog ∧
    (((new name).after (front ++ [.detach])).act .detach).2 = .detached none ∧
    ∀ inner back, (∀ a ∈ inner, a.IsReading) →
      (new name).replies (front ++ back) = (new name).replies front ++ s.replies back ∧
      (new name).replies (front ++ inner ++ back) =
        (new name).replies front ++ s.replies inner ++ s.replies back := by
  intro s
  have hname : s.name = name := name_after (new name) front
  have hfresh : s = fresh name s.catalog := hname ▸ eq_fresh s
  refine ⟨⟨hname, catalog_after_iff name front⟩, reply_at (new name) front,
    fun host token user device link e he => act_connect_of_error he s link, fun r => ?_, rfl, rfl,
    ?_, fun inner back hinner => ⟨replies_append _ _ _, replies_insert hinner _ _ _⟩⟩
  · show (s, Reply.answered r (s.answer r)) = _
    rw [← hfresh]
  · rw [after_append]
    rfl

end Runs

/-! ### A session that cannot be opened -/

/-- A run that attaches a catalog in memory, and then fails to open a session without a host. -/
def refusedRun : List Action :=
  [.attach (Memory.empty "memory").toCatalog, .connect "/" "secret" "me" "tv" .down]

/-- The catalog in memory is still there, whatever is asked before it is detached. -/
theorem refusedRun_keeps_catalog :
    let s := (new "Media").after refusedRun
    s.catalog = some (Memory.empty "memory").toCatalog ∧
    s.act (.connect "/" "secret" "me" "tv" .down) =
      (s, .refused (.invalidConfig "Missing host")) ∧
    s.act .url = (s, .address (some "memory")) ∧
    (new "Media").replies (refusedRun ++ [.url, .ask (.browse none)] ++ [.detach]) =
      (new "Media").replies refusedRun ++ s.replies [.url, .ask (.browse none)] ++
        [.detached (some (Memory.empty "memory").toCatalog)] := by
  have hopen : Session.open? "/" "secret" "me" "tv" = .error (.invalidConfig "Missing host") := by
    rfl
  obtain ⟨⟨-, hslot⟩, -, hrefused, -, hurl, hdetach, -, hinsert⟩ :=
    runs_follow_last_attach "Media" refusedRun
  have hheld : ((new "Media").after refusedRun).catalog =
      some (Memory.empty "memory").toCatalog := by
    refine (hslot _).2 ⟨[], _, _, rfl, rfl, fun b hb => ?_⟩
    obtain rfl := List.mem_singleton.1 hb
    exact ⟨by simp only [Action.attached?, hopen], nofun⟩
  refine ⟨hheld, hrefused _ _ _ _ _ _ hopen, hurl.trans (by rw [hheld]; rfl), ?_⟩
  have hreading : ∀ a ∈ [Action.url, .ask (.browse none)], a.IsReading := by
    simp [Action.IsReading]
  have hlast : ((new "Media").after refusedRun).replies [.detach] =
      [.detached (some (Memory.empty "memory").toCatalog)] := by
    rw [← hheld, ← hdetach]
    rfl
  rw [(hinsert _ [.detach] hreading).2, hlast]

end Source

end MediaTree
