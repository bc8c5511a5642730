/-
**Runs of requests.**

`MediaTree.Catalog.Call` runs a plan over a catalog.  This module says what a run depends on.  The
calls of a plan are read off the plan and the answers alone, whatever a catalog makes visible of
them; two catalogs that answer those calls alike give the same result; and a request that never
looks at a failed answer ends with the first one.

Main definitions:

* `MediaTree.Plan.calls`, `MediaTree.Attempt.calls` — the calls that are made;
* `MediaTree.Catalog.recorded` — a catalog of which every call is seen;
* `MediaTree.Plan.Prompt` — a failed call ends the plan with its error.

Main results:

* `MediaTree.Attempt.result_bind`, `MediaTree.Attempt.events_bind`,
  `MediaTree.Attempt.calls_bind` — runs follow the structure of a request;
* `MediaTree.Plan.run_recorded` — what is recorded are the calls, and nothing else changes;
* `MediaTree.Plan.result_congr`, `MediaTree.Plan.calls_congr` — result and calls depend on the
  answers to the calls only;
* `MediaTree.Plan.Prompt.ends_at_failure` — nothing comes after a failed call.
-/

import MediaTree.Catalog.Call

set_option autoImplicit false
set_option relaxedAutoImplicit false

namespace MediaTree

variable {α β : Type}

/-! ### The calls of a plan -/

/-- The calls that a plan makes over a catalog, in order. -/
def Plan.calls (k : Catalog) : Plan α → List Call
  | .finish _ => []
  | .log _ rest => rest.calls k
  | .ask c next => c :: (next (k.handle c).result).calls k

/-- The calls that a request makes over a catalog, in order. -/
def Attempt.calls (k : Catalog) (t : Attempt α) : List Call := Plan.calls k (ExceptT.run t)

/-- The same catalog, of which every call and nothing else is seen. -/
def Catalog.recorded (k : Catalog) : Catalog where
  links := k.links
  handle c := ⟨[.called c], (k.handle c).result⟩

@[simp] theorem Catalog.recorded_links (k : Catalog) : k.recorded.links = k.links := rfl

@[simp] theorem Catalog.result_recorded (k : Catalog) (c : Call) :
    (k.recorded.handle c).result = (k.handle c).result := rfl

namespace Plan

theorem calls_bind (k : Catalog) (p : Plan α) (f : α → Plan β) :
    (p >>= f).calls k = p.calls k ++ (f (p.run k).2).calls k := by
  show (p.bind f).calls k = _
  induction p with
  | finish a => rfl
  | log e rest ih => simpa [bind, calls, run] using ih
  | ask c next ih => simp [bind, calls, run, ih]

/-- Recording shows the calls and keeps the result. -/
theorem run_recorded (k : Catalog) (p : Plan α) :
    Event.calls (p.run k.recorded).1 = p.calls k ∧ (p.run k.recorded).2 = (p.run k).2 := by
  induction p with
  | finish a => exact ⟨rfl, rfl⟩
  | log e rest ih => exact ⟨by simpa [run, calls, Event.calls] using ih.1, ih.2⟩
  | ask c next ih =>
      have ih := ih (k.handle c).result
      refine ⟨?_, ih.2⟩
      rw [calls, ← ih.1]
      simp [run, Event.calls, Catalog.recorded]

/-- **A result depends on the answers to the calls only.** -/
theorem result_congr {k l : Catalog} (p : Plan α)
    (h : ∀ c ∈ p.calls k, (l.handle c).result = (k.handle c).result) :
    (p.run l).2 = (p.run k).2 := by
  induction p with
  | finish a => rfl
  | log e rest ih => exact ih h
  | ask c next ih =>
      have hc : (l.handle c).result = (k.handle c).result := h c (by simp [calls])
      show ((next (l.handle c).result).run l).2 = ((next (k.handle c).result).run k).2
      rw [hc]
      exact ih _ fun c' hc' => h c' (by simp [calls, hc'])

/-- Catalogs that answer the first calls alike are asked the same call after them. -/
theorem calls_congr {k l : Catalog} {p : Plan α} {front back : List Call} {c : Call}
    (hcalls : p.calls k = front ++ c :: back)
    (h : ∀ d ∈ front, (l.handle d).result = (k.handle d).result) :
    ∃ rest, p.calls l = front ++ c :: rest := by
  induction p generalizing front with
  | finish a => simp [calls] at hcalls
  | log e rest ih => exact ih hcalls h
  | ask d next ih =>
      cases front with
      | nil =>
          obtain ⟨rfl, -⟩ := List.cons.inj hcalls
          exact ⟨_, rfl⟩
      | cons f front =>
          -- both catalogs go on with the same plan
          obtain ⟨rfl, hrest⟩ := List.cons.inj hcalls
          have hd : (l.handle d).result = (k.handle d).result := h d List.mem_cons_self
          obtain ⟨rest, hl⟩ := ih _ hrest fun e he => h e (List.mem_cons_of_mem d he)
          exact ⟨rest, by rw [calls, hd, hl, List.cons_append]⟩

/-! ### Plans that end at a failed call -/

/-- A failed call ends the plan with its error. -/
def Prompt : Plan (Except RequestError α) → Prop
  | .finish _ => True
  | .log _ rest => rest.Prompt
  | .ask _ next =>
    (∀ e, next (.error e) = .finish (.error (.catalog e))) ∧ ∀ a, (next (.ok a)).Prompt

/-- Nothing comes after a failed call, and its error is the result. -/
theorem Prompt.ends_at_failure {k : Catalog} {p : Plan (Except RequestError α)} (hp : p.Prompt)
    {front back : List Call} {c : Call} {e : CatalogError}
    (hcalls : p.calls k = front ++ c :: back) (he : (k.handle c).result = .error e) :
    back = [] ∧ (p.run k).2 = .error (.catalog e) := by
  induction p generalizing front with
  | finish a => simp [calls] at hcalls
  | log e rest ih => exact ih hp hcalls
  | ask d next ih =>
      obtain ⟨hfail, hgo⟩ := hp
      simp only [calls] at hcalls
      cases hd : (k.handle d).result with
      | error e' =>
          -- the plan is over, so the failed call is this one
          rw [hd, hfail e'] at hcalls
          cases front with
          | nil =>
              simp only [calls, List.nil_append, List.cons.injEq] at hcalls
              obtain ⟨rfl, hback⟩ := hcalls
              rw [he] at hd
              cases hd
              exact ⟨hback.symm, by simp [run, he, hfail]⟩
          | cons f front => simp [calls] at hcalls
      | ok a =>
          rw [hd] at hcalls
          cases front with
          | nil =>
              simp only [List.nil_append, List.cons.injEq] at hcalls
              obtain ⟨rfl, -⟩ := hcalls
              rw [he] at hd
              cases hd
          | cons f front =>
              simp only [List.cons_append, List.cons.injEq] at hcalls
              have := ih (.ok a) (hgo a) hcalls.2
              simpa [run, hd] using this

end Plan

/-! ### Requests -/

namespace Attempt

variable (k : Catalog)

@[simp] theorem result_pure (a : α) : (run k (pure a)).2 = .ok a := rfl

@[simp] theorem result_throw (e : RequestError) :
    (run k (throw e : Attempt α)).2 = .error e := rfl

@[simp] theorem result_log (e : Log.Entry) : (run k (log e)).2 = .ok () := rfl

@[simp] theorem result_ask (c : Call) :
    (run k (ask c)).2 = (k.handle c).result.mapError .catalog := rfl

@[simp] theorem events_pure (a : α) : (run k (pure a)).1 = [] := rfl

@[simp] theorem events_throw (e : RequestError) :
    (run k (throw e : Attempt α)).1 = [] := rfl

@[simp] theorem events_log (e : Log.Entry) : (run k (log e)).1 = [.logged e] := rfl

@[simp] theorem events_ask (c : Call) : (run k (ask c)).1 = (k.handle c).events :=
  List.append_nil _

@[simp] theorem calls_pure (a : α) : (pure a : Attempt α).calls k = [] := rfl

@[simp] theorem calls_throw (e : RequestError) : (throw e : Attempt α).calls k = [] := rfl

@[simp] theorem calls_log (e : Log.Entry) : (log e).calls k = [] := rfl

@[simp] theorem calls_ask (c : Call) : (ask c).calls k = [c] := rfl

/-- What a request yields behind another one. -/
@[simp] theorem result_bind (t : Attempt α) (f : α → Attempt β) :
    (run k (t >>= f)).2 = (run k t).2.bind fun a => (run k (f a)).2 := by
  have h := Plan.run_bind k (ExceptT.run t) fun r => ExceptT.bindCont f r
  show (Plan.run k (ExceptT.run t >>= fun r => ExceptT.bindCont f r)).2 = _
  rw [h]
  show (Plan.run k (ExceptT.bindCont f (run k t).2)).2 = _
  cases (run k t).2 <;> rfl

/-- The calls of a request and of what goes on with its answer. -/
@[simp] theorem calls_bind (t : Attempt α) (f : α → Attempt β) :
    (t >>= f).calls k = t.calls k ++
      match (run k t).2 with
      | .ok a => (f a).calls k
      | .error _ => [] := by
  have h := Plan.calls_bind k (ExceptT.run t) fun r => ExceptT.bindCont f r
  show (ExceptT.run t >>= fun r => ExceptT.bindCont f r).calls k = _
  rw [h]
  show _ ++ (ExceptT.bindCont f (run k t).2 : Plan _).calls k = _
  cases (run k t).2 <;> rfl

/-- What is seen of a request and of what goes on with its answer. -/
theorem events_bind (t : Attempt α) (f : α → Attempt β) :
    (run k (t >>= f)).1 = (run k t).1 ++
      match (run k t).2 with
      | .ok a => (run k (f a)).1
      | .error _ => [] := by
  have h := Plan.run_bind k (ExceptT.run t) fun r => ExceptT.bindCont f r
  show (Plan.run k (ExceptT.run t >>= fun r => ExceptT.bindCont f r)).1 = _
  rw [h]
  show _ ++ (Plan.run k (ExceptT.bindCont f (run k t).2)).1 = _
  cases (run k t).2 <;> rfl

/-- A result that is at hand is used as it is. -/
@[simp] theorem result_lift (r : Except RequestError α) :
    (run k (liftM r : Attempt α)).2 = r := by
  cases r <;> rfl

@[simp] theorem events_lift (r : Except RequestError α) :
    (run k (liftM r : Attempt α)).1 = [] := by
  cases r <;> rfl

@[simp] theorem calls_lift (r : Except RequestError α) :
    (liftM r : Attempt α).calls k = [] := by
  cases r <;> rfl

/-! ### Prompt requests -/

/-- A failed call ends the request with its error. -/
def Prompt (t : Attempt α) : Prop := Plan.Prompt (ExceptT.run t)

theorem prompt_pure (a : α) : Prompt (pure a : Attempt α) := trivial

theorem prompt_throw (e : RequestError) : Prompt (throw e : Attempt α) := trivial

theorem prompt_log (e : Log.Entry) : Prompt (log e) := trivial

theorem prompt_ask (c : Call) : Prompt (ask c) := ⟨fun _ => rfl, fun _ => trivial⟩

theorem prompt_lift (r : Except RequestError α) : Prompt (liftM r : Attempt α) := by
  cases r <;> trivial

theorem prompt_bind {t : Attempt α} {f : α → Attempt β} (ht : Prompt t)
    (hf : ∀ a, Prompt (f a)) : Prompt (t >>= f) := by
  show Plan.Prompt (Plan.bind (ExceptT.run t) (ExceptT.bindCont f))
  unfold Prompt at ht
  generalize ExceptT.run t = p at ht
  induction p with
  | finish r =>
      cases r with
      | error e => trivial
      | ok a => exact hf a
  | log e rest ih => exact ih ht
  | ask c next ih =>
      refine ⟨fun e => ?_, fun a => ih (.ok a) (ht.2 a)⟩
      show (next (.error e)).bind _ = _
      rw [ht.1 e]
      rfl

end Attempt

end MediaTree
