/-
**No request makes a call twice.**

A request first asks for folders or for an item, then for the items below it, and a music library
without artists is asked for albums last.  Calls are given a height that grows along every request,
whatever is answered on the way.  So the calls of a request are all different, also when the one
who answers does not answer equal calls alike.

Main definitions:

* `MediaTree.Call.height` — how late in a request a call can come;
* `MediaTree.Plan.Climbs`, `MediaTree.Attempt.Climbs` — every call is higher than all before it.

Main results:

* `MediaTree.Attempt.climbs_bind` — requests are put together in the order of their heights;
* `MediaTree.climbs_browsePlan`, `MediaTree.climbs_resolvePlan` — every request climbs.
-/

import MediaTree.Proofs.Tree.Listing

set_option autoImplicit false
set_option relaxedAutoImplicit false

namespace MediaTree

variable {α β : Type}

/-- How late in a request a call can come. -/
def Call.height : Call → Nat
  | folders | get _ => 0
  | query q => if q.kinds = [.known .album] then 2 else 1

/-! ### Climbing plans -/

namespace Plan

/-- Every call that is made is higher than those before it, and its height lies from `low` on and
below `high`. -/
def Climbs (low high : Nat) : Plan α → Prop
  | finish _ => True
  | log _ rest => rest.Climbs low high
  | ask c next =>
    low ≤ c.height ∧ c.height < high ∧ ∀ answer, (next answer).Climbs (c.height + 1) high

/-- A wider range of heights does as well. -/
theorem Climbs.mono {low high low' high' : Nat} {p : Plan α} (h : p.Climbs low high)
    (hlow : low' ≤ low) (hhigh : high ≤ high') : p.Climbs low' high' := by
  induction p generalizing low low' with
  | finish a => trivial
  | log e rest ih => exact ih h hlow
  | ask c next ih =>
      obtain ⟨hc, hc', hnext⟩ := h
      refine ⟨Nat.le_trans hlow hc, Nat.lt_of_lt_of_le hc' hhigh, fun answer => ?_⟩
      exact ih answer (hnext answer) (Nat.le_refl _)

/-- What goes on higher than a plan climbs, climbs behind it. -/
theorem climbs_bind {low mid high : Nat} {p : Plan α} {f : α → Plan β} (hlow : low ≤ mid)
    (hhigh : mid ≤ high) (hp : p.Climbs low mid) (hf : ∀ a, (f a).Climbs mid high) :
    (p.bind f).Climbs low high := by
  induction p generalizing low with
  | finish a => exact (hf a).mono hlow (Nat.le_refl _)
  | log e rest ih => exact ih hlow hp
  | ask c next ih =>
      obtain ⟨hc, hc', hnext⟩ := hp
      exact ⟨hc, Nat.lt_of_lt_of_le hc' hhigh, fun answer => ih answer hc' (hnext answer)⟩

end Plan

/-! ### Climbing requests -/

namespace Attempt

variable {low high : Nat}

/-- Every call of a request is higher than those before it. -/
def Climbs (low high : Nat) (t : Attempt α) : Prop := Plan.Climbs low high (ExceptT.run t)

theorem climbs_pure (a : α) : Climbs low high (pure a : Attempt α) := trivial

theorem climbs_throw (e : RequestError) : Climbs low high (throw e : Attempt α) := trivial

theorem climbs_log (e : Log.Entry) : Climbs low high (log e) := trivial

theorem climbs_ask (c : Call) : Climbs c.height (c.height + 1) (ask c) :=
  ⟨Nat.le_refl _, Nat.lt_succ_self _, fun _ => trivial⟩

theorem climbs_lift (r : Except RequestError α) : Climbs low high (liftM r : Attempt α) := by
  cases r <;> trivial

theorem Climbs.mono {low' high' : Nat} {t : Attempt α} (h : Climbs low high t) (hlow : low' ≤ low)
    (hhigh : high ≤ high') : Climbs low' high' t :=
  Plan.Climbs.mono h hlow hhigh

/-- What goes on higher than a request climbs, climbs behind it. -/
theorem climbs_bind (mid : Nat) (hlow : low ≤ mid) (hhigh : mid ≤ high) {t : Attempt α}
    {f : α → Attempt β} (ht : Climbs low mid t) (hf : ∀ a, Climbs mid high (f a)) :
    Climbs low high (t >>= f) := by
  refine Plan.climbs_bind (f := ExceptT.bindCont f) hlow hhigh ht fun r => ?_
  cases r with
  | error e => trivial
  | ok a => exact hf a

/-- A request that goes on to its end without a call climbs as far as it has come. -/
theorem climbs_bind_last {t : Attempt α} {f : α → Attempt β} (h : low ≤ high)
    (ht : Climbs low high t) (hf : ∀ a, Climbs high high (f a)) : Climbs low high (t >>= f) :=
  climbs_bind high h (Nat.le_refl _) ht hf

/-- A request that starts without a call climbs as what follows. -/
theorem climbs_bind_first {t : Attempt α} {f : α → Attempt β} (h : low ≤ high)
    (ht : Climbs low low t) (hf : ∀ a, Climbs low high (f a)) : Climbs low high (t >>= f) :=
  climbs_bind low (Nat.le_refl _) h ht hf

end Attempt

open Attempt (Climbs climbs_pure climbs_throw climbs_log climbs_ask climbs_lift climbs_bind
  climbs_bind_first climbs_bind_last)

/-! ### All requests climb -/

namespace Build

variable (links : Links)

theorem climbs_logAll (n : Nat) (es : List Log.Entry) : Climbs n n (logAll es) := by
  induction es with
  | nil => exact climbs_pure ()
  | cons e es ih => exact climbs_bind_first (Nat.le_refl n) (climbs_log e) fun _ => ih

/-- Albums are asked for last. -/
theorem height_below (parent : String) (l : Level) :
    (Call.query (Query.below parent l.kind)).height = if l = .albums then 2 else 1 := by
  cases l <;> rfl

/-- A level is asked for by one query. -/
theorem climbs_children [Mime.Table] (parent : String) (l : Level) {n : Nat}
    (hn : (if l = .albums then 2 else 1) = n) : Climbs n (n + 1) (children links parent l) := by
  rw [← height_below parent l] at hn
  subst hn
  unfold children itemsBelow
  rw [Query.children_known]
  refine climbs_bind_last (Nat.le_succ _) (climbs_bind_last (Nat.le_succ _) (climbs_ask _) ?_) ?_
  · intro answer
    exact climbs_bind_last (Nat.le_refl _) (climbs_log _) fun _ => climbs_pure _
  · intro items
    exact climbs_bind_last (Nat.le_refl _) (climbs_logAll _ _) fun _ => climbs_pure _

theorem climbs_expand [Mime.Table] (n : Node) (parent : String) (l : Level) :
    Climbs 1 3 (expand links n parent l) := by
  have h : Climbs 1 3 (children links parent l) := by
    refine (climbs_children links parent l rfl).mono ?_ ?_ <;> split <;> decide
  exact climbs_bind_last (by decide) h fun _ => climbs_pure _

/-- A music library is asked for artists before it is asked for albums. -/
theorem climbs_library [Mime.Table] (i : Item) : Climbs 1 3 (library links i) := by
  unfold library
  split
  · have hartists : Climbs 1 2 (children links i.id .artists) := climbs_children links _ _ rfl
    refine climbs_bind 2 (by decide) (by decide) hartists fun artists => ?_
    split
    · have halbums : Climbs 2 3 (children links i.id .albums) := climbs_children links _ _ rfl
      exact climbs_bind_last (by decide) halbums fun _ => climbs_pure _
    · exact climbs_pure _
  · exact climbs_expand links _ _ _
  · exact climbs_expand links _ _ _

theorem climbs_node [Mime.Table] (i : Item) : Climbs 1 3 (node links i) := by
  unfold node
  split
  · exact climbs_library links i
  · exact climbs_expand links _ _ _
  · exact climbs_throw _

theorem climbs_root (title : String) : Climbs 0 1 (root title) := by
  unfold root libraries
  refine climbs_bind_last (by decide) ?_ fun _ => climbs_pure _
  refine climbs_bind_last (by decide) (climbs_ask .folders) fun answer => ?_
  exact climbs_bind_last (Nat.le_refl _) (climbs_log _) fun _ => climbs_pure _

theorem climbs_item (id : String) : Climbs 0 1 (item id) := climbs_ask (.get id)

end Build

/-- **Browsing climbs**: folders, or an item and then what is below it. -/
theorem climbs_browsePlan [Mime.Table] (links : Links) (title : String) (id : Option String) :
    Climbs 0 3 (browsePlan links title id) := by
  by_cases h : id.getD "" = ""
  · simp only [browsePlan, h, if_true]
    refine climbs_bind_first (by decide) (climbs_log _) fun _ => ?_
    exact (Build.climbs_root title).mono (Nat.le_refl _) (by decide)
  · simp only [browsePlan, h, if_false]
    refine climbs_bind_first (by decide) (climbs_log _) fun _ => ?_
    exact climbs_bind 1 (by decide) (by decide) (Build.climbs_item _) fun i =>
      Build.climbs_node links i

/-- **Resolving climbs**: it makes one call. -/
theorem climbs_resolvePlan [Mime.Table] (links : Links) (id : String) :
    Climbs 0 3 (resolvePlan links id) := by
  refine climbs_bind 1 (by decide) (by decide) (Build.climbs_item id) fun i => ?_
  refine climbs_bind_first (by decide) (climbs_lift _) fun url => ?_
  split
  · exact climbs_bind_first (by decide) (climbs_log _) fun _ => climbs_pure _
  · refine climbs_bind_first (by decide) (climbs_log _) fun _ => ?_
    exact climbs_bind_first (by decide) (climbs_log _) fun _ => climbs_throw _

end MediaTree
