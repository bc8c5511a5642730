/-
**Calls and plans.**

A catalog answers three calls: its folders, the items of a query, and a single item.  A *plan* is a
request seen from inside: it logs, makes calls, goes on with their answers, and finishes with a
result.  A plan knows nothing of the catalog that answers it, so the same plan runs over a catalog
in memory, over a server, or call by call among other plans.

Main definitions:

* `MediaTree.Call`, `MediaTree.Call.Answer` — calls and what answers them;
* `MediaTree.Event` — what can be seen of a run;
* `MediaTree.Plan` — plans, with `Plan.run`;
* `MediaTree.Links` — the addresses of streams and artwork;
* `MediaTree.Catalog` — what a plan needs: addresses and answers.

Main results:

* `MediaTree.Plan.run_pure`, `MediaTree.Plan.run_bind` — running follows the structure of a plan.
-/

import MediaTree.Catalog.Item
import MediaTree.Catalog.Query
import MediaTree.Http.Exchange
import MediaTree.Log.Entry

set_option autoImplicit false
set_option relaxedAutoImplicit false

namespace MediaTree

/-! ### Calls -/

/-- A call of a catalog. -/
inductive Call where
  /-- The top-level folders. -/
  | folders
  /-- The items of a query. -/
  | query (q : Query)
  /-- A single item. -/
  | get (id : String)
deriving DecidableEq, Repr

/-- What answers a call. -/
def Call.Answer : Call → Type
  | folders => ItemList
  | query _ => ItemList
  | get _ => Item

/-- What can be seen of a run besides its result. -/
inductive Event where
  /-- An entry of the log. -/
  | logged (e : Log.Entry)
  /-- A call that a catalog in memory answered. -/
  | called (c : Call)
  /-- A request that was sent to a server. -/
  | sent (r : Http.Request)
deriving DecidableEq, Repr

namespace Event

/-- The log entries among events. -/
def logs (es : List Event) : List Log.Entry :=
  es.filterMap fun
    | logged e => some e
    | _ => none

/-- The calls among events. -/
def calls (es : List Event) : List Call :=
  es.filterMap fun
    | called c => some c
    | _ => none

/-- The requests among events. -/
def requests (es : List Event) : List Http.Request :=
  es.filterMap fun
    | sent r => some r
    | _ => none

end Event

/-! ### Catalogs -/

/-- The addresses that a catalog gives to items. -/
structure Links where
  /-- Where the catalog is. -/
  base : String
  /-- The sound of an item. -/
  audio : String → String
  /-- The film of an item. -/
  video : String → String
  /-- An image of an item, by name, scaled to a width. -/
  artwork : String → String → Nat → String

/-- What a catalog does about a call. -/
structure Handled (c : Call) where
  events : List Event
  result : Except CatalogError c.Answer

/-- A catalog: its addresses, and its answer to every call. -/
structure Catalog where
  links : Links
  handle : (c : Call) → Handled c

/-! ### Plans -/

/-- A request seen from inside. -/
inductive Plan (α : Type) where
  | finish (a : α)
  | log (e : Log.Entry) (rest : Plan α)
  | ask (c : Call) (next : Except CatalogError c.Answer → Plan α)

namespace Plan

variable {α β : Type}

/-- Goes on with another plan. -/
def bind : Plan α → (α → Plan β) → Plan β
  | finish a, f => f a
  | log e rest, f => log e (rest.bind f)
  | ask c next, f => ask c fun answer => (next answer).bind f

instance : Monad Plan where
  pure := finish
  bind := bind

/-- Runs a plan over a catalog: what is seen, and the result. -/
def run (k : Catalog) : Plan α → List Event × α
  | finish a => ([], a)
  | log e rest =>
    let (es, a) := rest.run k
    (.logged e :: es, a)
  | ask c next =>
    let h := k.handle c
    let (es, a) := (next h.result).run k
    (h.events ++ es, a)

@[simp] theorem run_pure (k : Catalog) (a : α) : (pure a : Plan α).run k = ([], a) := rfl

@[simp] theorem run_finish (k : Catalog) (a : α) : (finish a).run k = ([], a) := rfl

theorem run_bind (k : Catalog) (p : Plan α) (f : α → Plan β) :
    (p >>= f).run k = ((p.run k).1 ++ ((f (p.run k).2).run k).1, ((f (p.run k).2).run k).2) := by
  show (p.bind f).run k = _
  induction p with
  | finish a => rfl
  | log e rest ih => simp [bind, run, ih]
  | ask c next ih => simp [bind, run, ih]

end Plan

/-! ### Requests that may fail -/

/-- A plan that may fail. -/
abbrev Attempt (α : Type) := ExceptT RequestError Plan α

namespace Attempt

/-- Logs an entry. -/
def log (e : Log.Entry) : Attempt Unit := ExceptT.mk (.log e (.finish (.ok ())))

/-- Makes a call; a call that fails ends the request with its error. -/
def ask (c : Call) : Attempt c.Answer :=
  ExceptT.mk (.ask c fun answer => .finish (answer.mapError .catalog))

/-- Runs a request over a catalog. -/
def run {α : Type} (k : Catalog) (t : Attempt α) : List Event × Except RequestError α :=
  Plan.run k (ExceptT.run t)

end Attempt

end MediaTree
