/-
**The command.**

The command starts its threads, loads the settings, sets up the log, validates the settings, opens
a session, and makes its request; the first of these stages that fails ends it.  Its output is the
answer as JSON, and there is none if a stage fails, unless the log is written to the output as well.

Main definitions:

* `MediaTree.Failure` — why a run fails, with `message?` and `status`;
* `MediaTree.Outcome` — what a run comes to;
* `MediaTree.Command.starts` — whether a run starts in an environment;
* `MediaTree.Action.plan` — the request of an action;
* `MediaTree.Invocation.run` — a run;
* `MediaTree.Command.usage`, `MediaTree.Command.help` — what arguments ask for, and help on it.
-/

import MediaTree.Command.Help
import MediaTree.Log.Sink
import MediaTree.Node.Codec
import MediaTree.Server.Session
import MediaTree.Settings.Load
import MediaTree.Tree.Source

set_option autoImplicit false
set_option relaxedAutoImplicit false

namespace MediaTree

/-! ### Failures -/

/-- Why a run fails. -/
inductive Failure where
  /-- The run does not even start. -/
  | unstarted
  | settings (e : SettingsError)
  | log (e : Log.SetupError)
  /-- The settings are not valid. -/
  | invalid (reason : String)
  | session (e : CatalogError)
  | request (e : RequestError)
deriving DecidableEq, Repr

namespace Failure

/-- A text whose lines behind the first are indented like the first. -/
def indented (s : String) : String :=
  String.ofList (s.toList.flatMap fun c => if c = '\n' then "\n    ".toList else [c])

/-- A text with the cause of what it says. -/
def withCause (text cause : String) : String := text ++ "\n\nCaused by:\n    " ++ indented cause

/-- The text of a failure; a run that does not start has nothing to say. -/
def message? : Failure → Option String
  | unstarted => none
  | settings e => some (withCause "Failed to load configuration" e.message)
  | log e => some e.message
  | invalid reason => some (withCause "Invalid configuration" reason)
  | session e => some e.message
  | request e => some e.message

/-- The status of a run that fails. -/
def status : Failure → Nat
  | unstarted => 101
  | _ => 1

end Failure

/-! ### Outcomes -/

/-- What a run comes to. -/
structure Outcome where
  /-- The answer as it is written to the output, or why there is none. -/
  result : Except Failure String
  /-- The files afterwards. -/
  directory : Directory
  /-- What was seen of the request. -/
  events : List Event
  /-- What the log shows on the output, in front of the answer. -/
  printed : String
  /-- What the log shows on the error output. -/
  shown : String

namespace Outcome

/-- A run that fails before anything is seen. -/
def failed (d : Directory) (f : Failure) : Outcome := ⟨.error f, d, [], "", ""⟩

/-- The status of a run: zero if it succeeds. -/
def status (o : Outcome) : Nat :=
  match o.result with
  | .ok _ => 0
  | .error f => f.status

/-- What is written to the output: entries of the log, if they go there, and the answer. -/
def output (o : Outcome) : String :=
  o.printed ++ match o.result with
    | .ok s => s
    | .error _ => ""

/-- What is said about a failure. -/
def complaint? (o : Outcome) : Option String :=
  match o.result with
  | .ok _ => none
  | .error f => f.message?

end Outcome

/-! ### Threads -/

namespace Command

/-- The variable that says on how many threads a run works. -/
def threadsVariable : String := "TOKIO_WORKER_THREADS"

/-- A run starts unless the number of its threads is given, and is no positive number of at most 64
bits.  Whether there is room for so many is not asked. -/
def starts (env : Environment) : Bool :=
  match env.get? threadsVariable with
  | none => true
  | some s => (Log.number? s.toList).any fun n => 0 < n && n < Nat.pow 2 64

end Command

/-! ### Requests -/

/-- The request of an action, answered as JSON. -/
def Action.plan [Mime.Table] (links : Links) (title : String) : Action → Attempt Json
  | .browse id => do
    let n ← browsePlan links title id
    pure n.toJson
  | .resolve id => do
    let p ← resolvePlan links id
    pure p.toJson

/-- What is logged about the session that was opened. -/
def greeting (s : Session) : Log.Entry :=
  ⟨.info, "jellyfin_browse", "Using Jellyfin server at " ++ s.host, []⟩

/-- The answer of a request as it is written to the output. -/
def answerText (j : Json) : String := j.pretty ++ "\n"

/-- What settings say about the log. -/
def Settings.logRequest (s : Settings) : Log.Request := ⟨s.level, s.format, s.file⟩

/-- The session that settings describe. -/
def Settings.session (s : Settings) : Except CatalogError Session :=
  Session.open? s.url s.token s.user s.device

/-! ### Runs -/

namespace Invocation

variable [Mime.Table]

/-- The request over a session. -/
def request (i : Invocation) (link : Http.Link) (s : Settings) (session : Session)
    (sink : Log.Sink) (d : Directory) : Outcome :=
  let (es, r) := Attempt.run (session.toCatalog link) (i.action.plan session.links s.title)
  let entries := greeting session :: Event.logs es
  ⟨match r with
    | .ok j => .ok (answerText j)
    | .error e => .error (.request e),
    sink.write d entries, es, sink.shownOn .output entries, sink.shownOn .errors entries⟩

/-- A run with settings that were loaded. -/
def runWith (i : Invocation) (link : Http.Link) (env : Environment) (d : Directory)
    (s : Settings) : Outcome :=
  match Log.setUp false d env s.logRequest with
  | (d, .error e) => .failed d (.log e)
  | (d, .ok sink) =>
    match s.validate with
    | .error reason => .failed d (.invalid reason)
    | .ok () =>
      match s.session with
      | .error e => .failed d (.session e)
      | .ok session => i.request link s session sink d

/-- A run. -/
def run (i : Invocation) (link : Http.Link) (env : Environment) (d : Directory) : Outcome :=
  if Command.starts env then
    match Settings.load d env i.config with
    | .error e => .failed d (.settings e)
    | .ok s => i.runWith link env d s
  else .failed d .unstarted

end Invocation

namespace Command

/-- The settings file that an environment names. -/
def fallback (env : Environment) : Option String := env.get? configVariable

/-- What the arguments ask for in an environment. -/
def usage (env : Environment) (args : List String) : Usage := .ofArguments (fallback env) args

/-- Help on a topic in an environment. -/
def help (env : Environment) (t : Topic) : String := t.text (fallback env)

/-- The status of a run whose arguments make no sense. -/
def refusedStatus : Nat := 2

end Command

end MediaTree
