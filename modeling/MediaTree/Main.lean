/-
**The command line.**

The command as a program: it reads the environment and the files that its settings name, runs, and
writes what the run comes to.  It has no link to a server of its own, so that every request is
lost.
-/

import MediaTree.Command.Run

set_option autoImplicit false
set_option relaxedAutoImplicit false

namespace MediaTree.Command

/-- The variables that count, in capitals. -/
def knownVariables : List String :=
  [configVariable, threadsVariable, Log.filterVariable] ++
    Setting.all.map fun s => ("jellyfin_" ++ s.home.key ++ "__" ++ s.key).toUpper

/-- The variables in a list of them in which each ends with a null character. -/
def ofListing (s : String) : Environment :=
  (Text.pieces (· == '\x00') s.toList).filterMap fun cs =>
    match cs.dropWhile (· != '=') with
    | _ :: value => some (String.ofList (cs.takeWhile (· != '=')), String.ofList value)
    | [] => none

/-- The variables that the process was started with; only those that count where no list of them can
be had. -/
def readEnvironment : IO Environment := do
  try
    pure (ofListing (← IO.FS.readFile "/proc/self/environ"))
  catch _ =>
    let found ← knownVariables.mapM fun name => do
      pure ((← IO.getEnv name).map fun value => (name, value))
    pure (found.filterMap id)

/-- What stands at a path now.  Below a file it does not matter what is said: the path ends
there. -/
def look (path : String) : IO (Option Directory.Entry) := do
  try
    pure (some (.file (← IO.FS.readFile path)))
  catch e =>
    match e with
    | .inappropriateType .. => pure (some .directory)
    | _ => pure none

/-- A directory with what stands at some paths now, and on the way to them, as far as this is not
known yet. -/
def readDirectory (d : Directory) (paths : List String) : IO Directory :=
  (paths.flatMap Directory.ways).foldlM (fun d way => do
    if (d.find? way).isSome then pure d
    else
      match ← look way with
      | some e => pure (d.add way e)
      | none => pure d) d

/-- The log file that settings name, if they can be loaded. -/
def logFile? (env : Environment) (d : Directory) (i : Invocation) : Option String :=
  match Settings.load d env i.config with
  | .ok s => s.file
  | .error _ => none

/-- Writes to the end of a file what it has gained. -/
def writeGain (before after : Directory) (path : String) : IO Unit := do
  match after.read? path with
  | none => pure ()
  | some content =>
    let gain := String.ofList (content.toList.drop ((before.read? path).getD "").length)
    let handle ← IO.FS.Handle.mk path .append
    handle.putStr gain

/-- Runs an invocation and writes what it comes to; answers with its status. -/
def execute (env : Environment) (i : Invocation) : IO UInt32 := do
  let named ← readDirectory .standard ((i.config.map Settings.candidates).getD [])
  let file := logFile? env named i
  let before ← readDirectory named file.toList
  let o := i.run .down env before
  match file with
  | some path => writeGain before o.directory path
  | none => pure ()
  IO.eprint o.shown
  IO.print o.output
  match o.complaint? with
  | some c => IO.eprintln ("Error: " ++ c)
  | none => pure ()
  pure (UInt32.ofNat o.status)

end MediaTree.Command

open MediaTree in
/-- Does what the arguments ask for. -/
def main (args : List String) : IO UInt32 := do
  let env ← Command.readEnvironment
  -- the threads are started before the arguments are looked at
  if Command.starts env then
    match Command.usage env args with
    | .run i => Command.execute env i
    | .help t =>
      IO.print (Command.help env t)
      pure 0
    | .refused =>
      IO.eprint (Command.help env .command)
      pure (UInt32.ofNat Command.refusedStatus)
  else pure (UInt32.ofNat Failure.unstarted.status)
