/-
**Arguments of the command.**

The command takes the name of a settings file, and what it has to do: to browse an item or the
root, or to resolve an item.  Options start with a dash; two dashes end them.

Main definitions:

* `MediaTree.Action`, `MediaTree.Invocation` — what the command has to do;
* `MediaTree.Topic` — what one can be told about;
* `MediaTree.Usage`, `MediaTree.Usage.ofArguments` — what arguments ask for.
-/

set_option autoImplicit false
set_option relaxedAutoImplicit false

namespace MediaTree

/-- What the command has to do. -/
inductive Action where
  /-- Show an item, or the root. -/
  | browse (id : Option String)
  /-- Find the stream of an item. -/
  | resolve (id : String)
deriving DecidableEq, Repr

/-- What the command has to do, and the settings file that is named. -/
structure Invocation where
  config : Option String
  action : Action
deriving DecidableEq, Repr

/-- What one can be told about: the command, or one of the names that stand behind its options. -/
inductive Topic where
  | command
  | browse
  | resolve
  | help
deriving DecidableEq, Repr

/-- What the name of an action is about. -/
def Topic.ofName? : String → Option Topic
  | "browse" => some browse
  | "resolve" => some resolve
  | "help" => some help
  | _ => none

/-- What arguments ask for. -/
inductive Usage where
  | run (i : Invocation)
  /-- To be told how the command is used. -/
  | help (t : Topic)
  /-- The arguments make no sense. -/
  | refused
deriving DecidableEq, Repr

namespace Usage

/-- An argument that is an option: it starts with a dash and goes on. -/
def isOption (a : String) : Bool :=
  match a.toList with
  | '-' :: _ :: _ => true
  | _ => false

/-- The mark that ends options. -/
def endMark : String := "--"

/-! ### Behind the action -/

/-- What an option behind an action asks for: help on it, or nothing that makes sense. -/
def ofInnerOption (t : Topic) (a : String) : Usage :=
  match a.toList with
  | '-' :: 'h' :: _ => help t
  | _ => if a = "--help" then help t else refused

/-- What the arguments behind an action ask for: an id was read or none, and `literal` says that the
mark that ends options was. -/
def ofIds (t : Topic) (finish : Option String → Usage) :
    Bool → Option String → List String → Usage
  | _, id, [] => finish id
  | literal, id, a :: rest =>
    if !literal && a = endMark then ofIds t finish true id rest
    else if !literal && isOption a then ofInnerOption t a
    else if id.isSome then refused
    else ofIds t finish literal (some a) rest

/-- Browsing takes an id or none. -/
def browsing (config id : Option String) : Usage := run ⟨config, .browse id⟩

/-- Resolving takes an id. -/
def resolving (config : Option String) : Option String → Usage
  | some id => run ⟨config, .resolve id⟩
  | none => refused

/-- What a question for help with these names is about: the names lead from the command to it. -/
def helping : List String → Usage
  | [] => help .command
  | [name] =>
    match Topic.ofName? name with
    | some t => help t
    | none => refused
  | _ => refused

/-- What the name of an action and the arguments behind it ask for. -/
def ofAction (config : Option String) (name : String) (rest : List String) : Usage :=
  match Topic.ofName? name with
  | some .browse => ofIds .browse (browsing config) false none rest
  | some .resolve => ofIds .resolve (resolving config) false none rest
  | some .help => helping rest
  | _ => refused

/-! ### In front of the action -/

/-- What an option is: the settings file with its name attached, the settings file with its name in
the next argument, a question for help, or nothing that is known. -/
inductive Choice where
  | attached (file : String)
  | separate
  | help
  | unknown
deriving DecidableEq, Repr

/-- What an option is. -/
def Choice.ofOption (a : String) : Choice :=
  match a.toList with
  | '-' :: '-' :: cs =>
    let name := String.ofList (cs.takeWhile (· != '='))
    match cs.dropWhile (· != '=') with
    | [] => if name = "config" then separate else if name = "help" then help else unknown
    | _ :: value => if name = "config" then attached (String.ofList value) else unknown
  | ['-', 'c'] => separate
  | '-' :: 'c' :: '=' :: value => attached (String.ofList value)
  | '-' :: 'c' :: value => attached (String.ofList value)
  | '-' :: 'h' :: _ => help
  | _ => unknown

/-- What arguments ask for; `given` is the settings file that was named in front of them, and
`fallback` the one that counts if none is named. -/
def ofArgumentsFrom (fallback : Option String) : Option String → List String → Usage
  | _, [] => refused
  | given, a :: rest =>
    if isOption a then
      match Choice.ofOption a, rest with
      | .help, _ => help .command
      | .attached file, rest =>
        if given.isSome then refused else ofArgumentsFrom fallback (some file) rest
      | .separate, file :: rest =>
        if given.isSome || isOption file then refused
        else ofArgumentsFrom fallback (some file) rest
      | _, _ => refused
    else ofAction (given.or fallback) a rest

/-- What arguments ask for; `fallback` names the settings file where they do not. -/
def ofArguments (fallback : Option String) (args : List String) : Usage :=
  ofArgumentsFrom fallback none args

end Usage

end MediaTree
