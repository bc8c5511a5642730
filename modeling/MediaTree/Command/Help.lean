/-
**Help on the command.**

Help on a topic says in one line what it is for, how it is called, and what stands behind its
name: actions, arguments and options, each with what it means in a second column.

Main definitions:

* `MediaTree.Topic.text` — the help on a topic.
-/

import MediaTree.Command.Arguments

set_option autoImplicit false
set_option relaxedAutoImplicit false

namespace MediaTree

/-- What the command is called. -/
def Command.name : String := "jellyfin-browse"

/-- The variable that names the settings file where the arguments do not. -/
def Command.configVariable : String := "JELLYFIN_CONFIG"

namespace Topic

/-! ### Columns -/

/-- A text with blanks up to a width. -/
def padded (width : Nat) (s : String) : String :=
  s ++ String.ofList (List.replicate (width - s.length) ' ')

/-- Lines of two columns under a title. -/
def block (title : String) (lines : List (String × String)) : String :=
  let width := lines.foldl (fun w l => max w l.1.length) 0
  "\n" ++ title ++ ":\n" ++
    String.join (lines.map fun l => "  " ++ padded width l.1 ++ "  " ++ l.2 ++ "\n")

/-! ### Topics -/

/-- What a topic is for. -/
def purpose : Topic → String
  | command => "Browse a Jellyfin catalog"
  | browse => "Print the node for an item, or the library root"
  | resolve => "Print the stream URL and MIME type of an item"
  | help => "Print this message or the help of the given subcommand(s)"

/-- What stands behind the name of the command in a call. -/
def pattern : Topic → String
  | command => "[OPTIONS] <COMMAND>"
  | browse => "browse [ID]"
  | resolve => "resolve <ID>"
  | help => "help [COMMAND]..."

/-- The option that asks for help. -/
def helpOption : String × String := ("-h, --help", "Print help")

/-- The option that names the settings file, with what it falls back on. -/
def configOption (fallback : Option String) : String × String :=
  ("-c, --config <CONFIG>",
    "Configuration file [env: " ++ Command.configVariable ++ "=" ++ fallback.getD "" ++ "]")

/-- What may stand behind the name of a topic. -/
def blocks (fallback : Option String) : Topic → String
  | command =>
    block "Commands" [("browse", browse.purpose), ("resolve", resolve.purpose),
      ("help", help.purpose)] ++
    block "Options" [configOption fallback, helpOption]
  | browse =>
    block "Arguments" [("[ID]", "Item id; omit for the root")] ++ block "Options" [helpOption]
  | resolve => block "Arguments" [("<ID>", "")] ++ block "Options" [helpOption]
  | help => block "Arguments" [("[COMMAND]...", "Print help for the subcommand(s)")]

/-- Help on a topic; `fallback` is the settings file that counts if the arguments name none. -/
def text (fallback : Option String) (t : Topic) : String :=
  t.purpose ++ "\n\nUsage: " ++ Command.name ++ " " ++ t.pattern ++ "\n" ++ t.blocks fallback

end Topic

end MediaTree
