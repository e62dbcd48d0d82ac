import SecretSync.CommandLine.Grammar
import SecretSync.OwnerKey

/-!
# `SecretSync.CommandLine.Help`: the commands and how they are explained

The commands with their options, and the texts that explain them. A help text
has the purpose of the command, its usage, and aligned lists of operands and
options.
-/

set_option autoImplicit false

namespace SecretSync

namespace CommandLine

/-- The commands. -/
inductive CommandName where
  | sync | list | stale | owners | unlink | validate
  deriving DecidableEq, Repr

namespace CommandName

/-- All commands in order. -/
def all : List CommandName := [.sync, .list, .stale, .owners, .unlink, .validate]

/-- The word for a command. -/
def word : CommandName → String
  | .sync => "sync"
  | .list => "list"
  | .stale => "stale"
  | .owners => "owners"
  | .unlink => "unlink"
  | .validate => "validate"

/-- The command of a word. -/
def ofWord? (word : String) : Option CommandName := all.find? fun c => c.word == word

/-- What a command does. -/
def about : CommandName → String
  | .sync => "Create or update the secrets of a RemoteSecret in its local targets"
  | .list => "List the secrets managed by a RemoteSecret in its local targets"
  | .stale => "Show secrets that no longer correspond to the RemoteSecret spec"
  | .owners => "Show the RemoteSecrets referencing and managing a secret"
  | .unlink => "Remove a RemoteSecret from the owners of a secret"
  | .validate => "Validate a RemoteSecret manifest"

/-- The operand of a command and what it means. -/
def operand : CommandName → Option (String × String)
  | .sync | .list | .stale => some ("<NAME>", "Name of the RemoteSecret resource")
  | .owners | .unlink => some ("<SECRET>", "Name of the secret")
  | .validate => none

end CommandName

/-- A text split at the first equals sign into a key, which is not empty, and a value. -/
def keyValue? (text : String) : Option (String × String) :=
  (Text.splitOnce '=' text).filter fun e => !e.1.isEmpty

/-- The options of all commands. -/
def globalRules : List OptionRule := [
  { long := "namespace", short := some 'n', valueName := some "NAMESPACE",
    help := "Kubernetes namespace [default: default]" },
  { long := "metrics", help := "Print the collected Prometheus metrics when done" }]

/-- The option that asks for help. -/
def helpRule : OptionRule := { long := "help", short := some 'h', help := "Print help" }

namespace CommandName

/-- The options of a command. -/
def rules : CommandName → List OptionRule
  | .sync => [
      { long := "from-secret", valueName := some "SECRET",
        help := "Copy the data of an existing secret (<namespace>/<name>)",
        accepts := fun text => (OwnerKey.parse? text).isSome },
      { long := "from-literal", valueName := some "KEY=VALUE",
        help := "Literal data entry (KEY=VALUE), may be repeated",
        isRepeatable := true, accepts := fun text => (keyValue? text).isSome },
      { long := "from-base64", valueName := some "KEY=BASE64",
        help := "Base64 encoded data entry (KEY=BASE64), may be repeated",
        isRepeatable := true, accepts := fun text => (keyValue? text).isSome },
      { long := "recreate",
        help := "Write the secrets under the name from the secret spec, ignoring the names " ++
          "recorded in the status" }]
  | .unlink => [
      { long := "owner", valueName := some "OWNER",
        help := "Owner to remove (<namespace>/<name>)",
        accepts := fun text => (OwnerKey.parse? text).isSome }]
  | .validate => [
      { long := "file", short := some 'f', valueName := some "FILE",
        help := "RemoteSecret manifest (YAML)", accepts := fun text => !text.isEmpty },
      { long := "old", valueName := some "FILE",
        help := "Currently stored manifest, validates the change as an update",
        accepts := fun text => !text.isEmpty }]
  | _ => []

/-- The options of a command that must be given. -/
def requiredOptions : CommandName → List String
  | .unlink => ["owner"]
  | .validate => ["file"]
  | _ => []

end CommandName

/-! ### Help texts -/

/-- The name of the program. -/
def programName : String := "rsctl"

/-- The names of an option, with its value. -/
def optionNames (rule : OptionRule) : String :=
  let short := match rule.short with
    | some c => "-" ++ c.toString ++ ", "
    | none => "    "
  let value := match rule.valueName with
    | some name => " <" ++ name ++ ">"
    | none => ""
  short ++ "--" ++ rule.long ++ value

/-- Blanks. -/
def blanks (n : Nat) : String := String.ofList (List.replicate n ' ')

/-- Rows of two columns, the first one as wide as it has to be. -/
def aligned (rows : List (String × String)) : List String :=
  let width := rows.foldl (fun width row => max width row.1.length) 0
  rows.map fun row => "  " ++ row.1 ++ blanks (width + 2 - row.1.length) ++ row.2

/-- Options in the order in which they are explained: those of the command and those of all
commands take turns, in alphabetical order within a turn, and the one for help comes last. -/
def explained : (own shared : List OptionRule) → List OptionRule
  | o :: own, s :: shared =>
    let sortName (rule : OptionRule) := match rule.short with
      | some c => c.toString
      | none => rule.long
    (if sortName o < sortName s then [o, s] else [s, o]) ++ explained own shared
  | own, [] => own ++ [helpRule]
  | [], shared => shared ++ [helpRule]

/-- The list of options. -/
def optionLines (own : List OptionRule) : List String :=
  ["Options:"] ++
    aligned ((explained own globalRules).map fun rule => (optionNames rule, rule.help))

/-- The help text of a command. -/
def commandHelp (command : CommandName) : List String :=
  let required := command.requiredOptions.filterMap fun long =>
    (command.rules.find? fun rule => rule.long == long).map fun rule =>
      "--" ++ long ++ " <" ++ rule.valueName.getD "" ++ ">"
  let operand := (command.operand.map Prod.fst).toList
  let usage := ["Usage:", programName, command.word, "[OPTIONS]"] ++ required ++ operand
  let operandLines := match command.operand with
    | some row => ["Arguments:"] ++ aligned [row] ++ [""]
    | none => []
  [command.about, "", " ".intercalate usage, ""] ++ operandLines ++ optionLines command.rules

/-- The list of commands. -/
def commandLines : List String :=
  ["Commands:"] ++
    aligned (CommandName.all.map (fun c => (c.word, c.about)) ++
      [("help", "Print this message or the help of the given subcommand(s)")])

/-- The help text of the program. -/
def generalHelp : List String :=
  ["RemoteSecret Controller CLI", "", "Usage: " ++ programName ++ " [OPTIONS] <COMMAND>", ""] ++
    commandLines ++ [""] ++ optionLines [] ++
    ["", "Examples:",
      "  rsctl sync my-remote-secret --namespace team-a",
      "  rsctl list my-remote-secret",
      "  rsctl owners db-credentials-x7k2p --namespace team-a-dev"]

end CommandLine

end SecretSync
