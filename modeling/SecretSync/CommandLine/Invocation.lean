import SecretSync.Command.Inspect
import SecretSync.Command.Owners
import SecretSync.Command.Sync
import SecretSync.Command.Validate
import SecretSync.CommandLine.Help

/-!
# `SecretSync.CommandLine.Invocation`: what a command line asks for

A command line names one of six commands. The namespace and the wish for
metrics may be given in front of the command or behind it; behind it counts
more. A command line that does not fit the rules asks for nothing.
-/

set_option autoImplicit false

namespace SecretSync

/-- A command with its arguments. -/
inductive Action where
  | sync (name : String) (source : DataSource) (recreate : Bool)
  | list (name : String)
  | stale (name : String)
  | owners (secret : String)
  | unlink (secret : String) (owner : OwnerKey)
  | validate (file : String) (old : Option String)

namespace Action

/-- Whether the command talks to a cluster. -/
def needsCluster : Action → Bool
  | .validate .. => false
  | _ => true

/-- The names of the files that the command reads. -/
def fileNames : Action → List String
  | .validate file old => file :: old.toList
  | _ => []

/-- The program of a command. -/
def program (files : Files) (ns : String) : Action → ClusterProgram CommandResult
  | .sync name source recreate => Command.sync Command.inTurns ns name source recreate
  | .list name => Command.list ns name
  | .stale name => Command.stale ns name
  | .owners secret => Command.owners ns secret
  | .unlink secret owner => Command.unlink ns secret owner
  | .validate file old => Command.validate files file old

end Action

/-- What a command line asks for. -/
structure Invocation where
  action : Action
  ns : String
  showMetrics : Bool

namespace CommandLine

/-- A number of entries, all of the form of a key and a value. -/
def entriesOf (texts : List String) : List (String × String) := texts.filterMap keyValue?

/-- The action of a command for what its words have given; nothing if something is missing or does
not go together. -/
def actionOf? (g : Given) : CommandName → Option Action
  | .sync => do
    let name ← g.operand
    let literal := entriesOf (g.values "from-literal")
    let base64 := entriesOf (g.values "from-base64")
    if g.has "from-secret" && !(literal.isEmpty && base64.isEmpty) then none
    else
      let secret := (g.value? "from-secret").bind OwnerKey.parse?
      some (.sync name (.ofArguments secret literal base64) (g.has "recreate"))
  | .list => g.operand.map .list
  | .stale => g.operand.map .stale
  | .owners => g.operand.map .owners
  | .unlink => do
    let secret ← g.operand
    let owner ← (g.value? "owner").bind OwnerKey.parse?
    pure (.unlink secret owner)
  | .validate =>
    if g.operand.isSome then none
    else (g.value? "file").map fun file => .validate file (g.value? "old")

/-- The namespace if none is given. -/
def defaultNamespace : String := "default"

/-- What a command line comes to. -/
inductive Reading where
  | refused
  | help (lines : List String)
  | invocation (i : Invocation)

/-- The names of the files that a command line makes the tool read. -/
def Reading.fileNames : Reading → List String
  | .invocation i => i.action.fileNames
  | _ => []

/-- What is left of a stopped reading: help for a command, or nothing. -/
def Reading.ofStop (help : List String) : Stop → Reading
  | .refused => .refused
  | .helpAsked => .help help

/-- Reads the words behind the name of a command. -/
def readCommand (outer : Given) (command : CommandName) (words : List String) : Reading :=
  match readWords (command.rules ++ globalRules) {} none words with
  | .error stop => .ofStop (commandHelp command) stop
  | .ok inner =>
    match actionOf? inner command with
    | none => .refused
    | some action =>
      let ns := (inner.value? "namespace").getD
        ((outer.value? "namespace").getD defaultNamespace)
      .invocation ⟨action, ns, inner.has "metrics" || outer.has "metrics"⟩

/-- Reads the words behind the wish for help. -/
def readHelp : List String → Reading
  | [] => .help generalHelp
  | [word] =>
    match CommandName.ofWord? word with
    | some command => .help (commandHelp command)
    | none => .refused
  | _ => .refused

/-- Reads a command line. -/
def read (words : List String) : Reading :=
  match readOptions globalRules {} none words with
  | .error stop => .ofStop generalHelp stop
  | .ok (outer, word, rest) =>
    if word = "help" then readHelp rest
    else match CommandName.ofWord? word with
      | some command => readCommand outer command rest
      | none => .refused

end CommandLine

end SecretSync
