import SecretSync.Command.Basic
import SecretSync.Validation
import SecretSync.Yaml.Reader

/-!
# `SecretSync.Command.Validate`: checking a manifest

The command reads a manifest and checks it as a resource that is to be
created or, if the manifest of the stored resource is given too, as a change
of that one. It talks to no cluster; the files it reads are given as a
function.
-/

set_option autoImplicit false

namespace SecretSync

/-- Why the bytes of a file are not there. -/
inductive FileFault where
  | missing
  | directory
  | denied
  deriving DecidableEq, Repr

/-- The text of the fault. -/
def FileFault.message : FileFault → String
  | .missing => "No such file or directory (os error 2)"
  | .directory => "Is a directory (os error 21)"
  | .denied => "Permission denied (os error 13)"

/-- What the files of a name hold. -/
abbrev Files := String → Except FileFault Bytes

namespace Manifest

/-- The failure to read a file. -/
def unreadable (file reason : String) : Failure := ⟨"Failed to read '" ++ file ++ "'", [reason]⟩

/-- The failure of a text that is no manifest. -/
def malformed (file : String) : Failure := ⟨"'" ++ file ++ "' is not a RemoteSecret manifest", []⟩

/-- The text of a file. -/
def text (files : Files) (file : String) : Except Failure String :=
  match files file with
  | .error e => .error (unreadable file e.message)
  | .ok bytes =>
    match Text.ofUtf8? bytes with
    | some text => .ok text
    | none => .error (unreadable file "stream did not contain valid UTF-8")

/-- The resource that a text describes. -/
def parse? (text : String) : Option RemoteSecret :=
  (Yaml.read? text).bind RemoteSecret.ofDocument?

/-- The resource in a file. -/
def read (files : Files) (file : String) : Except Failure RemoteSecret := do
  match parse? (← text files file) with
  | some r => pure r
  | none => .error (malformed file)

end Manifest

namespace Command

/-- Checks a manifest, as a change of another one if there is one. -/
def checkManifest (files : Files) (file : String) (old : Option String) : CommandResult := do
  let r ← Manifest.read files file
  let verdict ← match old with
    | some old => do pure (Validation.checkUpdate (← Manifest.read files old) r)
    | none => pure (Validation.checkCreate r)
  match verdict with
  | .ok () => pure ()
  | .error e => .error ⟨"'" ++ file ++ "' is invalid", [e.message]⟩

/-- Checks a manifest and tells that it is valid if it is. -/
def validate (files : Files) (file : String) (old : Option String) :
    ClusterProgram CommandResult :=
  match checkManifest files file old with
  | .error e => return .error e
  | .ok () => do
    Program.print ("✅ '" ++ file ++ "' is valid")
    return .ok ()

end Command

end SecretSync
