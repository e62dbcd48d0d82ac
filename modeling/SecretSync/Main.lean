import SecretSync.Tool

/-!
# `SecretSync.Main`: the program `rsctl`

Reads the environment variables and the files that a command line asks for,
hands them to `Tool.run`, and prints what comes back. Everything that is
decided is decided there. The program has no way to a network, so a command
that needs a cluster ends with the failure to reach it.
-/

set_option autoImplicit false

namespace SecretSync

namespace Console

/-- What is wrong with a file that cannot be read. -/
def faultOf : IO.Error → FileFault
  | .noFileOrDirectory .. => .missing
  | .inappropriateType .. => .directory
  | _ => .denied

/-- The bytes of a file, or why they are not there. -/
def readFile (name : String) : IO (Except FileFault Bytes) := do
  try
    let bytes ← IO.FS.readBinFile name
    return .ok bytes.toList
  catch e => return .error (faultOf e)

/-- The files of some names. -/
def readFiles (names : List String) : IO Files := do
  let found ← names.mapM fun name => do return (name, ← readFile name)
  return fun name => (found.lookup name).getD (.error .missing)

/-- The environment variables of some names. -/
def readVariables (names : List String) : IO (String → Option String) := do
  let found ← names.mapM fun name => do return (name, ← IO.getEnv name)
  return fun name => (found.lookup name).join

/-- Whether one of the usual places holds a configuration that leads to a cluster. -/
def hasCluster : IO Bool := do
  let named := (← IO.getEnv "KUBECONFIG").map (Text.splitAll ':')
  let home := (← IO.getEnv "HOME").map fun dir => [dir ++ "/.kube/config"]
  let places := (named <|> home).getD []
  let found ← places.mapM readFile
  return found.any Except.isOk

/-- Runs the tool with the words of a command line and gives the exit status. -/
def run (words : List String) : IO UInt32 := do
  let environment ← readVariables Tool.variableNames
  let files ← readFiles (CommandLine.read words).fileNames
  let around : Tool.Surroundings := ⟨environment, files, ← hasCluster⟩
  let format := (Settings.ofVariables environment).logFormat
  let report := Tool.run Tool.noNetwork () around words
  for shown in report.shown do
    IO.println (shown.text format)
  for complaint in report.complaints do
    IO.eprintln complaint
  return UInt32.ofNat report.exitStatus

end Console

end SecretSync

/-- Runs the tool. -/
def main (words : List String) : IO UInt32 := SecretSync.Console.run words
