import SecretSync.Command.Targets

/-!
# `SecretSync.Command.Inspect`: what a resource has in its targets

Two commands only look. `list` shows the secrets that a resource manages in
its local targets, and `stale` those that an earlier sync stored under a name
that is no longer wanted. Both go through the targets one by one and stop at
the first failure.
-/

set_option autoImplicit false

namespace SecretSync

namespace Command

/-- A row of the list of secrets. -/
def secretRow (ns name type : String) : String :=
  padded 30 ns ++ " " ++ padded 40 name ++ " " ++ padded 20 type

/-- The type that a secret has if it does not say. -/
def defaultSecretType : String := "Opaque"

/-- Shows the secrets that the handlers' owner manages. -/
def listHandlers : List Handler → ClusterProgram CommandResult
  | [] => return .ok ()
  | h :: rest => do
    match ← onStore h.list with
    | .error e =>
      return .error ((Failure.ofSync e).within ("Failed to list secrets in '" ++ h.target.ns ++ "'"))
    | .ok secrets =>
      Program.tellAll (secrets.map fun secret =>
        .print (secretRow h.target.ns secret.name (secret.type.getD defaultSecretType)))
      listHandlers rest

/-- Shows the secrets that a resource manages in its local targets. -/
def list (ns name : String) : ClusterProgram CommandResult := do
  match ← fetchForCommand ns name with
  | .error e => return .error e
  | .ok r =>
    match ← r.localHandlers with
    | .error e => return .error e
    | .ok handlers =>
      Program.print (secretRow "NAMESPACE" "SECRET" "TYPE")
      listHandlers handlers

/-- Shows the stale secrets of the handlers and counts them. -/
def staleHandlers (found : Nat) : List Handler → ClusterProgram (Except Failure Nat)
  | [] => return .ok found
  | h :: rest => do
    match ← onStore h.getStale with
    | .error e => return .error (.ofSync e)
    | .ok none => staleHandlers found rest
    | .ok (some secret) =>
      Program.print (h.target.ns ++ "/" ++ secret.name)
      staleHandlers (found + 1) rest

/-- Shows the stale secrets of a resource in its local targets. -/
def stale (ns name : String) : ClusterProgram CommandResult := do
  match ← fetchForCommand ns name with
  | .error e => return .error e
  | .ok r =>
    match ← r.localHandlers with
    | .error e => return .error e
    | .ok handlers =>
      match ← staleHandlers 0 handlers with
      | .error e => return .error e
      | .ok found =>
        if found = 0 then Program.print "No stale secrets found"
        return .ok ()

end Command

end SecretSync
