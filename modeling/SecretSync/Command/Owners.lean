import SecretSync.Command.Basic

/-!
# `SecretSync.Command.Owners`: the owners of one secret

`owners` shows which resources reference a secret and which of them manages
it. `unlink` takes one of them off: it reads the secret, changes the tags and
writes it back, so a change by somebody else in between makes it fail.
-/

set_option autoImplicit false

namespace SecretSync

namespace Ownership

/-- The owners that reference an object, each with whether it manages the object. -/
def ownerRows (m : ObjectMeta) : Except MarkerError (List (OwnerKey × Bool)) :=
  (owners m).mapM fun owner => (isManagedBy owner m).map fun managing => (owner, managing)

end Ownership

namespace Command

/-- The text of a namespace and name. -/
def secretLabel (ns name : String) : String := "'" ++ ns ++ "/" ++ name ++ "'"

/-- A row of the list of owners. -/
def ownerRow (owner managing : String) : String := padded 50 owner ++ " " ++ padded 10 managing

/-- The list of owners. -/
def ownerTable (rows : List (OwnerKey × Bool)) : List String :=
  ownerRow "OWNER" "MANAGING" ::
    rows.map fun row => ownerRow row.1.toString (if row.2 then "true" else "false")

/-- Reads a secret for a command. -/
def getSecret (ns name : String) : ClusterProgram (Except Failure Secret) := do
  match ← onStore (Store.get ns name) with
  | .ok secret => return .ok secret
  | .error e =>
    return .error ((Failure.ofStore e).within ("Failed to get secret " ++ secretLabel ns name))

/-- Shows the owners of a secret. -/
def owners (ns name : String) : ClusterProgram CommandResult := do
  match ← getSecret ns name with
  | .error e => return .error e
  | .ok secret =>
    Program.tellAll (Ownership.malformedWarnings secret.metadata)
    match Ownership.ownerRows secret.metadata with
    | .error e => return .error (.ofMarker e)
    | .ok [] =>
      Program.print ("Secret " ++ secretLabel ns name ++ " is not referenced by any RemoteSecret")
      return .ok ()
    | .ok rows =>
      Program.tellAll ((ownerTable rows).map .print)
      return .ok ()

/-- Tells that an owner was taken off a secret that now has this metadata. -/
def concludeUnlink (ns name : String) (owner : OwnerKey) (m : ObjectMeta) :
    ClusterProgram CommandResult := do
  Program.print ("✅ Unlinked '" ++ owner.toString ++ "' from secret " ++ secretLabel ns name)
  Program.tellAll (Ownership.malformedWarnings m)
  if (Ownership.owners m).isEmpty then
    Program.print "   The secret is no longer referenced by any RemoteSecret"
  return .ok ()

/-- Takes an owner off a secret. -/
def unlink (ns name : String) (owner : OwnerKey) : ClusterProgram CommandResult := do
  match ← getSecret ns name with
  | .error e => return .error e
  | .ok secret =>
    match Ownership.unmarkReferenced owner secret.metadata with
    | .error e => return .error (.ofMarker e)
    | .ok marked =>
      if !marked.changed then
        Program.print ("Secret " ++ secretLabel ns name ++ " is not referenced by '" ++
          owner.toString ++ "', nothing to do")
        return .ok ()
      else
        match ← onStore (Store.update ns { secret with metadata := marked.metadata }) with
        | .error e =>
          return .error ((Failure.ofStore e).within
            ("Failed to update secret " ++ secretLabel ns name))
        | .ok _ => concludeUnlink ns name owner marked.metadata

end Command

end SecretSync
