import SecretSync.Command.Basic

/-!
# `SecretSync.Command.Targets`: the local targets of a resource

A command works on the targets of a resource that are in the local cluster.
Those in other clusters are skipped with a remark. A resource without local
targets is a failure.
-/

set_option autoImplicit false

namespace SecretSync

/-- The remark about a target in another cluster. -/
def TargetSpec.skipRemark (t : TargetSpec) : String :=
  "⚠️  Skipping target '" ++ t.ns ++ "' in remote cluster '" ++ clusterAddress t.apiUrl ++ "'"

namespace RemoteSecret

/-- The remarks about skipped targets, and the deployment targets for the others. A local target
that cannot be handled ends the walk. -/
def walkTargets (r : RemoteSecret) :
    List TargetSpec → List String × Except TargetError (List DeploymentTarget)
  | [] => ([], .ok [])
  | t :: rest =>
    if t.isLocal then
      match DeploymentTarget.ofRemoteSecret r t with
      | .error e => ([], .error e)
      | .ok target =>
        let (remarks, targets) := walkTargets r rest
        (remarks, targets.map (target :: ·))
    else
      let (remarks, targets) := walkTargets r rest
      (t.skipRemark :: remarks, targets)

/-- The failure of a resource without local targets. -/
def noLocalTargets : Failure := ⟨"RemoteSecret has no local targets", []⟩

/-- The handlers of the local targets. -/
def handlersOf : Except TargetError (List DeploymentTarget) → Except Failure (List Handler)
  | .error e => .error (.ofTarget e)
  | .ok [] => .error noLocalTargets
  | .ok targets => .ok (targets.map fun target => ⟨target, Marker.ofTags⟩)

/-- Remarks on the skipped targets of a resource and gives the handlers of the others. -/
def localHandlers (r : RemoteSecret) : ClusterProgram (Except Failure (List Handler)) := do
  let (remarks, targets) := r.walkTargets r.spec.targets
  Program.tellAll (remarks.map .print)
  return handlersOf targets

end RemoteSecret

/-- Fetches a resource for a command. -/
def fetchForCommand (ns name : String) : ClusterProgram (Except Failure RemoteSecret) := do
  match ← fetchRemoteSecret ns name with
  | .ok r => return .ok r
  | .error e =>
    return .error ((Failure.ofApi e).within
      ("Failed to get RemoteSecret '" ++ ns ++ "/" ++ name ++ "'"))

end SecretSync
