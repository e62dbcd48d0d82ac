import SecretSync.Resource.Schema
import SecretSync.Yaml.Writer

/-!
# `SecretSync.Resource.Definition`: the definition of the `RemoteSecret` resource

Before a cluster can store the resource it has to be told about it, by a
definition that gives its names and the schema of its specification and its
status. `definitionLines` is the manifest of that definition.
-/

set_option autoImplicit false

namespace SecretSync

namespace ResourceDefinition

/-- A text with a description. -/
def text (description : String) : Schema := .text { description := some description }

/-- A text with a description that may be left out. -/
def optionalText (description : String) : Schema :=
  .text { description := some description, nullable := true }

/-- A text with a description that is empty if it is left out. -/
def emptyText (description : String) : Schema :=
  .text { description := some description, fallback := some (.str "") }

/-- Texts by name with a description. -/
def texts (description : String) : Schema := .textMap { description := some description }

/-- A list with a description that is empty if it is left out. -/
def items (description : String) (item : Schema) : Schema :=
  .list { description := some description, fallback := some (.arr []) } item

/-- Lines as one text. -/
def paragraph (lines : List String) : String := "\n".intercalate lines

/-- The schema of the shape of a secret. -/
def secretShape : Schema :=
  .object { description := some "Desired shape of the secret created in every target",
            fallback := some (.obj []) }
    [("annotations", texts "Annotations merged into the secret"),
      ("generateName",
        text "Prefix of the server-generated name, used when `name` is empty"),
      ("labels", texts "Labels merged into the secret"),
      ("name", text "Fixed name of the secret"),
      ("type", optionalText "Secret type (e.g. `Opaque`, `kubernetes.io/dockerconfigjson`)")]
    []

/-- The schema of a target. -/
def target : Schema :=
  .object { description := some "A single deployment target" }
    [("apiUrl",
        optionalText "API server URL of a remote cluster. Empty means the local cluster."),
      ("clusterCredentialsSecret",
        optionalText
          "Secret in the RemoteSecret namespace holding the kubeconfig of the remote cluster"),
      ("namespace", text "Namespace the secret is created in")]
    ["namespace"]

/-- The schema of a reference to another resource. -/
def dataFrom : Schema :=
  .object { description := some (paragraph [
              "Copy the data from another RemoteSecret instead of uploading it.",
              "Mutually exclusive with `uploadData`."]),
            nullable := true }
    [("name", emptyText "Name of the source RemoteSecret"),
      ("namespace", optionalText
        "Namespace of the source RemoteSecret (defaults to the namespace of this one)")]
    []

/-- The schema of the data in the resource itself. -/
def uploadData : Schema :=
  .textMap { description := some (paragraph [
               "Secret data supplied inline at creation time.",
               "Mutually exclusive with a non-empty `dataFrom`."]),
             nullable := true }

/-- The description of the specification. -/
def specDescription : String := paragraph [
  "RemoteSecret Custom Resource Definition",
  "",
  "A RemoteSecret holds secret data outside of the target namespaces and",
  "materializes it as a Kubernetes `Secret` in each of its targets.",
  "",
  "# Example",
  "",
  "```yaml",
  "apiVersion: remotesecret.dev/v1beta1",
  "kind: RemoteSecret",
  "metadata:",
  "  name: db-credentials",
  "  namespace: team-a",
  "spec:",
  "  secret:",
  "    generateName: db-credentials-",
  "    type: Opaque",
  "    labels:",
  "      app: backend",
  "  targets:",
  "    - namespace: team-a-dev",
  "    - namespace: team-a-stage",
  "```"]

/-- The schema of the specification. -/
def spec : Schema :=
  .object { description := some specDescription }
    [("dataFrom", dataFrom),
      ("secret", secretShape),
      ("targets",
        items "Namespaces (optionally in remote clusters) the secret is deployed to" target),
      ("uploadData", uploadData)]
    []

/-- The schema of a condition. -/
def condition : Schema :=
  .object {}
    [("lastTransitionTime", .text { nullable := true }),
      ("message", .text { nullable := true }),
      ("reason", .text { nullable := true }),
      ("status", .text {}),
      ("type", .text {})]
    ["status", "type"]

/-- The schema of the state of a target. -/
def targetStatus : Schema :=
  .object { description := some "Deployment state of a single target" }
    [("apiUrl", optionalText
        "API server URL of the target cluster (empty for the local cluster)"),
      ("error", optionalText "Last error encountered while deploying to this target"),
      ("namespace", text "Namespace of the target"),
      ("secretName", emptyText "Actual name of the secret materialized in the target")]
    ["namespace"]

/-- The schema of the status. -/
def status : Schema :=
  .object { description := some "Status of the RemoteSecret resource", nullable := true }
    [("conditions",
        items "Conditions represent the latest available observations" condition),
      ("targets", items "Deployment state of every target" targetStatus)]
    []

/-- The schema of the resource. -/
def resource : Schema :=
  .object { title := some "RemoteSecret",
            description := some
              "Auto-generated derived type for RemoteSecretSpec via `CustomResource`" }
    [("spec", spec), ("status", status)]
    ["spec"]

/-- The names of the resource. -/
def names : Json := .obj [
  ("categories", .arr []),
  ("kind", .str "RemoteSecret"),
  ("plural", .str "remotesecrets"),
  ("shortNames", .arr [.str "rs"]),
  ("singular", .str "remotesecret")]

/-- The column that lists of resources show. -/
def obtainedColumn : Json := .obj [
  ("jsonPath", .str ".status.conditions[?(@.type==\"DataObtained\")].status"),
  ("name", .str "DataObtained"),
  ("type", .str "string")]

/-- The version of the resource. -/
def version : Json := .obj [
  ("additionalPrinterColumns", .arr [obtainedColumn]),
  ("name", .str "v1beta1"),
  ("schema", .obj [("openAPIV3Schema", resource.toJson)]),
  ("served", .bool true),
  ("storage", .bool true),
  ("subresources", .obj [("status", .obj [])])]

/-- The definition. -/
def definition : Json := .obj [
  ("apiVersion", .str "apiextensions.k8s.io/v1"),
  ("kind", .str "CustomResourceDefinition"),
  ("metadata", .obj [("name", .str "remotesecrets.remotesecret.dev")]),
  ("spec", .obj [
    ("group", .str "remotesecret.dev"),
    ("names", names),
    ("scope", .str "Namespaced"),
    ("versions", .arr [version])])]

/-- The manifest of the definition. -/
def lines : List String := Yaml.lines definition

end ResourceDefinition

end SecretSync
