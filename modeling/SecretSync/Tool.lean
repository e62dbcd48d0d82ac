import SecretSync.CommandLine.Invocation
import SecretSync.LogFilter
import SecretSync.Metrics.Exposition

/-!
# `SecretSync.Tool`: a run of the command line tool

A run reads its settings from the environment, then its command line, and
then carries out one command. It shows the lines that the command prints, the
log records that the filter lets through and, if they are asked for, the
metrics in the end, also after a failure. A failure is told on the error
output, and the exit status says how the run went: 0 if well, 1 if the
command failed, and 2 if the command line is not right.
-/

set_option autoImplicit false

namespace SecretSync

namespace LogRecord

/-- The value of a field of a log record. -/
def valueJson : LogValue → Json
  | .text value => .str value
  | .number n => Json.ofNat n

/-- The written form of a log record, apart from the time. -/
def toJson (r : LogRecord) : Json :=
  .obj [("level", .str r.level.name),
    ("fields", .obj (("message", .str r.message) :: r.fields.map fun f => (f.1, valueJson f.2))),
    ("target", .str r.origin)]

/-- The value of a field in a line of text. -/
def valueText : LogValue → String
  | .text value => Text.quoted value
  | .number n => toString n

/-- A log record as a line of text, apart from the time. -/
def toLine (r : LogRecord) : String :=
  " ".intercalate ([r.level.name, r.origin ++ ":", r.message] ++
    r.fields.map fun f => f.1 ++ "=" ++ valueText f.2)

end LogRecord

namespace Tool

/-- The environment variables that a run reads. -/
def variableNames : List String :=
  ["REQUEST_TIMEOUT_SECS", "LOG_LEVEL", "LOG_FORMAT", "ENABLE_METRICS", "RUST_LOG"]

/-- What a run finds around it. -/
structure Surroundings where
  /-- The value of an environment variable, if it is set to a text. -/
  environment : String → Option String
  files : Files
  /-- Whether there is a configuration that leads to a cluster. -/
  hasCluster : Bool

/-- Something that a run shows on its output. -/
inductive Shown where
  | line (text : String)
  | record (r : LogRecord)

/-- The text of something that a run shows. -/
def Shown.text (format : LogFormat) : Shown → String
  | .line text => text
  | .record r =>
    match format with
    | .json => r.toJson.render
    | .text => r.toLine

/-- How a run ended. -/
structure Report (σ : Type) where
  exitStatus : Nat
  shown : List Shown
  complaints : List String
  state : σ

/-- What is shown of the events of a command. -/
def shownOf (filter : LogFilter) : Event → List Shown
  | .print text => (Text.splitAll '\n' text).map .line
  | .log r => if filter.shows r then [.record r] else []
  | .measure _ => []

/-- The failure to reach a cluster without a configuration. -/
def noCluster : Failure :=
  ⟨"Failed to create Kubernetes client. Ensure kubeconfig is configured.", []⟩

/-- The metrics after some events. -/
def metricsAfter (events : List Event) : Metrics :=
  let m := Metrics.empty.countAll events
  { m with registered := true }

/-- Carries out a command whose requests are answered by a server. -/
def execute {σ : Type} (server : Program.Server httpInterface σ) (state : σ)
    (around : Surroundings) (settings : Settings) (filter : LogFilter) (i : Invocation) :
    Report σ :=
  if i.action.needsCluster && !around.hasCluster then ⟨1, [], noCluster.report, state⟩
  else
    let program := onApi settings.requestTimeout (i.action.program around.files i.ns)
    let outcome := program.run server state
    let metricLines :=
      if i.showMetrics && settings.metricsEnabled then
        (metricsAfter outcome.events).exposition.map Shown.line
      else []
    let shown := outcome.events.flatMap (shownOf filter) ++ metricLines
    match outcome.result with
    | .ok () => ⟨0, shown, [], outcome.state⟩
    | .error e => ⟨1, shown, e.report, outcome.state⟩

/-- A run with the words of a command line. -/
def run {σ : Type} (server : Program.Server httpInterface σ) (state : σ)
    (around : Surroundings) (words : List String) : Report σ :=
  let settings := Settings.ofVariables around.environment
  let (filter, complaints) := LogFilter.ofVariable (around.environment "RUST_LOG") settings
  match CommandLine.read words with
  | .refused => ⟨2, [], complaints, state⟩
  | .help lines => ⟨0, lines.map .line, complaints, state⟩
  | .invocation i =>
    let report := execute server state around settings filter i
    { report with complaints := complaints ++ report.complaints }

/-- The reply to every request where there is no network. -/
def unreachable : HttpReply :=
  .broken "client error (Connect)" ["tcp connect error", "Network is unreachable (os error 101)"]

/-- The server where there is no network. -/
def noNetwork {σ : Type} : Program.Server httpInterface σ := fun _ s => (unreachable, s)

end Tool

end SecretSync
