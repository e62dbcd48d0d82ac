import SecretSync.Metrics.Basic

/-!
# `SecretSync.Metrics.Exposition`: the text of metrics

The text lists the families in the order of their names. Each has a line of
help, a line with its type, and one line for every sample; a family by label
that has no sample is left out. A histogram has a line for every bound, one
for all observations, one for their sum and one for their number.
-/

set_option autoImplicit false

namespace SecretSync

/-- The samples of a family of metrics. -/
inductive Samples where
  /-- One number. -/
  | counter (value : Nat)
  /-- A number for every value of a label. -/
  | byLabel (label : String) (values : SortedMap Nat)
  /-- Observations. -/
  | histogram (h : Histogram)

/-- A family of metrics. -/
structure MetricFamily where
  name : String
  help : String
  samples : Samples

namespace MetricFamily

/-- A character of a label value. -/
def labelChar (c : Char) : List Char :=
  if c = '\\' then ['\\', '\\']
  else if c = '\n' then ['\\', 'n']
  else if c = '"' then ['\\', '"']
  else [c]

/-- A series: a name with the value of a label. -/
def series (name label value : String) : String :=
  name ++ "\x7b" ++ label ++ "=\"" ++ String.ofList (value.toList.flatMap labelChar) ++ "\"\x7d"

/-- The word for the type of a family. -/
def typeName (f : MetricFamily) : String :=
  match f.samples with
  | .histogram _ => "histogram"
  | _ => "counter"

/-- The lines of the samples. -/
def sampleLines (f : MetricFamily) : List String :=
  match f.samples with
  | .counter value => [f.name ++ " " ++ toString value]
  | .byLabel label values =>
    values.entries.map fun e => series f.name label e.1 ++ " " ++ toString e.2
  | .histogram h =>
    let bucket (bound : String) (n : Nat) :=
      series (f.name ++ "_bucket") "le" bound ++ " " ++ toString n
    h.atMost.map (fun b => bucket (Text.Decimal.shortest b.1) b.2) ++
      [bucket "+Inf" h.total,
        f.name ++ "_sum " ++ Text.Decimal.shortest h.sum,
        f.name ++ "_count " ++ toString h.total]

/-- The lines of a family; none if it has no samples. -/
def lines (f : MetricFamily) : List String :=
  match f.sampleLines with
  | [] => []
  | samples =>
    ["# HELP " ++ f.name ++ " " ++ f.help, "# TYPE " ++ f.name ++ " " ++ f.typeName] ++ samples

end MetricFamily

namespace Metrics

/-- The name of the counter of written secrets. -/
def writtenName : String := "remote_secret_sync_operations_total"

/-- The name of the counter of failed syncs. -/
def failedName : String := "remote_secret_sync_errors_total"

/-- The name of the counter of lost races. -/
def fellBackName : String := "remote_secret_sync_fallbacks_total"

/-- The name of the counter of stale secrets. -/
def staleName : String := "remote_secret_stale_secrets_total"

/-- The name of the counter of listings. -/
def listingsName : String := "remote_secret_list_total"

/-- The name of the histogram of sync times. -/
def timesName : String := "remote_secret_sync_duration_seconds"

/-- All families in the order of their names. -/
def families (m : Metrics) : List MetricFamily := [
  ⟨listingsName, "Total number of listings of managed target secrets", .counter m.listings⟩,
  ⟨staleName, "Total number of stale target secrets detected", .counter m.stale⟩,
  ⟨timesName, "Duration of secret sync operations in seconds", .histogram m.times⟩,
  ⟨failedName, "Total number of failed secret syncs, by reason", .byLabel "reason" m.failed⟩,
  ⟨fellBackName, "Total number of create/update fallbacks taken after losing a race",
    .byLabel "from" m.fellBack⟩,
  ⟨writtenName, "Total number of target secrets written, by operation",
    .byLabel "operation" m.written⟩]

/-- The text of all families in lines; nothing before they are registered. -/
def exposition (m : Metrics) : List String :=
  if m.registered then m.families.flatMap MetricFamily.lines else []

/-- The series that a measurement raises by one. -/
def seriesOf : Measurement → String
  | .written kind => MetricFamily.series writtenName "operation" kind.label
  | .syncFailed reason => MetricFamily.series failedName "reason" reason
  | .syncTimed => timesName ++ "_count"
  | .fellBack lost => MetricFamily.series fellBackName "from" lost.label
  | .staleFound => staleName
  | .listed => listingsName

/-- What the measurements among events raise: series with their increases. -/
def increases (events : List Event) : SortedMap Nat :=
  events.foldl (fun m e => match e with
    | .measure x => increment m (seriesOf x)
    | _ => m) .empty

end Metrics

end SecretSync
