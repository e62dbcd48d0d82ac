import SecretSync.Ownership.Marker

/-!
# `SecretSync.Event`: what a program reports while it runs

A program reports three kinds of things: log records, measurements, and lines
for the person who started it. They are values; what becomes of them is
decided by whoever runs the program.
-/

set_option autoImplicit false

namespace SecretSync

/-- How important a log record is. -/
inductive LogLevel where
  | error | warn | info | debug | trace
  deriving DecidableEq, Repr

namespace LogLevel

/-- The name of a level in a log record. -/
def name : LogLevel → String
  | .error => "ERROR"
  | .warn => "WARN"
  | .info => "INFO"
  | .debug => "DEBUG"
  | .trace => "TRACE"

/-- Levels by verbosity, from 1 for errors to 5 for everything. -/
def verbosity : LogLevel → Nat
  | .error => 1
  | .warn => 2
  | .info => 3
  | .debug => 4
  | .trace => 5

end LogLevel

/-- The value of a field of a log record. -/
inductive LogValue where
  | text (value : String)
  | number (value : Nat)
  deriving DecidableEq, Repr

/-- A log record: the part of the program that wrote it, a message and named values. -/
structure LogRecord where
  level : LogLevel
  origin : String
  message : String
  fields : List (String × LogValue)
  deriving DecidableEq, Repr

/-- The two ways to write a secret. -/
inductive WriteKind where
  | create | update
  deriving DecidableEq, Repr

/-- The word for a way to write. -/
def WriteKind.label : WriteKind → String
  | .create => "create"
  | .update => "update"

/-- A measurement. -/
inductive Measurement where
  /-- A secret was written. -/
  | written (kind : WriteKind)
  /-- A sync failed for this reason. -/
  | syncFailed (reason : String)
  /-- A sync ended. -/
  | syncTimed
  /-- A write lost a race and the other way to write was taken. -/
  | fellBack (lost : WriteKind)
  /-- A stale secret was found. -/
  | staleFound
  /-- The secrets of an owner were listed. -/
  | listed
  deriving DecidableEq, Repr

/-- What a program reports. -/
inductive Event where
  | log (record : LogRecord)
  | measure (m : Measurement)
  | print (line : String)
  deriving DecidableEq, Repr

namespace Ownership

/-- The part of the program that reads ownership tags, as log records name it. -/
def logOrigin : String := "remote_secret_controller::namespacetarget::marker"

/-- The warnings about entries that are no owner keys. -/
def malformedWarnings (m : ObjectMeta) : List Event :=
  (malformedEntries m).map fun entry => .log {
    level := .warn
    origin := logOrigin
    message := "skipping malformed owner key in " ++ referencesAnnotation
    fields := [("object", .text m.nameText), ("namespace", .text m.nsText),
      ("entry", .text entry)]
  }

end Ownership

end SecretSync
