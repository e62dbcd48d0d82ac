import SecretSync.Text.Duration
import SecretSync.Text.Lowercase

/-!
# `SecretSync.Settings`: settings from environment variables

There are four settings, each with a default. A variable that is not set, or
whose value makes no sense, leaves the default in place. The timeout is a
positive number of seconds in 64 bits.
-/

set_option autoImplicit false

namespace SecretSync

/-- How log records are written. -/
inductive LogFormat where
  | text | json
  deriving DecidableEq, Repr

/-- The format of a name: JSON for `json` in any case, text for all others. -/
def LogFormat.ofName (name : String) : LogFormat :=
  if Text.asciiLowercase name = "json" then .json else .text

/-- The settings of a run. -/
structure Settings where
  /-- How long a request to the store may take, in seconds. -/
  requestTimeoutSecs : Nat := 30
  logLevel : String := "info"
  logFormat : LogFormat := .text
  metricsEnabled : Bool := true
  deriving DecidableEq, Repr

namespace Settings

/-- The largest number of 64 bits. -/
def maxWord : Nat := 0xFFFFFFFFFFFFFFFF

/-- The value of decimal digits. -/
def digitsValue (digits : List Char) : Nat :=
  digits.foldl (fun n d => n * 10 + (d.toNat - '0'.toNat)) 0

/-- The number of a text of decimal digits, which a plus sign may precede, if it has 64 bits. -/
def word? (text : String) : Option Nat :=
  let digits := match text.toList with
    | '+' :: rest => rest
    | cs => cs
  if digits.all Char.isDigit && !digits.isEmpty then
    let n := digitsValue digits
    if n ≤ maxWord then some n else none
  else none

/-- Whether a text says yes. -/
def isAffirmative (text : String) : Bool :=
  ["true", "1", "yes", "on"].contains (Text.lowercase text)

/-- The settings that environment variables ask for. -/
def ofVariables (lookup : String → Option String) : Settings :=
  let default : Settings := {}
  {
    requestTimeoutSecs :=
      (((lookup "REQUEST_TIMEOUT_SECS").bind word?).filter (0 < ·)).getD
        default.requestTimeoutSecs
    logLevel := ((lookup "LOG_LEVEL").map Text.lowercase).getD default.logLevel
    logFormat := ((lookup "LOG_FORMAT").map LogFormat.ofName).getD default.logFormat
    metricsEnabled := ((lookup "ENABLE_METRICS").map isAffirmative).getD default.metricsEnabled
  }

/-- How long a request to the store may take. -/
def requestTimeout (s : Settings) : Duration := .ofSecs s.requestTimeoutSecs

end Settings

end SecretSync
