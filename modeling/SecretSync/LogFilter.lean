import SecretSync.Event
import SecretSync.Settings
import SecretSync.Text.Blank
import SecretSync.Text.Segments

/-!
# `SecretSync.LogFilter`: which log records are shown

A filter is a list of directives. A directive names a part of the program and
how much of it is shown; one without a part is about the whole program. Of
the directives that are about the part a record comes from, the one with the
longest name decides, and of two for the same part the later one. Without any
directive, errors are shown.
-/

set_option autoImplicit false

namespace SecretSync

/-- How much is shown of a part of the program. -/
structure LogDirective where
  part : String
  /-- The verbosity up to which records are shown, zero for none. -/
  verbosity : Nat
  deriving DecidableEq, Repr

/-- Directives in the order in which they were given. -/
structure LogFilter where
  directives : List LogDirective := []
  deriving DecidableEq, Repr

namespace LogDirective

/-- The complaint about a text that is no directive. -/
def malformed : String := "invalid filter directive"

/-- The complaint about a text that is no level. -/
def unknownLevel : String :=
  "error parsing level filter: expected one of \"off\", \"error\", \"warn\", \"info\", " ++
    "\"debug\", \"trace\", or a number 0-5"

/-- The words for levels, by verbosity. -/
def levelWords : List String := ["off", "error", "warn", "info", "debug", "trace"]

/-- The verbosity of a level, given by its word in any case or by its number. -/
def level? (text : String) : Option Nat :=
  match levelWords.findIdx? (· == Text.asciiLowercase text) with
  | some n => some n
  | none => (Settings.word? text).filter (· ≤ 5)

/-- The verbosity at which everything is shown. -/
def everything : Nat := 5

/-- Whether the name of a part can begin with this character. -/
def beginsPart (c : Char) : Bool :=
  c == '-' || c == ':' || c == '_' || c.isAlphanum || 0x80 ≤ c.toNat

/-- Reads a directive. -/
def parse (text : String) : Except String LogDirective :=
  let text := Text.trim text
  match text.toList with
  | [] => .ok ⟨"", everything⟩
  | c :: _ =>
    if !beginsPart c then .error malformed
    else match Text.splitOnce '=' text with
      | some (part, "") => .ok ⟨part, everything⟩
      | some (part, level) =>
        match level? level with
        | some n => .ok ⟨part, n⟩
        | none => .error unknownLevel
      | none =>
        match level? text with
        | some n => .ok ⟨"", n⟩
        | none => .ok ⟨text, everything⟩

/-- Whether a directive is about the part of the program that a record comes from. -/
def isAbout (d : LogDirective) (origin : String) : Bool :=
  d.part.toList.isPrefixOf origin.toList

end LogDirective

namespace LogFilter

/-- The texts of directives in a list with commas. -/
def pieces (text : String) : List String := (Text.splitAll ',' text).filter (· != "")

/-- Reads a list of directives; all of them must be right. -/
def parse? (text : String) : Option LogFilter :=
  ((pieces text).mapM fun piece => (LogDirective.parse piece).toOption).map LogFilter.mk

/-- Reads a list of directives. Those that are not right are left out, with a complaint. -/
def parseSome (text : String) : LogFilter × List String :=
  let read := (pieces text).map fun piece => (piece, LogDirective.parse piece)
  (⟨read.filterMap fun r => r.2.toOption⟩,
    read.filterMap fun r => match r.2 with
      | .ok _ => none
      | .error e => some ("ignoring `" ++ r.1 ++ "`: " ++ e))

/-- The name of the whole program. -/
def programPart : String := "remote_secret_controller"

/-- The filter that an environment variable and the settings ask for, with complaints. The
settings count only if the variable is not set or not right. -/
def ofVariable (value : Option String) (settings : Settings) : LogFilter × List String :=
  match value.bind parse? with
  | some filter => (filter, [])
  | none => parseSome (programPart ++ "=" ++ settings.logLevel)

/-- The directive that decides about a part of the program. -/
def deciding? (f : LogFilter) (origin : String) : Option LogDirective :=
  (f.directives.filter (·.isAbout origin)).foldl (fun best d => match best with
    | some b => if b.part.length ≤ d.part.length then some d else some b
    | none => some d) none

/-- Whether a record is shown. -/
def shows (f : LogFilter) (r : LogRecord) : Bool :=
  if f.directives.isEmpty then r.level.verbosity ≤ LogLevel.error.verbosity
  else match f.deciding? r.origin with
    | some d => r.level.verbosity ≤ d.verbosity
    | none => false

end LogFilter

end SecretSync
