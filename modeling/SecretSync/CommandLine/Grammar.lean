import SecretSync.Text.Segments

/-!
# `SecretSync.CommandLine.Grammar`: words of a command line

A command takes options and at most one operand. An option is a flag or takes
a value, which is the next word or is attached to the name by an equals sign;
after a short name it may also follow directly. A word that begins with a
hyphen is never taken for the value of an option. After two hyphens all words
are operands.

Words are read from left to right, and the first one that does not fit or
asks for help decides what happens.
-/

set_option autoImplicit false

namespace SecretSync

namespace CommandLine

/-- An option of a command. -/
structure OptionRule where
  long : String
  short : Option Char := none
  /-- The name of the value for the help text; a flag has none. -/
  valueName : Option String := none
  help : String := ""
  isRepeatable : Bool := false
  /-- Whether a text is a possible value. -/
  accepts : String → Bool := fun _ => true

/-- Why words are not read to the end. -/
inductive Stop where
  /-- A word does not fit. -/
  | refused
  /-- A word asks for help. -/
  | helpAsked
  deriving DecidableEq, Repr

/-- What the words of a command have given: options with their values, in order, and the operand. -/
structure Given where
  options : List (String × String) := []
  operand : Option String := none
  deriving DecidableEq, Repr

namespace Given

/-- The values given for an option, in order. -/
def values (g : Given) (long : String) : List String :=
  (g.options.filter fun o => o.1 == long).map Prod.snd

/-- The value given for an option. -/
def value? (g : Given) (long : String) : Option String := (g.values long).head?

/-- Whether an option was given. -/
def has (g : Given) (long : String) : Bool := (g.value? long).isSome

/-- Takes up an option; one that is not repeatable is refused the second time. -/
def addOption (g : Given) (rule : OptionRule) (value : String) : Except Stop Given :=
  if !rule.accepts value || (g.has rule.long && !rule.isRepeatable) then .error .refused
  else .ok { g with options := g.options ++ [(rule.long, value)] }

/-- Takes up the operand; a second one is refused. -/
def addOperand (g : Given) (word : String) : Except Stop Given :=
  match g.operand with
  | none => .ok { g with operand := some word }
  | some _ => .error .refused

/-- Takes up operands. -/
def addOperands (g : Given) (words : List String) : Except Stop Given := words.foldlM addOperand g

end Given

/-- What is known after a word: what was given, and the option whose value the next word is. -/
abbrev Progress := Except Stop (Given × Option OptionRule)

/-- Takes up an option with or without an attached value. -/
def withValue (g : Given) (rule : OptionRule) (attached : Option String) : Progress :=
  match rule.valueName, attached with
  | none, none => do pure (← g.addOption rule "", none)
  | none, some _ => .error .refused
  | some _, some value => do pure (← g.addOption rule value, none)
  | some _, none => .ok (g, some rule)

/-- Reads a long option, without the hyphens. -/
def longOption (rules : List OptionRule) (g : Given) (body : String) : Progress :=
  let (name, attached) := match Text.splitOnce '=' body with
    | some (name, value) => (name, some value)
    | none => (body, none)
  if name = "help" then .error (if attached.isNone then .helpAsked else .refused)
  else match rules.find? fun rule => rule.long == name with
    | some rule => withValue g rule attached
    | none => .error .refused

/-- Reads short options that were written together, without the hyphen. -/
def shortOptions (rules : List OptionRule) (g : Given) : List Char → Progress
  | [] => .ok (g, none)
  | c :: rest =>
    if c = 'h' then .error .helpAsked
    else match rules.find? fun rule => rule.short == some c with
      | none => .error .refused
      | some rule =>
        match rule.valueName, rest with
        | none, _ => do
          let g ← g.addOption rule ""
          shortOptions rules g rest
        | some _, [] => .ok (g, some rule)
        | some _, '=' :: value => withValue g rule (some (String.ofList value))
        | some _, value => withValue g rule (some (String.ofList value))

/-- Whether a word can be the value of an option or an operand. -/
def isValueWord (word : String) : Bool :=
  match word.toList with
  | '-' :: _ :: _ => false
  | _ => true

/-- Reads a word that is not the value of an option. -/
def readWord (rules : List OptionRule) (g : Given) (word : String) : Progress :=
  match word.toList with
  | '-' :: '-' :: body => longOption rules g (String.ofList body)
  | '-' :: c :: rest => shortOptions rules g (c :: rest)
  | _ => do pure (← g.addOperand word, none)

/-- Reads the words of a command. -/
def readWords (rules : List OptionRule) (g : Given) (pending : Option OptionRule) :
    List String → Except Stop Given
  | [] =>
    match pending with
    | none => .ok g
    | some _ => .error .refused
  | word :: rest =>
    match pending with
    | some rule =>
      if isValueWord word then do
        let g ← g.addOption rule word
        readWords rules g none rest
      else .error .refused
    | none =>
      if word = "--" then g.addOperands rest
      else do
        let (g, pending) ← readWord rules g word
        readWords rules g pending rest

/-- Reads the options in front of the first operand. That operand and the words after it are
left. -/
def readOptions (rules : List OptionRule) (g : Given) (pending : Option OptionRule) :
    List String → Except Stop (Given × String × List String)
  | [] => .error .refused
  | word :: rest =>
    match pending with
    | some rule =>
      if isValueWord word then do
        let g ← g.addOption rule word
        readOptions rules g none rest
      else .error .refused
    | none =>
      if word = "--" then .error .refused
      else if isValueWord word then .ok (g, word, rest)
      else do
        let (g, pending) ← readWord rules g word
        readOptions rules g pending rest

end CommandLine

end SecretSync
