import SecretSync.Text.Bytes
import SecretSync.Yaml.Layout

/-!
# `SecretSync.Yaml.Scalar`: reading scalars

A scalar is plain or in single or double quotes. Any of them can go over
several lines: the blanks around a line end are dropped, one line end counts
as a space, and of several the first is dropped. A plain scalar ends before
a colon or a comment, within brackets also before punctuation, and outside of
brackets where the indentation ends.
-/

set_option autoImplicit false

namespace SecretSync

namespace Yaml

/-- What line ends within a scalar stand for. -/
def folded (lineEnds : Nat) : List Char :=
  if lineEnds ≤ 1 then [' '] else List.replicate (lineEnds - 1) '\n'

/-! ### Plain scalars -/

/-- The characters that end a plain scalar within brackets. -/
def brackets : List Char := [',', '[', ']', '{', '}']

/-- The characters that no plain scalar begins with. -/
def indicators : List Char :=
  brackets ++ ['#', '&', '*', '!', '|', '>', '\'', '"', '%', '@', Char.ofNat 0x60]

/-- Whether a plain scalar can begin here. -/
def startsPlain (inBrackets : Bool) : List Cell → Bool
  | [] => false
  | c :: rest =>
    if c.char == '-' then !endsWord rest
    else if c.char == '?' || c.char == ':' then !inBrackets && !endsWord rest
    else !isBlank c.char && c.char != '\n' && !indicators.contains c.char

/-- Whether a plain scalar ends here. -/
def endsPlain (inBrackets : Bool) : List Cell → Bool
  | [] => true
  | c :: rest =>
    c.char == '\n' || (c.char == ':' && endsWord rest) ||
      (inBrackets && brackets.contains c.char)

/-- Reads one line of a plain scalar onto the text so far, which is in reverse, as are the blanks
that count only if more follows. -/
def plainLine (inBrackets : Bool) (acc blanks : List Char) :
    List Cell → Option (List Char × List Cell)
  | [] => some (acc, [])
  | c :: rest =>
    if isBlank c.char then plainLine inBrackets acc (c.char :: blanks) rest
    -- A number sign begins a comment only after a blank.
    else if c.char == '#' && !blanks.isEmpty then some (acc, c :: rest)
    else if endsPlain inBrackets (c :: rest) then some (acc, c :: rest)
    else if inBrackets && c.char == ':' && startsWithAny ('?' :: brackets) rest then none
    else plainLine inBrackets (c.char :: (blanks ++ acc)) [] rest

/-- The number of line ends before the next text, and that text. -/
def nextLine (lineEnds : Nat) : List Cell → Nat × List Cell
  | [] => (lineEnds, [])
  | c :: rest =>
    if c.char == '\n' then nextLine (lineEnds + 1) rest
    else if c.char == ' ' then nextLine lineEnds rest
    else (lineEnds, c :: rest)

/-- Whether a plain scalar goes on here, at the beginning of a line. -/
def continuesPlain (inBrackets : Bool) (indent : Nat) : List Cell → Bool
  | [] => false
  | c :: rest =>
    !isDocumentMark (c :: rest) && c.char != '#' && (inBrackets || indent ≤ c.column) &&
      !endsPlain inBrackets (c :: rest)

/-- Reads the lines of a plain scalar onto the text so far. -/
def plainLines (inBrackets : Bool) (indent : Nat) :
    (fuel : Nat) → (acc : List Char) → List Cell → Option (List Char × List Cell)
  | 0, _, _ => none
  | fuel + 1, acc, cells => do
    let (acc, rest) ← plainLine inBrackets acc [] cells
    if startsWith '\n' rest then
      let (lineEnds, next) := nextLine 0 rest
      if continuesPlain inBrackets indent next then
        plainLines inBrackets indent fuel (folded lineEnds ++ acc) next
      else some (acc, rest)
    else some (acc, rest)

/-! ### Quoted scalars -/

/-- What has been seen since the last text of a quoted scalar. -/
structure Gap where
  /-- The blanks, in reverse. -/
  blanks : List Char := []
  lineEnds : Nat := 0
  /-- Whether the first line end was escaped. -/
  isJoined : Bool := false

namespace Gap

/-- What the gap stands for, in reverse. -/
def text (g : Gap) : List Char :=
  if g.isJoined then List.replicate g.lineEnds '\n'
  else if g.lineEnds = 0 then g.blanks
  else folded g.lineEnds

/-- One more blank; at the end or the beginning of a line it does not count. -/
def addBlank (g : Gap) (c : Char) : Gap :=
  if g.isJoined || 0 < g.lineEnds then g else { g with blanks := c :: g.blanks }

/-- One more line end. -/
def addLineEnd (g : Gap) : Gap := { g with lineEnds := g.lineEnds + 1 }

end Gap

/-- Reads the rest of a scalar in single quotes, in which two quotes stand for one. -/
def singleQuoted (acc : List Char) (gap : Gap) : List Cell → Option (List Char × List Cell)
  | [] => none
  | [c] => if c.char == '\'' then some (gap.text ++ acc, []) else none
  | c :: d :: rest =>
    if isDocumentMark (c :: d :: rest) then none
    else if c.char == '\'' then
      -- A second quote decides whether the first one ends the scalar.
      if d.char == '\'' then singleQuoted ('\'' :: (gap.text ++ acc)) {} rest
      else some (gap.text ++ acc, d :: rest)
    else if c.char == '\n' then singleQuoted acc gap.addLineEnd (d :: rest)
    else if isBlank c.char then singleQuoted acc (gap.addBlank c.char) (d :: rest)
    else singleQuoted (c.char :: (gap.text ++ acc)) {} (d :: rest)

/-- The characters that a letter after a backslash stands for. -/
def escapes : List (Char × Char) := [
  ('0', Char.ofNat 0), ('a', Char.ofNat 7), ('b', Char.ofNat 8), ('t', '\t'), ('\t', '\t'),
  ('n', '\n'), ('v', Char.ofNat 11), ('f', Char.ofNat 12), ('r', '\r'), ('e', Char.ofNat 27),
  (' ', ' '), ('"', '"'), ('/', '/'), ('\\', '\\'), ('N', Char.ofNat 0x85),
  ('_', Char.ofNat 0xA0), ('L', Char.ofNat 0x2028), ('P', Char.ofNat 0x2029)]

/-- The number of hexadecimal digits after a letter that follows a backslash. -/
def codeLengths : List (Char × Nat) := [('x', 2), ('u', 4), ('U', 8)]

/-- The character of a code in hexadecimal digits. -/
def codeChar? (digits : List Cell) : Option Char := do
  let values ← digits.mapM fun c => Text.hexDigit? c.char
  let n := values.foldl (fun n d => 16 * n + d) 0
  if h : n.isValidChar then some (Char.ofNatAux n h) else none

/-- Reads the rest of a scalar in double quotes. -/
def doubleQuoted : (fuel : Nat) → (acc : List Char) → Gap → List Cell →
    Option (List Char × List Cell)
  | 0, _, _, _ => none
  | _, _, _, [] => none
  | fuel + 1, acc, gap, c :: rest =>
    if isDocumentMark (c :: rest) then none
    else if c.char == '"' then some (gap.text ++ acc, rest)
    else if c.char == '\n' then doubleQuoted fuel acc gap.addLineEnd rest
    else if isBlank c.char then doubleQuoted fuel acc (gap.addBlank c.char) rest
    else if c.char == '\\' then
      match rest with
      | [] => none
      | e :: rest =>
        let acc := gap.text ++ acc
        -- A backslash at the end of a line joins the line with the next one.
        if e.char == '\n' then doubleQuoted fuel acc { isJoined := true } rest
        else match escapes.lookup e.char, codeLengths.lookup e.char with
          | some char, _ => doubleQuoted fuel (char :: acc) {} rest
          | none, some length =>
            let digits := rest.take length
            match if digits.length = length then codeChar? digits else none with
            | some char => doubleQuoted fuel (char :: acc) {} (rest.drop length)
            | none => none
          | none, none => none
    else doubleQuoted fuel (c.char :: (gap.text ++ acc)) {} rest

/-- A scalar: its text, whether it is plain, and what follows it. -/
structure ReadScalar where
  text : String
  isPlain : Bool
  rest : List Cell

/-- The scalar of what was read. -/
def ReadScalar.of (isPlain : Bool) (read : List Char × List Cell) : ReadScalar :=
  ⟨String.ofList read.1.reverse, isPlain, read.2⟩

/-- Reads a scalar. Outside of brackets, its further lines must be indented. -/
def readScalar? (inBrackets : Bool) (indent : Nat) : List Cell → Option ReadScalar
  | [] => none
  | c :: rest =>
    if isDocumentMark (c :: rest) then none
    else if c.char == '\'' then (singleQuoted [] {} rest).map (.of false)
    else if c.char == '"' then (doubleQuoted (rest.length + 1) [] {} rest).map (.of false)
    else if startsPlain inBrackets (c :: rest) then
      (plainLines inBrackets indent (rest.length + 2) [] (c :: rest)).map (.of true)
    else none

end Yaml

end SecretSync
