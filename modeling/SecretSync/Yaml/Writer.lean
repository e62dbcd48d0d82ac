import SecretSync.Json.Writer
import SecretSync.Text.Segments

/-!
# `SecretSync.Yaml.Writer`: writing documents as YAML

A JSON value is written by indentation. Objects have a line for every field
that fits on one; the items of a list begin in the column of the field that
they belong to. A text of several lines is written as a block, and one that
could be taken for something else in single quotes.
-/

set_option autoImplicit false

namespace SecretSync

namespace Yaml

/-- Plain words that are not texts. -/
def reservedWords : List String :=
  ["null", "Null", "NULL", "true", "True", "TRUE", "false", "False", "FALSE", "y", "Y", "n", "N",
    "yes", "Yes", "YES", "no", "No", "NO", "on", "On", "ON", "off", "Off", "OFF"]

/-- Whether a text begins like a word or a path, and not like a number or a sign. -/
def startsLikeText : List Char → Bool
  | [] => false
  | '.' :: c :: _ => c.isAlpha
  | c :: _ => c.isAlpha

/-- Whether a colon or a number sign stands where it would end a plain scalar. -/
def hasSeparator : List Char → Bool
  | [] => false
  | [c] => c == ':' || c == ' '
  | ':' :: ' ' :: _ => true
  | ' ' :: '#' :: _ => true
  | _ :: rest => hasSeparator rest

/-- Whether a text of one line can be written plainly. -/
def isPlainText (text : String) : Bool :=
  startsLikeText text.toList && !hasSeparator text.toList && !reservedWords.contains text

/-- A character in single quotes. -/
def singleQuotedChar (c : Char) : List Char := if c = '\'' then ['\'', '\''] else [c]

/-- A text of one line. -/
def lineText (text : String) : String :=
  if isPlainText text then text
  else "'" ++ String.ofList (text.toList.flatMap singleQuotedChar) ++ "'"

/-- Whether a text has several lines. -/
def isBlockText (text : String) : Bool := text.toList.contains '\n'

/-- A line with blanks in front, unless it is empty. -/
def indentedLine (line : String) : String := if line.isEmpty then line else "  " ++ line

/-- How a value is written as the field of an object. -/
inductive Written where
  /-- Behind the name. -/
  | inline (text : String)
  /-- Behind the name and on the following lines, which are indented. -/
  | block (head : String) (lines : List String)
  /-- On the following lines, in the column of the name. -/
  | below (lines : List String)

/-- The lines of a field. -/
def Written.fieldLines (name : String) : Written → List String
  | .inline text => [lineText name ++ ": " ++ text]
  | .block head lines => (lineText name ++ ":" ++ head) :: lines.map indentedLine
  | .below lines => (lineText name ++ ":") :: lines

/-- The lines of the item of a list. -/
def Written.itemLines : Written → List String
  | .inline text => ["- " ++ text]
  | .block head lines =>
    if head.isEmpty then
      match lines with
      | [] => ["-"]
      | first :: rest => ("- " ++ first) :: rest.map indentedLine
    else ("-" ++ head) :: lines.map indentedLine
  | .below lines =>
    match lines with
    | [] => ["-"]
    | first :: rest => ("- " ++ first) :: rest.map indentedLine

mutual

/-- How a value is written. -/
def written : Json → Written
  | .str text =>
    if isBlockText text then .block " |-" (Text.splitAll '\n' text) else .inline (lineText text)
  | .arr [] => .inline "[]"
  | .arr (item :: rest) => .below (itemsLines (item :: rest))
  | .obj [] => .inline "\x7b\x7d"
  | .obj (field :: rest) => .block "" (fieldsLines (field :: rest))
  | value => .inline value.render

/-- The lines of the items of a list. -/
def itemsLines : List Json → List String
  | [] => []
  | item :: rest => (written item).itemLines ++ itemsLines rest

/-- The lines of the fields of an object. -/
def fieldsLines : List (String × Json) → List String
  | [] => []
  | (name, value) :: rest => (written value).fieldLines name ++ fieldsLines rest

end

/-- The lines of a document. -/
def lines (document : Json) : List String :=
  match written document with
  | .inline text => [text]
  | .block head lines => if head.isEmpty then lines else head :: lines
  | .below lines => lines

end Yaml

end SecretSync
