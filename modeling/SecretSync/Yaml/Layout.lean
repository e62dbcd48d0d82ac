/-!
# `SecretSync.Yaml.Layout`: characters in their places

In YAML the column of a character decides what it belongs to. `layout` gives
every character of a text its line and column, with all line ends written
alike. The other functions look at what comes next: whether a word ends here,
whether a list item or a document mark begins, and where the next content is
when blanks, comments and line ends are skipped.
-/

set_option autoImplicit false

namespace SecretSync

namespace Yaml

/-- A character with its line and column, both counted from zero. -/
structure Cell where
  char : Char
  line : Nat
  column : Nat
  deriving Repr

/-- Whether a character ends a line. -/
def isLineEnd (c : Char) : Bool :=
  c == '\n' || c == '\r' || c == Char.ofNat 0x85 || c == Char.ofNat 0x2028 ||
    c == Char.ofNat 0x2029

/-- The cells of a text in reverse, continuing those before it. -/
def layoutOnto (acc : List Cell) (line column : Nat) : List Char → List Cell
  | [] => acc
  -- The two characters are one line end.
  | '\r' :: '\n' :: rest => layoutOnto (⟨'\n', line, column⟩ :: acc) (line + 1) 0 rest
  | c :: rest =>
    if isLineEnd c then layoutOnto (⟨'\n', line, column⟩ :: acc) (line + 1) 0 rest
    else layoutOnto (⟨c, line, column⟩ :: acc) line (column + 1) rest

/-- The mark that may stand in front of a text and is not part of it. -/
def byteOrderMark : Char := Char.ofNat 0xFEFF

/-- The cells of a text. -/
def layout (text : String) : List Cell :=
  let cs := match text.toList with
    | c :: rest => if c == byteOrderMark then rest else c :: rest
    | [] => []
  (layoutOnto [] 0 0 cs).reverse

/-- Whether a character may occur in a document. -/
def isAllowed (c : Char) : Bool :=
  let n := c.toNat
  n == 0x9 || n == 0xA || n == 0xD || (0x20 ≤ n && n ≤ 0x7E) || n == 0x85 ||
    (0xA0 ≤ n && n ≤ 0xFFFD && n != 0xFEFF) || 0x10000 ≤ n

/-- Whether a character is a space or a tab. -/
def isBlank (c : Char) : Bool := c == ' ' || c == '\t'

/-- Whether a word that came before ends here. -/
def endsWord : List Cell → Bool
  | [] => true
  | c :: _ => isBlank c.char || c.char == '\n'

/-- Whether the first character is this one. -/
def startsWith (char : Char) : List Cell → Bool
  | [] => false
  | c :: _ => c.char == char

/-- Whether the first character is one of these. -/
def startsWithAny (chars : List Char) : List Cell → Bool
  | [] => false
  | c :: _ => chars.contains c.char

/-- Whether a list item begins. -/
def isEntry : List Cell → Bool
  | c :: rest => c.char == '-' && endsWord rest
  | [] => false

/-- Whether a line begins with three of this character as a word. -/
def isMark (char : Char) : List Cell → Bool
  | a :: b :: c :: rest =>
    a.column == 0 && a.char == char && b.char == char && c.char == char && endsWord rest
  | _ => false

/-- Whether a document begins or ends. -/
def isDocumentMark (cells : List Cell) : Bool := isMark '-' cells || isMark '.' cells

/-- The cells after spaces and tabs. -/
def skipBlanks (cells : List Cell) : List Cell := cells.dropWhile fun c => isBlank c.char

/-- The next content. Tabs are skipped where `tabs` allows it, and after a line end only within
brackets; `inComment` says that a comment runs to the end of the line. -/
def skipOn (inBrackets : Bool) : (tabs inComment : Bool) → List Cell → List Cell
  | _, _, [] => []
  | tabs, inComment, c :: rest =>
    if c.char == '\n' then skipOn inBrackets inBrackets false rest
    else if inComment then skipOn inBrackets tabs true rest
    else if c.char == ' ' || (tabs && c.char == '\t') then skipOn inBrackets tabs false rest
    else if c.char == '#' then skipOn inBrackets tabs true rest
    else c :: rest

/-- The next content within brackets. -/
def skipInBrackets (cells : List Cell) : List Cell := skipOn true true false cells

/-- The next content after a value or a colon. -/
def skipAfterValue (cells : List Cell) : List Cell := skipOn false true false cells

/-- The next content where a node may begin. -/
def skipToNode (cells : List Cell) : List Cell := skipOn false false false cells

/-- Whether the cells begin on this line. -/
def isOnLine (line : Nat) : List Cell → Bool
  | [] => false
  | c :: _ => c.line == line

end Yaml

end SecretSync
