import SecretSync.Yaml.Node
import SecretSync.Yaml.Scalar

/-!
# `SecretSync.Yaml.Reader`: reading YAML documents

The part of YAML that manifests are written in: maps and lists by indentation
or in brackets, and plain and quoted scalars. Anything else, such as anchors,
tags or more than one document, makes the text unreadable.

A node by indentation belongs to a column. The entries of a map all begin in
its column, and the items of a list in that of their dashes. What belongs to
an entry is to the right of it, except that a list may begin in the column of
the entry it belongs to.
-/

set_option autoImplicit false

namespace SecretSync

namespace Yaml

/-- A node and what follows it. -/
abbrev ReadNode := Option (Node × List Cell)

/-! ### In brackets -/

mutual

/-- Reads a node within brackets. -/
def bracketNode : (fuel : Nat) → List Cell → ReadNode
  | 0, _ => none
  | fuel + 1, cells =>
    match cells with
    | [] => none
    | c :: rest =>
      if c.char == '[' then bracketItems fuel [] (skipInBrackets rest)
      else if c.char == '{' then bracketEntries fuel [] (skipInBrackets rest)
      else (readScalar? true 0 cells).map fun s => (.scalar s.text s.isPlain, s.rest)

/-- Reads the value after a colon within brackets, which may be left out. -/
def bracketValue : (fuel : Nat) → List Cell → ReadNode
  | 0, _ => none
  | fuel + 1, cells =>
    if startsWithAny [',', ']', '}'] cells then some (.absent, cells) else bracketNode fuel cells

/-- Reads a node within brackets and, if a colon follows on the line on which it began, the value
that it is the key of. -/
def bracketPair : (fuel : Nat) → List Cell → Option (Node × Option Node × List Cell)
  | 0, _ => none
  | _, [] => none
  | fuel + 1, c :: rest => do
    let (node, after) ← bracketNode fuel (c :: rest)
    match skipBlanks after with
    | d :: rest =>
      if d.char == ':' && d.line == c.line then
        let (value, after) ← bracketValue fuel (skipInBrackets rest)
        some (node, some value, skipInBrackets after)
      else some (node, none, skipInBrackets after)
    | [] => some (node, none, [])

/-- Reads the rest of a list in brackets. -/
def bracketItems : (fuel : Nat) → List Node → List Cell → ReadNode
  | 0, _, _ => none
  | _, _, [] => none
  | fuel + 1, items, c :: rest =>
    if c.char == ']' then some (.list items.reverse, rest)
    else do
      let (node, value?, after) ← bracketPair fuel (c :: rest)
      -- A pair within a list is a map with one entry.
      let item := match value? with
        | some value => Node.map [(node, value)]
        | none => node
      match after with
      | d :: rest =>
        if d.char == ',' then bracketItems fuel (item :: items) (skipInBrackets rest)
        else if d.char == ']' then some (.list (item :: items).reverse, rest)
        else none
      | [] => none

/-- Reads the rest of a map in brackets. -/
def bracketEntries : (fuel : Nat) → List (Node × Node) → List Cell → ReadNode
  | 0, _, _ => none
  | _, _, [] => none
  | fuel + 1, entries, c :: rest =>
    if c.char == '}' then some (.map entries.reverse, rest)
    else do
      let (key, value?, after) ← bracketPair fuel (c :: rest)
      let entry := (key, value?.getD .absent)
      match after with
      | d :: rest =>
        if d.char == ',' then bracketEntries fuel (entry :: entries) (skipInBrackets rest)
        else if d.char == '}' then some (.map (entry :: entries).reverse, rest)
        else none
      | [] => none

end

/-! ### By indentation -/

/-- The next content, provided that nothing else is on the line on which the cells begin. -/
def endOfLine? (cells : List Cell) : Option (List Cell) :=
  match cells with
  | [] => some []
  | c :: _ =>
    let next := skipAfterValue cells
    if isOnLine c.line next then none else some next

/-- Reads a node that begins neither a map nor a list by indentation, and goes to the next
content. -/
def inlineNode (fuel indent : Nat) (cells : List Cell) : ReadNode := do
  let (node, rest) ←
    if startsWithAny ['[', '{'] cells then bracketNode fuel cells
    else (readScalar? false indent cells).map fun s => (.scalar s.text s.isPlain, s.rest)
  let next ← endOfLine? rest
  pure (node, next)

/-- Reads the key of a map entry with its colon: one line, followed by a blank. -/
def entryKey? (fuel : Nat) : List Cell → ReadNode
  | [] => none
  | c :: rest => do
    let (node, after) ←
      if c.char == '[' || c.char == '{' then bracketNode fuel (c :: rest)
      else if startsPlain false (c :: rest) then
        (plainLine false [] [] (c :: rest)).map fun read =>
          (.scalar (String.ofList read.1.reverse) true, read.2)
      else (readScalar? false 0 (c :: rest)).map fun s => (.scalar s.text s.isPlain, s.rest)
    match skipBlanks after with
    | d :: rest => if d.char == ':' && d.line == c.line && endsWord rest then
        some (node, rest) else none
    | [] => none

mutual

/-- Reads a node whose first character is given and whose lines are indented at least so far; it
ends at the next content. -/
def blockNode : (fuel indent : Nat) → List Cell → ReadNode
  | 0, _, _ => none
  | _, _, [] => none
  | fuel + 1, indent, c :: rest =>
    if isDocumentMark (c :: rest) then none
    else if isEntry (c :: rest) then blockItems fuel c.column false [] (c :: rest)
    else if (entryKey? fuel (c :: rest)).isSome then blockEntries fuel c.column [] (c :: rest)
    else inlineNode fuel indent (c :: rest)

/-- Reads the value that belongs to an entry in some column, on the line of the entry or below.
A list below may begin in that column. -/
def entryValue : (fuel column line : Nat) → List Cell → ReadNode
  | 0, _, _, _ => none
  | fuel + 1, column, line, cells =>
    match skipAfterValue cells with
    | [] => some (.absent, [])
    | c :: rest =>
      if c.line == line then inlineNode fuel (column + 1) (c :: rest)
      else if isDocumentMark (c :: rest) then some (.absent, c :: rest)
      -- Below the entry, the column decides whether the content belongs to it.
      else if column < c.column then blockNode fuel (column + 1) (c :: rest)
      else if c.column == column && isEntry (c :: rest) then
        blockItems fuel column true [] (c :: rest)
      else some (.absent, c :: rest)

/-- Reads the entries of a map in some column. -/
def blockEntries : (fuel column : Nat) → List (Node × Node) → List Cell → ReadNode
  | 0, _, _, _ => none
  | _, _, _, [] => none
  | fuel + 1, column, entries, c :: rest => do
    let (key, after) ← entryKey? fuel (c :: rest)
    let (value, next) ← entryValue fuel column c.line after
    let entries := (key, value) :: entries
    match next with
    | [] => some (.map entries.reverse, [])
    | d :: rest =>
      if isDocumentMark (d :: rest) || d.column < column then
        some (.map entries.reverse, d :: rest)
      else if d.column == column && !isEntry (d :: rest) then
        blockEntries fuel column entries (d :: rest)
      else none

/-- Reads the value that belongs to a dash in some column. -/
def itemValue : (fuel column line : Nat) → List Cell → ReadNode
  | 0, _, _, _ => none
  | fuel + 1, column, line, cells =>
    match skipToNode cells with
    | [] => some (.absent, [])
    | c :: rest =>
      if c.line != line && (isDocumentMark (c :: rest) || c.column ≤ column) then
        some (.absent, c :: rest)
      else blockNode fuel (column + 1) (c :: rest)

/-- Reads the items of a list whose dashes are in some column. A list that belongs to a map entry
in the same column ends at the next entry. -/
def blockItems : (fuel column : Nat) → (inEntry : Bool) → List Node → List Cell → ReadNode
  | 0, _, _, _, _ => none
  | _, _, _, _, [] => none
  | fuel + 1, column, inEntry, items, c :: rest => do
    let (item, next) ← itemValue fuel column c.line rest
    let items := item :: items
    match next with
    | [] => some (.list items.reverse, [])
    | d :: rest =>
      if isDocumentMark (d :: rest) || d.column < column then
        some (.list items.reverse, d :: rest)
      else if d.column == column then
        if isEntry (d :: rest) then blockItems fuel column inEntry items (d :: rest)
        -- Something else in the column of the dashes can only be the next entry of the map.
        else if inEntry then some (.list items.reverse, d :: rest)
        else none
      else none

end

/-! ### Documents -/

/-- Whether nothing but the end of the document follows. -/
def endsDocument (cells : List Cell) : Bool :=
  match cells with
  | [] => true
  | _ => isMark '.' cells && (skipAfterValue (cells.drop 3)).isEmpty

/-- Reads the node of a document that begins with a mark. -/
def markedDocument? (fuel line : Nat) (cells : List Cell) : ReadNode :=
  match skipAfterValue cells with
  | [] => some (.absent, [])
  | c :: rest =>
    if c.line == line then inlineNode fuel 0 (c :: rest)
    else if isDocumentMark (c :: rest) then some (.absent, c :: rest)
    else blockNode fuel 0 (c :: rest)

/-- Reads the node of a document. -/
def documentNode? (fuel : Nat) (cells : List Cell) : ReadNode :=
  match cells with
  | [] => some (.absent, [])
  | c :: _ =>
    if isMark '-' cells then markedDocument? fuel c.line (cells.drop 3)
    else blockNode fuel 0 cells

/-- Reads a text that is one document. -/
def read? (text : String) : Option Node :=
  let cells := layout text
  if cells.all fun c => isAllowed c.char then
    match documentNode? (6 * cells.length + 6) (skipToNode cells) with
    | some (node, rest) => if endsDocument rest then some node else none
    | none => none
  else none

end Yaml

end SecretSync
