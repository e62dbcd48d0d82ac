import SecretSync.Json.Basic
import SecretSync.Text.Bytes

/-!
# `SecretSync.Json.Reader`: reading JSON text

`read?` accepts exactly the JSON grammar: no comments, no trailing commas, no
control characters inside strings, surrogate escapes only in pairs, and at
most 127 arrays and objects inside each other. Where a text is not JSON the
result is `none`; what is wrong with it is not reported.

Each reader consumes at least one character per step, so the number of
characters bounds the number of steps.
-/

set_option autoImplicit false

namespace SecretSync.Json

/-- The four characters that JSON allows between tokens. -/
def isSpace (c : Char) : Bool := c == ' ' || c == '\n' || c == '\r' || c == '\t'

/-- The input without leading spaces. -/
def skipSpace (cs : List Char) : List Char := cs.dropWhile isSpace

/-! ### Strings -/

/-- The code unit of four hexadecimal digits. -/
def unit? (a b c d : Char) : Option Nat := do
  let a ← Text.hexDigit? a
  let b ← Text.hexDigit? b
  let c ← Text.hexDigit? c
  let d ← Text.hexDigit? d
  pure (((a * 16 + b) * 16 + c) * 16 + d)

/-- The character of an escape with a letter. -/
def letterEscape? (c : Char) : Option Char :=
  if c = '"' ∨ c = '\\' ∨ c = '/' then some c
  else if c = 'n' then some '\n'
  else if c = 't' then some '\t'
  else if c = 'r' then some '\r'
  else if c = 'b' then some (Char.ofNat 8)
  else if c = 'f' then some (Char.ofNat 12)
  else none

/-- Reads the rest of a string up to its closing quote, after the reversed characters `acc`. -/
def stringBody (acc : List Char) : List Char → Option (String × List Char)
  | '"' :: rest => some (String.ofList acc.reverse, rest)
  | '\\' :: 'u' :: a :: b :: c :: d :: '\\' :: 'u' :: a' :: b' :: c' :: d' :: rest => do
    -- Two escapes in a row are one character if they are the halves of a pair.
    let high ← unit? a b c d
    if 0xD800 ≤ high ∧ high < 0xDC00 then
      let low ← unit? a' b' c' d'
      if 0xDC00 ≤ low ∧ low < 0xE000 then
        stringBody (Char.ofNat (0x10000 + (high - 0xD800) * 0x400 + (low - 0xDC00)) :: acc) rest
      else none
    else if 0xDC00 ≤ high ∧ high < 0xE000 then none
    else stringBody (Char.ofNat high :: acc) ('\\' :: 'u' :: a' :: b' :: c' :: d' :: rest)
  | '\\' :: 'u' :: a :: b :: c :: d :: rest => do
    -- An escape with no other behind it cannot be half of a pair.
    let unit ← unit? a b c d
    if 0xD800 ≤ unit ∧ unit < 0xE000 then none
    else stringBody (Char.ofNat unit :: acc) rest
  | '\\' :: c :: rest => do
    let c ← letterEscape? c
    stringBody (c :: acc) rest
  | c :: rest => if c.toNat < 32 then none else stringBody (c :: acc) rest
  | [] => none

/-! ### Numbers -/

/-- A run of digits, at least one, and what follows it. -/
def digits? (cs : List Char) : Option (List Char × List Char) :=
  match cs.takeWhile Char.isDigit with
  | [] => none
  | digits => some (digits, cs.dropWhile Char.isDigit)

/-- The digits in front of the point: a lone zero, or digits that begin with another one. -/
def wholePart? : List Char → Option (List Char × List Char)
  | '0' :: rest => some (['0'], rest)
  | cs => digits? cs

/-- The optional fraction of a number. -/
def fraction? : List Char → Option (List Char × List Char)
  | '.' :: rest => (digits? rest).map fun p => ('.' :: p.1, p.2)
  | cs => some ([], cs)

/-- The optional exponent of a number. -/
def exponent? : List Char → Option (List Char × List Char)
  | e :: rest =>
    if e = 'e' ∨ e = 'E' then
      match rest with
      | sign :: rest' =>
        if sign = '+' ∨ sign = '-' then
          (digits? rest').map fun p => (e :: sign :: p.1, p.2)
        else (digits? rest).map fun p => (e :: p.1, p.2)
      | [] => none
    else some ([], e :: rest)
  | [] => some ([], [])

/-- A number literal and what follows it. -/
def number? (cs : List Char) : Option (String × List Char) := do
  let (sign, cs) := match cs with
    | '-' :: rest => (['-'], rest)
    | _ => ([], cs)
  let (whole, cs) ← wholePart? cs
  let (fraction, cs) ← fraction? cs
  let (exponent, cs) ← exponent? cs
  pure (String.ofList (sign ++ whole ++ fraction ++ exponent), cs)

/-! ### Values -/

/-- The input after a word, if it begins with it. -/
def after? (word : String) (cs : List Char) : Option (List Char) :=
  if word.toList.isPrefixOf cs then some (cs.drop word.length) else none

mutual

/-- Reads a value that may contain `depth` levels of arrays and objects. -/
def value? : (fuel depth : Nat) → List Char → Option (Json × List Char)
  | 0, _, _ => none
  | fuel + 1, depth, cs =>
    match skipSpace cs with
    | '"' :: rest => (stringBody [] rest).map fun p => (.str p.1, p.2)
    | '[' :: rest =>
      match depth with
      | 0 => none
      | depth + 1 =>
        match skipSpace rest with
        | ']' :: rest => some (.arr [], rest)
        | rest => (items? fuel depth rest).map fun p => (.arr p.1, p.2)
    | '\x7b' :: rest =>
      match depth with
      | 0 => none
      | depth + 1 =>
        match skipSpace rest with
        | '\x7d' :: rest => some (.obj [], rest)
        | rest => (fields? fuel depth rest).map fun p => (.obj p.1, p.2)
    | 'n' :: rest => (after? "ull" rest).map fun r => (.null, r)
    | 't' :: rest => (after? "rue" rest).map fun r => (.bool true, r)
    | 'f' :: rest => (after? "alse" rest).map fun r => (.bool false, r)
    | rest => (number? rest).map fun p => (.num p.1, p.2)

/-- Reads the items of an array up to the closing bracket. -/
def items? : (fuel depth : Nat) → List Char → Option (List Json × List Char)
  | 0, _, _ => none
  | fuel + 1, depth, cs => do
    let (item, cs) ← value? fuel depth cs
    match skipSpace cs with
    | ']' :: rest => pure ([item], rest)
    | ',' :: rest =>
      let (items, rest) ← items? fuel depth rest
      pure (item :: items, rest)
    | _ => none

/-- Reads the fields of an object up to the closing brace. -/
def fields? : (fuel depth : Nat) → List Char → Option (List (String × Json) × List Char)
  | 0, _, _ => none
  | fuel + 1, depth, cs => do
    match skipSpace cs with
    | '"' :: rest =>
      let (name, rest) ← stringBody [] rest
      match skipSpace rest with
      | ':' :: rest =>
        let (value, rest) ← value? fuel depth rest
        match skipSpace rest with
        | '\x7d' :: rest => pure ([(name, value)], rest)
        | ',' :: rest =>
          let (fields, rest) ← fields? fuel depth rest
          pure ((name, value) :: fields, rest)
        | _ => none
      | _ => none
    | _ => none

end

/-- The value that a text stands for, if it is JSON. -/
def read? (text : String) : Option Json :=
  let cs := text.toList
  match value? (cs.length + 1) 127 cs with
  | some (value, rest) => if (skipSpace rest).isEmpty then some value else none
  | none => none

end SecretSync.Json
