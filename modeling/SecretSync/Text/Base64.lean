import SecretSync.Text.Bytes

/-!
# `SecretSync.Text.Base64`: the standard padded alphabet, read strictly

Values of a secret are written in base64 with the alphabet `A–Z a–z 0–9 + /`
and `=` padding up to a multiple of four. The reader accepts the canonical
text only: the padding must be complete and the bits that the last symbol
does not use must be zero. `decode` names the first fault it finds, with its
offset in the UTF-8 bytes of the input.

The input is looked at in two parts. All quads but the last must consist of
symbols; the last quad may end in padding.
-/

set_option autoImplicit false

namespace SecretSync.Text.Base64

/-- Why a text is not base64. -/
inductive DecodeError where
  /-- The byte at this offset is not allowed there. -/
  | invalidByte (offset : Nat) (byte : UInt8)
  /-- The text ends after one symbol of a quad. -/
  | invalidLength (length : Nat)
  /-- The last symbol carries bits that no byte uses. -/
  | invalidLastSymbol (offset : Nat) (byte : UInt8)
  /-- The last quad is not filled up with `=`. -/
  | invalidPadding
  deriving DecidableEq, Repr

/-- The text of a decoding failure. -/
def DecodeError.message : DecodeError → String
  | .invalidByte offset byte =>
    "Invalid symbol " ++ toString byte.toNat ++ ", offset " ++ toString offset ++ "."
  | .invalidLength length => "Invalid input length: " ++ toString length
  | .invalidLastSymbol offset byte =>
    "Invalid last symbol " ++ toString byte.toNat ++ ", offset " ++ toString offset ++ "."
  | .invalidPadding => "Invalid padding"

/-- The padding byte `=`. -/
def pad : UInt8 := 61

/-- The symbol that stands for a value below 64. -/
def symbol (value : Nat) : UInt8 :=
  if value < 26 then UInt8.ofNat (65 + value)
  else if value < 52 then UInt8.ofNat (97 + (value - 26))
  else if value < 62 then UInt8.ofNat (48 + (value - 52))
  else if value = 62 then 43
  else 47

/-- The value of a symbol, none for a byte outside the alphabet. -/
def value? (byte : UInt8) : Option Nat :=
  let n := byte.toNat
  if 65 ≤ n ∧ n ≤ 90 then some (n - 65)
  else if 97 ≤ n ∧ n ≤ 122 then some (n - 97 + 26)
  else if 48 ≤ n ∧ n ≤ 57 then some (n - 48 + 52)
  else if n = 43 then some 62
  else if n = 47 then some 63
  else none

/-! ### Writing -/

/-- Writes the bytes in groups of three in front of the reversed text `acc`. -/
def encodeOnto (acc : Bytes) : Bytes → Bytes
  | a :: b :: c :: rest =>
    let n := a.toNat * 65536 + b.toNat * 256 + c.toNat
    encodeOnto (symbol (n % 64) :: symbol (n / 64 % 64) :: symbol (n / 4096 % 64) ::
      symbol (n / 262144) :: acc) rest
  | [a, b] =>
    let n := a.toNat * 256 + b.toNat
    pad :: symbol (n % 16 * 4) :: symbol (n / 16 % 64) :: symbol (n / 1024) :: acc
  | [a] => pad :: pad :: symbol (a.toNat % 4 * 16) :: symbol (a.toNat / 4) :: acc
  | [] => acc

/-- The base64 text of some bytes. -/
def encode (bytes : Bytes) : String :=
  String.ofList ((encodeOnto [] bytes).reverse.map fun b => Char.ofNat b.toNat)

/-! ### Reading -/

/-- The values of a run of symbols that starts at `offset`, in front of the reversed `acc`. -/
def symbolValues (acc : List Nat) (offset : Nat) : Bytes → Except DecodeError (List Nat)
  | [] => .ok acc
  | b :: rest =>
    match value? b with
    | some v => symbolValues (v :: acc) (offset + 1) rest
    | none => .error (.invalidByte offset b)

/-- What the last quad holds: its symbols from the last to the first, with their values, and the
number of padding bytes. -/
structure LastQuad where
  symbols : List (UInt8 × Nat)
  padding : Nat
  deriving DecidableEq, Repr

/-- Reads the last quad, whose first byte stands at `start`; `position` counts the bytes read. -/
def readLastQuad (start position : Nat) (quad : LastQuad) : Bytes → Except DecodeError LastQuad
  | [] => .ok quad
  | b :: rest =>
    if b = pad then
      if position < 2 then .error (.invalidByte (start + position) b)
      else readLastQuad start (position + 1) { quad with padding := quad.padding + 1 } rest
    else if 0 < quad.padding then
      .error (.invalidByte (start + quad.symbols.length) pad)
    else match value? b with
      | some v =>
        readLastQuad start (position + 1) { quad with symbols := (b, v) :: quad.symbols } rest
      | none => .error (.invalidByte (start + position) b)

/-- The bytes that symbol values stand for, four values at a time, in front of the reversed
`acc`. -/
def bytesOnto (acc : Bytes) : List Nat → Bytes
  | a :: b :: c :: d :: rest =>
    let n := ((a * 64 + b) * 64 + c) * 64 + d
    bytesOnto (UInt8.ofNat (n % 256) :: UInt8.ofNat (n / 256 % 256) :: UInt8.ofNat (n / 65536) ::
      acc) rest
  | [a, b, c] =>
    let n := (a * 64 + b) * 64 + c
    UInt8.ofNat (n / 4 % 256) :: UInt8.ofNat (n / 1024) :: acc
  | [a, b] => UInt8.ofNat ((a * 64 + b) / 16) :: acc
  | _ => acc

/-- The bits of the last symbol that no byte uses: two after three symbols, four after two. -/
def unusedBits (count value : Nat) : Nat :=
  match count with
  | 2 => value % 16
  | 3 => value % 4
  | _ => 0

/-- Where the last quad of a text of this length starts. -/
def lastQuadStart (length : Nat) : Nat :=
  if length % 4 = 0 then length - 4 else length / 4 * 4

/-- A text with one byte too many ends in a byte that is checked before all others. -/
def checkLoneLast (input : Bytes) : Except DecodeError Unit :=
  match input.getLast? with
  | some b =>
    if input.length % 4 = 1 ∧ b ≠ pad ∧ value? b = none then
      .error (.invalidByte (input.length - 1) b)
    else .ok ()
  | none => .ok ()

/-- The bytes that a base64 text stands for, or its first fault. -/
def decode (input : Bytes) : Except DecodeError Bytes := do
  checkLoneLast input
  let start := lastQuadStart input.length
  let values ← symbolValues [] 0 (input.take start)
  let quad ← readLastQuad start 0 ⟨[], 0⟩ (input.drop start)
  let count := quad.symbols.length
  if input.length > 0 ∧ count < 2 then
    throw (.invalidLength (start + count))
  if (count + quad.padding) % 4 ≠ 0 then
    throw .invalidPadding
  match quad.symbols with
  | (b, v) :: _ =>
    if unusedBits count v ≠ 0 then
      throw (.invalidLastSymbol (start + count - 1) b)
  | [] => pure ()
  pure (bytesOnto [] ((quad.symbols.map Prod.snd ++ values).reverse)).reverse

/-- The bytes that a base64 text stands for, or its first fault. -/
def decodeText (s : String) : Except DecodeError Bytes := decode (utf8 s)

end SecretSync.Text.Base64
