import SecretSync.Http.ApiFailure
import SecretSync.Text.Bytes
import SecretSync.Text.Segments

/-!
# `SecretSync.Http.Address`: what a text means as an address

Names and namespaces become part of an address as they are. A question mark
in them ends the path and a number sign ends the address; of the ASCII
characters that an address cannot hold, one is enough to refuse it.
-/

set_option autoImplicit false

namespace SecretSync

namespace Http

/-- The ASCII characters that a path cannot hold. -/
def forbiddenInPath : List Char := [' ', '<', '>', Char.ofNat 0x60]

/-- The ASCII characters that a query cannot hold. -/
def forbiddenInQuery : List Char := [' ', '<', '>', '"']

/-- Whether a character is allowed, given those that are not; control characters never are. -/
def isAllowed (forbidden : List Char) (c : Char) : Bool :=
  0x20 ≤ c.toNat && !forbidden.contains c

/-- Decodes a name or value of a query: plus signs are spaces, and a percent sign with two
hexadecimal digits is a byte. -/
def decodedBytes : List Char → Bytes
  | '+' :: rest => 0x20 :: decodedBytes rest
  | '%' :: a :: b :: rest =>
    match Text.hexDigit? a, Text.hexDigit? b with
    | some high, some low => UInt8.ofNat (16 * high + low) :: decodedBytes rest
    | _, _ => 0x25 :: decodedBytes (a :: b :: rest)
  | c :: rest => String.utf8EncodeChar c ++ decodedBytes rest
  | [] => []

/-- A decoded name or value of a query. -/
def decoded (cs : List Char) : String :=
  (Text.ofUtf8? (decodedBytes cs)).getD (String.ofList cs)

/-- The names and values of a query. -/
def queryPairs (query : List Char) : List (String × String) :=
  ((Text.segments '&' query).filter (!·.isEmpty)).map fun part =>
    match Text.splitFirst '=' part with
    | some (name, value) => (decoded name, decoded value)
    | none => (decoded part, "")

/-- The path and the query of an address. Of what follows the question mark, which every address
has, only what a name brought along is left. -/
def readAddress (address : String) : Option (String × List (String × String)) :=
  let cs := (address.toList.takeWhile (· != '#'))
  let path := cs.takeWhile (· != '?')
  let query := (cs.dropWhile (· != '?')).drop 1
  if path.all (isAllowed forbiddenInPath) && query.all (isAllowed forbiddenInQuery) then
    some (String.ofList path, queryPairs query)
  else none

end Http

end SecretSync
