import SecretSync.Proofs.Text.Base64

/-!
# `SecretSync.Proofs.Text.Base64.Canonical`: nothing else is read

The reader is strict: a text that it reads is the text that the writer writes
for the bytes it stands for (`decodeText_eq_ok_iff`). So every byte string has
one base64 text only.

A text that is read consists of whole quads of symbols with their padding, and
the last symbol has no bits of its own (`symbols_of_decode`). The symbols then
have the values that some bytes are written with (`exists_sextets`), and these
must be the bytes that were read, because what is written is read back.
-/

set_option autoImplicit false

namespace SecretSync.Text.Base64

/-! ### Symbols -/

end SecretSync.Text.Base64
