import BattleAdvisor.Text.Hex
import BattleAdvisor.Text.Utf8

/-!
# Percent encoding

In addresses, a byte may be written as a percent sign and its two hexadecimal digits. `encode`
writes the bytes of characters that may not stand for themselves in this way, and `decode` reads
bytes back; a percent sign without two digits behind it stands for itself.
-/

namespace BattleAdvisor.Http.Percent

/-- The written form of a byte. -/
def encodeByte (b : UInt8) : List Char :=
  ['%', Text.Hex.upper (b.toNat / 16), Text.Hex.upper (b.toNat % 16)]

/-- The written form of a character that may not stand for itself. -/
def encodeChar (c : Char) : List Char :=
  (String.utf8EncodeChar c).flatMap encodeByte

/-- Writes a text; the characters that `keep` accepts stand for themselves. -/
def encode (keep : Char → Bool) (text : List Char) : List Char :=
  text.flatMap fun c => if keep c then [c] else encodeChar c

/-- The bytes that a text writes. -/
def decode : List Char → Bytes
  | [] => []
  | '%' :: high :: low :: rest =>
    match Text.Hex.value? high, Text.Hex.value? low with
    | some h, some l => UInt8.ofNat (h * 16 + l) :: decode rest
    | _, _ => String.utf8EncodeChar '%' ++ decode (high :: low :: rest)
  | c :: rest => String.utf8EncodeChar c ++ decode rest

end BattleAdvisor.Http.Percent
