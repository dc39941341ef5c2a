import FlagBinding.Element.Codec

/-!
# Codecs of byte strings

Base64 and hexadecimal.
-/

namespace FlagBinding.Codec

open Text

/-- Byte strings in padded base64. -/
def base64 : Codec (List UInt8) where
  kind := "bytesBase64"
  decode input :=
    match Base64.decode (Utf8.encode input) with
    | .ok bytes => .ok bytes
    | .error fault => .error (.invalid "bytesBase64" input (.base64 fault))
  encode bytes := String.ofList ((Base64.encode bytes).map fun b => Char.ofNat b.toNat)

def hex : Codec (List UInt8) where
  kind := "bytesHex"
  decode input :=
    match Hex.decode (Utf8.encode input) with
    | .ok bytes => .ok bytes
    | .error fault => .error (.invalid "bytesHex" input (.hex fault))
  encode bytes := String.ofList (Hex.encode bytes)

end FlagBinding.Codec
