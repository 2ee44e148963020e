import HttpDigest.Text.Hex

namespace HttpDigest.Text.Utf8

def encode (cs : List Char) : List UInt8 :=
  (String.ofList cs).toUTF8.toList

end HttpDigest.Text.Utf8
