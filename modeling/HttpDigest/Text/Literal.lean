import HttpDigest.Text.Hex
import HttpDigest.Text.Printable

namespace HttpDigest.Text

namespace Literal

-- Single quotes, unless the text holds a single quote and no double quote
def quoteFor (cs : List Char) : Char :=
  if cs.contains '\'' && !cs.contains '"' then '"' else '\''

def escape (quote c : Char) : List Char :=
  if c = quote || c = '\\' then ['\\', c]
  else if c = '\t' then ['\\', 't']
  else if c = '\n' then ['\\', 'n']
  else if c = '\r' then ['\\', 'r']
  else if isPrintable c then [c]
  else if c.toNat ≤ 0xff then '\\' :: 'x' :: hexDigits 2 c.toNat
  else if c.toNat ≤ 0xffff then '\\' :: 'u' :: hexDigits 4 c.toNat
  else '\\' :: 'U' :: hexDigits 8 c.toNat

def escapeByte (quote : Char) (b : UInt8) : List Char :=
  if b.toNat < 0x7f then escape quote (Char.ofNat b.toNat)
  else '\\' :: 'x' :: hexDigits 2 b.toNat

end Literal

def literal (text : String) : String :=
  let quote := Literal.quoteFor text.toList
  .ofList (quote :: text.toList.flatMap (Literal.escape quote) ++ [quote])

def bytesLiteral (bytes : List UInt8) : String :=
  let quote := Literal.quoteFor (bytes.map fun b => Char.ofNat b.toNat)
  .ofList ('b' :: quote :: bytes.flatMap (Literal.escapeByte quote) ++ [quote])

end HttpDigest.Text
