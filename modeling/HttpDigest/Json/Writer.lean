import HttpDigest.Text.Hex
import HttpDigest.Value

namespace HttpDigest.Json

def unitEscape (unit : Nat) : List Char :=
  '\\' :: 'u' :: Text.hexDigits 4 unit

-- One character of a quoted text; all beyond printable ASCII is escaped,
-- characters of the higher planes as surrogate pairs
def escape (c : Char) : List Char :=
  if c = '"' || c = '\\' then ['\\', c]
  else if c = '\n' then ['\\', 'n']
  else if c = '\r' then ['\\', 'r']
  else if c = '\t' then ['\\', 't']
  else if c = '\x08' then ['\\', 'b']
  else if c = '\x0c' then ['\\', 'f']
  else if 0x20 ≤ c.toNat && c.toNat < 0x7f then [c]
  else if c.toNat < 0x10000 then unitEscape c.toNat
  else
    let n := c.toNat - 0x10000
    unitEscape (0xd800 + n / 0x400) ++ unitEscape (0xdc00 + n % 0x400)

def quote (s : String) : String :=
  .ofList ('"' :: s.toList.flatMap escape ++ ['"'])

def ofReal : Binary64 → String
  | .nan => "NaN"
  | .infinity negative => if negative then "-Infinity" else "Infinity"
  | x => x.text

mutual

def compact : Value → String
  | .null => "null"
  | .bool b => if b then "true" else "false"
  | .int n => toString n
  | .real x => ofReal x
  | .text s => quote s
  | .bytes b => quote (Text.hexOfBytes b)
  | .list items => "[" ++ ",".intercalate (compactItems items) ++ "]"
  | .object fields => "\x7b" ++ ",".intercalate (compactMembers fields) ++ "\x7d"

def compactItems : List Value → List String
  | [] => []
  | v :: rest => compact v :: compactItems rest

def compactMembers : List (String × Value) → List String
  | [] => []
  | (k, v) :: rest => (quote k ++ ":" ++ compact v) :: compactMembers rest

end

def newline (depth : Nat) : String :=
  .ofList ('\n' :: List.replicate (2 * depth) ' ')

def enclose (depth : Nat) (opening closing : String) (items : List String) : String :=
  if items.isEmpty then opening ++ closing
  else opening ++ newline (depth + 1) ++ ("," ++ newline (depth + 1)).intercalate items
    ++ newline depth ++ closing

mutual

def layout : Nat → Value → String
  | depth, .list items => enclose depth "[" "]" (layoutItems (depth + 1) items)
  | depth, .object fields => enclose depth "\x7b" "\x7d" (layoutMembers (depth + 1) fields)
  | _, v => compact v

def layoutItems : Nat → List Value → List String
  | _, [] => []
  | depth, v :: rest => layout depth v :: layoutItems depth rest

def layoutMembers : Nat → List (String × Value) → List String
  | _, [] => []
  | depth, (k, v) :: rest => (quote k ++ ": " ++ layout depth v) :: layoutMembers depth rest

end

def document (v : Value) : String :=
  layout 0 v

end HttpDigest.Json
