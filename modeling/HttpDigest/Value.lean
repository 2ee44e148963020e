import HttpDigest.Binary64
import HttpDigest.OrderedMap
import HttpDigest.Text.Literal

namespace HttpDigest

inductive Value where
  | null
  | bool (b : Bool)
  | int (n : Int)
  | real (x : Binary64)
  | text (s : String)
  | bytes (b : List UInt8)
  | list (items : List Value)
  | object (fields : List (String × Value))
deriving BEq, Repr, Inhabited

instance : Coe String Value := ⟨Value.text⟩

namespace Value

-- Null, false, zero and everything empty count as not given
def truthy : Value → Bool
  | null => false
  | bool b => b
  | int n => n != 0
  | real x => !x.isZero
  | text s => s != ""
  | bytes b => !b.isEmpty
  | list items => !items.isEmpty
  | object fields => !fields.isEmpty

def orElse (v other : Value) : Value :=
  if v.truthy then v else other

def ofText? : Option String → Value
  | some s => text s
  | none => null

def text? : Value → Option String
  | text s => some s
  | _ => none

def isNull : Value → Bool
  | null => true
  | _ => false

def isText (v : Value) (s : String) : Bool :=
  v.text? == some s

mutual

def literal : Value → String
  | null => "None"
  | bool b => if b then "True" else "False"
  | int n => toString n
  | real x => x.text
  | text s => Text.literal s
  | bytes b => Text.bytesLiteral b
  | list items => "[" ++ ", ".intercalate (literals items) ++ "]"
  | object fields => "\x7b" ++ ", ".intercalate (entryLiterals fields) ++ "\x7d"

def literals : List Value → List String
  | [] => []
  | v :: rest => literal v :: literals rest

def entryLiterals : List (String × Value) → List String
  | [] => []
  | (k, v) :: rest => (Text.literal k ++ ": " ++ literal v) :: entryLiterals rest

end

-- A value within a text: a text stands as it is, all else in literal form
def plain : Value → String
  | text s => s
  | v => v.literal

end Value

end HttpDigest
