import HttpDigest.Failure

namespace HttpDigest.Value

def checkFields (known required : List String) (fields : OrderedMap String Value) :
    Except Fault Unit :=
  if fields.all (fun f => known.contains f.1) && required.all fields.contains then .ok ()
  else .error .wrongType

def field (fields : OrderedMap String Value) (name : String) (default : Value := null) : Value :=
  (fields.get? name).getD default

-- What a value holds, one after the other: characters, items, names, or the numbers of bytes
def elements : Value → Except Fault (List Value)
  | text s => .ok (s.toList.map fun c => text (String.singleton c))
  | list items => .ok items
  | object fields => .ok (fields.map fun (name, _) => text name)
  | bytes b => .ok (b.map fun x => int x.toNat)
  | _ => .error .wrongType

def isKey : Value → Bool
  | list _ => false
  | object _ => false
  | _ => true

def whole? : Value → Option Int
  | bool b => some (if b then 1 else 0)
  | int n => some n
  | _ => none

-- Keys are the same if they are the same number or else the same value
def sameKey (a b : Value) : Bool :=
  match a, b with
  | real x, real y => x == y || (x.isZero && y.isZero)
  | real x, b => (whole? b).any x.equalsInt
  | a, real y => (whole? a).any y.equalsInt
  | a, b => match whole? a, whole? b with
    | some m, some n => m == n
    | none, none => a == b
    | _, _ => false

def asKey (k v : Value) : Except Fault (Value × Value) :=
  if k.isKey then .ok (k, v) else .error .wrongType

def asEntry : Value → Except Fault (Value × Value)
  | list [k, v] => asKey k v
  | list _ => .error (.badValue none)
  | text s => match s.toList with
    | [a, b] => .ok (text (String.singleton a), text (String.singleton b))
    | _ => .error (.badValue none)
  | object [(a, _), (b, _)] => .ok (text a, text b)
  | object _ => .error (.badValue none)
  | bytes [a, b] => .ok (int a.toNat, int b.toNat)
  | bytes _ => .error (.badValue none)
  | _ => .error .wrongType

def asEntries : List Value → Except Fault (List (Value × Value))
  | [] => .ok []
  | v :: rest => do
    let first ← asEntry v
    let others ← asEntries rest
    return first :: others

-- A key that came before keeps its place and its form, and gets the new value
def insertEntry : List (Value × Value) → Value × Value → List (Value × Value)
  | [], entry => [entry]
  | (k, v) :: rest, entry =>
    if sameKey k entry.1 then (k, entry.2) :: rest else (k, v) :: insertEntry rest entry

def ofEntries (entries : List (Value × Value)) : Value :=
  object (OrderedMap.ofList
    ((entries.foldl insertEntry []).map fun (k, v) => (k.plain, v)))

-- A value as an object: objects as they are, sequences of pairs as their entries
def toObject : Value → Except Fault Value
  | object fields => .ok (object fields)
  | list items => (asEntries items).map ofEntries
  | text s => (asEntries (s.toList.map fun c => text (String.singleton c))).map ofEntries
  | bytes [] => .ok (object [])
  | _ => .error .wrongType

end HttpDigest.Value
