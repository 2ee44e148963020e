import HttpDigest.Failure

namespace HttpDigest

-- Where a number stands on the line. All finite numbers are whole in units of `2 ^ -1074`; what
-- is no number stands nowhere.
inductive Place where
  | below
  | unit (n : Int)
  | above
  | nowhere
deriving DecidableEq, Repr

namespace Place

def ofBinary64 : Binary64 → Place
  | .nan => nowhere
  | .infinity negative => if negative then below else above
  | .finite negative m exponent =>
    let size : Int := (m * Nat.pow 2 (exponent + 1074).toNat : Nat)
    unit (if negative then -size else size)

def ofInt (n : Int) : Place :=
  unit (n * (Nat.pow 2 1074 : Nat))

def precedes : Place → Place → Bool
  | below, unit _ => true
  | below, above => true
  | unit m, unit n => m < n
  | unit _, above => true
  | _, _ => false

end Place

namespace Value

def place? : Value → Option Place
  | bool b => some (.ofInt (if b then 1 else 0))
  | int n => some (.ofInt n)
  | real x => some (.ofBinary64 x)
  | _ => none

-- Whether a value comes before another: numbers by size, texts and bytes as in a dictionary.
-- Values of other kinds do not compare.
def comesBefore (a b : Value) : Except Fault Bool :=
  match a, b with
  | text s, text t => .ok (s < t)
  | bytes s, bytes t => .ok (s < t)
  | a, b => match place? a, place? b with
    | some p, some q => .ok (p.precedes q)
    | _, _ => .error .wrongType

end Value

end HttpDigest
