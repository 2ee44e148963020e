namespace HttpDigest

-- A number of the binary64 format. A finite one stands for `± mantissa · 2 ^ exponent` with
-- `mantissa < 2 ^ 53` and `exponent ≥ -1074`; below `2 ^ 52` only the exponent -1074 occurs.
inductive Binary64 where
  | nan
  | infinity (negative : Bool)
  | finite (negative : Bool) (mantissa : Nat) (exponent : Int)
deriving DecidableEq, Repr, Inhabited

namespace Binary64

def isZero : Binary64 → Bool
  | finite _ m _ => m == 0
  | _ => false

def isNegative : Binary64 → Bool
  | nan => false
  | infinity negative => negative
  | finite negative m _ => negative && m != 0

-- The quotient rounded to the nearest integer, a half to the even one
def roundedQuotient (num den : Nat) : Nat :=
  let q := num / den
  let r := num % den
  if den < 2 * r || (2 * r == den && q % 2 == 1) then q + 1 else q

def inUnits (num den : Nat) (exponent : Int) : Nat × Nat :=
  (num * Nat.pow 2 (-exponent).toNat, den * Nat.pow 2 exponent.toNat)

-- The number nearest to a fraction. The first exponent tried gives at least 53 bits and at
-- most 54; the one taken gives 53, or fewer at the lower end of the range.
def ofRatio (negative : Bool) (num den : Nat) : Binary64 :=
  if num = 0 then finite negative 0 (-1074) else
  let low : Int := max ((num.log2 : Int) - den.log2 - 53) (-1074)
  let exponent :=
    if Nat.pow 2 53 ≤ (inUnits num den low).1 / (inUnits num den low).2 then low + 1 else low
  let m := roundedQuotient (inUnits num den exponent).1 (inUnits num den exponent).2
  let (m, exponent) :=
    if m = Nat.pow 2 53 then (Nat.pow 2 52, exponent + 1) else (m, exponent)
  if exponent > 971 then infinity negative else finite negative m exponent

-- The number nearest to `± digits · 10 ^ exponent`. Whatever lies beyond both ends of the
-- range is settled by its size alone.
def ofDecimal (negative : Bool) (digits : Nat) (exponent : Int) : Binary64 :=
  if digits = 0 then finite negative 0 (-1074) else
  let size : Int := (digits.log2 : Int) / 4 + exponent
  let top : Int := (digits.log2 : Int) / 3 + 1 + exponent
  if size > 310 then infinity negative
  else if top < -330 then finite negative 0 (-1074)
  else ofRatio negative (digits * Nat.pow 10 exponent.toNat) (Nat.pow 10 (-exponent).toNat)

def ofInt (n : Int) : Binary64 :=
  ofRatio (n < 0) n.natAbs 1

def scale (factor : Nat) : Binary64 → Binary64
  | finite negative m exponent =>
    ofRatio negative (factor * m * Nat.pow 2 exponent.toNat) (Nat.pow 2 (-exponent).toNat)
  | x => x

def truncate? : Binary64 → Option Int
  | finite negative m exponent =>
    let whole : Nat := m * Nat.pow 2 exponent.toNat / Nat.pow 2 (-exponent).toNat
    some (if negative then -(whole : Int) else whole)
  | _ => none

def ceiling? : Binary64 → Option Int
  | finite negative m exponent =>
    let num : Nat := m * Nat.pow 2 exponent.toNat
    let den : Nat := Nat.pow 2 (-exponent).toNat
    some (if negative then -((num / den : Nat) : Int) else ((num + den - 1) / den : Nat))
  | _ => none

def equalsInt (x : Binary64) (n : Int) : Bool :=
  x.truncate? == some n && (x.isZero || x == ofInt n)

namespace Shortest

-- A positive number in quarters of its unit, and the bounds of the reals that round to it.
-- The lower bound is nearer where the unit below is smaller.
structure Interval where
  value : Nat
  lower : Nat
  upper : Nat
  exponent : Int
  closed : Bool

def interval (m : Nat) (exponent : Int) : Interval where
  value := 4 * m
  lower := if m = Nat.pow 2 52 && exponent > -1074 then 4 * m - 1 else 4 * m - 2
  upper := 4 * m + 2
  exponent := exponent - 2
  closed := m % 2 = 0

def binarySide (e k : Int) (x : Nat) : Nat :=
  x * Nat.pow 2 e.toNat * Nat.pow 10 (-k).toNat

def decimalSide (e k : Int) (d : Nat) : Nat :=
  d * Nat.pow 10 k.toNat * Nat.pow 2 (-e).toNat

def contains (i : Interval) (k : Int) (d : Nat) : Bool :=
  let x := decimalSide i.exponent k d
  let low := binarySide i.exponent k i.lower
  let high := binarySide i.exponent k i.upper
  if i.closed then low ≤ x && x ≤ high else low < x && x < high

-- The grid point of `10 ^ k` that rounds to the number, if one does: of two the nearer,
-- in a tie the even one
def onGrid? (i : Interval) (k : Int) : Option Nat :=
  let v := binarySide i.exponent k i.value
  let unit := decimalSide i.exponent k 1
  let below := v / unit
  let nearest := roundedQuotient v unit
  if contains i k nearest then some nearest
  else if contains i k below then some below
  else if contains i k (below + 1) then some (below + 1)
  else none

-- The exponent `e` with `10 ^ e ≤ value < 10 ^ (e + 1)`, an estimate and its neighbours tried
def magnitude (i : Interval) : Int :=
  let guess : Int := ((i.value.log2 : Int) + i.exponent) * 1233 / 4096
  let reached (e : Int) : Bool :=
    decimalSide i.exponent e 1 ≤ binarySide i.exponent e i.value
  if reached (guess + 1) then guess + 1 else if reached guess then guess else guess - 1

-- The fewest digits that read back, searched from `count` digits upwards
def search (i : Interval) (magnitude : Int) : Nat → Nat → Nat × Int
  | 0, count => (i.value, magnitude - count)
  | fuel + 1, count =>
    let k := magnitude - count + 1
    match onGrid? i k with
    | some d => (d, k)
    | none => search i magnitude fuel (count + 1)

def digits (m : Nat) (exponent : Int) : Nat × Int :=
  let i := interval m exponent
  search i (magnitude i) 17 1

end Shortest

def positional (digits : List Char) (before : Int) : List Char :=
  if before ≤ 0 then
    '0' :: '.' :: List.replicate (-before).toNat '0' ++ digits
  else if digits.length ≤ before then
    digits ++ List.replicate (before.toNat - digits.length) '0' ++ ['.', '0']
  else digits.take before.toNat ++ '.' :: digits.drop before.toNat

-- One digit before the point, and an exponent of at least two digits
def scientific (digits : List Char) (exponent : Int) : List Char :=
  let fraction := match digits with
    | [d] => [d]
    | d :: rest => d :: '.' :: rest
    | [] => []
  let power := (toString exponent.natAbs).toList
  fraction ++ 'e' :: (if exponent < 0 then '-' else '+') ::
    (if power.length < 2 then '0' :: power else power)

def significant (digits : List Char) : List Char :=
  (digits.reverse.dropWhile (· = '0')).reverse

-- The shortest text that reads back, positional from `0.0001` to below `10 ^ 16`
def text : Binary64 → String
  | nan => "nan"
  | infinity negative => if negative then "-inf" else "inf"
  | finite negative m exponent =>
    let sign := if negative then ['-'] else []
    if m = 0 then .ofList (sign ++ ['0', '.', '0']) else
    let (number, place) := Shortest.digits m exponent
    let all := (toString number).toList
    let top : Int := place + all.length - 1
    let digits := significant all
    .ofList (sign ++
      if -4 ≤ top ∧ top < 16 then positional digits (top + 1) else scientific digits top)

end Binary64

end HttpDigest
