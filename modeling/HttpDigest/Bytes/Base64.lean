namespace HttpDigest.Base64

def symbol (n : Nat) : Char :=
  if n < 26 then Char.ofNat (65 + n)
  else if n < 52 then Char.ofNat (71 + n)
  else if n < 62 then Char.ofNat (n - 4)
  else if n = 62 then '+' else '/'

def value? (c : Char) : Option Nat :=
  if 'A' ≤ c && c ≤ 'Z' then some (c.toNat - 65)
  else if 'a' ≤ c && c ≤ 'z' then some (c.toNat - 71)
  else if '0' ≤ c && c ≤ '9' then some (c.toNat + 4)
  else if c = '+' then some 62
  else if c = '/' then some 63
  else none

theorem value?_symbol {n : Nat} (h : n < 64) : value? (symbol n) = some n := by
  have : ∀ k : Fin 64, value? (symbol k.val) = some k.val := by decide
  exact this ⟨n, h⟩

def encode : List UInt8 → List Char
  | [] => []
  | [a] => [symbol (a.toNat / 4), symbol (a.toNat % 4 * 16), '=', '=']
  | [a, b] =>
    [symbol (a.toNat / 4), symbol (a.toNat % 4 * 16 + b.toNat / 16),
      symbol (b.toNat % 16 * 4), '=']
  | a :: b :: c :: rest =>
    symbol (a.toNat / 4) :: symbol (a.toNat % 4 * 16 + b.toNat / 16) ::
      symbol (b.toNat % 16 * 4 + c.toNat / 64) :: symbol (c.toNat % 64) :: encode rest

-- The bytes of a sequence of six bit values; bits that fill no byte are dropped
def ofSextets : List Nat → List UInt8
  | a :: b :: c :: d :: rest =>
    UInt8.ofNat (a * 4 + b / 16) :: UInt8.ofNat (b % 16 * 16 + c / 4) ::
      UInt8.ofNat (c % 4 * 64 + d) :: ofSextets rest
  | [a, b, c] => [UInt8.ofNat (a * 4 + b / 16), UInt8.ofNat (b % 16 * 16 + c / 4)]
  | [a, b] => [UInt8.ofNat (a * 4 + b / 16)]
  | _ => []

-- How much padding may follow so many characters of the alphabet: exactly what fills the last
-- four, and any amount, of which nothing is read, behind full fours
def paddingFits (symbols padding : Nat) : Bool :=
  match symbols % 4 with
  | 0 => 0 < symbols || padding == 0
  | 2 => padding == 2
  | 3 => padding == 1
  | _ => false

def decode? (cs : List Char) : Option (List UInt8) :=
  let symbols := cs.takeWhile (· != '=')
  let padding := cs.dropWhile (· != '=')
  if padding.all (· == '=') && paddingFits symbols.length padding.length then
    (symbols.mapM value?).map ofSextets
  else none

def encodeUrlSafe (bytes : List UInt8) : List Char :=
  ((encode bytes).filter (· != '=')).map fun c =>
    if c = '+' then '-' else if c = '/' then '_' else c

end HttpDigest.Base64
