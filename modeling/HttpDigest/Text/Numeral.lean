import HttpDigest.Text.Blank

namespace HttpDigest.Text

namespace Numeral

-- The zeros of the decimal digit blocks of Unicode 14; a block holds ten digits in order
def zeros : List Nat := [
    0x30, 0x660, 0x6f0, 0x7c0, 0x966, 0x9e6, 0xa66, 0xae6, 0xb66, 0xbe6, 0xc66, 0xce6, 0xd66,
    0xde6, 0xe50, 0xed0, 0xf20, 0x1040, 0x1090, 0x17e0, 0x1810, 0x1946, 0x19d0, 0x1a80, 0x1a90,
    0x1b50, 0x1bb0, 0x1c40, 0x1c50, 0xa620, 0xa8d0, 0xa900, 0xa9d0, 0xa9f0, 0xaa50, 0xabf0,
    0xff10, 0x104a0, 0x10d30, 0x11066, 0x110f0, 0x11136, 0x111d0, 0x112f0, 0x11450, 0x114d0,
    0x11650, 0x116c0, 0x11730, 0x118e0, 0x11950, 0x11c50, 0x11d50, 0x11da0, 0x16a60, 0x16ac0,
    0x16b50, 0x1d7ce, 0x1d7d8, 0x1d7e2, 0x1d7ec, 0x1d7f6, 0x1e140, 0x1e2f0, 0x1e950, 0x1fbf0]

def digit? (c : Char) : Option Nat :=
  (zeros.find? fun first => first ≤ c.toNat && c.toNat < first + 10).map (c.toNat - ·)

-- Longer numerals are refused
def maxDigits : Nat := 4300

def ofDigits (digits : List Nat) : Nat :=
  digits.foldl (fun n d => 10 * n + d) 0

-- Digits, with at most one underscore between two of them.
-- `afterDigit` tells whether the character before was a digit.
def digits? : Bool → List Char → List Nat → Option (List Nat)
  | afterDigit, [], done => if afterDigit then some done.reverse else none
  | afterDigit, c :: rest, done =>
    if c = '_' then if afterDigit then digits? false rest done else none
    else match digit? c with
      | some d => digits? true rest (d :: done)
      | none => none

def natural? (cs : List Char) : Option Nat :=
  (digits? false cs []).bind fun digits =>
    if digits.length ≤ maxDigits then some (ofDigits digits) else none

def integer? : List Char → Option Int
  | '-' :: rest => (natural? rest).map fun n => -(n : Int)
  | '+' :: rest => (natural? rest).map Int.ofNat
  | cs => (natural? cs).map Int.ofNat

end Numeral

-- The integer that a text denotes: a decimal numeral between white space, with an optional
-- sign, single underscores between digits, and digits of any script.
def integer? (text : String) : Option Int :=
  Numeral.integer? (trimBoth isWhiteSpace text.toList)

def integerOfBytes? (bytes : List UInt8) : Option Int :=
  if bytes.all (· < 0x80) then integer? (.ofList (bytes.map fun b => Char.ofNat b.toNat))
  else none

end HttpDigest.Text
