import HttpDigest.Interpreter
import HttpDigest.Text.Hex
import HttpDigest.Text.Numeral

namespace HttpDigest.Json

inductive ReadError where
  | malformed
  | longNumeral
  | tooDeep
deriving DecidableEq, Repr

abbrev Result (α : Type) := Except ReadError (α × List Char)

def skipBlank (cs : List Char) : List Char :=
  cs.dropWhile fun c => c = ' ' || c = '\t' || c = '\n' || c = '\r'

def codeUnit? : List Char → Option (Nat × List Char)
  | a :: b :: c :: d :: rest => do
    let a ← Text.hexValue? a
    let b ← Text.hexValue? b
    let c ← Text.hexValue? c
    let d ← Text.hexValue? d
    return (((a * 16 + b) * 16 + c) * 16 + d, rest)
  | _ => none

-- The character of one code unit, or of two that form a surrogate pair, or what stands for a
-- surrogate without one
def codePoint? (s : Surrogates) (cs : List Char) : Option (Char × List Char) :=
  match codeUnit? cs with
  | none => none
  | some (high, rest) =>
    if 0xd800 ≤ high && high < 0xdc00 then
      match rest with
      | '\\' :: 'u' :: after => match codeUnit? after with
        | some (low, rest') =>
          if 0xdc00 ≤ low && low < 0xe000 then
            some (Char.ofNat (0x10000 + (high - 0xd800) * 0x400 + (low - 0xdc00)), rest')
          else some (s.standIn high, rest)
        | none => none
      | _ => some (s.standIn high, rest)
    else if 0xdc00 ≤ high && high < 0xe000 then some (s.standIn high, rest)
    else some (Char.ofNat high, rest)

def escaped? : Char → Option Char
  | '"' => some '"'
  | '\\' => some '\\'
  | '/' => some '/'
  | 'b' => some '\x08'
  | 'f' => some '\x0c'
  | 'n' => some '\n'
  | 'r' => some '\r'
  | 't' => some '\t'
  | _ => none

-- A quoted text, from behind its opening quote. Every step takes at least one character.
def quoted (s : Surrogates) : Nat → List Char → List Char → Result String
  | 0, _, _ => .error .malformed
  | fuel + 1, cs, done => match cs with
    | [] => .error .malformed
    | '"' :: rest => .ok (String.ofList done.reverse, rest)
    | '\\' :: 'u' :: rest => match codePoint? s rest with
      | some (c, rest) => quoted s fuel rest (c :: done)
      | none => .error .malformed
    | '\\' :: c :: rest => match escaped? c with
      | some c => quoted s fuel rest (c :: done)
      | none => .error .malformed
    | c :: rest =>
      if c.toNat < 0x20 || c = '\\' then .error .malformed else quoted s fuel rest (c :: done)

def textAfterQuote (s : Surrogates) (cs : List Char) : Result String :=
  quoted s (cs.length + 1) cs []

def isDigit (c : Char) : Bool :=
  '0' ≤ c && c ≤ '9'

def digitValues (cs : List Char) : List Nat :=
  cs.map fun c => c.toNat - 48

def wholePart? : List Char → Option (List Char × List Char)
  | '0' :: rest => some (['0'], rest)
  | cs =>
    let digits := cs.takeWhile isDigit
    if digits.isEmpty then none else some (digits, cs.dropWhile isDigit)

-- The digits behind a point; without digits the point does not belong to the number
def fraction (cs : List Char) : List Char × List Char :=
  match cs with
  | '.' :: rest =>
    let digits := rest.takeWhile isDigit
    if digits.isEmpty then ([], cs) else (digits, rest.dropWhile isDigit)
  | _ => ([], cs)

def power? (cs : List Char) : Option Int × List Char :=
  match cs with
  | c :: rest =>
    if c = 'e' || c = 'E' then
      let (negative, body) := match rest with
        | '-' :: body => (true, body)
        | '+' :: body => (false, body)
        | body => (false, body)
      let digits := body.takeWhile isDigit
      if digits.isEmpty then (none, cs)
      else
        let n : Int := Text.Numeral.ofDigits (digitValues digits)
        (some (if negative then -n else n), body.dropWhile isDigit)
    else (none, cs)
  | [] => (none, cs)

-- A number without its sign: an integer, unless it has a fraction or a power
def number (negative : Bool) (cs : List Char) : Result Value :=
  match wholePart? cs with
  | none => .error .malformed
  | some (whole, afterWhole) =>
    let (decimals, afterFraction) := fraction afterWhole
    let (exponent, rest) := power? afterFraction
    if decimals.isEmpty && exponent.isNone then
      if whole.length > Text.Numeral.maxDigits then .error .longNumeral
      else
        let n : Int := Text.Numeral.ofDigits (digitValues whole)
        .ok (.int (if negative then -n else n), rest)
    else
      let digits := Text.Numeral.ofDigits (digitValues (whole ++ decimals))
      .ok (.real (.ofDecimal negative digits (exponent.getD 0 - decimals.length)), rest)

def word? (cs : List Char) : Option (Value × List Char) :=
  match cs with
  | 'n' :: 'u' :: 'l' :: 'l' :: rest => some (.null, rest)
  | 't' :: 'r' :: 'u' :: 'e' :: rest => some (.bool true, rest)
  | 'f' :: 'a' :: 'l' :: 's' :: 'e' :: rest => some (.bool false, rest)
  | 'N' :: 'a' :: 'N' :: rest => some (.real .nan, rest)
  | 'I' :: 'n' :: 'f' :: 'i' :: 'n' :: 'i' :: 't' :: 'y' :: rest =>
    some (.real (.infinity false), rest)
  | '-' :: 'I' :: 'n' :: 'f' :: 'i' :: 'n' :: 'i' :: 't' :: 'y' :: rest =>
    some (.real (.infinity true), rest)
  | _ => none

mutual

-- One value, from its first character on. `room` tells how many levels it may open.
def value (s : Surrogates) : Nat → Nat → List Char → Result Value
  | 0, _, _ => .error .malformed
  | fuel + 1, room, cs => match word? cs with
    | some found => .ok found
    | none => match cs with
      | '"' :: rest => match textAfterQuote s rest with
        | .ok (text, rest) => .ok (.text text, rest)
        | .error e => .error e
      | '[' :: rest => match room, skipBlank rest with
        | 0, _ => .error .tooDeep
        | _ + 1, ']' :: rest => .ok (.list [], rest)
        | room + 1, rest => items s fuel room rest []
      | '\x7b' :: rest => match room, skipBlank rest with
        | 0, _ => .error .tooDeep
        | _ + 1, '\x7d' :: rest => .ok (.object [], rest)
        | room + 1, rest => members s fuel room rest []
      | '-' :: rest => number true rest
      | _ => number false cs

def items (s : Surrogates) : Nat → Nat → List Char → List Value → Result Value
  | 0, _, _, _ => .error .malformed
  | fuel + 1, room, cs, done => match value s fuel room cs with
    | .error e => .error e
    | .ok (v, rest) => match skipBlank rest with
      | ']' :: rest => .ok (.list (v :: done).reverse, rest)
      | ',' :: rest => items s fuel room (skipBlank rest) (v :: done)
      | _ => .error .malformed

-- The members of an object, from the first character of one of them on.
-- Of a repeated name the last value counts.
def members (s : Surrogates) : Nat → Nat → List Char → List (String × Value) → Result Value
  | 0, _, _, _ => .error .malformed
  | fuel + 1, room, cs, done => match cs with
    | '"' :: rest => match textAfterQuote s rest with
      | .error e => .error e
      | .ok (name, rest) => match skipBlank rest with
        | ':' :: rest => match value s fuel room (skipBlank rest) with
          | .error e => .error e
          | .ok (v, rest) => match skipBlank rest with
            | '\x7d' :: rest => .ok (.object (OrderedMap.ofList ((name, v) :: done).reverse), rest)
            | ',' :: rest => members s fuel room (skipBlank rest) ((name, v) :: done)
            | _ => .error .malformed
        | _ => .error .malformed
    | _ => .error .malformed

end

-- A document is one value between blanks. Every second call takes a character, so the fuel
-- cannot run out.
def read (i : Interpreter) (document : String) : Except ReadError Value :=
  let cs := skipBlank document.toList
  match value i.surrogates (2 * cs.length + 2) i.depth cs with
  | .error e => .error e
  | .ok (v, rest) => if (skipBlank rest).isEmpty then .ok v else .error .malformed

end HttpDigest.Json
