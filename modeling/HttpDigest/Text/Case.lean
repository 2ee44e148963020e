import HttpDigest.Text.Ranges
import HttpDigest.Text.Case.Tables

namespace HttpDigest.Text

namespace Case

def shift : List Row → Nat → Nat
  | [], n => n
  | (first, last, step, image) :: rest, n =>
    if first ≤ n && n ≤ last && (n - first) % step == 0 then image + (n - first)
    else shift rest n

def convert (rows : List Row) (expansions : List (Nat × List Nat)) (c : Char) : List Char :=
  match expansions.lookup c.toNat with
  | some codes => codes.map Char.ofNat
  | none => [Char.ofNat (shift rows c.toNat)]

def lowerChar (c : Char) : List Char :=
  if c.toNat < 0x80 then [c.toLower] else convert lowerRows lowerExpansions c

def upperChar (c : Char) : List Char :=
  if c.toNat < 0x80 then [c.toUpper] else convert upperRows upperExpansions c

-- Whether the nearest character that is not ignorable is cased
def nextIsCased (cs : List Char) : Bool :=
  match cs.dropWhile fun c => inRanges ignorable c.toNat with
  | [] => false
  | c :: _ => inRanges cased c.toNat

-- A capital sigma ends a word if a cased character stands before it and none after it.
-- `before` holds the characters before it, the nearest first.
def lowerSigma (before after : List Char) : Char :=
  if nextIsCased before && !nextIsCased after then 'ς' else 'σ'

def lowerFrom : List Char → List Char → List Char → List Char
  | _, [], done => done.reverse
  | before, c :: after, done =>
    let image := if c = 'Σ' then [lowerSigma before after] else lowerChar c
    lowerFrom (c :: before) after (image.reverse ++ done)

end Case

-- The text in lower case by the full mappings, with the final form of a sigma
def lower (text : String) : String :=
  .ofList (Case.lowerFrom [] text.toList [])

def upper (text : String) : String :=
  .ofList (text.toList.flatMap Case.upperChar)

end HttpDigest.Text
