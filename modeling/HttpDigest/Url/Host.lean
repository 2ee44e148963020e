import HttpDigest.Text.Hex

namespace HttpDigest.Url

-- One to three decimal digits, without a leading zero, for a number up to 255
def isOctet (cs : List Char) : Bool :=
  1 ≤ cs.length && cs.length ≤ 3 && cs.all (fun c => '0' ≤ c && c ≤ '9')
    && (cs == ['0'] || cs.head? != some '0')
    && cs.foldl (fun n c => 10 * n + (c.toNat - 48)) 0 ≤ 255

def isIpv4 (cs : List Char) : Bool :=
  let parts := cs.splitOn '.'
  parts.length == 4 && parts.all isOctet

def isHextet (cs : List Char) : Bool :=
  1 ≤ cs.length && cs.length ≤ 4 && cs.all fun c => (Text.hexValue? c).isSome

-- The parts of an address of version 6, where an address of version 4 at the end counts as two
-- parts
def ipv6Parts? (cs : List Char) : Option (List (List Char)) :=
  let parts := cs.splitOn ':'
  let last := parts.getLastD []
  if parts.length < 3 then none
  else if last.contains '.' then
    if isIpv4 last then some (parts.dropLast ++ [['0'], ['0']]) else none
  else some parts

-- The numbers of the parts between the ends that are empty
def gaps (parts : List (List Char)) : List Nat :=
  (List.range parts.length).filter fun i =>
    0 < i && i + 1 < parts.length && (parts.getD i []).isEmpty

-- Parts on one side of the gap. An empty one may stand at the end of the address, and then it
-- stands alone.
def sideFits (atEnd : List Char) (side : List (List Char)) : Bool :=
  if atEnd.isEmpty then side.length == 1 else side.all isHextet

def sideCount (atEnd : List Char) (side : List (List Char)) : Nat :=
  if atEnd.isEmpty then 0 else side.length

def partsFit (parts : List (List Char)) : Bool :=
  match gaps parts with
  | [] => parts.length == 8 && parts.all isHextet
  | [i] =>
    let high := parts.take i
    let low := parts.drop (i + 1)
    let first := parts.headD []
    let last := parts.getLastD []
    parts.length ≤ 9 && sideFits first high && sideFits last low
      && sideCount first high + sideCount last low ≤ 7
  | _ => false

-- A zone may follow the address behind a percent sign
def isIpv6 (cs : List Char) : Bool :=
  let address := cs.takeWhile (· != '%')
  let zone := cs.dropWhile (· != '%')
  let zoneFits := match zone with
    | [] => true
    | _ :: name => !name.isEmpty && !name.contains '%'
  zoneFits && match ipv6Parts? address with
    | some parts => partsFit parts
    | none => false

def isLaterAddress (cs : List Char) : Bool :=
  match cs with
  | 'v' :: rest =>
    let version := rest.takeWhile fun c => (Text.hexValue? c).isSome
    match rest.drop version.length with
    | '.' :: tail => !version.isEmpty && !tail.isEmpty
    | _ => false
  | _ => false

def isBracketed (cs : List Char) : Bool :=
  if cs.head? = some 'v' then isLaterAddress cs else isIpv6 cs

-- The characters whose compatibility form holds a delimiter: / ? # @ or :
def disguised : List Nat := [
    0x2047, 0x2048, 0x2049, 0x2100, 0x2101, 0x2105, 0x2106, 0x2a74, 0xfe13, 0xfe16,
    0xfe55, 0xfe56, 0xfe5f, 0xfe6b, 0xff03, 0xff0f, 0xff1a, 0xff1f, 0xff20]

-- The name of the host behind the last @ of an authority. Brackets around it leave room for a
-- port behind them and for nothing else.
def hostName? (authority : List Char) : Option (List Char) :=
  let host := (authority.reverse.takeWhile (· != '@')).reverse
  if host.contains '[' then
    match host with
    | '[' :: rest =>
      let name := rest.takeWhile (· != ']')
      match rest.drop (name.length + 1) with
      | [] => some name
      | ':' :: _ => some name
      | _ => none
    | _ => none
  else some (host.takeWhile (· != ':'))

def cutAt (mark : Char) (cs : List Char) : List Char × List Char :=
  let head := cs.takeWhile (· != mark)
  (head, cs.drop (head.length + 1))

-- Brackets come in pairs, and an authority that has them names its host by an address. No
-- delimiter hides in a character.
def authorityFits (cs : List Char) : Bool :=
  let bracketsFit :=
    if cs.contains '[' && cs.contains ']' then (hostName? cs).any isBracketed
    else !cs.contains '[' && !cs.contains ']'
  bracketsFit && cs.all fun c => !disguised.contains c.toNat

end HttpDigest.Url
