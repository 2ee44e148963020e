import HttpDigest.Text.Utf8
import HttpDigest.Url.Host

namespace HttpDigest

-- The parts of an address. Parameters are what follows a semicolon in the last segment of the
-- path.
structure Url where
  scheme : List Char
  authority : List Char
  path : List Char
  params : List Char
  query : List Char
  fragment : List Char
deriving DecidableEq, Repr

namespace Url

def relativeSchemes : List String := [
  "", "ftp", "http", "gopher", "nntp", "imap", "wais", "file", "https", "shttp", "mms",
  "prospero", "rtsp", "rtsps", "rtspu", "sftp", "svn", "svn+ssh", "ws", "wss"]

def authoritySchemes : List String := [
  "", "ftp", "http", "gopher", "nntp", "telnet", "imap", "wais", "file", "mms", "https",
  "shttp", "snews", "prospero", "rtsp", "rtsps", "rtspu", "rsync", "svn", "svn+ssh", "sftp",
  "nfs", "git", "git+ssh", "ws", "wss"]

def paramSchemes : List String := [
  "", "ftp", "hdl", "prospero", "http", "imap", "https", "shttp", "rtsp", "rtsps", "rtspu",
  "sip", "sips", "mms", "sftp", "tel"]

def isIn (scheme : List Char) (schemes : List String) : Bool :=
  schemes.contains (String.ofList scheme)

-- Control characters and blanks before the address do not count, nor do line breaks and tabs
-- within it
def clean (cs : List Char) : List Char :=
  (cs.dropWhile fun c => c ≤ ' ').filter fun c => c != '\t' && c != '\r' && c != '\n'

def isSchemeChar (c : Char) : Bool :=
  c.isAlphanum || c = '+' || c = '-' || c = '.'

def splitScheme (default cs : List Char) : List Char × List Char :=
  let head := cs.takeWhile (· != ':')
  match cs.drop head.length with
  | _ :: rest =>
    if head.all isSchemeChar && (head.head?.any Char.isAlpha) then
      (head.map Char.toLower, rest)
    else (default, cs)
  | [] => (default, cs)

def splitAuthority (cs : List Char) : List Char × List Char :=
  match cs with
  | '/' :: '/' :: rest =>
    let authority := rest.takeWhile fun c => c != '/' && c != '?' && c != '#'
    (authority, rest.drop authority.length)
  | _ => ([], cs)

def splitParams (cs : List Char) : List Char × List Char :=
  let segment := (cs.reverse.takeWhile (· != '/')).reverse
  let before := cs.take (cs.length - segment.length)
  let (head, params) := cutAt ';' segment
  (before ++ head, params)

-- The parts of an address, parameters left in the path; an authority with brackets or disguised
-- delimiters has to be valid
def split? (default text : List Char) : Option Url :=
  let (scheme, rest) := splitScheme default (clean text)
  let (authority, rest) := splitAuthority rest
  let (rest, fragment) := cutAt '#' rest
  let (path, query) := cutAt '?' rest
  if authorityFits authority then
    some { scheme, authority, path, params := [], query, fragment }
  else none

def parse? (default text : List Char) : Option Url :=
  (split? default text).map fun u =>
    if isIn u.scheme paramSchemes then
      let (path, params) := splitParams u.path
      { u with path, params }
    else u

def write (u : Url) : List Char :=
  let path := if u.params.isEmpty then u.path else u.path ++ ';' :: u.params
  let rooted :=
    if !u.authority.isEmpty || (!u.scheme.isEmpty && isIn u.scheme authoritySchemes)
        || path.take 2 = ['/', '/'] then
      let path := if !path.isEmpty && path.head? != some '/' then '/' :: path else path
      '/' :: '/' :: u.authority ++ path
    else path
  let full := if u.scheme.isEmpty then rooted else u.scheme ++ ':' :: rooted
  let full := if u.query.isEmpty then full else full ++ '?' :: u.query
  if u.fragment.isEmpty then full else full ++ '#' :: u.fragment

-- The segments without steps to the parent or to the place itself. A step above the first
-- segment is ignored.
def resolve (segments : List (List Char)) : List (List Char) :=
  segments.foldl (fun done segment =>
    if segment = ['.', '.'] then done.dropLast
    else if segment = ['.'] then done
    else done ++ [segment]) []

def dropEmptyWithin (segments : List (List Char)) : List (List Char) :=
  match segments with
  | [] => []
  | first :: rest => match rest.getLast? with
    | none => [first]
    | some last => first :: rest.dropLast.filter (!·.isEmpty) ++ [last]

-- The segments of a path that is relative to a base: the base's last segment gives way, unless
-- it is empty
def segments (base path : List Char) : List (List Char) :=
  if path.head? = some '/' then path.splitOn '/'
  else
    let parts := base.splitOn '/'
    let parts := if (parts.getLastD []).isEmpty then parts else parts.dropLast
    dropEmptyWithin (parts ++ path.splitOn '/')

def mergePath (base path : List Char) : List Char :=
  let all := segments base path
  let last := all.getLastD []
  let resolved := resolve all ++ (if last = ['.'] || last = ['.', '.'] then [[]] else [])
  let joined := ['/'].intercalate resolved
  if joined.isEmpty then ['/'] else joined

def join? (base target : List Char) : Option (List Char) :=
  if base.isEmpty then some target
  else if target.isEmpty then some base
  else do
    let b ← parse? [] base
    let t ← parse? b.scheme target
    if t.scheme ≠ b.scheme || !isIn t.scheme relativeSchemes then some target
    else if isIn t.scheme authoritySchemes && !t.authority.isEmpty then some t.write
    else
      let authority := if isIn t.scheme authoritySchemes then b.authority else t.authority
      if t.path.isEmpty && t.params.isEmpty then
        some (write { t with
          authority
          path := b.path
          params := b.params
          query := if t.query.isEmpty then b.query else t.query })
      else some (write { t with authority, path := mergePath b.path t.path })

def isUnreserved (b : UInt8) : Bool :=
  let c := Char.ofNat b.toNat
  c.isAlphanum || c = '_' || c = '.' || c = '-' || c = '~'

def encodeByte (safe : List Char) (b : UInt8) : List Char :=
  if isUnreserved b || safe.contains (Char.ofNat b.toNat) then [Char.ofNat b.toNat]
  else '%' :: (Text.hexDigits 2 b.toNat).map Char.toUpper

def encode (safe cs : List Char) : List Char :=
  (Text.Utf8.encode cs).flatMap (encodeByte safe)

def encodeSegment (s : String) : List Char :=
  encode [] s.toList

def decode : List Char → List UInt8
  | [] => []
  | '%' :: a :: b :: rest =>
    match Text.hexValue? a, Text.hexValue? b with
    | some high, some low => UInt8.ofNat (16 * high + low) :: decode rest
    | _, _ => 0x25 :: decode (a :: b :: rest)
  | c :: rest => Text.Utf8.encode [c] ++ decode rest

end Url

end HttpDigest
