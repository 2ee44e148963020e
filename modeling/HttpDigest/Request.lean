import HttpDigest.Credential
import HttpDigest.Text.Case
import HttpDigest.Url

namespace HttpDigest

-- The headers of a request: pairs as they came, a table that knows no case, or a thing in which
-- nothing can be looked up
inductive Request.Headers where
  | pairs (entries : List (String × Value))
  | table (entries : List (String × Value))
  | sealed
deriving BEq, Repr

inductive Request.Address where
  | text (s : String)
  | parts (path query : Option Value)
deriving BEq, Repr

-- A request as a framework hands it over. What is none is not there at all; a value that is
-- there may still be null. Some types of request take nothing new; their name stands here.
structure Request where
  headers : Option Request.Headers := none
  environ : Option (List (String × Value)) := none
  method : Option Value := none
  path : Option Value := none
  query : Option Value := none
  address : Option Request.Address := none
  fullPath : Option Value := none
  hasState : Bool := false
  frozenType : Option String := none
  identity : Option (Option Credential) := none
deriving BEq, Repr

namespace Request

def findIgnoringCase (name : String) (entries : List (String × Value)) : Option Value :=
  (entries.find? fun e => Text.lower e.1 = name).map Prod.snd

-- The value of the authorization header: from the headers if anything can be looked up in them,
-- else from the environment
def authorization (r : Request) : Value :=
  let fromEnviron := match r.environ with
    | some entries => (OrderedMap.get? entries "HTTP_AUTHORIZATION").getD .null
    | none => .null
  match r.headers with
  | some (.pairs entries) => (findIgnoringCase "authorization" entries).getD .null
  | some (.table entries) => (findIgnoringCase "authorization" entries).getD .null
  | some .sealed => fromEnviron
  | none => fromEnviron

def methodName (r : Request) : String :=
  Text.upper (r.method.getD (.text "GET")).plain

def withQuery (path query : Value) : Except Fault Value :=
  match path with
  | .text path => .ok (.text (if query.truthy then path ++ "?" ++ query.plain else path))
  | _ => .error .wrongType

-- Bytes of a query stand for the first 256 characters
def queryText : Value → Value
  | .bytes b => .text (.ofList (b.map fun x => Char.ofNat x.toNat))
  | v => v

def ofAddress (address : String) : Except Fault Value :=
  match Url.parse? [] address.toList with
  | some u => withQuery (.text (.ofList u.path)) (.text (.ofList u.query))
  | none => .error (.badValue none)

def plainUri (r : Request) : Except Fault Value :=
  match r.path.getD .null with
  | .null => match r.address with
    | some (.text s) => ofAddress s
    | _ => .ok (.text "")
  | path => withQuery path (queryText (r.query.getD (.bytes [])))

-- Path and query of a request, from the first of these that it has: a full path, an address in
-- parts, a path, an address as a text
def uri (r : Request) : Except Fault Value :=
  match r.fullPath with
  | some v => .ok v
  | none => match r.address with
    | some (.parts (some path) (some query)) => withQuery path query
    | _ => plainUri r

def acceptsIdentity (r : Request) : Bool :=
  r.hasState || r.frozenType.isNone

def attach (r : Request) (identity : Option Credential) : Request :=
  if r.acceptsIdentity then { r with identity := some identity } else r

end Request

end HttpDigest
