import HttpDigest.Directives
import HttpDigest.Response

namespace HttpDigest

structure Authorization where
  username : String
  realm : String
  nonce : String
  uri : String
  response : String
  qop : Option String
  nc : Option String
  cnonce : Option String
  opaqueText : Option String
  algorithm : Option String
deriving DecidableEq, Repr

namespace Authorization

def mandatory : List String :=
  ["username", "realm", "nonce", "uri", "response"]

def forAuth : List String :=
  ["nc", "cnonce"]

def missing (names : List String) (directives : OrderedMap String String) : List String :=
  names.filter fun name => !directives.contains name

def missingMandatory (directives : OrderedMap String String) : List String :=
  missing mandatory directives

def missingForQop (directives : OrderedMap String String) : List String :=
  if directives.get? "qop" = some Response.authQop then missing forAuth directives else []

def missingReport (names : List String) : Report where
  kind := .validation
  message := "Missing mandatory digest directives: " ++ ", ".intercalate names
  code := "MISSING_MANDATORY_FIELD"
  details := [("missing", .list (names.map .text))]

def ofDirectives (directives : OrderedMap String String) :
    Except (List String) Authorization :=
  match directives.get? "username", directives.get? "realm", directives.get? "nonce",
      directives.get? "uri", directives.get? "response" with
  | some username, some realm, some nonce, some uri, some response => .ok {
      username, realm, nonce, uri, response
      qop := directives.get? "qop"
      nc := directives.get? "nc"
      cnonce := directives.get? "cnonce"
      opaqueText := directives.get? "opaque"
      algorithm := directives.get? "algorithm" }
  | _, _, _, _, _ => .error (missingMandatory directives)

def known : List String :=
  mandatory ++ "qop" :: forAuth ++ ["opaque", "algorithm"]

def missingValues (names : List String) (directives : OrderedMap String Value) : List String :=
  names.filter fun name => (Value.field directives name).isNull

def missingValuesForQop (directives : OrderedMap String Value) : List String :=
  if (Value.field directives "qop").isText Response.authQop then missingValues forAuth directives
  else []

def ofValues (directives : OrderedMap String Value) :
    Except (List String) (OrderedMap String Value) :=
  match missingValues mandatory directives with
  | [] => .ok (known.map fun name => (name, Value.field directives name))
  | names => .error names

def input (a : Authorization) (hashed : Bool) (secret method : String) : Response.Input where
  hashed := hashed
  username := a.username
  realm := a.realm
  secret := secret
  method := method
  uri := a.uri
  nonce := a.nonce
  qop := .ofText? a.qop
  nc := .ofText? a.nc
  cnonce := .ofText? a.cnonce

end Authorization

-- What a client knows when it answers a challenge. A value that is no text enters the digest
-- in the form in which it is shown, but it cannot be quoted; null stands for what is not known.
structure Client where
  username : Value
  realm : Value
  password : String
  method : String
  uri : Value
  nonce : Value
  qop : Value := .null
  nc : Value := .null
  cnonce : Value := .null
  opaqueText : Value := .null
  hashed : Bool := false

namespace Client

def firstCount : String := "00000001"

-- With `auth` a client that names no count takes the first one
def count (c : Client) : Value :=
  if c.qop.isText Response.authQop && c.nc.isNull then firstCount else c.nc

def plainInput (c : Client) : Response.Input where
  hashed := c.hashed
  username := c.username.plain
  realm := c.realm.plain
  secret := c.password
  method := c.method
  uri := c.uri.plain
  nonce := c.nonce.plain
  qop := c.qop
  nc := c.nc
  cnonce := c.cnonce

def input (c : Client) : Response.Input :=
  { c.plainInput with nc := c.count }

def quote (value : String) : String :=
  .ofList ('"' :: Text.replaceAll ['"'] ['\\', '"'] value.toList ++ ['"'])

def quote? : Value → Except Fault String
  | .text value => .ok (quote value)
  | .bytes _ => .error .wrongType
  | _ => .error .missingAttribute

def parts (c : Client) (response : String) : Except Fault (List String) := do
  let username ← quote? c.username
  let realm ← quote? c.realm
  let nonce ← quote? c.nonce
  let uri ← quote? c.uri
  let always := ["username=" ++ username, "realm=" ++ realm, "nonce=" ++ nonce, "uri=" ++ uri,
    "response=" ++ quote response]
  let echoed ← match c.opaqueText with
    | .null => .ok []
    | text => (quote? text).map fun s => ["opaque=" ++ s]
  let protection ← match c.qop with
    | .null => .ok []
    | qop => (quote? c.cnonce).map fun s =>
      ["qop=" ++ qop.plain, "nc=" ++ c.count.plain, "cnonce=" ++ s]
  return always ++ echoed ++ protection

def header (c : Client) : Except Failure String :=
  match Response.compute c.input with
  | .error e => .error (.report e.report)
  | .ok response => ((parts c response).mapError .fault).map fun ps =>
    Directives.scheme ++ ", ".intercalate ps

end Client

end HttpDigest
