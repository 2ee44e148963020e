import HttpDigest.Bytes.Md5
import HttpDigest.Failure
import HttpDigest.Text.Surrogates

namespace HttpDigest.Response

def authQop : String := "auth"

-- The hash of a user's secret, which a store may keep in place of the secret
def ha1 (username realm secret : String) : String :=
  Md5.hex (username ++ ":" ++ realm ++ ":" ++ secret)

def ha1OfValue (username realm secret : Value) (hashed : Bool) : Value :=
  if hashed then secret else .text (ha1 username.plain realm.plain secret.plain)

def ha2 (method uri : String) : String :=
  Md5.hex (method ++ ":" ++ uri)

-- What a response digest is computed from. The last three values are null if not given.
structure Input where
  hashed : Bool
  username : String
  realm : String
  secret : String
  method : String
  uri : String
  nonce : String
  qop : Value
  nc : Value
  cnonce : Value

inductive Error where
  | unsupportedQop (qop : Value)
  | incomplete (nc cnonce : Value)
deriving BEq, Repr

def Error.report : Error → Report
  | unsupportedQop qop => {
      kind := .digestInput
      message := "Unsupported qop: '" ++ qop.plain ++ "'"
      code := "UNSUPPORTED_QOP"
      details := [("qop", qop)] }
  | incomplete nc cnonce => {
      kind := .digestInput
      message := "qop=auth requires both nc and cnonce"
      code := "MISSING_AUTH_FIELD"
      details := [("nc", nc), ("cnonce", cnonce)] }

def userHash (i : Input) : String :=
  if i.hashed then i.secret else ha1 i.username i.realm i.secret

-- The text whose hash is the response. Without a quality of protection the form is the older
-- one of three parts, with `auth` the form of six parts.
def form (h1 h2 : String) (i : Input) : Except Error String :=
  if i.qop.isNull then .ok (h1 ++ ":" ++ i.nonce ++ ":" ++ h2)
  else if !i.qop.isText authQop then .error (.unsupportedQop i.qop)
  else if i.nc.isNull || i.cnonce.isNull then .error (.incomplete i.nc i.cnonce)
  else .ok (h1 ++ ":" ++ i.nonce ++ ":" ++ i.nc.plain ++ ":" ++ i.cnonce.plain ++ ":" ++ authQop
    ++ ":" ++ h2)

def subject (i : Input) : Except Error String :=
  form (userHash i) (ha2 i.method i.uri) i

def compute (i : Input) : Except Error String :=
  (subject i).map Md5.hex

def hash (s : Surrogates) (text : String) : Except Failure String :=
  if s.encodes text then .ok (Md5.hex text) else .error (.fault .unencodable)

def userHashAny (s : Surrogates) (i : Input) : Except Failure String :=
  if i.hashed then .ok i.secret else hash s (i.username ++ ":" ++ i.realm ++ ":" ++ i.secret)

def computeAny (s : Surrogates) (i : Input) : Except Failure String := do
  let h1 ← userHashAny s i
  let h2 ← hash s (i.method ++ ":" ++ i.uri)
  let text ← (form h1 h2 i).mapError fun e => .report e.report
  hash s text

end HttpDigest.Response
