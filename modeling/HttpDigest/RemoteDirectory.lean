import HttpDigest.Store
import HttpDigest.Text.Blank
import HttpDigest.Text.Surrogates
import HttpDigest.Url
import HttpDigest.Value.Fields

namespace HttpDigest.RemoteDirectory

-- How to reach a directory of users over HTTP. All but the base address is taken as given.
structure Config where
  baseUrl : String
  usersEndpoint : Value
  timeout : Value
  verifySsl : Value
  retryAttempts : Value
  retryBackoff : Value
  apiToken : Value
deriving BEq, Repr

inductive ConfigError where
  | emptyUrl
  | badUrl (url : String)
  | timeoutNotPositive
  | negativeRetries
deriving DecidableEq, Repr

def ConfigError.message : ConfigError → String
  | emptyUrl => "Credential store base_url cannot be empty"
  | badUrl url => "Invalid credential store URL format: " ++ url
  | timeoutNotPositive => "Timeout must be positive"
  | negativeRetries => "Retry attempts must be non-negative"

def ConfigError.failure (e : ConfigError) : Failure :=
  .report { kind := .validation, message := e.message }

-- Whether a number is zero or less, and whether it is less; no other value can be compared
def isAtMostZero : Value → Except Fault Bool
  | .bool b => .ok !b
  | .int n => .ok (n ≤ 0)
  | .real x => .ok (x.isZero || x.isNegative)
  | _ => .error .wrongType

def isBelowZero : Value → Except Fault Bool
  | .bool _ => .ok false
  | .int n => .ok (n < 0)
  | .real x => .ok x.isNegative
  | _ => .error .wrongType

def withSlash (url : String) : String :=
  if url.toList.getLast? = some '/' then url else url ++ "/"

def checkUrl (url : String) : Except Failure Unit :=
  match Url.parse? [] url.toList with
  | none => .error (.fault (.badValue none))
  | some u =>
    if u.scheme.isEmpty || u.authority.isEmpty then .error (ConfigError.badUrl url).failure
    else .ok ()

def fieldNames : List String := [
  "base_url", "users_endpoint", "timeout", "verify_ssl", "retry_attempts",
  "retry_backoff_factor", "api_token"]

def defaultTimeout : Value := .real (.ofDecimal false 5 0)

def defaultBackoff : Value := .real (.ofDecimal false 3 (-1))

def Config.ofFields (fields : OrderedMap String Value) : Except Failure Config := do
  (Value.checkFields fieldNames ["base_url"] fields).mapError .fault
  let base := Value.field fields "base_url"
  if !base.truthy then throw ConfigError.emptyUrl.failure
  let url ← match base with
    | .text s => .ok (withSlash s)
    | .bytes _ => .error (.fault .wrongType)
    | _ => .error (.fault .missingAttribute)
  checkUrl url
  let timeout := Value.field fields "timeout" defaultTimeout
  let retries := Value.field fields "retry_attempts" (.int 2)
  if (← (isAtMostZero timeout).mapError .fault) then
    throw ConfigError.timeoutNotPositive.failure
  if (← (isBelowZero retries).mapError .fault) then throw ConfigError.negativeRetries.failure
  return {
    baseUrl := url
    usersEndpoint := Value.field fields "users_endpoint" (.text "api/users")
    timeout
    verifySsl := Value.field fields "verify_ssl" (.bool true)
    retryAttempts := retries
    retryBackoff := Value.field fields "retry_backoff_factor" defaultBackoff
    apiToken := Value.field fields "api_token" }

def accept : String := "application/json"

def userAgent : String := "digest-auth-verifier/0.1.0"

def authorization? (c : Config) : Option String :=
  if c.apiToken.truthy then some ("Bearer " ++ c.apiToken.plain) else none

def retryStatus : List Int := [429, 500, 502, 503, 504]

def retryMethods : List String := ["GET"]

def endpointPath (c : Config) : Except Fault (List Char) :=
  match c.usersEndpoint with
  | .text endpoint => .ok (Text.trimBoth (· = '/') endpoint.toList)
  | .bytes _ => .error .wrongType
  | _ => .error .missingAttribute

def segmentUrl (c : Config) (segment : List Char) : Except Fault String := do
  let path ← endpointPath c
  match Url.join? c.baseUrl.toList (path ++ '/' :: segment) with
  | some url => return .ofList url
  | none => throw (.badValue none)

def userUrl (c : Config) (username : String) : Except Fault String :=
  segmentUrl c (Url.encodeSegment username)

def userUrlOf (c : Config) (username : Value) : Except Fault String :=
  match username with
  | .text s => userUrl c s
  | .bytes b => segmentUrl c (b.flatMap (Url.encodeByte []))
  | _ => (endpointPath c).bind fun _ => .error .wrongType

-- What comes of reading a body as JSON: a value, a refusal to take it for a document, or a failure
-- of another kind
inductive Payload where
  | value (v : Value)
  | refused (message : String)
  | failed (failure : Failure)
deriving BEq, Repr

inductive Exchange where
  | answered (status : Int) (reason : String) (json : Payload)
  | timedOut
  | disconnected (message : String)
  | failed (message : String)
deriving BEq, Repr

inductive PayloadError where
  | notObject
  | noSecret (username : Value)
deriving BEq, Repr

def PayloadError.report : PayloadError → Report
  | notObject => .storeFailure "Credential response must be a JSON object" "INVALID_RESPONSE"
  | noSecret username =>
    .storeFailure ("Credential response for " ++ username.plain ++ " has no secret")
      "INVALID_RESPONSE"

def credentialOf (username : Value) (payload : Value) : Except Failure (Option Credential) :=
  match payload with
  | .object fields =>
    let data := Value.field fields "data"
    if !data.truthy then .ok none
    else match data with
      | .object inner =>
        let secret := Value.field inner "secret"
        let identity := Value.field inner "identity"
        if secret.isNull then .error (.report (PayloadError.noSecret username).report)
        else match Credential.make (Value.field inner "username" username) secret
            (if identity.truthy then identity else .object []) with
          | .ok c => .ok (some c)
          | .error e => .error (.report e.report)
      | _ => .error (.fault .missingAttribute)
  | _ => .error (.report PayloadError.notObject.report)

-- A report of the directory is part of the contract of stores, every other failure is not
def replyOfFailure : Failure → Reply
  | .report r => if r.kind = .store then .failed r else .broken (.report r)
  | .fault f => .broken (.fault f)

def replyOfPayload (username : String) : Payload → Reply
  | .value payload => match credentialOf username payload with
    | .ok (some c) => .found c
    | .ok none => .nothing
    | .error f => replyOfFailure f
  | .refused message =>
    .failed (.storeFailure ("Invalid JSON response: " ++ message) "INVALID_RESPONSE")
  | .failed failure => .broken failure

def replyOf (c : Config) (username : String) : Exchange → Reply
  | .timedOut => .failed (.storeFailure
      ("Credential lookup timed out after " ++ c.timeout.plain ++ " seconds"))
  | .disconnected message => .failed (.storeFailure ("Connection error: " ++ message))
  | .failed message => .failed (.storeFailure ("Credential lookup failed: " ++ message))
  | .answered status reason json =>
    if status = 404 then .unknownUser (.unknownUsername (.text username))
    else if 400 ≤ status ∧ status < 600 then .failed (.storeFailure
      ("Credential lookup failed: HTTP " ++ toString status ++ ": " ++ reason) "HTTP_ERROR"
      (.int status))
    else replyOfPayload username json

structure Request where
  url : String
  timeout : Value
  verifySsl : Value
deriving BEq, Repr

def Config.request (c : Config) (url : String) : Request :=
  ⟨url, c.timeout, c.verifySsl⟩

structure Network (σ : Type) where
  answer : σ → Request → Exchange
  next : σ → Request → σ

def lookupNote (username url : String) : Log.Line where
  level := .debug
  logger := "digest_auth.verification.stores"
  message := "Looking up credential for user " ++ username ++ " at " ++ url

-- The directory as a store. Without an address for the user nothing is sent.
def store {σ : Type} (c : Config) (network : Network σ) : Store σ where
  reply state username := match userUrl c username with
    | .ok url => replyOf c username (network.answer state (c.request url))
    | .error f => .broken (.fault f)
  log _ username := match userUrl c username with
    | .ok url => [lookupNote username url]
    | .error _ => []
  next state username := match userUrl c username with
    | .ok url => network.next state (c.request url)
    | .error _ => state

def nameFits (s : Surrogates) (c : Config) (username : String) : Except Fault Unit :=
  (endpointPath c).bind fun _ => if s.encodes username then .ok () else .error .unencodable

-- The directory as a store of users whose names are any texts
def storeAny {σ : Type} (s : Surrogates) (c : Config) (network : Network σ) : Store σ where
  reply state username := match nameFits s c username with
    | .ok _ => (store c network).reply state username
    | .error f => .broken (.fault f)
  log state username := match nameFits s c username with
    | .ok _ => (store c network).log state username
    | .error _ => []
  next state username := match nameFits s c username with
    | .ok _ => (store c network).next state username
    | .error _ => state

end HttpDigest.RemoteDirectory
