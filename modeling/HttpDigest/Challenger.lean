import HttpDigest.Log
import HttpDigest.Outcome
import HttpDigest.Response

namespace HttpDigest

structure Challenger where
  realm : Value
  qop : Value
  opaqueText : Value
deriving BEq, Repr

namespace Challenger

inductive Error where
  | emptyRealm
  | noSupplier
  | notRefused (status : Outcome.Status)
deriving DecidableEq, Repr

def Error.report : Error → Report
  | emptyRealm => {
      kind := .validation
      message := "Realm name cannot be empty"
      code := "INVALID_CONFIG" }
  | noSupplier => {
      kind := .validation
      message := "A nonce supplier is required"
      code := "INVALID_CONFIG" }
  | notRefused status => {
      kind := .validation
      message := "Cannot challenge a request with status " ++ status.name
      code := "INVALID_OUTCOME" }

def make (realm : Value) (hasSupplier : Bool) (qop opaqueText : Value) :
    Except Error Challenger :=
  if !realm.truthy then .error .emptyRealm
  else if !hasSupplier then .error .noSupplier
  else .ok { realm, qop, opaqueText }

def directive (name : String) (value : Value) : List String :=
  if value.truthy then [name ++ "=\"" ++ value.plain ++ "\""] else []

-- The challenge around a nonce. Values are put between quotes as they are.
def header (c : Challenger) (nonce : String) (stale : Bool) : String :=
  "Digest " ++ ", ".intercalate (["realm=\"" ++ c.realm.plain ++ "\""]
    ++ directive "qop" c.qop ++ ["nonce=\"" ++ nonce ++ "\""]
    ++ directive "opaque" c.opaqueText ++ if stale then ["stale=true"] else [])

structure Reply where
  status : Nat
  headers : OrderedMap String String
  body : Value
deriving BEq, Repr

def challengeHeader : String := "WWW-Authenticate"

def challenge (c : Challenger) (nonce : String) (message : Value) (stale : Bool) :
    Reply where
  status := 401
  headers := [(challengeHeader, c.header nonce stale)]
  body := message.orElse "Unauthorized"

def internalError : Reply where
  status := 500
  headers := []
  body := "Internal authentication error"

def note (level : Log.Level) (message : String) : Log.Line where
  level := level
  logger := "digest_auth.verification.entry_point"
  message := message

-- What to do about an outcome: an error is told to nobody but the log, a refusal is answered
-- by a challenge, and nothing else can be answered
inductive Step where
  | fail (line : Log.Line)
  | ask (line : Log.Line) (message : Value) (stale : Bool)
  | refuse (failure : Failure)

def step (o : Outcome) : Step :=
  match o.status with
  | .error =>
    .fail (note .error ("Digest verification failed internally: " ++ o.message.plain))
  | .rejected => match o.reason with
    | some reason =>
      .ask (note .debug ("Challenging client (" ++ reason.code ++ ")")) o.message o.isStale
    | none => .refuse (.fault .missingAttribute)
  | status => .refuse (.report (Error.notRefused status).report)

structure Supplier (ν : Type) where
  nonce : ν → String
  next : ν → ν

-- The response to an outcome that was refused or failed. A nonce is taken for a challenge only.
def commence {ν : Type} (c : Challenger) (supplier : Supplier ν) (nonces : ν) (o : Outcome) :
    Except Failure Reply × ν × List Log.Line :=
  match step o with
  | .fail line => (.ok internalError, nonces, [line])
  | .ask line message stale =>
    (.ok (c.challenge (supplier.nonce nonces) message stale), supplier.next nonces, [line])
  | .refuse f => (.error f, nonces, [])

end Challenger

end HttpDigest
