import HttpDigest.Cache
import HttpDigest.Config
import HttpDigest.Json.Reader
import HttpDigest.Keyring
import HttpDigest.LogSetup

namespace HttpDigest

structure Settings.KeyringReference where
  service : Value
  name : Value
deriving BEq, Repr

structure Settings where
  realm : Value
  secret : Value
  keyring : Option Settings.KeyringReference
  hashed : Bool
  validitySeconds : Int
  cacheEnabled : Bool
  logging : LogSetup
deriving BEq, Repr

namespace Settings

inductive Error where
  | missingRealmKey
  | badFormat (cause : String)
  | emptyRealm
  | validityNotPositive
  | notJson (cause : String)
  | notObject
  | unreadableFile (cause : String)
  | noSecret
  | keyringFailed (cause : String)
  | refused (cause : String)
deriving DecidableEq, Repr

def Error.message : Error → String
  | missingRealmKey => "Missing configuration key: 'realm_name'"
  | badFormat cause => "Invalid configuration format: " ++ cause
  | emptyRealm => "Realm name is required"
  | validityNotPositive => "Nonce validity must be positive"
  | notJson cause => "Failed to parse configuration JSON: " ++ cause
  | notObject => "Configuration must be a JSON object"
  | unreadableFile cause => "Failed to read configuration file: " ++ cause
  | noSecret => "No nonce signing secret configured"
  | keyringFailed cause => "Failed to load secret from keyring: " ++ cause
  | refused cause => cause

def Error.code : Error → String
  | missingRealmKey | emptyRealm => "MISSING_REALM"
  | badFormat _ | validityNotPositive | notObject | refused _ => "INVALID_FORMAT"
  | notJson _ => "PARSE_ERROR"
  | unreadableFile _ => "FILE_ERROR"
  | noSecret | keyringFailed _ => "MISSING_SECRET"

def Error.report (e : Error) : Report where
  kind := .configuration
  message := e.message
  code := e.code

def Error.failure (e : Error) : Failure :=
  .report e.report

def badFormat (i : Interpreter) (f : Fault) : Failure :=
  (Error.badFormat (i.describe (.fault f))).failure

-- A value of the wrong kind makes the format invalid; a number beyond all integers is told
-- as such
def ofFault (i : Interpreter) (f : Fault) : Failure :=
  match f with
  | .wrongType | .badValue _ | .undecodable | .unencodable => badFormat i f
  | .missingAttribute | .overflow | .tooDeep => .fault f

def ofFailure (i : Interpreter) : Failure → Failure
  | .fault f => ofFault i f
  | .report r => .report r

-- A reference is an object of the two names; nothing and everything empty is no reference
def readKeyring (i : Interpreter) (v : Value) : Except Failure (Option KeyringReference) :=
  if !v.truthy then .ok none
  else match v with
    | .object fields => match Value.checkFields ["service", "name"] [] fields with
      | .ok _ => .ok (some {
          service := Value.field fields "service" (.text Keyring.defaultService)
          name := Value.field fields "name" (.text Keyring.defaultName) })
      | .error f => .error (badFormat i f)
    | _ => .error (badFormat i .wrongType)

-- An integer, or what stands for one: a truth value, the whole part of a number, a numeral
def readInteger : Value → Except Fault Int
  | .int n => .ok n
  | .bool b => .ok (if b then 1 else 0)
  | .real x => match x.truncate? with
    | some n => .ok n
    | none => .error (if x = .nan then .badValue none else .overflow)
  | .text s => match Text.integer? s with
    | some n => .ok n
    | none => .error (.badValue none)
  | .bytes b => match Text.integerOfBytes? b with
    | some n => .ok n
    | none => .error (.badValue none)
  | _ => .error .wrongType

def readLogging (i : Interpreter) : Value → Except Failure LogSetup
  | .object fields => (LogSetup.ofFields fields).mapError (ofFailure i)
  | _ => .error (badFormat i .wrongType)

def checked (s : Settings) : Except Failure Settings :=
  if !s.realm.truthy then .error Error.emptyRealm.failure
  else if s.validitySeconds ≤ 0 then .error Error.validityNotPositive.failure
  else .ok s

-- The settings of named fields. Names beyond the known ones are ignored.
def ofFields (i : Interpreter) (fields : OrderedMap String Value) : Except Failure Settings := do
  let realm ← match fields.get? "realm_name" with
    | some v => .ok v
    | none => .error Error.missingRealmKey.failure
  let keyring ← readKeyring i (Value.field fields "secret_keyring")
  let hashed ← (Spelling.read "secret_already_hashed"
    (Value.field fields "secret_already_hashed" (.bool false))).mapError .report
  let validitySeconds ← (readInteger
    (Value.field fields "nonce_validity_seconds" (.int 300))).mapError (ofFault i)
  let cacheEnabled ← (Spelling.read "cache_enabled"
    (Value.field fields "cache_enabled" (.bool true))).mapError .report
  let logging ← readLogging i (Value.field fields "logging" (.object []))
  checked {
    realm, secret := Value.field fields "secret", keyring, hashed, validitySeconds, cacheEnabled,
    logging }

def ofValue (i : Interpreter) : Value → Except Failure Settings
  | .object fields => ofFields i fields
  | _ => .error (.fault .missingAttribute)

def ofJson (i : Interpreter) (document : String) : Except Failure Settings :=
  match Json.read i document with
  | .ok (.object fields) => ofFields i fields
  | .ok _ => .error Error.notObject.failure
  | .error .malformed => .error (Error.notJson (i.describe (.noDocument document))).failure
  | .error .longNumeral => .error (.fault (.badValue none))
  | .error .tooDeep => .error (.fault .tooDeep)

def ofFile (i : Interpreter) : Option (List UInt8) → Except Failure Settings
  | none => .error (Error.unreadableFile (i.describe .noFile)).failure
  | some bytes => match String.fromUTF8? bytes.toByteArray with
    | some document => ofJson i document
    | none => .error (.fault .undecodable)

def variableName (name : String) : String :=
  "DIGEST_AUTH_" ++ name

def orDefault (s : Option String) (default : String) : String :=
  match s with
  | some s => if s = "" then default else s
  | none => default

def keyringOfEnvironment (environ : OrderedMap String String) : List (String × Value) :=
  let service := orDefault (environ.get? (variableName "KEYRING_SERVICE")) ""
  let name := orDefault (environ.get? (variableName "KEYRING_NAME")) ""
  if service = "" && name = "" then []
  else [("secret_keyring", .object [
    ("service", .text (orDefault (some service) Keyring.defaultService)),
    ("name", .text (orDefault (some name) Keyring.defaultName))])]

def fieldsOfEnvironment (environ : OrderedMap String String) : OrderedMap String Value :=
  let text (name default : String) : Value :=
    .text ((environ.get? (variableName name)).getD default)
  [("realm_name", text "REALM" ""),
    ("secret", .ofText? (environ.get? (variableName "SECRET"))),
    ("secret_already_hashed", text "SECRET_ALREADY_HASHED" "false"),
    ("cache_enabled", text "CACHE_ENABLED" "true"),
    ("logging", .object [("level", text "LOG_LEVEL" "WARNING")])]
  ++ (match environ.get? (variableName "NONCE_VALIDITY") with
    | some validity => [("nonce_validity_seconds", .text validity)]
    | none => [])
  ++ keyringOfEnvironment environ

def ofEnvironment (i : Interpreter) (environ : OrderedMap String String) :
    Except Failure Settings :=
  ofFields i (fieldsOfEnvironment environ)

def resolveSecret (s : Settings) (keyring : Keyring) : Except Failure Value :=
  if s.secret.truthy then .ok s.secret
  else match s.keyring with
    | none => .error Error.noSecret.failure
    | some r => match keyring.load r.service r.name with
      | .ok secret => .ok (.text secret)
      | .error e => match e.failure with
        | .report r =>
          if r.kind = .secretStorage then .error (Error.keyringFailed r.message.plain).failure
          else .error (.report r)
        | .fault f => .error (.fault f)

def ofRefusal : Failure → Failure
  | .report r =>
    if r.kind = .validation then (Error.refused r.message.plain).failure else .report r
  | .fault f => .fault f

def config (s : Settings) (keyring : Keyring) : Except Failure Config :=
  match s.resolveSecret keyring with
  | .error f => .error (ofRefusal f)
  | .ok secret => match Config.make s.realm secret (.bool s.hashed) with
    | .ok c => .ok c
    | .error e => .error (ofRefusal (.report e.report))

def cache (s : Settings) : Cache :=
  if s.cacheEnabled then .memory none [] else .empty

end Settings

end HttpDigest
