import HttpDigest.Log
import HttpDigest.Value.Fields

namespace HttpDigest

-- A keyring keeps texts under the name of a service and a name within it. A keyring that is
-- locked says so to every request.
structure Keyring where
  entries : OrderedMap (String × String) String := []
  locked : Option String := none
deriving DecidableEq, Repr

namespace Keyring

def defaultService : String := "digest-auth"

def defaultName : String := "nonce-signing-secret"

inductive Error where
  | emptyService
  | emptyName
  | emptySecret
  | storageFailed (cause : String)
  | retrievalFailed (cause : String)
  | deletionFailed (cause : String)
  | notFound (service name : Value)
  | unusableName
deriving BEq, Repr

def Error.failure : Error → Failure
  | emptyService => .report {
      kind := .validation
      message := "Keyring service name cannot be empty" }
  | emptyName => .report { kind := .validation, message := "Secret name cannot be empty" }
  | emptySecret => .report { kind := .validation, message := "Secret cannot be empty" }
  | storageFailed cause => .report {
      kind := .secretStorage
      message := "Keyring storage failed: " ++ cause
      code := "KEYRING_STORAGE_FAILED" }
  | retrievalFailed cause => .report {
      kind := .secretStorage
      message := "Keyring retrieval failed: " ++ cause
      code := "KEYRING_RETRIEVAL_FAILED" }
  | deletionFailed cause => .report {
      kind := .secretStorage
      message := "Keyring deletion failed: " ++ cause
      code := "KEYRING_DELETE_FAILED" }
  | notFound service name => .report {
      kind := .secretStorage
      message := "No secret '" ++ name.plain ++ "' found in keyring service '"
        ++ service.plain ++ "'"
      code := "SECRET_NOT_FOUND"
      details := [("service", service), ("name", name)] }
  | unusableName => .fault .wrongType

-- Only texts name an entry; what cannot be a key is not even looked up
def find (k : Keyring) (service name : Value) : Except Error (Option String) :=
  match service, name with
  | .text service, .text name => .ok (k.entries.get? (service, name))
  | _, _ => if service.isKey && name.isKey then .ok none else .error .unusableName

def checkService (service : Value) : Except Error Unit :=
  if service.truthy then .ok () else .error .emptyService

def stored (service name : Value) : Log.Line where
  level := .info
  logger := "digest_auth.crypto.storage"
  message := "Stored secret '" ++ name.plain ++ "' in keyring service '" ++ service.plain ++ "'"

def store (k : Keyring) (service name secret : Value) : Except Error Keyring :=
  if !name.truthy then .error .emptyName
  else if !secret.truthy then .error .emptySecret
  else match k.locked with
    | some cause => .error (.storageFailed cause)
    | none => match service, name, secret with
      | .text service, .text name, .text secret =>
        .ok { k with entries := k.entries.insert (service, name) secret }
      | _, _, _ => .error .unusableName

def retrieve (k : Keyring) (service name : Value) : Except Error (Option String) :=
  match k.locked with
  | some cause => .error (.retrievalFailed cause)
  | none => k.find service name

def delete (k : Keyring) (service name : Value) : Except Error (Bool × Keyring) :=
  match k.locked with
  | some cause => .error (.deletionFailed cause)
  | none => match service, name with
    | .text service, .text name => .ok (k.entries.contains (service, name),
        { k with entries := k.entries.erase (service, name) })
    | _, _ => if service.isKey && name.isKey then .ok (false, k) else .error .unusableName

def load (k : Keyring) (service name : Value) : Except Error String := do
  checkService service
  match ← k.retrieve service name with
  | some secret => if secret = "" then .error (.notFound service name) else .ok secret
  | none => .error (.notFound service name)

end Keyring

end HttpDigest
