import HttpDigest.Nonce

namespace HttpDigest

-- Why a request was not accepted. The last two tell of a store that did not do its part.
inductive Reason where
  | missingMandatoryField
  | missingAuthField
  | unsupportedQop
  | realmMismatch
  | nonceNotBase64
  | nonceMalformed
  | nonceNotNumeric
  | nonceSignatureInvalid
  | usernameNotFound
  | digestMismatch
  | nonceExpired
  | serviceMisconfigured
  | credentialStoreError
deriving DecidableEq, Repr

namespace Reason

def all : List Reason := [
  missingMandatoryField, missingAuthField, unsupportedQop, realmMismatch, nonceNotBase64,
  nonceMalformed, nonceNotNumeric, nonceSignatureInvalid, usernameNotFound, digestMismatch,
  nonceExpired, serviceMisconfigured, credentialStoreError]

def code : Reason → String
  | missingMandatoryField => "MISSING_MANDATORY_FIELD"
  | missingAuthField => "MISSING_AUTH_FIELD"
  | unsupportedQop => "UNSUPPORTED_QOP"
  | realmMismatch => "REALM_MISMATCH"
  | nonceNotBase64 => "NONCE_NOT_BASE64"
  | nonceMalformed => "NONCE_MALFORMED"
  | nonceNotNumeric => "NONCE_NOT_NUMERIC"
  | nonceSignatureInvalid => "NONCE_SIGNATURE_INVALID"
  | usernameNotFound => "USERNAME_NOT_FOUND"
  | digestMismatch => "DIGEST_MISMATCH"
  | nonceExpired => "NONCE_EXPIRED"
  | serviceMisconfigured => "SERVICE_MISCONFIGURED"
  | credentialStoreError => "CREDENTIAL_STORE_ERROR"

def ofCode? (code : String) : Option Reason :=
  all.find? fun r => r.code = code

@[simp] theorem ofCode?_code (r : Reason) : ofCode? r.code = some r := by
  cases r <;> decide

inductive Part where
  | words (s : String)
  | blank (name : String)
deriving DecidableEq, Repr

def template : Reason → List Part
  | missingMandatoryField | missingAuthField =>
    [.words "Missing mandatory digest value; received header ", .blank "header"]
  | unsupportedQop => [.words "Unsupported quality of protection '", .blank "qop", .words "'"]
  | realmMismatch =>
    [.words "Response realm name '", .blank "realm",
      .words "' does not match system realm name of '", .blank "expected_realm", .words "'"]
  | nonceNotBase64 =>
    [.words "Nonce is not encoded in Base64; received nonce ", .blank "nonce"]
  | nonceMalformed =>
    [.words "Nonce should have yielded two tokens but was ", .blank "plaintext"]
  | nonceNotNumeric =>
    [.words "Nonce token should have yielded a numeric first token, but was ",
      .blank "plaintext"]
  | nonceSignatureInvalid => [.words "Nonce token compromised ", .blank "plaintext"]
  | usernameNotFound => [.words "Username ", .blank "username", .words " not found"]
  | digestMismatch => [.words "Incorrect response"]
  | nonceExpired => [.words "Nonce has expired/timed out"]
  | serviceMisconfigured =>
    [.words "Credential store returned no credential, which is an interface contract violation"]
  | credentialStoreError => [.words "Credential store lookup failed"]

def Part.fill (values : OrderedMap String Value) : Part → String
  | words s => s
  | blank name => match values.get? name with
    | some v => v.plain
    | none => ""

def message (r : Reason) (values : OrderedMap String Value) : String :=
  String.join (r.template.map (Part.fill values))

def messageOf (r : Reason) (values : OrderedMap String Value) : Except Fault String :=
  if values.contains "reason" then .error .wrongType else .ok (r.message values)

def ofDecodeError : Nonce.DecodeError → Reason
  | .notBase64 _ => nonceNotBase64
  | .notText _ => nonceMalformed
  | .malformed _ => nonceMalformed
  | .notNumeric _ => nonceNotNumeric

end Reason

end HttpDigest
