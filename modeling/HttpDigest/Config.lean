import HttpDigest.Value.Fields

namespace HttpDigest

structure Config where
  realm : Value
  secret : Value
  hashed : Value
deriving BEq, Repr

namespace Config

inductive Error where
  | emptyRealm
  | emptySecret
deriving DecidableEq, Repr

def Error.message : Error → String
  | emptyRealm => "Realm name cannot be empty"
  | emptySecret => "Nonce signing secret cannot be empty"

def Error.report (e : Error) : Report where
  kind := .validation
  message := e.message
  code := "INVALID_CONFIG"

def make (realm secret hashed : Value) : Except Error Config :=
  if !realm.truthy then .error .emptyRealm
  else if !secret.truthy then .error .emptySecret
  else .ok ⟨realm, secret, hashed⟩

def ofFields (fields : OrderedMap String Value) : Except Failure Config :=
  match Value.checkFields ["realm_name", "secret", "secret_already_hashed"]
      ["realm_name", "secret"] fields with
  | .error f => .error (.fault f)
  | .ok _ => (make (Value.field fields "realm_name") (Value.field fields "secret")
      (Value.field fields "secret_already_hashed" (.bool false))).mapError
        fun e => .report e.report

-- A description without the secret
def describe (c : Config) : String :=
  "VerificationConfig(realm_name=" ++ c.realm.literal ++ ", secret_already_hashed="
    ++ c.hashed.plain ++ ")"

end Config

end HttpDigest
