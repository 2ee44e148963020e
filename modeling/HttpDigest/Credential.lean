import HttpDigest.Value.Fields

namespace HttpDigest

-- What a store knows about a user. The secret is a password, or its hash where secrets are
-- kept hashed; the identity is handed to the application.
structure Credential where
  username : Value
  secret : Value
  identity : Value
deriving BEq, Repr

namespace Credential

inductive Error where
  | emptyUsername
  | missingSecret
deriving DecidableEq, Repr

def Error.report : Error → Report
  | emptyUsername => { kind := .validation, message := "Credential username cannot be empty" }
  | missingSecret => { kind := .validation, message := "Credential secret cannot be None" }

def make (username secret identity : Value) : Except Error Credential :=
  if !username.truthy then .error .emptyUsername
  else if secret.isNull then .error .missingSecret
  else .ok ⟨username, secret, identity⟩

def ofFields (fields : OrderedMap String Value) : Except Failure Credential :=
  match Value.checkFields ["username", "secret", "identity"] ["username", "secret"] fields with
  | .error f => .error (.fault f)
  | .ok _ => (make (Value.field fields "username") (Value.field fields "secret")
      (Value.field fields "identity" (.object []))).mapError fun e => .report e.report

def describe (c : Credential) : String :=
  "Credential(username=" ++ c.username.literal ++ ", identity=" ++ c.identity.literal ++ ")"

end Credential

end HttpDigest
