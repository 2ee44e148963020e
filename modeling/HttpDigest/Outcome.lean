import HttpDigest.Credential
import HttpDigest.Reason

namespace HttpDigest

-- Without a header of the scheme a request is unauthenticated and passes through; an error
-- tells of a store that did not do its part.
inductive Outcome.Status where
  | authenticated
  | rejected
  | unauthenticated
  | error
deriving DecidableEq, Repr

namespace Outcome.Status

def all : List Status :=
  [authenticated, rejected, unauthenticated, error]

def name : Status → String
  | authenticated => "authenticated"
  | rejected => "rejected"
  | unauthenticated => "unauthenticated"
  | error => "error"

def ofName? (name : String) : Option Status :=
  all.find? fun s => s.name = name

@[simp] theorem ofName?_name (s : Status) : ofName? s.name = some s := by
  cases s <;> decide

end Outcome.Status

-- The result of verifying one request. The header is what follows the scheme. The last three
-- are texts, or null where there is nothing to say, unless a caller made them something else.
structure Outcome where
  status : Outcome.Status
  credential : Option Credential := none
  reason : Option Reason := none
  message : Value := .null
  header : Value := .null
  username : Value := .null
deriving BEq, Repr

namespace Outcome

def isAuthenticated (o : Outcome) : Bool :=
  o.status = .authenticated

def isRejected (o : Outcome) : Bool :=
  o.status = .rejected

def isStale (o : Outcome) : Bool :=
  o.reason = some .nonceExpired

def accepted (credential : Credential) (header : Value) : Outcome where
  status := .authenticated
  credential := some credential
  header := header
  username := credential.username

def rejection (reason : Reason) (header username : Value)
    (values : OrderedMap String Value) : Outcome where
  status := .rejected
  reason := some reason
  message := reason.message (("header", header) :: ("username", username) :: values)
  header := header
  username := username

-- No name may be given twice, and that of the reason is taken
def rejectionOf (reason : Reason) (fields values : OrderedMap String Value) :
    Except Fault Outcome :=
  if values.any fun (name, _) => name = "reason" || fields.contains name then .error .wrongType
  else
    let all := fields ++ values
    .ok (rejection reason (Value.field all "header") (Value.field all "username") values)

def failure (reason : Reason) (header username message : Value) : Outcome where
  status := .error
  reason := some reason
  message := message.orElse (reason.message [])
  header := header
  username := username

def unauthenticated : Outcome where
  status := .unauthenticated

def identity (o : Outcome) : Except Fault Value :=
  match o.credential with
  | some c => c.identity.toObject
  | none => .ok .null

-- What may be shown of an outcome: all but the secret
def summary (o : Outcome) : Except Fault Value :=
  o.identity.map fun identity => .object [
    ("status", .text o.status.name),
    ("reason", .ofText? (o.reason.map Reason.code)),
    ("message", o.message),
    ("username", o.username),
    ("stale", .bool o.isStale),
    ("identity", identity)]

end Outcome

end HttpDigest
