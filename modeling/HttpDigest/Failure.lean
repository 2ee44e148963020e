import HttpDigest.Value

namespace HttpDigest

inductive Report.Kind where
  | general
  | validation
  | configuration
  | nonce
  | digestInput
  | unknownUser
  | store
  | misconfigured
  | secretStorage
deriving DecidableEq, Repr

-- An error report. The message and the code are texts unless a caller made them something
-- else. The details stand in the order in which they were given; only a report about a
-- credential store has an HTTP status other than zero.
structure Report where
  kind : Report.Kind
  message : Value
  code : Value := "UNKNOWN_ERROR"
  details : List (String × Value) := []
  httpStatus : Value := .int 0
deriving BEq, Repr

namespace Report

def text (r : Report) : String :=
  if r.details.isEmpty then r.message.plain ++ " (code: " ++ r.code.plain ++ ")"
  else r.message.plain ++ " (code: " ++ r.code.plain ++ ", details: "
    ++ (Value.object r.details).literal ++ ")"

def unknownUsername (username : Value) (message : Value := .null) : Report where
  kind := .unknownUser
  message := message.orElse ("Username " ++ username.plain ++ " not found")
  code := "USERNAME_NOT_FOUND"
  details := [("username", username)]

def storeFailure (message : Value) (code : Value := "CREDENTIAL_STORE_ERROR")
    (httpStatus : Value := .int 0) (details : List (String × Value) := []) : Report where
  kind := .store
  message := message
  code := code
  details := details
  httpStatus := httpStatus

end Report

-- Use of a value in a way that its kind does not allow, or a document that cannot be taken in
inductive Fault where
  | missingAttribute
  | wrongType
  | badValue (message : Option String)
  | overflow
  | undecodable
  | unencodable
  | tooDeep
deriving DecidableEq, Repr

inductive Failure where
  | report (r : Report)
  | fault (f : Fault)
deriving BEq, Repr

end HttpDigest
