import HttpDigest.Value.Fields

namespace HttpDigest.Report

-- A report of named fields. Every kind of report has a message of its own, except that about an
-- unknown username, which is named instead; its message and its code are settled.
def ofFields (kind : Kind) (fields : OrderedMap String Value) : Except Fault Report := do
  let message := Value.field fields "message"
  let details ← match Value.field fields "details" with
    | .object details => .ok details
    | v => if v.truthy then .error .wrongType else .ok []
  match kind with
  | .unknownUser =>
    Value.checkFields ["username", "message"] ["username"] fields
    return unknownUsername (Value.field fields "username") message
  | .store =>
    Value.checkFields ["message", "error_code", "http_status", "details"] ["message"] fields
    return storeFailure message
      (Value.field fields "error_code" "CREDENTIAL_STORE_ERROR")
      (Value.field fields "http_status" (.int 0)) details
  | kind =>
    Value.checkFields ["message", "error_code", "details"] ["message"] fields
    return {
      kind, message, details
      code := Value.field fields "error_code" "UNKNOWN_ERROR" }

end HttpDigest.Report
