import HttpDigest.Authorization
import HttpDigest.Cache
import HttpDigest.Config
import HttpDigest.Outcome
import HttpDigest.Store

namespace HttpDigest.Verifier

inductive SetupError where
  | noConfig
  | noStore
deriving DecidableEq, Repr

def SetupError.report : SetupError → Report
  | noConfig => {
      kind := .validation
      message := "A VerificationConfig is required"
      code := "INVALID_CONFIG" }
  | noStore => {
      kind := .validation
      message := "A credential store is required"
      code := "INVALID_CONFIG" }

-- One request to verify. The address is the one that the server saw, null if it is not known,
-- and is only reported on; the time is in milliseconds.
structure Attempt where
  authorization : Option String
  method : String
  uri : Value
  now : Int

-- An answer that passed every check up to the signature of its nonce
structure Ticket where
  header : String
  answer : Authorization
  nonce : Nonce
deriving DecidableEq, Repr

structure Refusal where
  reason : Reason
  username : Option String
  values : OrderedMap String Value := []
  notes : List String := []
deriving BEq, Repr

def Refusal.outcome (r : Refusal) (header : String) : Outcome :=
  .rejection r.reason header (.ofText? r.username) r.values

-- The first check that a header fails, in the fixed order of the checks: mandatory directives,
-- directives for `auth`, quality of protection, realm, nonce, signature
def examine (config : Config) (header : String) : Except Refusal Ticket :=
  let directives := Directives.read header
  let username := directives.get? "username"
  match Authorization.ofDirectives directives with
  | .error names => .error {
      reason := .missingMandatoryField
      username
      notes := ["Missing mandatory digest directives: " ++ (Value.list (names.map .text)).literal] }
  | .ok answer =>
    if Authorization.missingForQop directives ≠ [] then .error {
      reason := .missingAuthField
      username
      notes := ["extracted nc: '" ++ (Value.ofText? answer.nc).plain ++ "'; cnonce: '"
        ++ (Value.ofText? answer.cnonce).plain ++ "'"] }
    else if answer.qop ≠ none ∧ answer.qop ≠ some Response.authQop then .error {
      reason := .unsupportedQop
      username
      values := [("qop", .ofText? answer.qop)] }
    else if !config.realm.isText answer.realm then .error {
      reason := .realmMismatch
      username
      values := [("realm", .text answer.realm), ("expected_realm", config.realm)] }
    else match Nonce.decode answer.nonce with
      | .error e => .error {
          reason := .ofDecodeError e
          username
          values := [("nonce", .text answer.nonce), ("plaintext", match e with
            | .malformed plaintext | .notNumeric plaintext => .text plaintext
            | .notBase64 _ | .notText _ => .text "")] }
      | .ok nonce =>
        if nonce.isSignedWith config.secret.plain then .ok ⟨header, answer, nonce⟩
        else .error {
          reason := .nonceSignatureInvalid
          username
          values := [("plaintext", .text nonce.plaintext)] }

structure Fetch (σ : Type) where
  reply : Reply
  cache : Cache
  store : σ
  log : List Log.Line

def note (level : Log.Level) (message : String) : Log.Line where
  level := level
  logger := "digest_auth.verification.verifier"
  message := message

def fetch {σ : Type} (store : Store σ) (cache : Cache) (state : σ) (username : String) :
    Fetch σ :=
  let reply := store.reply state username
  { reply
    store := store.next state username
    cache := match reply with
      | .found credential => cache.put username credential
      | _ => cache
    log := store.log state username ++ match reply with
      | .found _ => cache.putLog username
      | .nothing => [note .error ("Credential store returned None for user " ++ username)]
      | _ => [] }

def nothingReport (username : String) : Report where
  kind := .misconfigured
  message := "Credential store returned None, which is an interface contract violation"
  code := "SERVICE_MISCONFIGURED"
  details := [("username", .text username)]

abbrev Verdict := Except Failure Outcome × List Log.Line

def rejectionNote (o : Outcome) (reason : Reason) : Log.Line :=
  note .debug ("Digest authentication rejected (" ++ reason.code ++ "): " ++ o.message.plain)

def reject (ticket : Ticket) (reason : Reason) : Verdict :=
  let o := Outcome.rejection reason ticket.header ticket.answer.username []
  (.ok o, [rejectionNote o reason])

-- A store that failed makes an error, with the message of the reason alone
def storeTrouble (ticket : Ticket) (reason : Reason) (report : Report) : Verdict :=
  (.ok (.failure reason ticket.header ticket.answer.username .null),
    [note .warning ("Digest authentication could not complete (" ++ reason.code ++ "): "
      ++ report.text)])

def expected (config : Config) (attempt : Attempt) (ticket : Ticket) (credential : Credential) :
    Except Response.Error String :=
  Response.compute
    (ticket.answer.input config.hashed.truthy credential.secret.plain attempt.method)

-- The last two checks, against the credential that counts: first the response, then the time
def conclude (attempt : Attempt) (ticket : Ticket) (credential : Credential)
    (response : String) : Verdict :=
  if response ≠ ticket.answer.response then
    let (result, lines) := reject ticket .digestMismatch
    (result, note .debug ("Expected response: '" ++ response ++ "' but received: '"
      ++ ticket.answer.response
      ++ "'; does the credential store return clear text secrets?") :: lines)
  else if ticket.nonce.isExpired attempt.now then reject ticket .nonceExpired
  else (.ok (.accepted credential ticket.header),
    [note .info ("Authentication success for user: '" ++ ticket.answer.username ++ "'")])

abbrev Responder := Ticket → Credential → Except Failure String

def judge (respond : Responder) (attempt : Attempt) (ticket : Ticket) : Reply → Verdict
  | .found credential => match respond ticket credential with
    | .ok response => conclude attempt ticket credential response
    | .error f => (.error f, [])
  | .nothing =>
    storeTrouble ticket .serviceMisconfigured (nothingReport ticket.answer.username)
  | .unknownUser _ => reject ticket .usernameNotFound
  | .misconfigured report => storeTrouble ticket .serviceMisconfigured report
  | .failed report => storeTrouble ticket .credentialStoreError report
  | .broken failure => (.error failure, [])

-- The result of a verification: the outcome, the cache and the store after it, the usernames
-- for which the store was asked, and what was told on the way
structure Verification (σ : Type) where
  outcome : Except Failure Outcome
  cache : Cache
  store : σ
  asked : List String := []
  log : List Log.Line := []

def refreshNote : Log.Line :=
  note .debug
    "Digest comparison failure; trying to refresh user from store in case password had changed"

def ask {σ : Type} (respond : Responder) (store : Store σ) (cache : Cache) (state : σ)
    (attempt : Attempt) (ticket : Ticket) : Verification σ :=
  let username := ticket.answer.username
  let f := fetch store cache state username
  let (outcome, lines) := judge respond attempt ticket f.reply
  { outcome, cache := f.cache, store := f.store, asked := [username], log := f.log ++ lines }

-- The credential of a ticket comes from the cache, or from the store if the cache has none.
-- A cached credential is only good enough to accept: where the response does not fit it, the
-- store decides.
def settle {σ : Type} (respond : Responder) (store : Store σ) (cache : Cache) (state : σ)
    (attempt : Attempt) (ticket : Ticket) : Verification σ :=
  match cache.get? ticket.answer.username with
  | none => ask respond store cache state attempt ticket
  | some cached => match respond ticket cached with
    | .error f => { outcome := .error f, cache, store := state }
    | .ok response =>
      if response = ticket.answer.response then
        let (outcome, log) := conclude attempt ticket cached response
        { outcome, cache, store := state, log }
      else
        let v := ask respond store cache state attempt ticket
        { v with log := refreshNote :: v.log }

-- The address is not checked; a difference is told
def addressNotes (attempt : Attempt) (ticket : Ticket) : List Log.Line :=
  if attempt.uri.isNull || attempt.uri.isText ticket.answer.uri then []
  else [note .debug ("Digest uri '" ++ ticket.answer.uri ++ "' differs from request uri '"
    ++ attempt.uri.plain ++ "'")]

def receivedNote (authorization : Value) : Log.Line :=
  note .debug ("Authorization header received from user agent: " ++ authorization.plain)

def verifyBy {σ : Type} (respond : Responder) (config : Config) (store : Store σ) (cache : Cache)
    (state : σ) (attempt : Attempt) : Verification σ :=
  let received := receivedNote (.ofText? attempt.authorization)
  match attempt.authorization.bind Directives.body? with
  | none => { outcome := .ok .unauthenticated, cache, store := state, log := [received] }
  | some header => match examine config header with
    | .error refusal =>
      let o := refusal.outcome header
      { outcome := .ok o, cache, store := state
        log := received :: refusal.notes.map (note .debug) ++ [rejectionNote o refusal.reason] }
    | .ok ticket =>
      let v := settle respond store cache state attempt ticket
      { v with log := received :: addressNotes attempt ticket ++ v.log }

def respond (config : Config) (attempt : Attempt) : Responder := fun ticket credential =>
  (expected config attempt ticket credential).mapError fun e => .report e.report

-- Verification of one request, all of whose texts have a UTF-8 form
def verify {σ : Type} (config : Config) (store : Store σ) (cache : Cache) (state : σ)
    (attempt : Attempt) : Verification σ :=
  verifyBy (respond config attempt) config store cache state attempt

-- The response over any texts. It is compared in its UTF-8 form with the one that the client sent.
def respondAny (s : Surrogates) (config : Config) (attempt : Attempt) : Responder :=
  fun ticket credential => do
    let response ← Response.computeAny s
      (ticket.answer.input config.hashed.truthy credential.secret.plain attempt.method)
    if s.encodes ticket.answer.response then .ok response else .error (.fault .unencodable)

-- Whether the signature of a nonce is checked, for which the secret of the configuration is hashed
def checksSignature : Except Refusal Ticket → Bool
  | .ok _ => true
  | .error refusal => refusal.reason = .nonceSignatureInvalid

-- Verification of one request with any texts. It ends where one without a UTF-8 form is hashed.
def verifyAny {σ : Type} (s : Surrogates) (config : Config) (store : Store σ) (cache : Cache)
    (state : σ) (attempt : Attempt) : Verification σ :=
  let unsigned := match attempt.authorization.bind Directives.body? with
    | some header => checksSignature (examine config header) && !s.encodes config.secret.plain
    | none => false
  if unsigned then {
    outcome := .error (.fault .unencodable)
    cache
    store := state
    log := [receivedNote (.ofText? attempt.authorization)] }
  else verifyBy (respondAny s config attempt) config store cache state attempt

-- A time that is none is only missed by a request that passed all else
def missTime {σ : Type} (v : Verification σ) : Verification σ :=
  match v.outcome with
  | .ok o =>
    if o.isAuthenticated then
      { v with outcome := .error (.fault .wrongType), log := v.log.dropLast }
    else v
  | .error _ => v

def verifyOf {σ : Type} (verify : Attempt → Verification σ) (cache : Cache) (state : σ)
    (authorization : Value) (method : String) (uri now : Value) : Verification σ :=
  match Directives.headerText authorization with
  | .ok authorization => match Nonce.timeOf? now with
    | some now => verify { authorization, method, uri, now }
    | none => missTime (verify { authorization, method, uri, now := Nonce.minExpiry })
  | .error f => {
      outcome := .error (.fault f)
      cache
      store := state
      log := [receivedNote authorization] }

def verifyValue {σ : Type} (config : Config) (store : Store σ) (cache : Cache) (state : σ)
    (authorization : Value) (method : String) (uri now : Value) : Verification σ :=
  verifyOf (verify config store cache state) cache state authorization method uri now

end HttpDigest.Verifier
