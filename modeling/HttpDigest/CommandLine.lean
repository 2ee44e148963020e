import HttpDigest.CommandLine.Options
import HttpDigest.Json.Writer
import HttpDigest.Secret
import HttpDigest.Settings
import HttpDigest.Verifier

namespace HttpDigest.CommandLine

inductive Command where
  | nothing
  | nonce (secret : String) (validity : Int) (expiry : Option Int)
  | decodeNonce (token : String) (secret : Option String)
  | response (client : Client) (asHeader : Bool)
  | verify (configFile realm secret : Option String) (hashed : Bool)
      (username password method : String) (uri : Option String) (header : String)
  | secretNothing
  | secretGenerate (length : Int) (store : Bool) (service name : String)
  | secretDelete (service name : String)

def versionNumber : String := "0.1.0"

def version : String := "Digest Auth Verifier " ++ versionNumber

def mainLevel : Level where
  options := [⟨"--version", .version, false⟩]
  operand := .command ["nonce", "decode-nonce", "response", "verify", "secret"]

def nonceLevel : Level where
  options := [
    ⟨"--secret", .text, true⟩, ⟨"--validity", .integer, false⟩, ⟨"--expiry", .integer, false⟩]
  operand := .nothing

def decodeLevel : Level where
  options := [⟨"--secret", .text, false⟩]
  operand := .word "nonce"

def responseLevel : Level where
  options := [
    ⟨"--username", .text, true⟩, ⟨"--realm", .text, true⟩, ⟨"--password", .text, true⟩,
    ⟨"--method", .text, false⟩, ⟨"--uri", .text, true⟩, ⟨"--nonce", .text, true⟩,
    ⟨"--qop", .choice [Response.authQop], false⟩, ⟨"--nc", .text, false⟩,
    ⟨"--cnonce", .text, false⟩, ⟨"--hashed", .flag, false⟩, ⟨"--header", .flag, false⟩]
  operand := .nothing

def verifyLevel : Level where
  options := [
    ⟨"--config", .text, false⟩, ⟨"--realm", .text, false⟩, ⟨"--secret", .text, false⟩,
    ⟨"--hashed", .flag, false⟩, ⟨"--username", .text, true⟩, ⟨"--password", .text, true⟩,
    ⟨"--method", .text, false⟩, ⟨"--uri", .text, false⟩, ⟨"--header", .text, true⟩]
  operand := .nothing

def secretLevel : Level where
  options := []
  operand := .command ["generate", "delete"]

def generateLevel : Level where
  options := [
    ⟨"--bytes", .integer, false⟩, ⟨"--store", .flag, false⟩, ⟨"--service", .text, false⟩,
    ⟨"--name", .text, false⟩]
  operand := .nothing

def deleteLevel : Level where
  options := [⟨"--service", .text, false⟩, ⟨"--name", .text, false⟩]
  operand := .nothing

def Reading.text? (r : Reading) (name : String) : Option String :=
  match OrderedMap.get? r.given name with
  | some (.text s) => some s
  | _ => none

def Reading.textD (r : Reading) (name default : String) : String :=
  (r.text? name).getD default

def Reading.integer? (r : Reading) (name : String) : Option Int :=
  match OrderedMap.get? r.given name with
  | some (.integer n) => some n
  | _ => none

def Reading.has (r : Reading) (name : String) : Bool :=
  OrderedMap.contains r.given name

def ofNonce (r : Reading) : Command :=
  .nonce (r.textD "--secret" "") ((r.integer? "--validity").getD 300) (r.integer? "--expiry")

def ofDecode (r : Reading) : Command :=
  .decodeNonce (r.textD "nonce" "") (r.text? "--secret")

def ofResponse (r : Reading) : Command :=
  .response {
    username := r.textD "--username" ""
    realm := r.textD "--realm" ""
    password := r.textD "--password" ""
    method := r.textD "--method" "GET"
    uri := r.textD "--uri" ""
    nonce := r.textD "--nonce" ""
    qop := .ofText? (r.text? "--qop")
    nc := .ofText? (r.text? "--nc")
    cnonce := .ofText? (r.text? "--cnonce")
    hashed := r.has "--hashed" } (r.has "--header")

def ofVerify (r : Reading) : Command :=
  .verify (r.text? "--config") (r.text? "--realm") (r.text? "--secret") (r.has "--hashed")
    (r.textD "--username" "") (r.textD "--password" "") (r.textD "--method" "GET")
    (r.text? "--uri") (r.textD "--header" "")

def serviceOf (r : Reading) : String :=
  r.textD "--service" Keyring.defaultService

def nameOf (r : Reading) : String :=
  r.textD "--name" Keyring.defaultName

def ofGenerate (r : Reading) : Command :=
  .secretGenerate ((r.integer? "--bytes").getD Secret.defaultLength) (r.has "--store")
    (serviceOf r) (nameOf r)

def ofDelete (r : Reading) : Command :=
  .secretDelete (serviceOf r) (nameOf r)

-- A level without further commands; words that nobody understood, here or before, are refused
def finish (level : Level) (make : Reading → Command) (extras words : List String) :
    Except Stop Command := do
  let r ← read level words
  if extras.isEmpty && r.extras.isEmpty then return make r else throw .refused

def parseSecret (extras words : List String) : Except Stop Command := do
  let r ← read secretLevel words
  let extras := extras ++ r.extras
  match r.command with
  | some ("generate", rest) => finish generateLevel ofGenerate extras rest
  | some (_, rest) => finish deleteLevel ofDelete extras rest
  | none => if extras.isEmpty then return .secretNothing else throw .refused

def parse (words : List String) : Except Stop Command := do
  let r ← read mainLevel words
  match r.command with
  | some ("nonce", rest) => finish nonceLevel ofNonce r.extras rest
  | some ("decode-nonce", rest) => finish decodeLevel ofDecode r.extras rest
  | some ("response", rest) => finish responseLevel ofResponse r.extras rest
  | some ("verify", rest) => finish verifyLevel ofVerify r.extras rest
  | some (_, rest) => parseSecret r.extras rest
  | none => if r.extras.isEmpty then return .nothing else throw .refused

-- What a command finds: the time in milliseconds, random bytes, a keyring, and files. A file
-- that cannot be read is none.
structure Environment where
  interpreter : Interpreter
  now : Int
  random : Nat → List UInt8
  keyring : Keyring
  file : String → Option (List UInt8)

structure Ending where
  code : Nat
  out : String
  err : String
  keyring : Keyring
deriving DecidableEq, Repr

def line (s : String) : String :=
  s ++ "\n"

def done (e : Environment) (code : Nat) (out : String) : Except Failure Ending :=
  .ok ⟨code, line out, "", e.keyring⟩

def failed (e : Environment) (message : String) : Except Failure Ending :=
  .ok ⟨1, "", line ("Error: " ++ message), e.keyring⟩

def runNonce (e : Environment) (secret : String) (validity : Int) (expiry : Option Int) :
    Except Failure Ending :=
  if expiry = none ∧ validity ≤ 0 then failed e "Validity must be positive"
  else match Nonce.issue (.int (expiry.getD (e.now + validity * 1000))) (.text secret) with
    | .ok token => done e 0 token
    | .error cause => .error cause.failure

def runDecode (e : Environment) (token : String) (secret : Option String) :
    Except Failure Ending :=
  match Nonce.decode token with
  | .error cause => .error (.report cause.report)
  | .ok n =>
    let shown : List (String × Value) :=
      [("expiry", .int n.expiry), ("signature", .text n.signature)]
    match secret.bind fun s => if s = "" then none else some s with
    | none => done e 0 (Json.document (.object shown))
    | some secret =>
      let status := n.status secret e.now
      done e (if status = .valid then 0 else 1)
        (Json.document (.object (shown ++ [("status", .text status.name)])))

def runResponse (e : Environment) (client : Client) (asHeader : Bool) : Except Failure Ending :=
  if asHeader then client.header.bind fun header => done e 0 header
  else match Response.compute client.plainInput with
    | .ok response => done e 0 response
    | .error cause => .error (.report cause.report)

def givenText (s : Option String) : Value :=
  match s with
  | some s => if s = "" then .null else .text s
  | none => .null

def configOf (e : Environment) (file realm secret : Option String) (hashed : Bool) :
    Except Failure Config := do
  let (realm, secret, hashed) ← match givenText file with
    | .text path => do
      let s ← Settings.ofFile e.interpreter (e.file path)
      let resolved ← if (givenText secret).truthy then .ok (givenText secret)
        else s.resolveSecret e.keyring
      .ok ((givenText realm).orElse s.realm, resolved, hashed || s.hashed)
    | _ => .ok (givenText realm, givenText secret, hashed)
  (Config.make realm secret (.bool hashed)).mapError fun cause => .report cause.report

def runVerify (e : Environment) (config : Config) (username password : String)
    (attempt : Verifier.Attempt) : Except Failure Ending :=
  match Credential.make (.text username) (.text password) (.object []) with
  | .error cause => .error (.report cause.report)
  | .ok c =>
    let v := Verifier.verifyAny e.interpreter.surrogates config Store.ofDirectory .empty
      [(username, c)] attempt
    v.outcome.bind fun outcome => match outcome.summary with
      | .ok summary => done e (if outcome.isAuthenticated then 0 else 1) (Json.document summary)
      | .error f => .error (.fault f)

def runGenerate (e : Environment) (length : Int) (store : Bool) (service name : String) :
    Except Failure Ending :=
  match Secret.generate e.random length with
  | .error report => .error (.report report)
  | .ok secret =>
    if !store then done e 0 secret
    else match Keyring.checkService (.text service), e.keyring.store service name secret with
      | .ok _, .ok keyring => .ok ⟨0, line ("Secret stored in keyring service '" ++ service
          ++ "' as '" ++ name ++ "'"), "", keyring⟩
      | .error cause, _ => .error cause.failure
      | _, .error cause => .error cause.failure

def runDelete (e : Environment) (service name : String) : Except Failure Ending :=
  match Keyring.checkService (.text service), e.keyring.delete service name with
  | .ok _, .ok (found, keyring) =>
    if found then .ok ⟨0, line ("Secret '" ++ name ++ "' deleted"), "", keyring⟩
    else failed e ("No secret '" ++ name ++ "' in keyring service '" ++ service ++ "'")
  | .error cause, _ => .error cause.failure
  | _, .error cause => .error cause.failure

def usage : String :=
  "usage: digest-auth [-h] [--version] \x7bnonce,decode-nonce,response,verify,secret\x7d ..."

def runCommand (e : Environment) : Command → Except Failure Ending
  | .nothing => done e 1 usage
  | .nonce secret validity expiry => runNonce e secret validity expiry
  | .decodeNonce token secret => runDecode e token secret
  | .response client asHeader => runResponse e client asHeader
  | .verify file realm secret hashed username password method uri header => do
    let config ← configOf e file realm secret hashed
    runVerify e config username password
      { authorization := some header, method, uri := .ofText? uri, now := e.now }
  | .secretNothing => failed e "No secret subcommand specified"
  | .secretGenerate length store service name => runGenerate e length store service name
  | .secretDelete service name => runDelete e service name

-- A report is written to the error channel; a fault ends the program
def run (e : Environment) (words : List String) : Except Fault Ending :=
  match parse words with
  | .error .refused => .ok ⟨2, "", line usage, e.keyring⟩
  | .error .help => .ok ⟨0, line usage, "", e.keyring⟩
  | .error .version => .ok ⟨0, line version, "", e.keyring⟩
  | .ok command => match runCommand e command with
    | .ok ending => .ok ending
    | .error (.report r) => .ok ⟨1, "", line ("Error: " ++ r.text), e.keyring⟩
    | .error (.fault f) => .error f

end HttpDigest.CommandLine
