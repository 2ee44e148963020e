import HttpDigest.Bytes.Base64
import HttpDigest.Bytes.Md5
import HttpDigest.Text.Numeral
import HttpDigest.Value.Order

namespace HttpDigest

-- What a nonce token says: the time at which it expires, in milliseconds since the epoch,
-- and a signature over this time and the secret of the issuer
structure Nonce where
  expiry : Int
  signature : String
  plaintext : String
deriving DecidableEq, Repr

namespace Nonce

def signText (expiry secret : String) : String :=
  Md5.hex (expiry ++ ":" ++ secret)

def sign (expiry : Int) (secret : String) : String :=
  signText (toString expiry) secret

def plaintextOf (expiry : Int) (secret : String) : String :=
  toString expiry ++ ":" ++ sign expiry secret

def encode (expiry : Int) (secret : String) : String :=
  .ofList (Base64.encode (plaintextOf expiry secret).toUTF8.toList)

inductive IssueError where
  | expiryNotInteger
  | emptySecret
  | expiryTooLong
deriving DecidableEq, Repr

def IssueError.failure : IssueError → Failure
  | expiryNotInteger => .report {
      kind := .validation
      message := "Nonce expiry must be an integer"
      code := "INVALID_EXPIRY" }
  | emptySecret => .report {
      kind := .validation
      message := "Nonce secret cannot be empty"
      code := "INVALID_SECRET" }
  | expiryTooLong => .fault (.badValue none)

-- The token for values of any kind: the expiry has to be an integer of no more digits than a
-- numeral may have, the secret not empty
def issue (expiry secret : Value) : Except IssueError String :=
  match expiry with
  | .int n =>
    if !secret.truthy then .error .emptySecret
    else if (toString n.natAbs).length > Text.Numeral.maxDigits then .error .expiryTooLong
    else .ok (encode n secret.plain)
  | _ => .error .expiryNotInteger

inductive DecodeError where
  | notBase64 (token : String)
  | notText (token : String)
  | malformed (plaintext : String)
  | notNumeric (plaintext : String)
deriving DecidableEq, Repr

def notBase64Report (token : Value) : Report where
  kind := .nonce
  message := "Nonce is not encoded in Base64; received nonce " ++ token.plain
  code := "NONCE_NOT_BASE64"
  details := [("nonce", token)]

def DecodeError.report : DecodeError → Report
  | notBase64 token => notBase64Report token
  | notText token => {
      kind := .nonce
      message := "Nonce did not decode to text"
      code := "NONCE_MALFORMED"
      details := [("nonce", .text token)] }
  | malformed plaintext => {
      kind := .nonce
      message := "Nonce should have yielded two tokens but was " ++ plaintext
      code := "NONCE_MALFORMED"
      details := [("plaintext", .text plaintext)] }
  | notNumeric plaintext => {
      kind := .nonce
      message := "Nonce token should have yielded a numeric first token, but was " ++ plaintext
      code := "NONCE_NOT_NUMERIC"
      details := [("plaintext", .text plaintext)] }

-- The bytes of a token. An empty token holds none.
def bytes? (token : String) : Option (List UInt8) :=
  if token = "" then none else Base64.decode? token.toList

def isBase64 (token : String) : Bool :=
  (bytes? token).isSome

def minExpiry : Int := -9223372036854775808

def maxExpiry : Int := 9223372036854775807

def maxExpiryLength : Nat := 64

def isDigit (c : Char) : Bool :=
  '0' ≤ c && c ≤ '9'

def natural? (cs : List Char) : Option Nat :=
  if cs.isEmpty || !cs.all isDigit then none
  else some (Text.Numeral.ofDigits (cs.map fun c => c.toNat - 48))

def signed? : List Char → Option Int
  | '-' :: rest => (natural? rest).map fun n => -(n : Int)
  | '+' :: rest => (natural? rest).map Int.ofNat
  | cs => (natural? cs).map Int.ofNat

def dropFinalNewline (cs : List Char) : List Char :=
  if cs.getLast? = some '\n' then cs.dropLast else cs

-- The expiry that a text of at most 64 characters denotes, if 64 bits hold it
def expiry? (cs : List Char) : Option Int :=
  if cs.length > maxExpiryLength then none
  else match signed? (dropFinalNewline cs) with
    | some n => if minExpiry ≤ n ∧ n ≤ maxExpiry then some n else none
    | none => none

def ofPlaintext (plaintext : String) : Except DecodeError Nonce :=
  match plaintext.toList.splitOn ':' with
  | [first, second] => match expiry? first with
    | some expiry => .ok ⟨expiry, .ofList second, plaintext⟩
    | none => .error (.notNumeric plaintext)
  | _ => .error (.malformed plaintext)

def decode (token : String) : Except DecodeError Nonce :=
  match bytes? token with
  | none => .error (.notBase64 token)
  | some bytes => match String.fromUTF8? bytes.toByteArray with
    | none => .error (.notText token)
    | some plaintext => ofPlaintext plaintext

def isSignedWith (n : Nonce) (secret : String) : Bool :=
  sign n.expiry secret = n.signature

-- A nonce is good through the millisecond of its expiry
def isExpired (n : Nonce) (now : Int) : Bool :=
  n.expiry < now

inductive Status where
  | valid
  | signatureMismatch
  | expired
deriving DecidableEq, Repr

def Status.name : Status → String
  | valid => "valid"
  | signatureMismatch => "signature_mismatch"
  | expired => "expired"

-- A nonce with a wrong signature is never called expired
def status (n : Nonce) (secret : String) (now : Int) : Status :=
  if !n.isSignedWith secret then .signatureMismatch
  else if n.isExpired now then .expired
  else .valid

def check (token secret : String) (now : Int) : Except DecodeError Status :=
  (decode token).map fun n => n.status secret now

-- Whatever counts as not given is no Base64, and what is given has to be a text
def isBase64Of : Value → Except Fault Bool
  | .text token => .ok (isBase64 token)
  | v => if v.truthy then .error .wrongType else .ok false

def decodeOf : Value → Except Failure Nonce
  | .text token => (decode token).mapError fun e => .report e.report
  | v => .error (if v.truthy then .fault .wrongType else .report (notBase64Report v))

def timeOf? : Value → Option Int
  | .bool b => some (if b then 1 else 0)
  | .int n => some n
  | .real .nan => some minExpiry
  | .real (.infinity negative) => some (if negative then minExpiry else maxExpiry + 1)
  | .real x => x.ceiling?
  | _ => none

-- A time that is none is only missed where the signature fits
def checkOf (token : Value) (secret : String) (now : Value) : Except Failure Status := do
  let n ← decodeOf token
  if !n.isSignedWith secret then return .signatureMismatch
  match timeOf? now with
  | some time => return n.status secret time
  | none => throw (.fault .wrongType)

def checkParts (expiry signature : Value) (secret : String) (now : Value) :
    Except Fault (Bool × Bool) := do
  let signed ← match signature with
    | .text s => .ok (signText expiry.plain secret == s)
    | _ => .error .missingAttribute
  let expired ← expiry.comesBefore now
  return (signed, expired)

end Nonce

-- Milliseconds of a time in seconds; of a fraction the whole milliseconds of the product
def millisOfSeconds : Value → Except Fault Int
  | .int n => .ok (n * 1000)
  | .real x => match (x.scale 1000).truncate? with
    | some n => .ok n
    | none => if x = .nan then .error (.badValue none) else .error .overflow
  | _ => .error .wrongType

end HttpDigest
