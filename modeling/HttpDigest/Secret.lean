import HttpDigest.Bytes.Base64
import HttpDigest.Failure

namespace HttpDigest.Secret

def defaultLength : Int := 32

def minLength : Int := 16

def tooShort : Report where
  kind := .validation
  message := "Secret must contain at least 16 bytes of entropy"
  code := "INVALID_SECRET_LENGTH"

def generate (random : Nat → List UInt8) (length : Int) : Except Report String :=
  if length < minLength then .error tooShort
  else .ok (.ofList (Base64.encodeUrlSafe (random length.toNat)))

-- A length has to be a number, and only an integer can be granted
def generateOf (random : Nat → List UInt8) (length : Value) : Except Failure String :=
  match length with
  | .int n => (generate random n).mapError .report
  | .bool _ => .error (.report tooShort)
  | .real x =>
    if (x.truncate?.any (· < minLength)) || x = .infinity true then .error (.report tooShort)
    else .error (.fault .wrongType)
  | _ => .error (.fault .wrongType)

end HttpDigest.Secret
