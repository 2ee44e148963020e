import HttpDigest.Failure
import HttpDigest.Text.Blank
import HttpDigest.Text.Case

namespace HttpDigest

-- The spellings of truth values in settings
namespace Spelling

def trueWords : List String := ["1", "true", "yes", "on"]

def falseWords : List String := ["0", "false", "no", "off", ""]

def ofText? (s : String) : Option Bool :=
  let word := Text.lower (Text.strip s)
  if trueWords.contains word then some true
  else if falseWords.contains word then some false
  else none

def refused (name : String) (v : Value) : Report where
  kind := .configuration
  message := "Invalid boolean for " ++ name ++ ": " ++ v.literal
  code := "INVALID_FORMAT"

def read (name : String) (v : Value) : Except Report Bool :=
  match v with
  | .bool b => .ok b
  | .text s => match ofText? s with
    | some b => .ok b
    | none => .error (refused name v)
  | _ => .error (refused name v)

end Spelling

end HttpDigest
