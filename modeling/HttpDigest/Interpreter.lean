import HttpDigest.Failure
import HttpDigest.Text.Surrogates

namespace HttpDigest

inductive Interpreter.Trouble where
  | fault (f : Fault)
  | noDocument (text : String)
  | noFile
deriving DecidableEq, Repr

-- What differs from one interpreter to another: how many lists and objects may stand in one
-- another, the surrogates of its texts, and its words
structure Interpreter where
  depth : Nat
  surrogates : Surrogates
  describe : Interpreter.Trouble → String

def Interpreter.plain : Interpreter where
  depth := 1000
  surrogates := .inPrivateUse
  describe trouble := match trouble with
    | .fault _ => "a value has the wrong form"
    | .noDocument _ => "the text is no document"
    | .noFile => "the file cannot be read"

end HttpDigest
