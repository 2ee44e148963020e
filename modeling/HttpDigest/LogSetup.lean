import HttpDigest.Log
import HttpDigest.Settings.Spelling
import HttpDigest.Text.Numeral
import HttpDigest.Text.Word
import HttpDigest.Value.Fields

namespace HttpDigest

structure LogSetup where
  level : Log.Level
  structured : Bool
  format : Value
deriving BEq, Repr

namespace LogSetup

def structuredFormat : String :=
  "time=%(asctime)s level=%(levelname)s logger=%(name)s message=\"%(message)s\""

def plainFormat : String := "%(asctime)s %(levelname)s [%(name)s] %(message)s"

def badLevel (shown : String) : Report where
  kind := .configuration
  message := "Invalid log level: " ++ shown
  code := "INVALID_FORMAT"

def default : LogSetup := ⟨.warning, false, .null⟩

def ofFields (fields : OrderedMap String Value) : Except Failure LogSetup := do
  (Value.checkFields ["level", "structured", "format"] [] fields).mapError .fault
  match Value.field fields "level" (.text "WARNING") with
  | .text s =>
    let level := Text.upper s
    let structured ← (Spelling.read "logging.structured"
      (Value.field fields "structured" (.bool false))).mapError .report
    match Log.Level.ofName? level with
    | some level => return { level, structured, format := Value.field fields "format" }
    | none => throw (.report (badLevel level))
  | v => throw (.report (badLevel v.literal))

def formatInUse (s : LogSetup) : Value :=
  if s.format.truthy then s.format
  else .text (if s.structured then structuredFormat else plainFormat)

def isFlag (c : Char) : Bool :=
  c = '#' || c = '0' || c = '+' || c = ' ' || c = '-'

-- The letters of conversions, in either case, with what counts as the same letter
def isConversion (c : Char) : Bool :=
  "diouxefgcrsaDIOUXEFGCRSA%\u0130\u0131\u017f".toList.contains c

def skipWidth (cs : List Char) : List Char :=
  match cs with
  | '*' :: rest => rest
  | _ => cs.dropWhile fun c => (Text.Numeral.digit? c).isSome

def skipPrecision (cs : List Char) : List Char :=
  match cs with
  | '.' :: rest => if (skipWidth rest).length < rest.length then skipWidth rest else cs
  | _ => cs

-- Whether a field stands at the head: a name in brackets, flags, a width, a precision and a
-- conversion
def startsWithField (cs : List Char) : Bool :=
  match cs with
  | '%' :: '(' :: rest =>
    let name := rest.takeWhile Text.isWordChar
    match rest.drop name.length with
    | ')' :: spec =>
      let conversion := skipPrecision (skipWidth (spec.dropWhile isFlag))
      !name.isEmpty && conversion.head?.any isConversion
    | _ => false
  | _ => false

def hasField : List Char → Bool
  | [] => false
  | c :: rest => startsWithField (c :: rest) || hasField rest

def checkFormat : Value → Except Fault String
  | .text s => if hasField s.toList then .ok s else .error (.badValue none)
  | _ => .error .wrongType

-- A handler of a logger: one that was set up here, with its format, or a foreign one
inductive Handler where
  | own (format : String)
  | foreign
deriving DecidableEq, Repr

structure Logger where
  level : Option Log.Level := none
  handlers : List Handler := []
deriving DecidableEq, Repr

def Handler.isForeign : Handler → Bool
  | foreign => true
  | own _ => false

def Logger.formats (l : Logger) : List String :=
  l.handlers.filterMap fun h => match h with
    | .own format => some format
    | .foreign => none

-- The handler that was set up before gives way to the new one. Where the format is refused the
-- level is set and the handler is gone all the same.
def apply (s : LogSetup) (l : Logger) : Except Fault Unit × Logger :=
  let cleared : Logger := ⟨some s.level, l.handlers.filter Handler.isForeign⟩
  match checkFormat s.formatInUse with
  | .ok format => (.ok (), { cleared with handlers := cleared.handlers ++ [.own format] })
  | .error f => (.error f, cleared)

end LogSetup

end HttpDigest
