import HttpDigest.OrderedMap
import HttpDigest.Text.Numeral
import HttpDigest.Text.Search

namespace HttpDigest.CommandLine

inductive Kind where
  | help
  | version
  | flag
  | text
  | integer
  | choice (allowed : List String)
deriving DecidableEq, Repr

def Kind.takesValue : Kind → Bool
  | text | integer | choice _ => true
  | help | version | flag => false

structure OptionRule where
  name : String
  kind : Kind
  required : Bool := false
deriving DecidableEq, Repr

-- What stands among the options: nothing, one word under a name, or the name of a command, to
-- which everything behind it belongs
inductive Operand where
  | nothing
  | word (name : String)
  | command (names : List String)
deriving DecidableEq, Repr

structure Level where
  options : List OptionRule
  operand : Operand
deriving DecidableEq, Repr

inductive Given where
  | flag
  | text (s : String)
  | integer (n : Int)
deriving DecidableEq, Repr

inductive Stop where
  | refused
  | help
  | version
deriving DecidableEq, Repr

-- An option as it was written. A value may stand behind an equals sign; the short help may have
-- letters behind it.
inductive Written where
  | long (rule : OptionRule) (value : Option String)
  | shortHelp (tail : String)
deriving DecidableEq, Repr

inductive Item where
  | separator
  | operand (word : String)
  | option (word : String) (written : Option Written)
deriving DecidableEq, Repr

def Item.word : Item → String
  | separator => "--"
  | operand word => word
  | option word _ => word

def splitValue (cs : List Char) : List Char × Option String :=
  match Text.cut? ['='] cs with
  | some (name, value) => (name, some (.ofList value))
  | none => (cs, none)

def isDigits (cs : List Char) : Bool :=
  !cs.isEmpty && cs.all fun c => (Text.Numeral.digit? c).isSome

-- A minus sign before digits, or before digits with a point among them and a digit behind it,
-- is a number and no option. One line break at the end does not count.
def looksNegative (cs : List Char) : Bool :=
  match cs with
  | '-' :: rest =>
    let body := if rest.getLast? = some '\n' then rest.dropLast else rest
    isDigits body || match Text.cut? ['.'] body with
      | some (whole, fraction) => (whole.isEmpty || isDigits whole) && isDigits fraction
      | none => false
  | _ => false

def rulesFor (options : List OptionRule) (start : List Char) : List OptionRule :=
  options.filter fun rule => start.isPrefixOf rule.name.toList

-- A word that begins with a minus sign and is no option by name: a number, or a text with a
-- blank, is an operand; all else is an option that is not known
def unknown (word : String) : Item :=
  if looksNegative word.toList || word.toList.contains ' ' then .operand word
  else .option word none

-- A word in full: a long option may be cut short as long as one name begins so
def classify (options : List OptionRule) (word : String) : Except Stop Item :=
  match word.toList with
  | ['-'] => .ok (.operand word)
  | '-' :: 'h' :: tail => .ok (.option word (some (.shortHelp (.ofList tail))))
  | '-' :: '-' :: _ =>
    let whole := options.find? fun rule => rule.name = word
    let (start, value) := splitValue word.toList
    let exact := options.find? fun rule => rule.name.toList = start
    match whole, exact with
    | some rule, _ => .ok (.option word (some (.long rule none)))
    | none, some rule => .ok (.option word (some (.long rule value)))
    | none, none => match rulesFor options start with
      | [] => .ok (unknown word)
      | [rule] => .ok (.option word (some (.long rule value)))
      | _ => .error .refused
  | '-' :: _ => .ok (unknown word)
  | _ => .ok (.operand word)

def classifyAll (options : List OptionRule) : List String → Except Stop (List Item)
  | [] => .ok []
  | word :: rest =>
    if word = "--" then .ok (.separator :: rest.map .operand)
    else do
      let item ← classify options word
      let items ← classifyAll options rest
      return item :: items

-- What was read at one level: the values given, the words that nobody understood, and the
-- command with the words behind it
structure Reading where
  given : List (String × Given) := []
  extras : List String := []
  command : Option (String × List String) := none
deriving DecidableEq, Repr

def Reading.give (r : Reading) (name : String) (g : Given) : Reading :=
  { r with given := OrderedMap.insert r.given name g }

def Reading.addExtras (r : Reading) (words : List String) : Reading :=
  { r with extras := r.extras ++ words }

def readValue (rule : OptionRule) (value : String) : Except Stop Given :=
  match rule.kind with
  | .integer => match Text.integer? value with
    | some n => .ok (.integer n)
    | none => .error .refused
  | .choice allowed => if allowed.contains value then .ok (.text value) else .error .refused
  | _ => .ok (.text value)

def trigger (rule : OptionRule) (r : Reading) : Except Stop Reading :=
  match rule.kind with
  | .help => .error .help
  | .version => .error .version
  | _ => .ok (r.give rule.name .flag)

-- The short help may be repeated, also behind one equals sign. No other letter may stand there.
def shortHelp (tail : List Char) : Stop :=
  let (letters, mayBeNone) := match tail with
    | '=' :: rest => (rest, false)
    | _ => (tail, true)
  if letters.all (· = 'h') && (mayBeNone || !letters.isEmpty) then .help else .refused

-- The items are taken one after another. `pending` is the operand that is still awaited.
def take (pending : Operand) (r : Reading) : List Item → Except Stop Reading
  | [] => .ok r
  | .separator :: rest => match pending, rest with
    | .word name, item :: rest => .ok ((r.give name (.text item.word)).addExtras
        (rest.map Item.word))
    | .command _, _ :: _ => .error .refused
    | _, _ => .ok (r.addExtras ("--" :: rest.map Item.word))
  | .operand word :: rest => match pending with
    | .nothing => take .nothing (r.addExtras [word]) rest
    | .command names =>
      if names.contains word then .ok { r with command := some (word, rest.map Item.word) }
      else .error .refused
    | .word name => match rest with
      | .separator :: rest =>
        .ok ((r.give name (.text word)).addExtras (rest.map Item.word))
      | rest => take .nothing (r.give name (.text word)) rest
  | .option word none :: rest => take pending (r.addExtras [word]) rest
  | .option _ (some (.shortHelp tail)) :: _ => .error (shortHelp tail.toList)
  | .option _ (some (.long rule value)) :: rest =>
    if rule.kind.takesValue then
      match value, rest with
      | some value, rest => match readValue rule value with
        | .ok g => take pending (r.give rule.name g) rest
        | .error stop => .error stop
      | none, .operand value :: rest => match readValue rule value with
        | .ok g => take pending (r.give rule.name g) rest
        | .error stop => .error stop
      | none, _ => .error .refused
    else if value.isSome then .error .refused
    else match trigger rule r with
      | .ok r => take pending r rest
      | .error stop => .error stop

def helpRule : OptionRule := ⟨"--help", .help, false⟩

def requiredNames (level : Level) : List String :=
  (level.options.filter OptionRule.required).map OptionRule.name
    ++ match level.operand with
      | .word name => [name]
      | .nothing | .command _ => []

def read (level : Level) (words : List String) : Except Stop Reading := do
  let items ← classifyAll (helpRule :: level.options) words
  let r ← take level.operand {} items
  if (requiredNames level).all fun name => OrderedMap.contains r.given name then return r
  else throw .refused

end HttpDigest.CommandLine
