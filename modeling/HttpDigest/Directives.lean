import HttpDigest.Text.Blank
import HttpDigest.Text.Case
import HttpDigest.Text.Search
import HttpDigest.Value.Fields

namespace HttpDigest.Directives

-- Where a scan of quoted text stands. A backslash within quotes protects the next character.
inductive Scan where
  | outside
  | inside
  | escaped
deriving DecidableEq, Repr

namespace Scan

def next : Scan → Char → Scan
  | outside, c => if c = '"' then inside else outside
  | inside, c => if c = '\\' then escaped else if c = '"' then outside else inside
  | escaped, _ => inside

-- A delimiter parts the text only outside quotes, and a quote never does
def breaks (delimiter : Char) : Scan → Char → Bool
  | outside, c => c = delimiter && c != '"'
  | _, _ => false

def run (s : Scan) (cs : List Char) : Scan :=
  cs.foldl next s

@[simp] theorem run_nil (s : Scan) : s.run [] = s := rfl

@[simp] theorem run_cons (s : Scan) (c : Char) (cs : List Char) :
    s.run (c :: cs) = (s.next c).run cs := rfl

theorem run_append (s : Scan) (cs ds : List Char) : s.run (cs ++ ds) = (s.run cs).run ds := by
  simp [run]

-- Where the text is parted the scan stands outside quotes, before the delimiter and behind it
theorem outside_of_breaks {delimiter c : Char} {s : Scan} (h : s.breaks delimiter c = true) :
    s = outside ∧ c = delimiter ∧ s.next c = outside := by
  cases s with
  | outside =>
    simp only [breaks, Bool.and_eq_true, decide_eq_true_eq, bne_iff_ne, ne_eq] at h
    exact ⟨rfl, h.1, by simp [next, h.2]⟩
  | inside => simp [breaks] at h
  | escaped => simp [breaks] at h

end Scan

def pieces (delimiter : Char) : Scan → List Char → List (List Char)
  | _, [] => [[]]
  | s, c :: rest =>
    if s.breaks delimiter c then [] :: pieces delimiter .outside rest
    else match pieces delimiter (s.next c) rest with
      | [] => [[c]]
      | piece :: others => (c :: piece) :: others

theorem pieces_ne_nil (delimiter : Char) (s : Scan) (cs : List Char) :
    pieces delimiter s cs ≠ [] := by
  cases cs with
  | nil => simp [pieces]
  | cons c rest =>
    rw [pieces]
    split
    · simp
    · split <;> simp

-- Nothing is lost: the pieces with the delimiter between them are the text
theorem intercalate_pieces (delimiter : Char) (s : Scan) (cs : List Char) :
    [delimiter].intercalate (pieces delimiter s cs) = cs := by
  induction cs generalizing s with
  | nil => rfl
  | cons c rest ih =>
    rw [pieces]
    split
    · rename_i h
      obtain ⟨_, hc, _⟩ := Scan.outside_of_breaks h
      have := ih .outside
      cases hp : pieces delimiter .outside rest with
      | nil => exact absurd hp (pieces_ne_nil delimiter .outside rest)
      | cons piece others => simp_all
    · have := ih (s.next c)
      split
      · rename_i hp
        exact absurd hp (pieces_ne_nil delimiter (s.next c) rest)
      · rename_i piece others hp
        rw [hp] at this
        cases others with
        | nil => simpa using this
        | cons next others => simpa using this

def split (text : String) (delimiter : Char) : List String :=
  (pieces delimiter .outside text.toList).map String.ofList

def joined (v : Value) : Except Fault String := do
  let elements ← v.elements
  match elements.mapM Value.text? with
  | some texts => .ok (String.join texts)
  | none => .error .wrongType

def splitBy (v delimiter : Value) : Except Fault (List String) :=
  match delimiter with
  | .text s => match s.toList with
    | [c] => (joined v).map fun text => split text c
    | _ => .error (.badValue (some "Delimiter must be a single character"))
  | _ => .error .wrongType

-- A value without one character at both ends if quotes stand there, and with every escaped
-- quote made a plain one
def unquote (quote value : List Char) : List Char :=
  let body :=
    if 2 ≤ value.length && quote.isPrefixOf value && quote.isSuffixOf value
    then value.tail.dropLast else value
  Text.replaceAll ('\\' :: quote) quote body

-- The name and the value of an entry, cut at its first delimiter. An entry without a delimiter
-- or without a name says nothing.
def readEntry (delimiter quote entry : List Char) : Option (String × String) :=
  match Text.cut? delimiter entry with
  | none => none
  | some (before, after) =>
    let name := Text.lower (.ofList (Text.trimBoth Text.isBlank before))
    if name = "" then none
    else some (name, .ofList (unquote quote (Text.trimBoth Text.isBlank after)))

-- Of the entries of one name the last counts
def ofEntries (delimiter quote : List Char) (entries : List (List Char)) :
    OrderedMap String String :=
  .ofList (entries.filterMap (readEntry delimiter quote))

-- An entry is a text; of a container it only counts that the delimiter is not in it. No text can
-- be cut at an empty delimiter.
def readValue (delimiter quote entry : Value) :
    Except Fault (Option (String × String)) :=
  match delimiter, entry with
  | .text d, .text e =>
    if d = "" then .error (.badValue none)
    else match quote with
      | .text q => .ok (readEntry d.toList q.toList e.toList)
      | _ => if (readEntry d.toList [] e.toList).isNone then .ok none else .error .wrongType
  | delimiter, .list items =>
    if items.any (Value.sameKey delimiter) then .error .missingAttribute else .ok none
  | .text d, .object fields =>
    if OrderedMap.contains fields d then .error .missingAttribute else .ok none
  | _, _ => .error .wrongType

def ofValues (entries delimiter quote : Value) : Except Fault (OrderedMap String String) := do
  let elements ← entries.elements
  let read ← elements.mapM (readValue delimiter quote)
  return .ofList (read.filterMap id)

-- The directives of a list `name=value, name="value", ...`
def read (text : String) : OrderedMap String String :=
  ofEntries ['='] ['"'] (pieces ',' .outside text.toList)

def readJoined (v : Value) : Except Fault (OrderedMap String String) :=
  (joined v).map read

def scheme : String := "Digest "

def body? (header : String) : Option String :=
  (Text.afterPrefix? scheme.toList header.toList).map String.ofList

-- A header is a text, or null where there is none; anything else is no header
def headerText : Value → Except Fault (Option String)
  | .null => .ok none
  | .text s => .ok (some s)
  | .bytes _ => .error .wrongType
  | _ => .error .missingAttribute

def ofHeader? (header : String) : Option (OrderedMap String String) :=
  (body? header).map read

end HttpDigest.Directives
