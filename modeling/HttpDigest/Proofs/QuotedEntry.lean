import HttpDigest.Proofs.Overriding

namespace HttpDigest

namespace Text

def Blank (s : String) : Prop :=
  (s.toList.all isBlank) = true

instance (s : String) : Decidable (Blank s) :=
  inferInstanceAs (Decidable (_ = true))

theorem Blank.isBlank {s : String} (h : Blank s) : ∀ c ∈ s.toList, Text.isBlank c = true :=
  List.all_eq_true.mp h

end Text

namespace Client

-- Between its quotes stands a text with a backslash more before each of its own quotes
theorem escape_eq_flatMap (cs : List Char) :
    escape cs = cs.flatMap fun c => if c = '"' then ['\\', '"'] else [c] := by
  induction cs with
  | nil => rfl
  | cons c cs ih => rw [escape_cons, ih, List.flatMap_cons]

end Client

namespace Directives

open Client (quote)

variable {v name value key lead tail : String} {entries : List String}

-- Entries that are texts are read one by one
theorem mapM_readValue (entries : List String) :
    (entries.map Value.text).mapM (readValue (.text "=") (.text "\""))
      = .ok (entries.map fun entry => readEntry ['='] ['"'] entry.toList) := by
  induction entries with
  | nil => rfl
  | cons entry entries ih =>
      have hfirst : readValue (.text "=") (.text "\"") (.text entry)
          = .ok (readEntry ['='] ['"'] entry.toList) := rfl
      rw [List.map_cons, List.mapM_cons, hfirst, ih]
      rfl

theorem ofValues_texts (entries : List String) :
    ofValues (.list (entries.map .text)) (.text "=") (.text "\"")
      = .ok (ofEntries ['='] ['"'] (entries.map String.toList)) := by
  have hread : ofValues (.list (entries.map .text)) (.text "=") (.text "\"")
      = (entries.map Value.text).mapM (readValue (.text "=") (.text "\"")) >>= fun read =>
        .ok (.ofList (read.filterMap id)) := rfl
  rw [hread, mapM_readValue, ofEntries, List.filterMap_map]
  exact congrArg (fun found => Except.ok (OrderedMap.ofList found)) (by simp)

theorem ofValues_of_read {entry : String}
    (h : readEntry ['='] ['"'] entry.toList = some (name, value)) :
    ofValues (.list [.text entry]) (.text "=") (.text "\"") = .ok [(name, value)] := by
  refine (ofValues_texts [entry]).trans ?_
  simp [ofEntries, h, OrderedMap.ofList, OrderedMap.insert]

-- Blanks around a quoted value fall away, and none that stands within the quotes
theorem unquote_trimBoth_quote (hl : Text.Blank lead) (ht : Text.Blank tail) (v : String) :
    String.ofList (unquote ['"'] (Text.trimBoth Text.isBlank
      (lead.toList ++ (quote v).toList ++ tail.toList))) = v := by
  have htrim : Text.trimBoth Text.isBlank (lead.toList ++ (quote v).toList ++ tail.toList)
      = (quote v).toList := by
    rw [Client.toList_quote]
    exact trimBoth_around hl.isBlank ht.isBlank _
  rw [htrim, unquote_quote, String.ofList_toList]

theorem readEntry_quote (hk : '=' ∉ key.toList) (hne : Text.lower (Text.strip key) ≠ "")
    (hl : Text.Blank lead) (ht : Text.Blank tail) (v : String) :
    readEntry ['='] ['"'] (key ++ "=" ++ lead ++ quote v ++ tail).toList
      = some (Text.lower (Text.strip key), v) := by
  have hparts : (key ++ "=" ++ lead ++ quote v ++ tail).toList
      = key.toList ++ '=' :: (lead.toList ++ (quote v).toList ++ tail.toList) := by
    simp
  rw [readEntry_eq_some_iff, hparts]
  exact ⟨key.toList, _, rfl, hk, by rw [String.ofList_toList], hne,
    unquote_trimBoth_quote hl ht v⟩

theorem IsName.readEntry_quote (hn : IsName name) (hl : Text.Blank lead) (ht : Text.Blank tail)
    (v : String) :
    readEntry ['='] ['"'] (lead ++ name ++ "=" ++ quote v ++ tail).toList = some (name, v) := by
  have hparts : (lead ++ name ++ "=" ++ quote v ++ tail).toList
      = lead.toList ++ name.toList ++ '=' :: ([] ++ (quote v).toList ++ tail.toList) := by
    simp
  have hnone : Text.Blank "" := by decide
  rw [hparts, readEntry_eq hn hl.isBlank]
  exact congrArg (fun value => some (name, value)) (unquote_trimBoth_quote hnone ht v)

-- Unquoting undoes quoting. An entry with a quoted text is read as its name with exactly this
-- text, whatever blanks stand around the name and the quotes.
theorem quoting_undone_by_reading (v : String) :
    (quote v).toList
      = '"' :: (v.toList.flatMap fun c => if c = '"' then ['\\', '"'] else [c]) ++ ['"'] ∧
    unquote ['"'] (quote v).toList = v.toList ∧
    (∀ key lead tail : String, '=' ∉ key.toList → Text.lower (Text.strip key) ≠ "" →
      Text.Blank lead → Text.Blank tail →
      ofValues (.list [.text (key ++ "=" ++ lead ++ quote v ++ tail)]) (.text "=") (.text "\"")
        = .ok [(Text.lower (Text.strip key), v)]) ∧
    ∀ name lead tail : String, IsName name → Text.Blank lead → Text.Blank tail →
      ofValues (.list [.text (lead ++ name ++ "=" ++ quote v ++ tail)]) (.text "=") (.text "\"")
        = .ok [(name, v)] := by
  refine ⟨?_, unquote_quote v, ?_, ?_⟩
  · rw [Client.toList_quote, Client.escape_eq_flatMap]
  · intro key lead tail hk hne hl ht
    exact ofValues_of_read (readEntry_quote hk hne hl ht v)
  · intro name lead tail hn hl ht
    exact ofValues_of_read (hn.readEntry_quote hl ht v)

def awkwardText : String := " a=\"\\\"\n\"\" \\\\"

theorem quoting_undone_by_reading_sample :
    '=' ∉ " Key\t".toList ∧ Text.lower (Text.strip " Key\t") ≠ "" ∧ Text.Blank " \n" ∧
    Text.Blank "\t" ∧ IsName "key" ∧
    ofValues (.list [.text (" Key\t" ++ "=" ++ " \n" ++ quote awkwardText ++ "\t")]) (.text "=")
      (.text "\"") = .ok [(Text.lower (Text.strip " Key\t"), awkwardText)] ∧
    ofValues (.list [.text (" \n" ++ "key" ++ "=" ++ quote awkwardText ++ "\t")]) (.text "=")
      (.text "\"") = .ok [("key", awkwardText)] := by
  have hkey : '=' ∉ " Key\t".toList := by decide
  have hname : Text.lower (Text.strip " Key\t") ≠ "" := by decide
  have hlead : Text.Blank " \n" := by decide
  have htail : Text.Blank "\t" := by decide
  have hn : IsName "key" := by decide
  obtain ⟨-, -, hany, hnamed⟩ := quoting_undone_by_reading awkwardText
  exact ⟨hkey, hname, hlead, htail, hn, hany _ _ _ hkey hname hlead htail,
    hnamed _ _ _ hn hlead htail⟩

end Directives

end HttpDigest
