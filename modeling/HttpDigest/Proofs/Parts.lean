import HttpDigest.Proofs.Entries
import Mathlib.Data.List.Forall2

namespace HttpDigest

namespace OrderedMap

variable {κ υ : Type} [DecidableEq κ]

theorem insert_of_not_mem {m : OrderedMap κ υ} {key : κ} {value : υ} (h : key ∉ keys m) :
    insert m key value = m ++ [(key, value)] := by
  induction m with
  | nil => rfl
  | cons entry rest ih =>
      rw [keys_cons, List.mem_cons, not_or] at h
      rw [insert, if_neg (Ne.symm h.1), ih h.2]
      rfl

theorem get?_append {m n : OrderedMap κ υ} {key : κ} :
    get? (m ++ n) key = (get? m key).or (get? n key) := by
  induction m with
  | nil => rfl
  | cons entry rest ih => by_cases h : entry.1 = key <;> simp [get?, h, ih]

-- Entries with keys of their own are the map that they make
theorem ofList_of_nodup {entries : OrderedMap κ υ} (h : (keys entries).Nodup) :
    ofList entries = entries := by
  suffices ∀ m : OrderedMap κ υ, (keys (m ++ entries)).Nodup →
      entries.foldl (fun m entry => insert m entry.1 entry.2) m = m ++ entries from
    this [] (by simpa using h)
  induction entries with
  | nil => exact fun m _ => (List.append_nil m).symm
  | cons entry rest ih =>
      intro m hm
      have hnot : entry.1 ∉ keys m := by
        intro hmem
        rw [keys, List.map_append, List.nodup_append] at hm
        exact hm.2.2 _ hmem _ List.mem_cons_self rfl
      rw [List.foldl_cons, insert_of_not_mem hnot,
        ih (List.nodup_cons.mp h).2 _ (by simpa using hm)]
      simp

end OrderedMap

namespace Client

def bare (name value : String) : String :=
  name ++ "=" ++ value

def quoted (name value : String) : String :=
  bare name (quote value)

theorem toList_bare (name value : String) :
    (bare name value).toList = name.toList ++ '=' :: value.toList := by
  simp [bare]

end Client

namespace Directives

variable {name value : String}

theorem IsName.closed (hn : IsName name) : Closed (name.toList ++ ['=']) := by
  refine closed_of_not_mem ?_ ?_ <;> rw [List.mem_append, not_or]
  · exact ⟨hn.not_mem (by decide), by decide⟩
  · exact ⟨hn.not_mem (by decide), by decide⟩

theorem IsName.unbroken_append (hn : IsName name) (cs : List Char) :
    Scan.outside.unbroken ',' (name.toList ++ '=' :: cs) = Scan.outside.unbroken ',' cs := by
  rw [← List.singleton_append, ← List.append_assoc, Scan.unbroken_append, hn.closed.unbroken,
    hn.closed.closes, Bool.true_and]

theorem IsName.run_append (hn : IsName name) (cs : List Char) :
    Scan.outside.run (name.toList ++ '=' :: cs) = Scan.outside.run cs := by
  rw [← List.singleton_append, ← List.append_assoc, Scan.run_append, hn.closed.closes]

theorem IsName.closed_append_iff (hn : IsName name) {cs : List Char} :
    Closed (name.toList ++ '=' :: cs) ↔ Closed cs := by
  constructor
  · intro hc
    exact ⟨hn.unbroken_append cs ▸ hc.unbroken, hn.run_append cs ▸ hc.closes⟩
  · intro hc
    exact ⟨hn.unbroken_append cs ▸ hc.unbroken, hn.run_append cs ▸ hc.closes⟩

-- What is read from a part on its own, whatever blanks stand before it
theorem readEntry_bare {raw : String} {lead : List Char} (hn : IsName name)
    (hl : ∀ c ∈ lead, Text.isBlank c = true)
    (ht : Text.trimBoth Text.isBlank raw.toList = raw.toList)
    (hu : unquote ['"'] raw.toList = value.toList) :
    readEntry ['='] ['"'] (lead ++ (Client.bare name raw).toList) = some (name, value) := by
  rw [Client.toList_bare, ← List.append_assoc, readEntry_eq hn hl, ht, hu, String.ofList_toList]

theorem trimBoth_around {lead tail : List Char} (hl : ∀ c ∈ lead, Text.isBlank c = true)
    (ht : ∀ c ∈ tail, Text.isBlank c = true) (cs : List Char) :
    Text.trimBoth Text.isBlank (lead ++ ('"' :: cs ++ ['"']) ++ tail) = '"' :: cs ++ ['"'] := by
  have hq : Text.isBlank '"' = false := Text.isBlank_eq_false (by decide)
  refine Text.trimBoth_between hl ht (List.cons_ne_nil _ _) ?_ ?_
  · simpa using hq
  · rw [List.getLast?_concat]
    simpa using hq

theorem trimBoth_enclosed (cs : List Char) :
    Text.trimBoth Text.isBlank ('"' :: cs ++ ['"']) = '"' :: cs ++ ['"'] := by
  have hnone : ∀ c ∈ ([] : List Char), Text.isBlank c = true := by simp
  simpa using trimBoth_around hnone hnone cs

theorem trimBoth_quote (v : String) :
    Text.trimBoth Text.isBlank (Client.quote v).toList = (Client.quote v).toList := by
  rw [Client.toList_quote, trimBoth_enclosed]

structure Plain (v : String) : Prop where
  noComma : ',' ∉ v.toList
  noQuote : '"' ∉ v.toList
  stripped : Text.strip v = v

instance (v : String) : Decidable (Plain v) :=
  decidable_of_iff (',' ∉ v.toList ∧ '"' ∉ v.toList ∧ Text.strip v = v)
    ⟨fun ⟨hc, hq, hs⟩ => ⟨hc, hq, hs⟩, fun ⟨hc, hq, hs⟩ => ⟨hc, hq, hs⟩⟩

theorem says_plain (hn : IsName name) (hv : Plain value) :
    Says (Client.bare name value) name value := by
  have htrim : Text.trimBoth Text.isBlank value.toList = value.toList := by
    have hs := congrArg String.toList hv.stripped
    rwa [Text.strip, String.toList_ofList] at hs
  refine ⟨?_, fun lead hl => readEntry_bare hn hl htrim (unquote_of_not_mem hv.noQuote)⟩
  rw [Client.toList_bare]
  exact hn.closed_append_iff.mpr (closed_of_not_mem hv.noComma hv.noQuote)

-- Parts that come apart again behind commas: no comma stands outside quotes in any of them, and
-- of all but the last the quotes are closed
def Separable : List String → Prop
  | [] => True
  | [part] => Scan.outside.unbroken ',' part.toList = true
  | part :: next :: rest => Closed part.toList ∧ Separable (next :: rest)

def behind : List String → List Char
  | [] => []
  | next :: rest => ',' :: ' ' :: (", ".intercalate (next :: rest)).toList

theorem toList_intercalate_cons (part : String) (parts : List String) :
    (", ".intercalate (part :: parts)).toList = part.toList ++ behind parts := by
  cases parts <;> simp [behind]

-- They are read one by one, the blank behind a comma belongs to the next part
theorem pieces_intercalate {part : String} {parts : List String}
    (h : Separable (part :: parts)) :
    pieces ',' .outside (", ".intercalate (part :: parts)).toList
      = part.toList :: parts.map fun p => ' ' :: p.toList := by
  induction parts generalizing part with
  | nil => rw [String.intercalate_singleton, pieces_of_unbroken h, List.map_nil]
  | cons next parts ih =>
      obtain ⟨hpart, hnext⟩ := h
      have hblank : pieces ',' .outside (' ' :: (", ".intercalate (next :: parts)).toList)
          = (' ' :: next.toList) :: parts.map fun p => ' ' :: p.toList := by
        rw [pieces, if_neg (by decide), show Scan.outside.next ' ' = .outside from rfl, ih hnext]
      rw [toList_intercalate_cons, behind, pieces_append (by decide) hpart.closes,
        pieces_of_unbroken hpart.unbroken, hblank, List.map_cons]
      rfl

def listed (text : String) : List (String × String) :=
  (pieces ',' .outside text.toList).filterMap (readEntry ['='] ['"'])

theorem read_eq_ofList_listed (text : String) : read text = .ofList (listed text) := rfl

-- A part, and the entry that is read from it, whatever blanks stand before it
def Reads (part : String) (entry : String × String) : Prop :=
  ∀ lead : List Char, (∀ c ∈ lead, Text.isBlank c = true) →
    readEntry ['='] ['"'] (lead ++ part.toList) = some entry

theorem listed_intercalate {parts : List String} {entries : List (String × String)}
    (hs : Separable parts) (h : List.Forall₂ Reads parts entries) :
    listed (", ".intercalate parts) = entries := by
  have hlater : ∀ {parts : List String} {entries : List (String × String)},
      List.Forall₂ Reads parts entries →
      (parts.map fun p => ' ' :: p.toList).filterMap (readEntry ['='] ['"']) = entries := by
    intro parts entries h
    induction h with
    | nil => rfl
    | cons hp _ ih =>
        have hread := hp [' '] fun c hc => List.mem_singleton.mp hc ▸ rfl
        rw [List.singleton_append] at hread
        rw [List.map_cons, List.filterMap_cons_some hread, ih]
  cases h with
  | nil => rfl
  | cons hp hrest =>
      have hfirst := hp [] (by simp)
      rw [List.nil_append] at hfirst
      rw [listed, pieces_intercalate hs, List.filterMap_cons_some hfirst, hlater hrest]

end Directives

end HttpDigest
