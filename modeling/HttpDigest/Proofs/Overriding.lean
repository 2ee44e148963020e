import HttpDigest.Proofs.Decomposition
import HttpDigest.Proofs.Overwriting

namespace HttpDigest

namespace OrderedMap

variable {κ υ : Type} [DecidableEq κ] {m n : OrderedMap κ υ} {key other : κ} {value value' : υ}

def override (m n : OrderedMap κ υ) : OrderedMap κ υ :=
  n.foldl (fun m entry => insert m entry.1 entry.2) m

theorem insert_insert_self : insert (insert m key value) key value' = insert m key value' := by
  induction m with
  | nil => simp [insert]
  | cons entry rest ih => by_cases h : entry.1 = key <;> simp [insert, h, ih]

-- A key that is present keeps its place, whatever else is put in
theorem insert_comm (hne : key ≠ other) (hm : key ∈ keys m) :
    insert (insert m other value') key value = insert (insert m key value) other value' := by
  induction m with
  | nil => cases hm
  | cons entry rest ih =>
      by_cases hk : entry.1 = key
      · simp [insert, hk, hne]
      · have hrest : key ∈ keys rest := (List.mem_cons.mp hm).resolve_left (Ne.symm hk)
        by_cases ho : entry.1 = other
        · simp [insert, ho, hne.symm]
        · simp [insert, hk, ho, ih hrest]

theorem insert_override_of_mem (hm : key ∈ keys m) (hn : key ∉ keys n) :
    insert (override m n) key value = override (insert m key value) n := by
  induction n generalizing m with
  | nil => rfl
  | cons entry rest ih =>
      rw [keys_cons, List.mem_cons, not_or] at hn
      have hkept : key ∈ keys (insert m entry.1 entry.2) := by
        rw [keys_insert]
        split
        · exact hm
        · exact List.mem_append_left _ hm
      have hrest := ih hkept hn.2
      rw [insert_comm hn.1 hm] at hrest
      exact hrest

-- Of the entries that are put in only the last one of each key matters
theorem override_insert (hn : (keys n).Nodup) :
    override m (insert n key value) = insert (override m n) key value := by
  induction n generalizing m with
  | nil => rfl
  | cons entry rest ih =>
      obtain ⟨hnot, hrest⟩ := List.nodup_cons.mp hn
      by_cases hk : entry.1 = key
      · subst hk
        have hmem : entry.1 ∈ keys (insert m entry.1 entry.2) := by
          rw [← contains_iff, contains, get?_insert_self]
          rfl
        have hput : insert (override (insert m entry.1 entry.2) rest) entry.1 value
            = override (insert (insert m entry.1 entry.2) entry.1 value) rest :=
          insert_override_of_mem hmem hnot
        rw [insert_insert_self] at hput
        rw [insert, if_pos rfl]
        exact hput.symm
      · rw [insert, if_neg hk]
        exact ih hrest

theorem ofList_append (xs ys : List (κ × υ)) :
    ofList (xs ++ ys) = override (ofList xs) (ofList ys) := by
  induction ys using List.reverseRecOn with
  | nil => rw [List.append_nil]; rfl
  | append_singleton ys entry ih =>
      rw [← List.append_assoc, ofList_concat, ofList_concat, ih,
        override_insert (nodup_keys_ofList ys)]

theorem get?_override (hn : (keys n).Nodup) :
    get? (override m n) key = (get? n key).or (get? m key) := by
  induction n generalizing m with
  | nil => rfl
  | cons entry rest ih =>
      obtain ⟨hnot, hrest⟩ := List.nodup_cons.mp hn
      have hput : get? (override m (entry :: rest)) key
          = (get? rest key).or (get? (insert m entry.1 entry.2) key) := ih hrest
      rw [hput, get?_insert]
      by_cases hk : entry.1 = key
      · subst hk
        rw [get?_eq_none_iff.mpr hnot]
        simp [get?]
      · simp [get?, hk]

-- The order of the entries does not matter to a look-up
theorem get?_of_perm (hp : m.Perm n) (hm : (keys m).Nodup) : get? m key = get? n key := by
  have hn : (keys n).Nodup := (hp.map Prod.fst).nodup hm
  have hmem : ∀ {m : OrderedMap κ υ}, (keys m).Nodup → ∀ v, get? m key = some v ↔ (key, v) ∈ m :=
    fun hm _ => ⟨mem_of_get?, get?_eq_some_of_mem hm⟩
  refine Option.ext fun v => ?_
  rw [hmem hm, hmem hn, hp.mem_iff]

end OrderedMap

namespace Text

variable {α : Type} [BEq α] [LawfulBEq α] {x : α} {xs before after : List α}

theorem cut?_eq_some_iff :
    cut? [x] xs = some (before, after) ↔ xs = before ++ x :: after ∧ x ∉ before := by
  constructor
  · intro h
    have hm : x ∈ xs := by
      rw [eq_append_of_cut? h]
      simp
    obtain ⟨first, rest, rfl, hnot⟩ := List.eq_append_cons_of_mem hm
    rw [cut?_append hnot] at h
    obtain ⟨rfl, rfl⟩ := Prod.mk.inj (Option.some.inj h)
    exact ⟨rfl, hnot⟩
  · rintro ⟨rfl, hnot⟩
    exact cut?_append hnot

end Text

namespace Directives

variable {entry : List Char} {name value : String} {entries : List String}

-- The name of an entry: what stands before its first equals sign, stripped and in lower case
def Named (entry : List Char) (name : String) : Prop :=
  ∃ key raw, entry = key ++ '=' :: raw ∧ '=' ∉ key ∧ Text.lower (Text.strip (.ofList key)) = name

-- An entry with a name that is not blank, and the value behind its first equals sign
def Tells (entry : List Char) (name value : String) : Prop :=
  ∃ key raw, entry = key ++ '=' :: raw ∧ '=' ∉ key ∧
    Text.lower (Text.strip (.ofList key)) = name ∧ name ≠ "" ∧
      String.ofList (unquote ['"'] (Text.trimBoth Text.isBlank raw)) = value

-- An entry without an equals sign, or with nothing but blanks before the first one
def Silent (entry : List Char) : Prop :=
  '=' ∉ entry ∨ ∃ key raw, entry = key ++ '=' :: raw ∧ ∀ c ∈ key, Text.isBlank c = true

theorem readEntry_eq_some_iff :
    readEntry ['='] ['"'] entry = some (name, value) ↔ Tells entry name value := by
  cases hcut : Text.cut? ['='] entry with
  | none =>
      rw [readEntry, hcut]
      refine iff_of_false (by simp) ?_
      rintro ⟨key, raw, he, hkey, -⟩
      rw [Text.cut?_eq_some_iff.mpr ⟨he, hkey⟩] at hcut
      cases hcut
  | some sides =>
      obtain ⟨key, raw⟩ := sides
      have hparts := Text.cut?_eq_some_iff.mp hcut
      rw [readEntry, hcut]
      constructor
      · intro h
        simp only at h
        split at h
        · cases h
        · rename_i hne
          obtain ⟨rfl, rfl⟩ := Prod.mk.inj (Option.some.inj h)
          refine ⟨key, raw, hparts.1, hparts.2, ?_, hne, rfl⟩
          rw [Text.strip, String.toList_ofList]
      · rintro ⟨key', raw', he, hkey, rfl, hne, rfl⟩
        rw [Text.cut?_eq_some_iff.mpr ⟨he, hkey⟩] at hcut
        obtain ⟨rfl, rfl⟩ := Prod.mk.inj (Option.some.inj hcut)
        rw [Text.strip, String.toList_ofList] at hne ⊢
        simp only [if_neg hne]

theorem Tells.named (h : Tells entry name value) : Named entry name := by
  obtain ⟨key, raw, he, hkey, hname, -⟩ := h
  exact ⟨key, raw, he, hkey, hname⟩

theorem Named.exists_tells (h : Named entry name) (hne : name ≠ "") :
    ∃ value, Tells entry name value := by
  obtain ⟨key, raw, he, hkey, hname⟩ := h
  exact ⟨_, key, raw, he, hkey, hname, hne, rfl⟩

theorem readEntry_of_silent (h : Silent entry) : readEntry ['='] ['"'] entry = none := by
  refine Option.eq_none_iff_forall_ne_some.mpr fun said hs => ?_
  obtain ⟨key, raw, he, hkey, hname, hne, -⟩ := readEntry_eq_some_iff.mp hs
  rcases h with hnone | ⟨blanks, rest, hb, hblank⟩
  · exact hnone (he ▸ by simp)
  · have hequals : '=' ∉ blanks := Text.not_mem_of_blanks (by decide) hblank
    obtain ⟨rfl, -⟩ := Text.parts_inj hkey hequals (he.symm.trans hb)
    have htrim : Text.trimBoth Text.isBlank key = [] := by
      rw [← key.append_nil, Text.trimBoth_append hblank]
      rfl
    rw [Text.strip, String.toList_ofList, htrim] at hname
    exact hne (hname.symm.trans (by decide))

theorem entryValue?_eq_some_iff :
    entryValue? name entry = some value ↔ Tells entry name value := by
  rw [← readEntry_eq_some_iff, entryValue?, Option.bind_eq_some_iff]
  constructor
  · rintro ⟨⟨k, v⟩, hread, hif⟩
    obtain ⟨rfl, hv⟩ := Option.ite_none_right_eq_some.mp hif
    obtain rfl := Option.some.inj hv
    exact hread
  · intro hread
    exact ⟨(name, value), hread, if_pos rfl⟩

theorem read_append {a : String} (h : Scan.outside.run a.toList = .outside) (b : String) :
    read (a ++ "," ++ b) = (read a).override (read b) := by
  have htext : (a ++ "," ++ b).toList = a.toList ++ ',' :: b.toList := by simp
  rw [read, htext, pieces_append (by decide) h, ofEntries, List.filterMap_append,
    OrderedMap.ofList_append]
  rfl

-- Entries that are closed are read one by one
theorem read_joined (h : ∀ e ∈ entries, Closed e.toList) :
    read (",".intercalate entries) = ofEntries ['='] ['"'] (entries.map String.toList) := by
  by_cases hne : entries = []
  · subst hne
    decide
  · have hpieces : pieces ',' .outside ([','].intercalate (entries.map String.toList))
        = entries.map String.toList := by
      refine pieces_joined (by decide) (by simpa using hne) (fun p hp => ?_) fun p hp => ?_
      · obtain ⟨e, he, rfl⟩ := List.mem_map.mp hp
        exact (h e he).unbroken
      · obtain ⟨e, he, rfl⟩ := List.mem_map.mp (List.mem_of_mem_dropLast hp)
        exact (h e he).closes
    rw [read, String.toList_intercalate, show ",".toList = [','] from rfl, hpieces]

-- The last entry of a name tells its value
theorem valueOf?_eq_some_iff :
    valueOf? (entries.map String.toList) name = some value ↔
      ∃ before entry after, entries = before ++ entry :: after ∧ Tells entry.toList name value ∧
        ∀ later ∈ after, ¬Named later.toList name := by
  rw [valueOf?, ← List.map_reverse, List.findSome?_map, List.findSome?_eq_some_iff]
  constructor
  · rintro ⟨after, entry, before, he, htells, hlater⟩
    have htells := entryValue?_eq_some_iff.mp htells
    refine ⟨before.reverse, entry, after.reverse, ?_, htells, fun later hm hnamed => ?_⟩
    · rw [← List.reverse_inj, he]
      simp
    · obtain ⟨-, -, -, -, -, hne, -⟩ := htells
      obtain ⟨v, hv⟩ := hnamed.exists_tells hne
      have hnone := hlater later (List.mem_reverse.mp hm)
      rw [Function.comp_apply, entryValue?_eq_some_iff.mpr hv] at hnone
      cases hnone
  · rintro ⟨before, entry, after, rfl, htells, hlater⟩
    refine ⟨after.reverse, entry, before.reverse, by simp, entryValue?_eq_some_iff.mpr htells,
      fun later hm => Option.eq_none_iff_forall_ne_some.mpr fun v hv => ?_⟩
    exact hlater later (List.mem_reverse.mp hm) (entryValue?_eq_some_iff.mp hv).named

-- What is left out of a list of entries, or put in, if it is silent
theorem ofEntries_silent {before after : List (List Char)} (h : Silent entry) :
    ofEntries ['='] ['"'] (before ++ entry :: after) = ofEntries ['='] ['"'] (before ++ after) := by
  rw [ofEntries, ofEntries, List.filterMap_append, List.filterMap_append,
    List.filterMap_cons_none (readEntry_of_silent h)]

theorem nodup_keys_filterMap {xs : List (List Char)}
    (h : xs.Pairwise fun e f => ∀ name, name ≠ "" → Named e name → ¬Named f name) :
    (OrderedMap.keys (xs.filterMap (readEntry ['='] ['"']))).Nodup := by
  rw [OrderedMap.keys, List.Nodup, List.pairwise_map, List.pairwise_filterMap]
  refine h.imp fun hapart said hs said' hs' heq => ?_
  have htells := readEntry_eq_some_iff.mp (show _ = some (said.1, said.2) from hs)
  have htells' := readEntry_eq_some_iff.mp (show _ = some (said'.1, said'.2) from hs')
  obtain ⟨-, -, -, -, -, hne, -⟩ := id htells
  exact hapart said.1 hne htells.named (heq ▸ htells'.named)

theorem get?_ofEntries_of_perm {xs ys : List (List Char)} (hp : xs.Perm ys)
    (h : xs.Pairwise fun e f => ∀ name, name ≠ "" → Named e name → ¬Named f name) :
    (ofEntries ['='] ['"'] xs).get? name = (ofEntries ['='] ['"'] ys).get? name := by
  have hperm : (xs.filterMap (readEntry ['='] ['"'])).Perm (ys.filterMap (readEntry ['='] ['"'])) :=
    hp.filterMap _
  have hkeys := nodup_keys_filterMap h
  have hkeys' : (OrderedMap.keys (ys.filterMap (readEntry ['='] ['"']))).Nodup :=
    (hperm.map Prod.fst).nodup hkeys
  rw [ofEntries, ofEntries, OrderedMap.ofList_of_nodup hkeys, OrderedMap.ofList_of_nodup hkeys']
  exact OrderedMap.get?_of_perm hperm hkeys

-- A text behind a comma outside quotes overrides what is before it. Of closed entries in a list the
-- last one of a name gives its value, silent ones do nothing, and where the names differ the order
-- does not matter.
theorem read_last_of_each_name :
    (∀ a b : String, Scan.outside.run a.toList = .outside →
      read (a ++ "," ++ b) = (read a).override (read b) ∧
        ∀ name, (read (a ++ "," ++ b)).get? name
          = ((read b).get? name).or ((read a).get? name)) ∧
    ∀ entries : List String, (∀ e ∈ entries, Closed e.toList) →
      (∀ name value, (read (",".intercalate entries)).get? name = some value ↔
        ∃ before entry after, entries = before ++ entry :: after ∧ Tells entry.toList name value ∧
          ∀ later ∈ after, ¬Named later.toList name) ∧
      (∀ before entry after, entries = before ++ entry :: after → Silent entry.toList →
        read (",".intercalate entries) = read (",".intercalate (before ++ after))) ∧
      ∀ others, entries.Perm others →
        (entries.Pairwise fun e f => ∀ name, name ≠ "" → Named e.toList name →
          ¬Named f.toList name) →
        ∀ name, (read (",".intercalate entries)).get? name
          = (read (",".intercalate others)).get? name := by
  refine ⟨fun a b ha => ⟨read_append ha b, fun name => ?_⟩, fun entries hc => ⟨?_, ?_, ?_⟩⟩
  · rw [read_append ha b]
    exact OrderedMap.get?_override (OrderedMap.nodup_keys_ofList _)
  · intro name value
    rw [read_joined hc, get?_ofEntries, valueOf?_eq_some_iff]
  · rintro before entry after rfl hsilent
    have hrest : ∀ e ∈ before ++ after, Closed e.toList := fun e he => hc e <| by
      rw [List.mem_append, List.mem_cons]
      exact (List.mem_append.mp he).imp_right .inr
    rw [read_joined hc, read_joined hrest, List.map_append, List.map_append, List.map_cons,
      ofEntries_silent hsilent]
  · intro others hp hapart name
    have hothers : ∀ e ∈ others, Closed e.toList := fun e he => hc e (hp.mem_iff.mpr he)
    rw [read_joined hc, read_joined hothers]
    exact get?_ofEntries_of_perm (hp.map _) (List.pairwise_map.mpr hapart)

def sampleEntries : List String := ["A=1", "junk", "a =\"x,y\""]

theorem read_last_of_each_name_sample :
    Scan.outside.run "A=\"1,2\"".toList = .outside ∧
    read ("A=\"1,2\"" ++ "," ++ "a=3") = (read "A=\"1,2\"").override (read "a=3") ∧
    (∀ e ∈ sampleEntries, Closed e.toList) ∧ Silent "junk".toList ∧
    read (",".intercalate sampleEntries) = read (",".intercalate ["A=1", "a =\"x,y\""]) := by
  have hrun : Scan.outside.run "A=\"1,2\"".toList = .outside := by decide
  have hclosed : ∀ e ∈ sampleEntries, Closed e.toList := by
    intro e he
    rcases List.mem_cons.mp he with rfl | he
    · exact ⟨by decide, by decide⟩
    rcases List.mem_cons.mp he with rfl | he
    · exact ⟨by decide, by decide⟩
    obtain rfl := List.mem_singleton.mp he
    exact ⟨by decide, by decide⟩
  have hsilent : Silent "junk".toList := .inl (by decide)
  obtain ⟨happend, hentries⟩ := read_last_of_each_name
  obtain ⟨-, hwithout, -⟩ := hentries sampleEntries hclosed
  exact ⟨hrun, (happend _ _ hrun).1, hclosed, hsilent,
    hwithout ["A=1"] "junk" ["a =\"x,y\""] rfl hsilent⟩

end Directives

end HttpDigest
