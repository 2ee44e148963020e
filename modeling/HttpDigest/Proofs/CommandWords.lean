import HttpDigest.CommandLine
import HttpDigest.Proofs.Entries
import HttpDigest.Proofs.Results

namespace HttpDigest.CommandLine

variable {options : List OptionRule} {word name value : String} {words : List String}

theorem word_unknown : (unknown word).word = word := by
  unfold unknown
  split <;> rfl

theorem word_of_classify {item : Item} (h : classify options word = .ok item) :
    item.word = word := by
  unfold classify at h
  split at h
  · obtain rfl := Except.ok.inj h
    rfl
  · obtain rfl := Except.ok.inj h
    rfl
  · simp only at h
    split at h
    · obtain rfl := Except.ok.inj h
      rfl
    · obtain rfl := Except.ok.inj h
      rfl
    · split at h
      · obtain rfl := Except.ok.inj h
        exact word_unknown
      · obtain rfl := Except.ok.inj h
        rfl
      · cases h
  · obtain rfl := Except.ok.inj h
    exact word_unknown
  · obtain rfl := Except.ok.inj h
    rfl

theorem words_of_classifyAll {items : List Item} (h : classifyAll options words = .ok items) :
    items.map Item.word = words := by
  induction words generalizing items with
  | nil =>
      obtain rfl := Except.ok.inj h
      rfl
  | cons word rest ih =>
      rw [classifyAll] at h
      split at h
      · rename_i hs
        obtain rfl := Except.ok.inj h
        have hback : (rest.map Item.operand).map Item.word = rest := by
          simp [Function.comp_def, Item.word]
        rw [List.map_cons, hback, hs]
        rfl
      · obtain ⟨item, hitem, h⟩ := exists_of_bind_eq_ok h
        obtain ⟨others, hothers, h⟩ := exists_of_bind_eq_ok h
        obtain rfl := Except.ok.inj h
        rw [List.map_cons, word_of_classify hitem, ih hothers]

def spelled (name : String) : Option String → String
  | some value => name ++ "=" ++ value
  | none => name

section Spelled

variable (value : Option String) (hn : '=' ∉ name.toList)
include hn

-- The name of an option stands before the first equals sign
theorem splitValue_spelled : splitValue (spelled name value).toList = (name.toList, value) := by
  cases value with
  | none => simp [spelled, splitValue, Text.cut?_of_not_mem hn]
  | some value =>
      have hparts : (spelled name (some value)).toList = name.toList ++ '=' :: value.toList := by
        simp [spelled]
      simp [splitValue, hparts, Text.cut?_append hn]

-- A long option, with a value in the same word or without one
theorem classify_spelled {tail : List Char} (hname : name.toList = '-' :: '-' :: tail)
    (hnames : ∀ rule ∈ options, '=' ∉ rule.name.toList) :
    classify options (spelled name value)
      = match options.find? fun rule => rule.name.toList = name.toList with
        | some rule => .ok (.option (spelled name value) (some (.long rule value)))
        | none => match rulesFor options name.toList with
          | [] => .ok (unknown (spelled name value))
          | [rule] => .ok (.option (spelled name value) (some (.long rule value)))
          | _ => .error .refused := by
  have hwhole : ∀ rule, options.find? (fun rule => rule.name = spelled name value) = some rule →
      options.find? (fun rule => rule.name.toList = name.toList) = some rule ∧ value = none := by
    intro rule hrule
    cases value with
    | none =>
        have hname : (fun rule : OptionRule => decide (rule.name.toList = name.toList))
            = fun rule => decide (rule.name = name) := by
          simp [String.toList_inj]
        exact ⟨hname ▸ hrule, rfl⟩
    | some value =>
        obtain ⟨hsame, hm⟩ := And.intro (List.find?_some hrule) (List.mem_of_find?_eq_some hrule)
        have hsame : rule.name = name ++ "=" ++ value := of_decide_eq_true hsame
        exact absurd (by simp [hsame]) (hnames rule hm)
  obtain ⟨rest, hword⟩ : ∃ rest, (spelled name value).toList = '-' :: '-' :: rest := by
    cases value <;> simp [spelled, hname]
  unfold classify
  rw [hword]
  simp only
  rw [← hword, splitValue_spelled value hn]
  simp only
  cases hw : options.find? fun rule => rule.name = spelled name value with
  | some rule =>
      obtain ⟨hexact, rfl⟩ := hwhole rule hw
      rw [hexact]
  | none => cases options.find? fun rule => rule.name.toList = name.toList <;> rfl

end Spelled

-- The options of a level can be told apart by their names, of which none is empty
def Regular (options : List OptionRule) : Prop :=
  (options.map OptionRule.name).Nodup ∧ ∀ rule ∈ options,
    ['-', '-'] <+: rule.name.toList ∧ rule.name ≠ "--" ∧ '=' ∉ rule.name.toList

instance (options : List OptionRule) : Decidable (Regular options) :=
  inferInstanceAs (Decidable (_ ∧ _))

section Regular

variable {rule : OptionRule} (hr : Regular options) (hm : rule ∈ options) (value : Option String)
include hr hm

theorem Regular.find?_eq :
    options.find? (fun other => other.name.toList = rule.name.toList) = some rule := by
  have hnodup := hr.1
  clear hr
  induction options with
  | nil => cases hm
  | cons first rest ih =>
      obtain ⟨hfirst, hrest⟩ := List.nodup_cons.mp hnodup
      rcases List.mem_cons.mp hm with rfl | hm
      · simp
      · have hne : first.name.toList ≠ rule.name.toList := fun he =>
          hfirst (String.toList_inj.mp he ▸ List.mem_map_of_mem hm)
        rw [List.find?_cons_of_neg (by simpa using hne)]
        exact ih hm hrest

theorem Regular.spelled_ne : spelled rule.name value ≠ "--" := by
  obtain ⟨⟨tail, htail⟩, hne, -⟩ := hr.2 rule hm
  cases value with
  | none => exact hne
  | some value =>
      intro he
      have hlength := congrArg (fun s => s.toList.length) he
      simp [spelled, ← htail] at hlength

-- An option of a level is known there
theorem Regular.classify_known : classify options (spelled rule.name value)
    = .ok (.option (spelled rule.name value) (some (.long rule value))) := by
  obtain ⟨⟨tail, htail⟩, -, hn⟩ := hr.2 rule hm
  rw [classify_spelled value hn htail.symm fun rule hm => (hr.2 rule hm).2.2, hr.find?_eq hm]

-- Where no option begins with its name it is passed on
theorem Regular.classify_foreign {others : List OptionRule} (ho : Regular others)
    (hnone : rulesFor others rule.name.toList = []) :
    classify others (spelled rule.name value) = .ok (unknown (spelled rule.name value)) := by
  obtain ⟨⟨tail, htail⟩, -, hn⟩ := hr.2 rule hm
  have hfind : others.find? (fun other => other.name.toList = rule.name.toList) = none := by
    refine List.find?_eq_none.mpr fun other hother he => ?_
    have hsame : other.name.toList = rule.name.toList := of_decide_eq_true he
    have hmem : other ∈ rulesFor others rule.name.toList :=
      List.mem_filter.mpr ⟨hother, by simp [hsame]⟩
    rw [hnone] at hmem
    cases hmem
  rw [classify_spelled value hn htail.symm fun rule hm => (ho.2 rule hm).2.2, hfind, hnone]

end Regular

-- A command takes all words behind it as they are, if none of them is refused before
theorem read_mainLevel {items : List Item}
    (hname : name ∈ ["nonce", "decode-nonce", "response", "verify", "secret"])
    (h : classifyAll (helpRule :: mainLevel.options) words = .ok items) :
    read mainLevel (name :: words) = .ok { command := some (name, words) } := by
  have hword : name ≠ "--" ∧
      classify (helpRule :: mainLevel.options) name = .ok (.operand name) := by
    simp only [List.mem_cons, List.not_mem_nil, or_false] at hname
    rcases hname with rfl | rfl | rfl | rfl | rfl <;> exact ⟨by decide, rfl⟩
  have hall : classifyAll (helpRule :: mainLevel.options) (name :: words)
      = .ok (.operand name :: items) := by
    rw [classifyAll, if_neg hword.1, hword.2, h]
    rfl
  have hcontains : ["nonce", "decode-nonce", "response", "verify", "secret"].contains name = true :=
    List.contains_iff_mem.mpr hname
  have htake : take mainLevel.operand {} (.operand name :: items)
      = .ok { command := some (name, words) } := by
    rw [mainLevel, take, hcontains, words_of_classifyAll h]
    rfl
  unfold read
  rw [hall]
  exact congrArg (· >>= _) htake

theorem finish_eq {level : Level} {make : Reading → Command} {r : Reading}
    (h : read level words = .ok r) (hx : r.extras = []) :
    finish level make [] words = .ok (make r) := by
  unfold finish
  rw [h]
  change (if ([] : List String).isEmpty && r.extras.isEmpty then _ else _) = _
  simp [hx]
  rfl

theorem parse_decode {items : List Item} {r : Reading}
    (h : classifyAll (helpRule :: mainLevel.options) words = .ok items)
    (hr : read decodeLevel words = .ok r) (hx : r.extras = []) :
    parse ("decode-nonce" :: words) = .ok (ofDecode r) := by
  unfold parse
  rw [read_mainLevel (by simp) h]
  exact finish_eq hr hx

theorem parse_response {items : List Item} {r : Reading}
    (h : classifyAll (helpRule :: mainLevel.options) words = .ok items)
    (hr : read responseLevel words = .ok r) (hx : r.extras = []) :
    parse ("response" :: words) = .ok (ofResponse r) := by
  unfold parse
  rw [read_mainLevel (by simp) h]
  exact finish_eq hr hx

theorem classifyAll_cons {item : Item} {items : List Item} (hs : word ≠ "--")
    (h : classify options word = .ok item) (hrest : classifyAll options words = .ok items) :
    classifyAll options (word :: words) = .ok (item :: items) := by
  rw [classifyAll, if_neg hs, h, hrest]
  rfl

theorem classifyAll_map {β : Type} {f : β → String} {g : β → Item} {bs : List β}
    (h : ∀ b ∈ bs, f b ≠ "--" ∧ classify options (f b) = .ok (g b)) :
    classifyAll options (bs.map f) = .ok (bs.map g) := by
  induction bs with
  | nil => rfl
  | cons b bs ih =>
      obtain ⟨hs, hb⟩ := h b List.mem_cons_self
      exact classifyAll_cons hs hb (ih fun b hb => h b (List.mem_cons_of_mem _ hb))

structure Setting where
  rule : OptionRule
  value : Option String := none

namespace Setting

def spelling (s : Setting) : String :=
  spelled s.rule.name s.value

def item (s : Setting) : Item :=
  .option s.spelling (some (.long s.rule s.value))

def entry (s : Setting) : String × Given :=
  (s.rule.name, match s.value with
    | some value => .text value
    | none => .flag)

def Fits (s : Setting) : Prop :=
  match s.value with
  | some value => s.rule.kind.takesValue = true ∧ readValue s.rule value = .ok (.text value)
  | none => s.rule.kind = .flag

variable {settings : List Setting} {pending : Operand} {r : Reading} {level : Level}

theorem take_item {s : Setting} (h : s.Fits) (rest : List Item) :
    take pending r (s.item :: rest) = take pending (r.give s.entry.1 s.entry.2) rest := by
  obtain ⟨rule, value⟩ := s
  cases value with
  | some value =>
      obtain ⟨hkind, hread⟩ :
        rule.kind.takesValue = true ∧ readValue rule value = .ok (.text value) := h
      rw [item, take, if_pos hkind]
      simp only [hread]
      rfl
  | none =>
      have hkind : rule.kind = .flag := h
      conv_lhs => rw [item, take.eq_def]
      simp [hkind, Kind.takesValue, trigger, entry]

-- Options are taken one by one
theorem take_items (h : ∀ s ∈ settings, s.Fits) :
    take pending r (settings.map item) = .ok { r with
      given := (settings.map entry).foldl (fun m e => OrderedMap.insert m e.1 e.2) r.given } := by
  induction settings generalizing r with
  | nil => rfl
  | cons s rest ih =>
      rw [List.map_cons, take_item (h s List.mem_cons_self),
        ih fun s hs => h s (List.mem_cons_of_mem _ hs)]
      rfl

theorem read_spellings (hr : Regular (helpRule :: level.options))
    (h : ∀ s ∈ settings, s.rule ∈ level.options ∧ s.Fits)
    (hall : (requiredNames level).all
      (fun name => OrderedMap.contains (OrderedMap.ofList (settings.map entry)) name) = true) :
    read level (settings.map spelling)
      = .ok { given := OrderedMap.ofList (settings.map entry) } := by
  have hitems : classifyAll (helpRule :: level.options) (settings.map spelling)
      = .ok (settings.map item) := by
    refine classifyAll_map fun s hs => ?_
    have hm : s.rule ∈ helpRule :: level.options := List.mem_cons_of_mem _ (h s hs).1
    exact ⟨hr.spelled_ne hm s.value, hr.classify_known hm s.value⟩
  have htake : take level.operand {} (settings.map item)
      = .ok { given := OrderedMap.ofList (settings.map entry) } :=
    take_items fun s hs => (h s hs).2
  unfold read
  rw [hitems]
  change (take level.operand {} (settings.map item) >>= _) = _
  rw [htake]
  exact if_pos hall

-- The level of the commands passes all of them on
theorem classifyAll_mainLevel (hr : Regular (helpRule :: level.options))
    (h : ∀ s ∈ settings, s.rule ∈ level.options)
    (hforeign : ∀ rule ∈ level.options,
      rulesFor (helpRule :: mainLevel.options) rule.name.toList = []) :
    classifyAll (helpRule :: mainLevel.options) (settings.map spelling)
      = .ok (settings.map fun s => unknown s.spelling) := by
  refine classifyAll_map fun s hs => ?_
  have hm : s.rule ∈ helpRule :: level.options := List.mem_cons_of_mem _ (h s hs)
  exact ⟨hr.spelled_ne hm s.value,
    hr.classify_foreign hm s.value (by decide) (hforeign s.rule (h s hs))⟩

end Setting

theorem parse_decodeNonce (token : String) :
    parse ["decode-nonce", "--", token] = .ok (.decodeNonce token none) := by
  have hread : read decodeLevel ["--", token] = .ok { given := [("nonce", .text token)] } := rfl
  exact parse_decode rfl hread rfl

theorem parse_decodeNonce_secret (token secret : String) :
    parse ["decode-nonce", "--secret=" ++ secret, "--", token]
      = .ok (.decodeNonce token (some secret)) := by
  have hr : Regular (helpRule :: decodeLevel.options) := by decide
  have hm : (⟨"--secret", .text, false⟩ : OptionRule) ∈ helpRule :: decodeLevel.options :=
    List.mem_cons_of_mem _ List.mem_cons_self
  have hs : "--secret" ++ "=" ++ secret ≠ "--" := hr.spelled_ne hm (some secret)
  -- the main level does not know the option, and passes it on
  have hmain : classify (helpRule :: mainLevel.options) ("--secret" ++ "=" ++ secret)
      = .ok (unknown ("--secret" ++ "=" ++ secret)) :=
    hr.classify_foreign hm (some secret) (by decide) rfl
  have hdecode : classify (helpRule :: decodeLevel.options) ("--secret" ++ "=" ++ secret)
      = .ok (.option ("--secret" ++ "=" ++ secret)
        (some (.long ⟨"--secret", .text, false⟩ (some secret)))) :=
    hr.classify_known hm (some secret)
  have hall : classifyAll (helpRule :: decodeLevel.options)
      ["--secret" ++ "=" ++ secret, "--", token] = _ := classifyAll_cons hs hdecode rfl
  have hread : read decodeLevel ["--secret" ++ "=" ++ secret, "--", token]
      = .ok { given := [("--secret", .text secret), ("nonce", .text token)] } := by
    unfold read
    rw [hall]
    rfl
  exact parse_decode (classifyAll_cons hs hmain rfl) hread rfl

end HttpDigest.CommandLine
