import HttpDigest.Proofs.ClientHeader
import HttpDigest.Proofs.CommandWords

namespace HttpDigest.CommandLine

open Client (Texts)

variable {t : Texts} {token : String} {asHeader : Bool}

def settings (t : Texts) (token : String) (asHeader : Bool) : List Setting :=
  [⟨⟨"--username", .text, true⟩, some t.username⟩, ⟨⟨"--realm", .text, true⟩, some t.realm⟩,
    ⟨⟨"--password", .text, true⟩, some t.password⟩, ⟨⟨"--method", .text, false⟩, some t.method⟩,
    ⟨⟨"--uri", .text, true⟩, some t.uri⟩, ⟨⟨"--nonce", .text, true⟩, some token⟩] ++
  (t.qop.map fun v => ⟨⟨"--qop", .choice [Response.authQop], false⟩, some v⟩).toList ++
  (t.nc.map fun v => ⟨⟨"--nc", .text, false⟩, some v⟩).toList ++
  (t.cnonce.map fun v => ⟨⟨"--cnonce", .text, false⟩, some v⟩).toList ++
  (if t.hashed then [⟨⟨"--hashed", .flag, false⟩, none⟩] else []) ++
  (if asHeader then [⟨⟨"--header", .flag, false⟩, none⟩] else [])

section Settings

variable {o : Option String} {b : Bool} {rule : OptionRule} {name : String} {P : Setting → Prop}

theorem forall_option (h : ∀ v, o = some v → P ⟨rule, some v⟩) :
    ∀ s ∈ (o.map fun v => (⟨rule, some v⟩ : Setting)).toList, P s := by
  intro s hs
  cases o with
  | none => cases hs
  | some v =>
      obtain rfl := List.mem_singleton.mp hs
      exact h v rfl

theorem forall_flag (h : P ⟨rule, none⟩) :
    ∀ s ∈ (if b then [(⟨rule, none⟩ : Setting)] else []), P s := by
  intro s hs
  cases b with
  | false => cases hs
  | true =>
      obtain rfl := List.mem_singleton.mp hs
      exact h

theorem rules_option :
    ((o.map fun v => (⟨rule, some v⟩ : Setting)).toList.map Setting.rule).Sublist [rule] := by
  cases o <;> simp

theorem rules_flag :
    ((if b then [(⟨rule, none⟩ : Setting)] else []).map Setting.rule).Sublist [rule] := by
  cases b <;> simp

theorem get?_option : OrderedMap.get?
    ((o.map fun v => (⟨rule, some v⟩ : Setting)).toList.map Setting.entry) name
      = if rule.name = name then o.map .text else none := by
  cases o <;> simp [OrderedMap.get?, Setting.entry]

theorem get?_flag : OrderedMap.get?
    ((if b then [(⟨rule, none⟩ : Setting)] else []).map Setting.entry) name
      = if b = true ∧ rule.name = name then some .flag else none := by
  cases b <;> simp [OrderedMap.get?, Setting.entry]

theorem regular_responseLevel : Regular (helpRule :: responseLevel.options) := by
  decide

-- They stand in the order in which the command lists its options
theorem rules_settings :
    ((settings t token asHeader).map Setting.rule).Sublist responseLevel.options := by
  simp only [settings, List.map_append]
  exact (((((List.Sublist.refl _).append rules_option).append rules_option).append
    rules_option).append rules_flag).append rules_flag

theorem fits_settings (hq : t.qop = none ∨ t.qop = some Response.authQop) :
    ∀ s ∈ settings t token asHeader, s.rule ∈ responseLevel.options ∧ s.Fits := by
  have htext : ∀ name required v, (⟨⟨name, .text, required⟩, some v⟩ : Setting).Fits :=
    fun _ _ _ => ⟨rfl, rfl⟩
  have hchoice : ∀ v, t.qop = some v →
      (⟨⟨"--qop", .choice [Response.authQop], false⟩, some v⟩ : Setting).Fits := by
    intro v hv
    obtain rfl : v = Response.authQop := by simpa [hv] using hq
    exact ⟨rfl, rfl⟩
  have hfits : ∀ s ∈ settings t token asHeader, s.Fits := by
    simp only [settings, List.forall_mem_append, List.forall_mem_cons]
    exact ⟨⟨⟨⟨⟨⟨htext _ _ _, htext _ _ _, htext _ _ _, htext _ _ _, htext _ _ _, htext _ _ _,
      fun _ hs => nomatch hs⟩, forall_option hchoice⟩, forall_option fun v _ => htext _ _ v⟩,
      forall_option fun v _ => htext _ _ v⟩, forall_flag rfl⟩, forall_flag rfl⟩
  exact fun s hs => ⟨rules_settings.subset (List.mem_map_of_mem hs), hfits s hs⟩

theorem ofList_settings : OrderedMap.ofList ((settings t token asHeader).map Setting.entry)
    = (settings t token asHeader).map Setting.entry := by
  have hnames : ((settings t token asHeader).map Setting.rule).map OptionRule.name
      = OrderedMap.keys ((settings t token asHeader).map Setting.entry) := by
    simp [OrderedMap.keys, Function.comp_def, Setting.entry]
  have hsublist : (((settings t token asHeader).map Setting.rule).map OptionRule.name).Sublist
      ((helpRule :: responseLevel.options).map OptionRule.name) :=
    (rules_settings.trans (List.sublist_cons_self _ _)).map OptionRule.name
  exact OrderedMap.ofList_of_nodup (hnames ▸ hsublist.nodup regular_responseLevel.1)

-- What is given under a name
theorem get?_settings :
    OrderedMap.get? ((settings t token asHeader).map Setting.entry) name
      = ((((((OrderedMap.get? [("--username", Given.text t.username), ("--realm", .text t.realm),
            ("--password", .text t.password), ("--method", .text t.method), ("--uri", .text t.uri),
            ("--nonce", .text token)] name).or
          (if "--qop" = name then t.qop.map .text else none)).or
          (if "--nc" = name then t.nc.map .text else none)).or
          (if "--cnonce" = name then t.cnonce.map .text else none)).or
          (if t.hashed = true ∧ "--hashed" = name then some .flag else none)).or
          (if asHeader = true ∧ "--header" = name then some .flag else none)) := by
  simp only [settings, List.map_append, OrderedMap.get?_append, get?_option, get?_flag]
  rfl

theorem text?_eq {r : Reading} (h : OrderedMap.get? r.given name = o.map .text) :
    r.text? name = o := by
  rw [Reading.text?, h]
  cases o <;> rfl

theorem ofResponse_settings (ho : t.opaqueText = none) :
    ofResponse { given := (settings t token asHeader).map Setting.entry }
      = .response (t.client token) asHeader := by
  have hqop : Reading.text? { given := (settings t token asHeader).map Setting.entry } "--qop"
      = t.qop := text?_eq (get?_settings.trans (by simp [OrderedMap.get?]))
  have hnc : Reading.text? { given := (settings t token asHeader).map Setting.entry } "--nc"
      = t.nc := text?_eq (get?_settings.trans (by simp [OrderedMap.get?]))
  have hcnonce : Reading.text? { given := (settings t token asHeader).map Setting.entry } "--cnonce"
      = t.cnonce := text?_eq (get?_settings.trans (by simp [OrderedMap.get?]))
  unfold ofResponse
  rw [hqop, hnc, hcnonce]
  have hflag : ∀ b : Bool, (if b = true then some Given.flag else none).isSome = b := by
    intro b
    cases b <;> rfl
  simp [Reading.textD, Reading.text?, Reading.has, OrderedMap.contains, get?_settings,
    OrderedMap.get?, Texts.client, ho, Value.ofText?, hflag]

theorem required_settings : (requiredNames responseLevel).all (fun name =>
    OrderedMap.contains ((settings t token asHeader).map Setting.entry) name) = true := by
  simp [requiredNames, responseLevel, OrderedMap.contains, get?_settings, OrderedMap.get?]

end Settings

-- Every answer can be asked for, whatever the texts are
theorem parse_settings (hq : t.qop = none ∨ t.qop = some Response.authQop)
    (ho : t.opaqueText = none) :
    parse ("response" :: (settings t token asHeader).map Setting.spelling)
      = .ok (.response (t.client token) asHeader) := by
  have hfits : ∀ s ∈ settings t token asHeader, s.rule ∈ responseLevel.options ∧ s.Fits :=
    fits_settings hq
  have hforeign : ∀ rule ∈ responseLevel.options,
      rulesFor (helpRule :: mainLevel.options) rule.name.toList = [] := by decide
  have hmain := Setting.classifyAll_mainLevel regular_responseLevel (fun s hs => (hfits s hs).1)
    hforeign
  have hread : read responseLevel ((settings t token asHeader).map Setting.spelling)
      = .ok { given := OrderedMap.ofList ((settings t token asHeader).map Setting.entry) } := by
    refine Setting.read_spellings regular_responseLevel hfits ?_
    rw [ofList_settings]
    exact required_settings
  rw [ofList_settings] at hread
  exact (parse_response hmain hread rfl).trans (congrArg Except.ok (ofResponse_settings ho))

end HttpDigest.CommandLine
