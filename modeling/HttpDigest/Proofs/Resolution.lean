import HttpDigest.Proofs.Loading

namespace HttpDigest

namespace Keyring

variable {k : Keyring} {service name secret : String}

structure Holds (k : Keyring) (service name secret : String) : Prop where
  unlocked : k.locked = none
  entry : k.entries.get? (service, name) = some secret
  nonempty : secret ≠ ""

theorem load_of_no_service (name : Value) : k.load (.text "") name = .error .emptyService := rfl

theorem load_of_service (h : service ≠ "") :
    k.load (.text service) (.text name) = match k.locked with
      | some cause => .error (.retrievalFailed cause)
      | none => match k.entries.get? (service, name) with
        | some secret => if secret = "" then .error (.notFound (.text service) (.text name))
          else .ok secret
        | none => .error (.notFound (.text service) (.text name)) := by
  have hservice : checkService (.text service) = .ok () := by
    simp [checkService, Value.truthy, h]
  unfold load
  rw [hservice]
  cases hl : k.locked with
  | some cause =>
      simp only [retrieve, hl]
      rfl
  | none =>
      cases he : k.entries.get? (service, name) with
      | some secret =>
          simp only [retrieve, hl, find, he]
          rfl
      | none =>
          simp only [retrieve, hl, find, he]
          rfl

theorem load_eq_ok_iff (h : service ≠ "") :
    k.load (.text service) (.text name) = .ok secret ↔ k.Holds service name secret := by
  rw [load_of_service h]
  constructor
  · intro hload
    split at hload
    · cases hload
    · rename_i hl
      split at hload
      · rename_i he
        split at hload
        · cases hload
        · rename_i hne
          obtain rfl := Except.ok.inj hload
          exact ⟨hl, he, hne⟩
      · cases hload
  · rintro ⟨hl, he, hne⟩
    simp only [hl, he, hne, if_false]

-- A keyring that cannot give the secret of a named service reports that of the storage
theorem fails_load (h : service ≠ "") :
    Fails (fun e => ∃ r, e.failure = .report r ∧ r.kind = .secretStorage)
      (k.load (.text service) (.text name)) := by
  rw [load_of_service h]
  split
  · exact .error ⟨_, rfl, rfl⟩
  · split
    · split
      · exact .error ⟨_, rfl, rfl⟩
      · exact .ok
    · exact .error ⟨_, rfl, rfl⟩

end Keyring

namespace Settings

variable {i : Interpreter} {s : Settings} {k : Keyring} {fields : OrderedMap String Value}

-- What settings and a keyring supply between them. A secret that is stated comes first.
inductive Supplies (s : Settings) (k : Keyring) : String → Prop
  | stated (secret : String) (h : s.secret = .text secret) (hne : secret ≠ "") :
      Supplies s k secret
  | stored (service name secret : String) (hno : s.secret.truthy = false)
      (hr : s.keyring = some ⟨.text service, .text name⟩) (h : k.Holds service name secret) :
      Supplies s k secret

def Unnamed (s : Settings) : Prop :=
  s.secret.truthy = false ∧ ∃ name, s.keyring = some ⟨.text "", name⟩

structure Texts (s : Settings) : Prop where
  realm : ∃ t, s.realm = .text t
  secret : ∃ t, s.secret = .ofText? t
  keyring : ∀ r, s.keyring = some r → ∃ service name, r = ⟨.text service, .text name⟩

-- The secret is the one supplied, and without one there is a refusal. A verifier is set up with
-- just this secret, or refused for the same reason.
structure Resolves (s : Settings) (k : Keyring) : Prop where
  supplied : ∀ secret, s.resolveSecret k = .ok secret ↔ ∃ t, secret = .text t ∧ s.Supplies k t
  refused : Fails (·.Refuses ["MISSING_SECRET"]) (s.resolveSecret k)
  config : s.config k
    = (s.resolveSecret k).map fun secret => ⟨s.realm, secret, .bool s.hashed⟩

theorem resolveSecret_of_stated (h : s.secret.truthy = true) : s.resolveSecret k = .ok s.secret :=
  if_pos h

theorem resolveSecret_of_nothing (h : s.secret.truthy = false) (hr : s.keyring = none) :
    s.resolveSecret k = .error Error.noSecret.failure := by
  simp [resolveSecret, h, hr]

theorem resolveSecret_of_loaded {r : KeyringReference} {secret : String}
    (h : s.secret.truthy = false) (hr : s.keyring = some r)
    (hload : k.load r.service r.name = .ok secret) : s.resolveSecret k = .ok (.text secret) := by
  simp [resolveSecret, h, hr, hload]

theorem resolveSecret_of_failed {r : KeyringReference} {e : Keyring.Error}
    (h : s.secret.truthy = false) (hr : s.keyring = some r)
    (hload : k.load r.service r.name = .error e) {report : Report}
    (he : e.failure = .report report) (hkind : report.kind = .secretStorage) :
    s.resolveSecret k = .error (Error.keyringFailed report.message.plain).failure := by
  simp [resolveSecret, h, hr, hload, he, hkind]

theorem resolveSecret_of_unnamed (h : s.Unnamed) :
    s.resolveSecret k = .error Keyring.Error.emptyService.failure := by
  obtain ⟨hno, name, hr⟩ := h
  simp [resolveSecret, hno, hr, Keyring.load_of_no_service, Keyring.Error.failure]

theorem config_of_unnamed (h : s.Unnamed) :
    s.config k = .error (Error.refused "Keyring service name cannot be empty").failure := by
  simp only [config, resolveSecret_of_unnamed h]
  rfl

-- A secret that is not empty is all that sound settings lack for a configuration
theorem config_of_resolved (hs : s.Sound) {secret : Value} (h : s.resolveSecret k = .ok secret)
    (hne : secret.truthy = true) : s.config k = .ok ⟨s.realm, secret, .bool s.hashed⟩ := by
  simp [config, h, Config.make, hs.realm, hne]

theorem config_of_refused {codes : List String} {f : Failure} (h : s.resolveSecret k = .error f)
    (hf : f.Refuses codes) : s.config k = .error f := by
  obtain ⟨r, code, rfl, hkind, -⟩ := hf
  simp [config, h, ofRefusal, hkind]

theorem Texts.exists_stated (ht : s.Texts) (h : s.secret.truthy = true) :
    ∃ secret, s.secret = .text secret ∧ secret ≠ "" := by
  obtain ⟨given, hgiven⟩ := ht.secret
  rw [hgiven] at h
  cases given with
  | none => cases h
  | some secret => exact ⟨secret, hgiven, by simpa [Value.ofText?, Value.truthy] using h⟩

theorem resolves_of_supplied {secret : String} (hs : s.Sound)
    (h : s.resolveSecret k = .ok (.text secret)) (hne : secret ≠ "")
    (hsupplies : ∀ t, s.Supplies k t ↔ t = secret) : s.Resolves k := by
  refine ⟨fun v => ?_, ?_, ?_⟩
  · rw [h, Except.ok.injEq]
    constructor
    · rintro rfl
      exact ⟨secret, rfl, (hsupplies secret).mpr rfl⟩
    · rintro ⟨t, rfl, ht⟩
      rw [(hsupplies t).mp ht]
  · rw [h]
    exact .ok
  · rw [config_of_resolved hs h (by simp [Value.truthy, hne]), h]
    rfl

theorem resolves_of_refused {f : Failure} (h : s.resolveSecret k = .error f)
    (hf : f.Refuses ["MISSING_SECRET"]) (hsupplies : ∀ t, ¬s.Supplies k t) : s.Resolves k := by
  refine ⟨fun v => ?_, ?_, ?_⟩
  · rw [h]
    refine iff_of_false nofun ?_
    rintro ⟨t, -, ht⟩
    exact hsupplies t ht
  · rw [h]
    exact .error hf
  · rw [config_of_refused h hf, h]
    rfl

theorem supplies_stated_iff {secret t : String} (h : s.secret = .text secret) (hne : secret ≠ "") :
    s.Supplies k t ↔ t = secret := by
  constructor
  · rintro (⟨_, hstated, -⟩ | ⟨_, _, _, hno, -⟩)
    · exact Value.text.inj (hstated.symm.trans h)
    · simp [h, Value.truthy, hne] at hno
  · rintro rfl
    exact .stated t h hne

theorem not_supplies_of_nothing {t : String} (h : s.secret.truthy = false)
    (hr : s.keyring = none) : ¬s.Supplies k t := by
  rintro (⟨_, hstated, hne⟩ | ⟨_, _, _, -, hstored, -⟩)
  · simp [hstated, Value.truthy, hne] at h
  · cases hr.symm.trans hstored

theorem supplies_stored_iff {service name t : String} (h : s.secret.truthy = false)
    (hr : s.keyring = some ⟨.text service, .text name⟩) :
    s.Supplies k t ↔ k.Holds service name t := by
  constructor
  · rintro (⟨_, hstated, hne⟩ | ⟨_, _, _, -, hstored, hholds⟩)
    · simp [hstated, Value.truthy, hne] at h
    · cases hr.symm.trans hstored
      exact hholds
  · exact .stored service name t h hr

theorem resolves_of_reference {service name : String} (hs : s.Sound)
    (h : s.secret.truthy = false) (hr : s.keyring = some ⟨.text service, .text name⟩)
    (hservice : service ≠ "") : s.Resolves k := by
  cases hload : k.load (.text service) (.text name) with
  | ok secret =>
      have hholds := (Keyring.load_eq_ok_iff hservice).mp hload
      refine resolves_of_supplied hs (resolveSecret_of_loaded h hr hload) hholds.nonempty
        fun t => ?_
      rw [supplies_stored_iff h hr]
      constructor
      · intro ht
        exact Option.some.inj (ht.entry.symm.trans hholds.entry)
      · rintro rfl
        exact hholds
  | error e =>
      obtain ⟨report, he, hkind⟩ := Keyring.fails_load hservice e hload
      refine resolves_of_refused (resolveSecret_of_failed h hr hload he hkind)
        (Error.refuses (by simp [Error.code])) fun t ht => ?_
      have hfound := (Keyring.load_eq_ok_iff hservice).mpr ((supplies_stored_iff h hr).mp ht)
      cases hload.symm.trans hfound

-- The service without a name is told in the words of the keyring, and under its code
theorem not_resolves_of_unnamed (h : s.Unnamed) : ¬s.Resolves k := by
  intro hresolves
  obtain ⟨r, code, hr, hkind, -⟩ := hresolves.refused _ (resolveSecret_of_unnamed h)
  cases hr
  cases hkind

theorem resolves_iff (hs : s.Sound) (ht : s.Texts) : s.Resolves k ↔ ¬s.Unnamed := by
  refine ⟨fun h hu => not_resolves_of_unnamed hu h, fun hu => ?_⟩
  cases hsecret : s.secret.truthy with
  | true =>
      obtain ⟨secret, htext, hne⟩ := ht.exists_stated hsecret
      have hresolved := resolveSecret_of_stated (k := k) hsecret
      rw [htext] at hresolved
      exact resolves_of_supplied hs hresolved hne fun t => supplies_stated_iff htext hne
  | false =>
      cases hr : s.keyring with
      | none =>
          exact resolves_of_refused (resolveSecret_of_nothing hsecret hr)
            (Error.refuses (by decide)) fun t => not_supplies_of_nothing hsecret hr
      | some r =>
          obtain ⟨service, name, rfl⟩ := ht.keyring r hr
          refine resolves_of_reference hs hsecret hr ?_
          rintro rfl
          exact hu ⟨hsecret, _, hr⟩

structure OfTexts (fields : OrderedMap String Value) : Prop where
  realm : ∀ v, fields.get? "realm_name" = some v → ∃ t, v = .text t
  secret : ∃ t, Value.field fields "secret" = .ofText? t
  keyring : ∀ names, Value.field fields "secret_keyring" = .object names →
    ∀ entry ∈ names, ∃ t, entry.2 = .text t

theorem exists_field_of_texts {names : OrderedMap String Value}
    (h : ∀ entry ∈ names, ∃ t, entry.2 = .text t) (name default : String) :
    ∃ t, Value.field names name (.text default) = .text t := by
  cases hg : names.get? name with
  | none => exact ⟨default, by simp [Value.field, hg]⟩
  | some v =>
      obtain ⟨t, rfl⟩ := h _ (OrderedMap.mem_of_get? hg)
      exact ⟨t, by simp [Value.field, hg]⟩

theorem reference_eq_of_object {names : OrderedMap String Value} {r : KeyringReference}
    (h : readKeyring i (.object names) = .ok (some r)) :
    r = ⟨Value.field names "service" (.text Keyring.defaultService),
      Value.field names "name" (.text Keyring.defaultName)⟩ := by
  unfold readKeyring at h
  split at h
  · cases h
  · simp only at h
    split at h
    · exact (Option.some.inj (Except.ok.inj h)).symm
    · cases h

theorem exists_object_of_reference {v : Value} {r : KeyringReference}
    (h : readKeyring i v = .ok (some r)) : ∃ names, v = .object names := by
  unfold readKeyring at h
  split at h
  · cases h
  · split at h
    · exact ⟨_, rfl⟩
    · cases h

theorem OfTexts.texts (h : OfTexts fields) (hr : s.ReadFrom i fields) : s.Texts := by
  refine ⟨h.realm _ hr.realm, hr.secret ▸ h.secret, fun r hkeyring => ?_⟩
  have hread := hr.keyring.trans (congrArg Except.ok hkeyring)
  obtain ⟨names, hnames⟩ := exists_object_of_reference hread
  rw [hnames] at hread
  obtain ⟨service, hservice⟩ := exists_field_of_texts (h.keyring names hnames) "service"
    Keyring.defaultService
  obtain ⟨name, hname⟩ := exists_field_of_texts (h.keyring names hnames) "name"
    Keyring.defaultName
  exact ⟨service, name, by rw [reference_eq_of_object hread, hservice, hname]⟩

theorem field_environment (environ : OrderedMap String String) :
    Value.field (fieldsOfEnvironment environ) "realm_name"
        = .text ((environ.get? (variableName "REALM")).getD "") ∧
    Value.field (fieldsOfEnvironment environ) "secret"
        = .ofText? (environ.get? (variableName "SECRET")) ∧
    Value.field (fieldsOfEnvironment environ) "secret_keyring"
        = Value.field (keyringOfEnvironment environ) "secret_keyring" := by
  refine ⟨by simp [Value.field, fieldsOfEnvironment, OrderedMap.get?],
    by simp [Value.field, fieldsOfEnvironment, OrderedMap.get?], ?_⟩
  unfold Value.field fieldsOfEnvironment
  cases environ.get? (variableName "NONCE_VALIDITY") <;> simp [OrderedMap.get?]

theorem ofTexts_environment (environ : OrderedMap String String) :
    OfTexts (fieldsOfEnvironment environ) := by
  obtain ⟨hrealm, hsecret, hkeyring⟩ := field_environment environ
  refine ⟨fun v hv => ⟨(environ.get? (variableName "REALM")).getD "", ?_⟩, ⟨_, hsecret⟩,
    fun names hnames => ?_⟩
  · rw [← hrealm, Value.field, hv]
    rfl
  · rw [hkeyring] at hnames
    rcases keyringOfEnvironment_cases environ with h | ⟨service, name, -, -, h⟩
    · rw [h] at hnames
      cases hnames
    · rw [h] at hnames
      obtain rfl := Value.object.inj hnames
      simp

theorem not_unnamed_environment {environ : OrderedMap String String}
    (h : s.ReadFrom i (fieldsOfEnvironment environ)) : ¬s.Unnamed := by
  rintro ⟨-, name, hr⟩
  obtain ⟨-, -, hkeyring⟩ := field_environment environ
  have hread := h.keyring.trans (congrArg Except.ok hr)
  rw [hkeyring] at hread
  rcases keyringOfEnvironment_cases environ with hnone | ⟨service, entry, hservice, -, hsome⟩
  · rw [hnone] at hread
    cases hread
  · rw [hsome] at hread
    have hreference := reference_eq_of_object hread
    have htext : Value.text "" = .text service := congrArg KeyringReference.service hreference
    exact hservice (Value.text.inj htext).symm

-- Settings of texts resolve their secret unless they look for it under a service without a name,
-- which is reported as a bad value and, where a verifier is to be set up, as a bad format. No
-- environment gives such settings.
theorem resolves_iff_service_named (i : Interpreter) (fields : OrderedMap String Value)
    (s : Settings) (h : OfTexts fields) (hs : ofFields i fields = .ok s) (k : Keyring) :
    (s.Resolves k ↔ ¬s.Unnamed) ∧
    (s.Unnamed → s.resolveSecret k = .error Keyring.Error.emptyService.failure ∧
      s.config k = .error (Error.refused "Keyring service name cannot be empty").failure) ∧
    ∀ environ t, ofEnvironment i environ = .ok t → t.Resolves k := by
  obtain ⟨hread, hsound⟩ := ofFields_eq_ok_iff.mp hs
  refine ⟨resolves_iff hsound (h.texts hread),
    fun hu => ⟨resolveSecret_of_unnamed hu, config_of_unnamed hu⟩, fun environ t ht => ?_⟩
  obtain ⟨hfrom, hfine⟩ := ofFields_eq_ok_iff.mp ht
  exact (resolves_iff hfine ((ofTexts_environment environ).texts hfrom)).mpr
    (not_unnamed_environment hfrom)

def fieldsNaming (service name : String) : OrderedMap String Value :=
  [("realm_name", "lab"),
    ("secret_keyring", .object [("service", .text service), ("name", .text name)])]

def settingsNaming (service name : String) : Settings where
  realm := "lab"
  secret := .null
  keyring := some ⟨.text service, .text name⟩
  hashed := false
  validitySeconds := 300
  cacheEnabled := true
  logging := .default

theorem ofFields_fieldsNaming (service name : String) :
    ofFields i (fieldsNaming service name) = .ok (settingsNaming service name) := by
  have hlevel : Text.upper "WARNING" = "WARNING" := by decide +kernel
  have hlogging : readLogging i (.object []) = .ok .default := by
    simp only [readLogging, LogSetup.ofFields, Value.field, OrderedMap.get?, Option.getD_none,
      hlevel]
    rfl
  have hpositive : (0 : Int) < 300 := by decide
  have hwarning : "WARNING" ∈ ["DEBUG", "INFO", "WARNING", "ERROR", "CRITICAL"] := by decide
  exact ofFields_eq_ok_iff.mpr ⟨⟨rfl, rfl, rfl, .inl rfl, rfl, .inl rfl, hlogging⟩, rfl,
    hpositive, hwarning⟩

theorem ofTexts_fieldsNaming (service name : String) : OfTexts (fieldsNaming service name) := by
  refine ⟨?_, ⟨none, rfl⟩, ?_⟩
  · rintro _ ⟨⟩
    exact ⟨"lab", rfl⟩
  · rintro _ ⟨⟩
    simp

def sampleKeyring : Keyring where
  entries := [(("login", "key"), "s")]

theorem resolves_iff_service_named_sample :
    OfTexts (fieldsNaming "login" "key") ∧
    ofFields .plain (fieldsNaming "login" "key") = .ok (settingsNaming "login" "key") ∧
    (settingsNaming "login" "key").Resolves sampleKeyring ∧
    (settingsNaming "login" "key").config sampleKeyring = .ok ⟨"lab", "s", .bool false⟩ := by
  have hnamed : ¬(settingsNaming "login" "key").Unnamed := by
    rintro ⟨-, name, hr⟩
    simp [settingsNaming] at hr
  obtain ⟨hiff, -⟩ := resolves_iff_service_named .plain _ _
    (ofTexts_fieldsNaming "login" "key") (ofFields_fieldsNaming "login" "key") sampleKeyring
  have hresolves := hiff.mpr hnamed
  have hresolved : (settingsNaming "login" "key").resolveSecret sampleKeyring = .ok "s" :=
    (hresolves.supplied "s").mpr ⟨"s", rfl, .stored "login" "key" "s" rfl rfl ⟨rfl, rfl, by decide⟩⟩
  refine ⟨ofTexts_fieldsNaming _ _, ofFields_fieldsNaming _ _, hresolves, ?_⟩
  rw [hresolves.config, hresolved]
  rfl

-- A service without a name is not told as a missing secret
theorem not_everyResolves : ¬∀ fields s, OfTexts fields →
    ofFields .plain fields = .ok s → ∀ k, s.Resolves k := by
  intro h
  have hunnamed : (settingsNaming "" "key").Unnamed := ⟨rfl, "key", rfl⟩
  exact not_resolves_of_unnamed hunnamed (h _ _ (ofTexts_fieldsNaming "" "key")
    (ofFields_fieldsNaming "" "key") sampleKeyring)

end Settings

end HttpDigest
