import HttpDigest.Proofs.Results
import HttpDigest.Settings

namespace HttpDigest

namespace Failure

def Refuses (codes : List String) (f : Failure) : Prop :=
  ∃ (r : Report) (code : String), f = .report r ∧ r.kind = .configuration ∧ r.code = .text code ∧
    code ∈ codes

theorem Refuses.mono {codes more : List String} {f : Failure} (h : f.Refuses codes)
    (hsub : codes ⊆ more) : f.Refuses more := by
  obtain ⟨r, code, hf, hkind, hcode, hmem⟩ := h
  exact ⟨r, code, hf, hkind, hcode, hsub hmem⟩

theorem not_refuses_fault {codes : List String} {f : Fault} : ¬(Failure.fault f).Refuses codes := by
  rintro ⟨r, code, hf, -⟩
  cases hf

end Failure

namespace Spelling

variable {name : String} {v : Value} {b : Bool} {r : Report}

def Spells (v : Value) (b : Bool) : Prop :=
  v = .bool b ∨ ∃ s, v = .text s ∧
    Text.lower (Text.strip s) ∈ if b then trueWords else falseWords

theorem ofText?_eq_some_iff {s : String} :
    ofText? s = some b ↔ Text.lower (Text.strip s) ∈ if b then trueWords else falseWords := by
  generalize hw : Text.lower (Text.strip s) = word
  -- no word stands for both
  have hapart : word ∈ trueWords → word ∉ falseWords := by
    simp only [trueWords, falseWords, List.mem_cons, List.not_mem_nil, or_false]
    rintro (rfl | rfl | rfl | rfl) <;> decide
  by_cases ht : word ∈ trueWords
  · cases b <;> simp [ofText?, hw, ht, hapart ht]
  · by_cases hf : word ∈ falseWords <;> cases b <;> simp [ofText?, hw, ht, hf]

theorem read_eq_ok_iff : read name v = .ok b ↔ Spells v b := by
  cases v with
  | bool c => simp [read, Spells]
  | text s =>
      cases h : ofText? s with
      | none =>
          have hno : ¬Text.lower (Text.strip s) ∈ if b then trueWords else falseWords := by
            rw [← ofText?_eq_some_iff, h]
            simp
          simpa [read, Spells, h] using hno
      | some c =>
          have hc : (c = b) ↔ Text.lower (Text.strip s) ∈ if b then trueWords else falseWords := by
            rw [← ofText?_eq_some_iff, h]
            simp
          simpa [read, Spells, h] using hc
  | _ => simp [read, Spells]

theorem refused_of_read (h : read name v = .error r) : r = refused name v := by
  unfold read at h
  split at h
  · cases h
  · split at h
    · cases h
    · exact (Except.error.inj h).symm
  · exact (Except.error.inj h).symm

end Spelling

namespace Value

variable {known required : List String} {fields : OrderedMap String Value}

theorem checkFields_eq_ok_iff : checkFields known required fields = .ok () ↔
    (∀ name ∈ OrderedMap.keys fields, name ∈ known) ∧
      ∀ name ∈ required, name ∈ OrderedMap.keys fields := by
  simp [checkFields, OrderedMap.keys, OrderedMap.contains_iff]

theorem fails_checkFields : Fails (· = .wrongType) (checkFields known required fields) := by
  unfold checkFields
  split
  · exact .ok
  · exact .error rfl

end Value

namespace Spelling

theorem fails_read (name : String) (v : Value) :
    Fails (fun r => (Failure.report r).Refuses ["INVALID_FORMAT"]) (read name v) := by
  intro r h
  obtain rfl := refused_of_read h
  exact ⟨_, _, rfl, rfl, rfl, by simp⟩

end Spelling

namespace LogSetup

theorem fails_ofFields (fields : OrderedMap String Value) :
    Fails (fun f => f = .fault .wrongType ∨ f.Refuses ["INVALID_FORMAT"]) (ofFields fields) := by
  have hbad : ∀ shown, (Failure.report (badLevel shown)).Refuses ["INVALID_FORMAT"] :=
    fun shown => ⟨_, _, rfl, rfl, rfl, by simp⟩
  unfold ofFields
  refine .bind ?_ fun _ _ => ?_
  · exact Value.fails_checkFields.mapError fun _ h => .inl (congrArg Failure.fault h)
  · split
    · refine .bind ((Spelling.fails_read _ _).mapError fun _ => .inr) fun _ _ => ?_
      split
      · exact .ok
      · exact .error (.inr (hbad _))
    · exact .error (.inr (hbad _))

end LogSetup

namespace Settings

variable {i : Interpreter} {fields : OrderedMap String Value} {s : Settings} {v : Value}

theorem Error.refuses {e : Error} {codes : List String} (h : e.code ∈ codes) :
    e.failure.Refuses codes :=
  ⟨e.report, e.code, rfl, rfl, rfl, h⟩

theorem refuses_badFormat {f : Fault} : (badFormat i f).Refuses ["INVALID_FORMAT"] :=
  Error.refuses (by simp [Error.code])

theorem fails_readKeyring (v : Value) :
    Fails (·.Refuses ["INVALID_FORMAT"]) (readKeyring i v) := by
  unfold readKeyring
  split
  · exact .ok
  · split
    · split
      · exact .ok
      · exact .error refuses_badFormat
    · exact .error refuses_badFormat

def Infinite (v : Value) : Prop :=
  ∃ negative, v = .real (.infinity negative)

theorem fails_readInteger (v : Value) :
    Fails (fun f => f = .overflow ∧ Infinite v ∨ f = .wrongType ∨ f = .badValue none)
      (readInteger v) := by
  cases v with
  | int n => exact .ok
  | bool b => exact .ok
  | real x =>
      cases x with
      | nan => exact .error (.inr (.inr rfl))
      | infinity negative => exact .error (.inl ⟨rfl, negative, rfl⟩)
      | finite negative m exponent => exact .ok
  | text t =>
      simp only [readInteger]
      split
      · exact .ok
      · exact .error (.inr (.inr rfl))
  | bytes b =>
      simp only [readInteger]
      split
      · exact .ok
      · exact .error (.inr (.inr rfl))
  | _ => exact .error (.inr (.inl rfl))

theorem readInteger_of_infinite (h : Infinite v) : readInteger v = .error .overflow := by
  obtain ⟨negative, rfl⟩ := h
  rfl

theorem fails_readLogging (v : Value) :
    Fails (·.Refuses ["INVALID_FORMAT"]) (readLogging i v) := by
  unfold readLogging
  split
  · refine (LogSetup.fails_ofFields _).mapError ?_
    rintro f (rfl | ⟨r, code, rfl, h⟩)
    · exact refuses_badFormat
    · exact ⟨r, code, rfl, h⟩
  · exact .error refuses_badFormat

def IsReference (v : Value) : Prop :=
  v.truthy = false ∨ ∃ names, v = .object names ∧
    ∀ name ∈ OrderedMap.keys names, name = "service" ∨ name = "name"

theorem exists_readKeyring_iff : (∃ k, readKeyring i v = .ok k) ↔ IsReference v := by
  cases hv : v.truthy with
  | false => exact iff_of_true ⟨none, by simp [readKeyring, hv]⟩ (.inl hv)
  | true =>
      cases v with
      | object names =>
          have hnames : Value.checkFields ["service", "name"] [] names = .ok () ↔
              IsReference (.object names) := by
            rw [Value.checkFields_eq_ok_iff]
            simp [IsReference, hv]
          rw [← hnames]
          cases hc : Value.checkFields ["service", "name"] [] names with
          | ok _ => exact iff_of_true ⟨_, by simp only [readKeyring, hv, hc]; rfl⟩ rfl
          | error f => simp [readKeyring, hv, hc]
      | _ => simp [readKeyring, hv, IsReference]

structure ReadFrom (i : Interpreter) (fields : OrderedMap String Value) (s : Settings) : Prop where
  realm : fields.get? "realm_name" = some s.realm
  secret : s.secret = Value.field fields "secret"
  keyring : readKeyring i (Value.field fields "secret_keyring") = .ok s.keyring
  hashed : Spelling.Spells (Value.field fields "secret_already_hashed" (.bool false)) s.hashed
  validity : readInteger (Value.field fields "nonce_validity_seconds" (.int 300))
    = .ok s.validitySeconds
  cacheEnabled : Spelling.Spells (Value.field fields "cache_enabled" (.bool true)) s.cacheEnabled
  logging : readLogging i (Value.field fields "logging" (.object [])) = .ok s.logging

structure Sound (s : Settings) : Prop where
  realm : s.realm.truthy = true
  validity : 0 < s.validitySeconds
  level : s.logging.level.name ∈ ["DEBUG", "INFO", "WARNING", "ERROR", "CRITICAL"]

theorem checked_eq_ok_iff {t : Settings} : checked t = .ok s ↔ t = s ∧ s.Sound := by
  have hlevel : ∀ level : Log.Level,
      level.name ∈ ["DEBUG", "INFO", "WARNING", "ERROR", "CRITICAL"] := by
    intro level
    cases level <;> decide
  unfold checked
  split
  · rename_i hrealm
    refine iff_of_false nofun ?_
    rintro ⟨rfl, hs⟩
    simp [hs.realm] at hrealm
  · split
    · rename_i hvalidity
      refine iff_of_false nofun ?_
      rintro ⟨rfl, hs⟩
      exact absurd hs.validity (Int.not_lt.mpr hvalidity)
    · rename_i hrealm hvalidity
      rw [Except.ok.injEq, iff_self_and]
      rintro rfl
      exact ⟨by simpa using hrealm, Int.not_le.mp hvalidity, hlevel _⟩

theorem fails_checked (t : Settings) :
    Fails (·.Refuses ["MISSING_REALM", "INVALID_FORMAT"]) (checked t) := by
  unfold checked
  split
  · exact .error (Error.refuses (by decide))
  · split
    · exact .error (Error.refuses (by decide))
    · exact .ok

def ofRealm (i : Interpreter) (fields : OrderedMap String Value) (realm : Value) :
    Except Failure Settings := do
  let keyring ← readKeyring i (Value.field fields "secret_keyring")
  let hashed ← (Spelling.read "secret_already_hashed"
    (Value.field fields "secret_already_hashed" (.bool false))).mapError .report
  let validitySeconds ← (readInteger
    (Value.field fields "nonce_validity_seconds" (.int 300))).mapError (ofFault i)
  let cacheEnabled ← (Spelling.read "cache_enabled"
    (Value.field fields "cache_enabled" (.bool true))).mapError .report
  let logging ← readLogging i (Value.field fields "logging" (.object []))
  checked {
    realm, secret := Value.field fields "secret", keyring, hashed, validitySeconds, cacheEnabled,
    logging }

theorem ofFields_of_realm {realm : Value} (h : fields.get? "realm_name" = some realm) :
    ofFields i fields = ofRealm i fields realm := by
  simp only [ofFields, h]
  rfl

theorem ofFields_of_no_realm (h : fields.get? "realm_name" = none) :
    ofFields i fields = .error Error.missingRealmKey.failure := by
  simp only [ofFields, h]
  rfl

-- Settings are read if every field can be and they are sound, and they say what the fields do
theorem ofFields_eq_ok_iff : ofFields i fields = .ok s ↔ s.ReadFrom i fields ∧ s.Sound := by
  constructor
  · intro h
    cases hrealm : fields.get? "realm_name" with
    | none => cases (ofFields_of_no_realm hrealm).symm.trans h
    | some realm =>
        rw [ofFields_of_realm hrealm] at h
        obtain ⟨keyring, hkeyring, h⟩ := exists_of_bind_eq_ok h
        obtain ⟨hashed, hhashed, h⟩ := exists_of_bind_eq_ok h
        obtain ⟨validity, hvalidity, h⟩ := exists_of_bind_eq_ok h
        obtain ⟨cacheEnabled, hcache, h⟩ := exists_of_bind_eq_ok h
        obtain ⟨logging, hlogging, h⟩ := exists_of_bind_eq_ok h
        obtain ⟨rfl, hs⟩ := checked_eq_ok_iff.mp h
        exact ⟨⟨hrealm, rfl, hkeyring, Spelling.read_eq_ok_iff.mp (eq_ok_of_mapError hhashed),
          eq_ok_of_mapError hvalidity, Spelling.read_eq_ok_iff.mp (eq_ok_of_mapError hcache),
          hlogging⟩, hs⟩
  · rintro ⟨h, hs⟩
    rw [ofFields_of_realm h.realm]
    simp only [ofRealm, h.keyring, Spelling.read_eq_ok_iff.mpr h.hashed, h.validity,
      Spelling.read_eq_ok_iff.mpr h.cacheEnabled, h.logging, ← h.secret]
    exact checked_eq_ok_iff.mpr ⟨rfl, hs⟩

-- The number of seconds is beyond all integers, and nothing that is read before it is wrong
structure Unbounded (fields : OrderedMap String Value) : Prop where
  realm : ∃ v, fields.get? "realm_name" = some v
  keyring : IsReference (Value.field fields "secret_keyring")
  hashed : ∃ b, Spelling.Spells (Value.field fields "secret_already_hashed" (.bool false)) b
  validity : Infinite (Value.field fields "nonce_validity_seconds" (.int 300))

theorem fails_ofFields (fields : OrderedMap String Value) :
    Fails (fun f => f.Refuses ["MISSING_REALM", "INVALID_FORMAT"] ∨
      f = .fault .overflow ∧ Unbounded fields) (ofFields i fields) := by
  have hformat : ∀ f : Failure, f.Refuses ["INVALID_FORMAT"] →
      f.Refuses ["MISSING_REALM", "INVALID_FORMAT"] ∨ f = .fault .overflow ∧ Unbounded fields :=
    fun f h => .inl (h.mono (by simp))
  cases hrealm : fields.get? "realm_name" with
  | none =>
      rw [ofFields_of_no_realm hrealm]
      exact .error (.inl (Error.refuses (by decide)))
  | some realm =>
      rw [ofFields_of_realm hrealm]
      refine .bind (fun f h => hformat f (fails_readKeyring _ f h)) fun keyring hkeyring => ?_
      refine .bind ((Spelling.fails_read _ _).mapError fun r h => hformat _ h)
        fun hashed hhashed => ?_
      refine .bind ((fails_readInteger _).mapError ?_) fun validity _ => ?_
      · rintro f (⟨rfl, hv⟩ | rfl | rfl)
        · exact .inr ⟨rfl, ⟨realm, hrealm⟩, exists_readKeyring_iff.mp ⟨keyring, hkeyring⟩,
            ⟨hashed, Spelling.read_eq_ok_iff.mp (eq_ok_of_mapError hhashed)⟩, hv⟩
        · exact hformat _ refuses_badFormat
        · exact hformat _ refuses_badFormat
      refine .bind ((Spelling.fails_read _ _).mapError fun r h => hformat _ h)
        fun cacheEnabled _ => ?_
      refine .bind (fun f h => hformat f (fails_readLogging _ f h)) fun logging _ => ?_
      exact fun f h => .inl (fails_checked _ f h)

theorem ofFields_of_unbounded (h : Unbounded fields) :
    ofFields i fields = .error (.fault .overflow) := by
  obtain ⟨realm, hrealm⟩ := h.realm
  obtain ⟨keyring, hkeyring⟩ := exists_readKeyring_iff (i := i).mpr h.keyring
  obtain ⟨hashed, hhashed⟩ := h.hashed
  rw [ofFields_of_realm hrealm]
  simp only [ofRealm, hkeyring, Spelling.read_eq_ok_iff.mpr hhashed,
    readInteger_of_infinite h.validity]
  rfl

-- Either there are settings, and they are sound, or they are refused under one of some codes
def Settled (codes : List String) (result : Except Failure Settings) : Prop :=
  (∃ s, result = .ok s ∧ s.Sound) ∨ ∃ f, result = .error f ∧ f.Refuses codes

theorem not_settled_fault {codes : List String} {f : Fault} :
    ¬Settled codes (.error (.fault f)) := by
  rintro (⟨s, hs, -⟩ | ⟨f, ⟨⟩, hrefuses⟩)
  · cases hs
  · exact Failure.not_refuses_fault hrefuses

theorem settled_error {e : Error} {codes : List String} (h : e.code ∈ codes) :
    Settled codes (.error e.failure) :=
  .inr ⟨_, rfl, Error.refuses h⟩

theorem settled_ofFields_iff {codes : List String}
    (hcodes : ["MISSING_REALM", "INVALID_FORMAT"] ⊆ codes) :
    Settled codes (ofFields i fields) ↔ ¬Unbounded fields := by
  constructor
  · intro h hu
    rw [ofFields_of_unbounded hu] at h
    exact not_settled_fault h
  · intro hu
    cases hr : ofFields i fields with
    | ok s => exact .inl ⟨s, rfl, (ofFields_eq_ok_iff.mp hr).2⟩
    | error f =>
        rcases fails_ofFields fields f hr with hrefuses | ⟨-, hunbounded⟩
        · exact .inr ⟨f, rfl, hrefuses.mono hcodes⟩
        · exact absurd hunbounded hu

theorem orDefault_ne_empty {text : Option String} {default : String} (h : default ≠ "") :
    orDefault text default ≠ "" := by
  unfold orDefault
  split
  · split
    · exact h
    · assumption
  · exact h

-- An environment names no keyring at all, or a service and an entry that both have a name
theorem keyringOfEnvironment_cases (environ : OrderedMap String String) :
    keyringOfEnvironment environ = [] ∨
    ∃ service name, service ≠ "" ∧ name ≠ "" ∧ keyringOfEnvironment environ
      = [("secret_keyring", .object [("service", .text service), ("name", .text name)])] := by
  unfold keyringOfEnvironment
  simp only
  split
  · exact .inl rfl
  · exact .inr ⟨_, _, orDefault_ne_empty (by decide), orDefault_ne_empty (by decide), rfl⟩

-- What it says of the seconds is a text, if it says anything
theorem not_unbounded_environment (environ : OrderedMap String String) :
    ¬Unbounded (fieldsOfEnvironment environ) := by
  rintro ⟨-, -, -, negative, hv⟩
  simp only [fieldsOfEnvironment, Value.field] at hv
  cases hvalidity : environ.get? (variableName "NONCE_VALIDITY") with
  | some validity =>
      rw [hvalidity] at hv
      simp [OrderedMap.get?] at hv
  | none =>
      rw [hvalidity] at hv
      rcases keyringOfEnvironment_cases environ with h | ⟨service, name, -, -, h⟩ <;>
        simp [h, OrderedMap.get?] at hv

theorem settled_ofEnvironment (environ : OrderedMap String String) :
    Settled ["MISSING_REALM", "INVALID_FORMAT"] (ofEnvironment i environ) :=
  (settled_ofFields_iff (fun _ h => h)).mpr (not_unbounded_environment environ)

-- The ways in which a document ends the reading without a refusal
inductive Unreported (i : Interpreter) (document : String) : Prop
  | longNumeral (h : Json.read i document = .error .longNumeral)
  | tooDeep (h : Json.read i document = .error .tooDeep)
  | unbounded (fields : OrderedMap String Value)
      (h : Json.read i document = .ok (.object fields)) (hu : Unbounded fields)

theorem settled_ofJson_iff {document : String} :
    Settled ["PARSE_ERROR", "INVALID_FORMAT", "MISSING_REALM"] (ofJson i document)
      ↔ ¬Unreported i document := by
  cases hr : Json.read i document with
  | error e =>
      cases e with
      | malformed =>
          have hof : ofJson i document
              = .error (Error.notJson (i.describe (.noDocument document))).failure := by
            simp only [ofJson, hr]
          rw [hof]
          refine iff_of_true (settled_error (by simp [Error.code])) ?_
          rintro (h | h | ⟨fields, h, -⟩) <;> cases hr.symm.trans h
      | longNumeral =>
          have hof : ofJson i document = .error (.fault (.badValue none)) := by
            simp only [ofJson, hr]
          rw [hof]
          exact iff_of_false not_settled_fault fun h => h (.longNumeral hr)
      | tooDeep =>
          have hof : ofJson i document = .error (.fault .tooDeep) := by simp only [ofJson, hr]
          rw [hof]
          exact iff_of_false not_settled_fault fun h => h (.tooDeep hr)
  | ok v =>
      cases v with
      | object fields =>
          have hof : ofJson i document = ofFields i fields := by simp only [ofJson, hr]
          rw [hof, settled_ofFields_iff (by simp)]
          refine not_congr ⟨.unbounded fields hr, ?_⟩
          rintro (h | h | ⟨other, h, hu⟩)
          · cases hr.symm.trans h
          · cases hr.symm.trans h
          · obtain rfl := Value.object.inj (Except.ok.inj (hr.symm.trans h))
            exact hu
      | _ =>
          have hof : ofJson i document = .error Error.notObject.failure := by simp only [ofJson, hr]
          rw [hof]
          refine iff_of_true (settled_error (by decide)) ?_
          rintro (h | h | ⟨fields, h, -⟩) <;> cases hr.symm.trans h

theorem ofJson_eq_ok_iff {document : String} : ofJson i document = .ok s ↔
    ∃ fields, Json.read i document = .ok (.object fields) ∧ s.ReadFrom i fields ∧ s.Sound := by
  constructor
  · intro h
    unfold ofJson at h
    split at h
    · rename_i fields hr
      exact ⟨fields, hr, ofFields_eq_ok_iff.mp h⟩
    all_goals cases h
  · rintro ⟨fields, hr, h⟩
    simp only [ofJson, hr]
    exact ofFields_eq_ok_iff.mpr h

-- A document gives sound settings that say what its fields say, or it is refused as no document
-- or for what a field says, unless it ends the reading before anybody can refuse it. An
-- environment always gives the one or the other.
theorem loading_settled_iff_reported (i : Interpreter) (document : String)
    (environ : OrderedMap String String) :
    (∀ s, ofJson i document = .ok s ↔
      ∃ fields, Json.read i document = .ok (.object fields) ∧ s.ReadFrom i fields ∧ s.Sound) ∧
    (Settled ["PARSE_ERROR", "INVALID_FORMAT", "MISSING_REALM"] (ofJson i document) ↔
      ¬Unreported i document) ∧
    (∀ s, ofEnvironment i environ = .ok s ↔
      s.ReadFrom i (fieldsOfEnvironment environ) ∧ s.Sound) ∧
    Settled ["MISSING_REALM", "INVALID_FORMAT"] (ofEnvironment i environ) :=
  ⟨fun _ => ofJson_eq_ok_iff, settled_ofJson_iff, fun _ => ofFields_eq_ok_iff,
    settled_ofEnvironment environ⟩

def fault? (result : Except Failure Settings) : Option Fault :=
  match result with
  | .error (.fault f) => some f
  | _ => none

theorem fault?_eq_some_iff {result : Except Failure Settings} {f : Fault} :
    fault? result = some f ↔ result = .error (.fault f) := by
  unfold fault?
  split <;> simp_all

-- Nonces that hold for ever are not told apart from what no integer can be made of
theorem not_everySettled : ¬∀ document,
    Settled ["PARSE_ERROR", "INVALID_FORMAT", "MISSING_REALM"]
      (ofJson .plain document) := by
  intro h
  have hfault : ofJson .plain
      "\x7b\"realm_name\": \"lab\", \"nonce_validity_seconds\": Infinity\x7d"
      = .error (.fault .overflow) := fault?_eq_some_iff.mp (by decide +kernel)
  have hsettled := h "\x7b\"realm_name\": \"lab\", \"nonce_validity_seconds\": Infinity\x7d"
  rw [hfault] at hsettled
  exact not_settled_fault hsettled

end Settings

end HttpDigest
